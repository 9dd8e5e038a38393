import Reconn.Client.SocketEffects
import Reconn.Library.Holding

/-! The sockets that wifiConnectionTask accepts. The task of a client closes its socket only
through reconnDeRegisterClientApp, which finds it in socketIdList if the client has been
registered; nobody else closes it while the task runs.
-/

namespace Reconn.Client

open TransitionRuns Holding

/-- The socket that was accepted for a client, and how often it has been closed since. -/
structure AcceptedSocket where
  socketFd : Int
  closed : Nat

/-- The accepted sockets of the client tasks, by the addresses of their contexts. -/
abbrev Accepted := Addr → Option AcceptedSocket

namespace Accepted

/-- Nothing has been accepted before the first step. -/
def none : Accepted := fun _ => Option.none

/-- A socket is recorded from its acceptance until the client's task has returned. -/
def record (past : Accepted) (t : Transition State Event Output) : Accepted := fun b =>
  if (t.after.task b).isNone then Option.none
  else
    match t.event.acceptedFd b with
    | some socketFd => some ⟨socketFd, 0⟩
    | Option.none =>
        (past b).map fun socket => {
          socket with
          closed := socket.closed + t.output.actions.count (.close socket.socketFd)
        }

end Accepted

/-- A client's task that leaves its loop in the step has closed the accepted socket exactly
once by then.
-/
def ClosedOnce (past : Accepted) (t : Transition State Event Output) : Prop :=
  ∀ a received env c socket, t.event = .iterate a received env
    → t.before.contexts a = some c
    → State.exits c (turn t.before.globals env.mqReceive received) = true
    → past a = some socket
    → socket.closed + t.output.actions.count (.close socket.socketFd) = 1

namespace State

/-- A WiFi client's task that leaves its loop finds its socket in socketIdList, where its
registration has put it. Only the inserted master has index 0.
-/
def LeavesRegistered (s : State) (event : Event) : Prop :=
  ∀ a received env c, event = .iterate a received env → s.contexts a = some c → c.index ≠ 0
    → exits c (turn s.globals env.mqReceive received) = true
    → s.registry.socketIdList c.index = c.socketFd

/-- What an event must not do for no socket to be closed by another task: a WiFi client takes
MASTER_EXTRACTED while another one's socket is in socketIdList at its index, and
RM_STOP_DATA comes while the remote monitor's context is not in REMOTEMODE.
-/
structure ClosesOwn (s : State) (event : Event) : Prop where
  extracted
    : ∀ a received env c, event = .iterate a received env → s.contexts a = some c
        → c.index ≠ 0 → turn s.globals env.mqReceive received = .takes .masterExtracted
        → s.registry.socketIdList c.index = c.socketFd
          ∨ s.registry.socketIdList c.index = -1
  stopData
    : ∀ r c, event = .remoteStopData → s.remoteContext = some (r, c) → c.mode = .remoteMode

end State

-----------------------------------------------------------------------------------------
-- Every open descriptor is closed by its holder
-----------------------------------------------------------------------------------------

/-- Who refers to an open descriptor and closes it. -/
inductive Holder where
  | client (a : Addr)
  | insertedMaster
  | webServer

/-- The holder refers to the descriptor. -/
def State.Holds (s : State) : Holder → Int → Prop
  | .client a, fd => ∃ t, s.task a = some t ∧ t.index ≠ 0 ∧ t.socketFd = fd
  | .insertedMaster, fd => s.globals.insertedMasterSocketFd = fd ∧ 0 ≤ fd
  | .webServer, fd => s.remote.webServerSocket = fd ∧ 0 ≤ fd

/-- The descriptor is in use. -/
def State.Opened (s : State) (fd : Int) : Prop := s.sockets fd ≠ .closed

/-- Descriptors have one holder each, and the sockets of the running clients are recorded and
have not been closed.
-/
structure Accepted.Tracks (past : Accepted) (s : State) : Prop where
  placed : s.WellPlaced
  held : Held s.Holds s.Opened
  positive : ∀ a t, s.task a = some t → t.index ≠ 0 → 0 < t.socketFd
  recorded
    : ∀ a socket, past a = some socket
        ↔ ∃ t, s.task a = some t ∧ t.index ≠ 0 ∧ socket = ⟨t.socketFd, 0⟩

/-- The event leaves every descriptor to its holder. -/
structure State.LeavesHeld (s : State) (event : Event) : Prop where
  own : s.ClosesOwn event
  registered : s.LeavesRegistered event

/-- The holder that may have opened a descriptor in a step. -/
def Event.newest : Event → Option Holder
  | .accept _ (some mem) _ => some (.client mem.address)
  | .transmitAccept _ => some .insertedMaster
  | .iterate .. => some .webServer
  | _ => none

namespace Accepted.Tracks

variable {past : Accepted} {s s' : State} {event : Event} {output : Output} {h : Holder}
  {fd : Int}

theorem nonneg (tracks : past.Tracks s) (holds : s.Holds h fd) : 0 ≤ fd := by
  cases h with
  | client a =>
      obtain ⟨t, runs, client, rfl⟩ := holds
      exact (tracks.positive a t runs client).le
  | insertedMaster | webServer => exact holds.2

/-- A step that closes a descriptor takes it from its holder. -/
theorem released (tracks : past.Tracks s) (taken : s.step event = some (s', output))
    (leaves : s.LeavesHeld event) (closes : .close fd ∈ output.actions) (holds : s.Holds h fd)
    : ¬ s'.Holds h fd := by
  cases State.step_closing tracks.placed taken closes with
  | refuses closed => exact absurd closed (tracks.held.opened holds)
  | @leaves a received env c way turns happens gone client slot used left =>
      have same : c.socketFd = fd := by
        rcases gone with left | message
        · have ends : State.exits c (turn s.globals env.mqReceive received) = true := by
            rwa [turns.way]
          exact (leaves.registered a _ _ c happens turns.found client ends).symm.trans slot
        · have takes := turns.way.trans message
          rcases leaves.own.extracted a _ _ c happens turns.found client takes with
            ours | nobody
          · exact ours.symm.trans slot
          · exact absurd (slot.symm.trans nobody) used
      have had : s.Holds (.client a) fd := ⟨_, turns.task, client, same⟩
      refine tracks.held.released had ?_ holds
      rintro ⟨t, runs, -⟩
      rw [left] at runs
      cases runs
  | extracts insertedMaster left =>
      have had : s.Holds .insertedMaster fd := ⟨insertedMaster, tracks.nonneg holds⟩
      refine tracks.held.released had ?_ holds
      rintro ⟨same, nonneg⟩
      omega
  | cleans server left =>
      have had : s.Holds .webServer fd := ⟨server, tracks.nonneg holds⟩
      refine tracks.held.released had ?_ holds
      rintro ⟨same, nonneg⟩
      omega
  | stops happens found local_ => exact absurd (leaves.own.stopData _ _ happens found) local_

/-- A holder after a step held its descriptor before or has just opened it. -/
theorem origin (tracks : past.Tracks s) (taken : s.step event = some (s', output))
    (holds : s'.Holds h fd)
    : s.Holds h fd ∨ (event.newest = some h ∧ ¬ s.Opened fd ∧ s'.Opened fd) := by
  cases h with
  | client b =>
      obtain ⟨t, runs, client, rfl⟩ := holds
      cases State.step_origin tracks.placed taken runs with
      | continued old index socketFd =>
          exact .inl ⟨_, old, index ▸ client, socketFd.symm⟩
      | inserted _ _ index => exact absurd index client
      | accepted _ accepts _ _ closed opened =>
          refine .inr ⟨?_, not_not.mpr closed, opened⟩
          cases event with
          | accept fd mem started =>
              cases mem with
              | none => cases accepts
              | some mem =>
                  simp only [Event.acceptedFd] at accepts
                  split_ifs at accepts with here
                  rw [Event.newest, here]
          | _ => cases accepts
  | insertedMaster =>
      obtain ⟨rfl, nonneg⟩ := holds
      rcases State.step_insertedMaster tracks.placed taken with
        same | gone | ⟨happens, closed, opened⟩
      · exact .inl ⟨same.symm, nonneg⟩
      · omega
      · exact .inr ⟨by rw [happens]; rfl, not_not.mpr closed, opened⟩
  | webServer =>
      obtain ⟨rfl, nonneg⟩ := holds
      rcases (State.step_sockets taken).webServer with
        same | negative | ⟨⟨a, received, env, rfl⟩, closed, opened⟩
      · exact .inl ⟨same.symm, nonneg⟩
      · omega
      · exact .inr ⟨rfl, not_not.mpr closed, opened⟩

/-- A step that leaves every descriptor to its holder keeps them held. -/
theorem held_step (tracks : past.Tracks s) (taken : s.step event = some (s', output))
    (leaves : s.LeavesHeld event)
    : Held s'.Holds s'.Opened := by
  refine tracks.held.step event.newest (fun h fd => tracks.origin taken) ?_
  intro h fd before after closed
  rcases (State.step_sockets taken).closes fd closed with already | closes
  · exact tracks.held.opened before already
  · exact tracks.released taken leaves closes before after

/-- Only the sockets of running clients are recorded. -/
theorem unrecorded (tracks : past.Tracks s) {b : Addr}
    (noClient : ∀ t, s.task b = some t → t.index = 0)
    : past b = Option.none := by
  refine Option.eq_none_iff_forall_ne_some.mpr fun socket recorded => ?_
  obtain ⟨t, runs, client, -⟩ := (tracks.recorded b socket).mp recorded
  exact client (noClient t runs)

/-- No connection is accepted for a context in use. -/
theorem acceptedFd_of_task (taken : s.step event = some (s', output)) {b : Addr} {t : Task}
    (runs : s.task b = some t)
    : event.acceptedFd b = Option.none := by
  obtain ⟨-, enabled, -⟩ := State.step_eq_some taken
  cases event with
  | accept fd mem started =>
      cases mem with
      | none => rfl
      | some mem =>
          refine if_neg ?_
          rintro rfl
          rw [State.task_of_fresh (State.accept_fresh enabled).2] at runs
          cases runs
  | _ => rfl

/-- A step records the socket of every client that runs after it, and no more. Witness: a
socket that a client still holds has not been closed in the step.
-/
theorem recorded_step (tracks : past.Tracks s) (taken : s.step event = some (s', output))
    (leaves : s.LeavesHeld event) (b : Addr)
    (socket : AcceptedSocket)
    : past.record ⟨s, event, output, s'⟩ b = some socket
      ↔ ∃ t, s'.task b = some t ∧ t.index ≠ 0 ∧ socket = ⟨t.socketFd, 0⟩ := by
  unfold record
  cases runs : s'.task b with
  | none => simp
  | some t =>
      simp only [Option.isNone_some, Bool.false_eq_true, if_false]
      cases State.step_origin tracks.placed taken runs with
      | @continued u old index socketFd =>
          rw [acceptedFd_of_task taken old]
          by_cases client : u.index = 0
          · have nobody : past b = Option.none :=
              tracks.unrecorded fun t runs => Option.some.inj (old.symm.trans runs) ▸ client
            simp [nobody, index, client]
          · have recorded := (tracks.recorded b ⟨u.socketFd, 0⟩).mpr ⟨u, old, client, rfl⟩
            have unclosed : output.actions.count (.close u.socketFd) = 0 := by
              refine List.count_eq_zero.mpr fun closes => ?_
              have before : s.Holds (.client b) u.socketFd := ⟨u, old, client, rfl⟩
              refine tracks.released taken leaves closes before ?_
              exact ⟨t, runs, index ▸ client, socketFd⟩
            simp [recorded, unclosed, index, client, socketFd, eq_comm]
      | accepted _ accepts client =>
          simp [accepts, client, eq_comm]
      | inserted fresh noAccept index =>
          have nobody : past b = Option.none := by
            refine tracks.unrecorded fun t old => ?_
            rw [State.task_of_fresh fresh] at old
            cases old
          simp [noAccept, nobody, index]

/-- A step that leaves every descriptor to its holder keeps the record right. -/
theorem step (tracks : past.Tracks s) (taken : s.step event = some (s', output))
    (leaves : s.LeavesHeld event)
    : (past.record ⟨s, event, output, s'⟩).Tracks s' where
  placed := (State.step_effect taken).wellPlaced tracks.placed
  held := tracks.held_step taken leaves
  positive := by
    intro b t runs client
    cases State.step_origin tracks.placed taken runs with
    | continued old index socketFd =>
        rw [socketFd]
        exact tracks.positive b _ old (index ▸ client)
    | accepted _ _ _ positive => exact positive
    | inserted _ _ index => exact absurd index client
  recorded := tracks.recorded_step taken leaves

end Accepted.Tracks

/-- A WiFi client's task that leaves its loop closes its socket once if it finds it in
socketIdList, and not at all otherwise.
-/
theorem State.Turns.count_close {s : State} {a : Addr} {c : Context} {received : Received}
    {env : Outcomes} {way : Turn} (turns : s.Turns a c received env way)
    (placed : s.WellPlaced) (left : State.exits c way = true) (client : c.index ≠ 0)
    (positive : 0 < c.socketFd)
    : (s.takeTurn env a c way).2.count (.close c.socketFd)
      = if s.registry.socketIdList c.index = c.socketFd then 1 else 0 := by
  have deRegistered : (s.deRegisterActions c).count (.close c.socketFd)
      = if s.registry.socketIdList c.index = c.socketFd then 1 else 0 := by
    have inside := placed.index_lt turns
    have local_ : c.mode ≠ .remoteMode := (placed a _ turns.task).2
    have used : c.socketFd ≠ -1 := by omega
    rw [State.count_deRegisterActions]
    simp [State.deRegisteredSocket_eq_some, inside, client, used, local_]
  rw [← State.count_calls]
  have turnCalls := State.takeTurn_calls env s a c way
  generalize calls (s.takeTurn env a c way).2 = actions at turnCalls
  cases turnCalls with
  | quiet stays | registers stays =>
      rw [left] at stays
      cases stays
  | unregistered outside => exact absurd (placed.index_lt turns) (not_lt.mpr outside)
  | returns => rwa [State.leaveActions, List.count_cons_of_ne (by simp)]
  | deRegisters => rwa [List.count_append, List.count_singleton, if_neg (by simp), Nat.add_zero]
  | extracted message =>
      rw [message] at left
      cases left

/-- A client that leaves its loop in a step has its socket closed once exactly if it finds it
in socketIdList.
-/
theorem closedOnce_iff {past : Accepted} {t : Transition State Event Output}
    (tracks : past.Tracks t.before)
    (taken : t.before.step t.event = some (t.after, t.output))
    : ClosedOnce past t ↔ t.before.LeavesRegistered t.event := by
  have counted {a : Addr} {received : Received} {env : Outcomes} {c : Context}
      (happens : t.event = .iterate a received env) (found : t.before.contexts a = some c)
      (left : State.exits c (turn t.before.globals env.mqReceive received) = true)
      (client : c.index ≠ 0)
      : past a = some ⟨c.socketFd, 0⟩
        ∧ t.output.actions.count (.close c.socketFd)
          = if t.before.registry.socketIdList c.index = c.socketFd then 1 else 0 := by
    rw [happens] at taken
    obtain ⟨c', way, turns, -, same⟩ := State.step_iterate taken
    obtain rfl := Option.some.inj (found.symm.trans turns.found)
    rw [turns.way] at left
    have positive := tracks.positive a _ turns.task client
    refine ⟨(tracks.recorded a _).mpr ⟨_, turns.task, client, rfl⟩, ?_⟩
    rw [same]
    exact turns.count_close tracks.placed left client positive
  constructor
  · intro once a received env c happens found client left
    obtain ⟨recorded, count⟩ := counted happens found left client
    have one := once a received env c _ happens found left recorded
    simp only [count] at one
    by_contra apart
    simp [apart] at one
  · intro registered a received env c socket happens found left recorded
    obtain ⟨task, runs, client, rfl⟩ := (tracks.recorded a socket).mp recorded
    obtain rfl := State.task_asTask found runs
    obtain ⟨-, count⟩ := counted happens found left client
    simp [count, registered a received env c happens found client left]

theorem Accepted.tracks_initial : Accepted.none.Tracks .initial where
  placed := State.wellPlaced_initial
  held := by
    have nothing (h : Holder) (fd : Int) : ¬ State.initial.Holds h fd := by
      cases h with
      | client a => exact nofun
      | insertedMaster | webServer =>
          rintro ⟨rfl, nonneg⟩
          exact absurd nonneg (by decide)
    exact ⟨fun holds => absurd holds (nothing _ _), fun holds => absurd holds (nothing _ _)⟩
  positive := nofun
  recorded := fun _ _ => ⟨nofun, nofun⟩

/-- In a run in which no task closes another one's descriptor, the accepted socket of every
client that leaves its loop has been closed exactly once by then, exactly if every such client
finds it in socketIdList.
-/
theorem closedOnce_throughout_iff {transitions : List (Transition State Event Output)}
    {finish : State} (run : State.Runs .initial transitions finish)
    (own : ∀ t ∈ transitions, t.before.ClosesOwn t.event)
    : Throughout Accepted.record ClosedOnce .none transitions
      ↔ ∀ t ∈ transitions, t.before.LeavesRegistered t.event := by
  have both
      : Throughout Accepted.record
          (fun past t => t.before.ClosesOwn t.event ∧ ClosedOnce past t) .none transitions
        ↔ ∀ t ∈ transitions, t.before.LeavesHeld t.event :=
    run.throughout_iff_allowed
      (fun _ _ (tracks : Accepted.Tracks _ _) taken =>
        (and_congr_right fun _ => closedOnce_iff tracks taken).trans
          ⟨fun leaves => ⟨leaves.1, leaves.2⟩, fun leaves => ⟨leaves.own, leaves.registered⟩⟩)
      (fun _ _ (tracks : Accepted.Tracks _ _) taken leaves => tracks.step taken leaves)
      _ Accepted.tracks_initial
  have apart
      : Throughout Accepted.record (fun _ t => t.before.ClosesOwn t.event) .none transitions :=
    (throughout_const _ _).mpr own
  rw [throughout_and, and_iff_right apart] at both
  exact both.trans (forall₂_congr fun t member =>
    ⟨fun leaves => leaves.registered, fun registered => ⟨own t member, registered⟩⟩)

/-- An event that neither takes MASTER_EXTRACTED nor is RM_STOP_DATA closes no other's socket. -/
theorem State.closesOwn_of {s : State} {event : Event}
    (noExtraction : ∀ a received env, event = .iterate a received env
      → turn s.globals env.mqReceive received ≠ .takes .masterExtracted)
    (noStop : event ≠ .remoteStopData)
    : s.ClosesOwn event where
  extracted := fun a received env _ happens _ _ takes =>
    absurd takes (noExtraction a received env happens)
  stopData := fun _ _ happens => absurd happens noStop

theorem State.leavesRegistered_of_noTurn {s : State} {event : Event}
    (noTurn : ∀ a received env, event ≠ .iterate a received env)
    : s.LeavesRegistered event :=
  fun a received env _ happens => absurd happens (noTurn a received env)

/-- A master that closes its connection has its socket closed. -/
theorem closedOnce_of_master
    : Throughout Accepted.record ClosedOnce .none
        (replay State.step .initial
          (connects 1 5 ++ [masterModeReq 1, .iterate 1 .closed .usual])).1 := by
  refine (closedOnce_throughout_iff (replay_run _ _) ?_).mpr ?_
  · refine forall_replay_cons rfl (State.closesOwn_of (by simp) nofun) ?_
    refine forall_replay_cons rfl (State.closesOwn_of (by simp) nofun) ?_
    refine forall_replay_cons rfl (State.closesOwn_of ?_ nofun) ?_
    · rintro _ _ _ ⟨⟩ takes
      exact absurd (turn_takes takes).1 (by decide +kernel)
    · refine forall_replay_cons rfl (State.closesOwn_of ?_ nofun) (forall_replay_nil _)
      rintro _ _ _ ⟨⟩ ⟨⟩
  · refine forall_replay_cons rfl (State.leavesRegistered_of_noTurn (by simp)) ?_
    refine forall_replay_cons rfl (State.leavesRegistered_of_noTurn (by simp)) ?_
    refine forall_replay_cons rfl ?_ ?_
    · rintro _ _ _ c ⟨⟩ ⟨⟩ - left
      exact absurd left (by decide +kernel)
    · refine forall_replay_cons rfl ?_ (forall_replay_nil _)
      rintro _ _ _ c ⟨⟩ ⟨⟩ - -
      decide +kernel

/-- The socket of a client that connects and closes its connection again is never closed. -/
theorem unregistered_notClosed
    : ¬ ∀ transitions finish, State.Runs .initial transitions finish
        → Throughout Accepted.record ClosedOnce .none transitions := by
  intro always
  have whole := always _ _
    (replay_run State.initial (connects 1 5 ++ [.iterate 1 .closed .usual]))
  obtain ⟨-, whole⟩ := (throughout_replay_cons rfl).mp whole
  obtain ⟨-, whole⟩ := (throughout_replay_cons rfl).mp whole
  obtain ⟨last, -⟩ := (throughout_replay_cons rfl).mp whole
  have once := last 1 .closed .usual _ ⟨5, 0⟩ rfl rfl rfl rfl
  exact absurd once (by decide +kernel)

end Reconn.Client
