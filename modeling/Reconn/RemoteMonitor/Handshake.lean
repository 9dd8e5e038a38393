import Mathlib.Data.List.DropRight
import Reconn.Library.TransitionRuns
import Reconn.RemoteMonitor.Task

/-! The handshake of a session of the remote monitor. theState is not set back to RM_INIT
between two sessions, so a later one may begin where an earlier one has ended. Nothing is
announced and no data flow started without the server's handshake and the device id, as long
as each session finds RM_INIT and the tasks of the earlier ones gone.
-/

namespace Reconn.RemoteMonitor

open Client.State (reconnBegin)
open TransitionRuns

-----------------------------------------------------------------------------------------
-- What has happened in a session
-----------------------------------------------------------------------------------------

/-- What has been done since the last session began. -/
def session (past : List Action) : List Action := past.rtakeWhile (· ≠ .connect)

/-- The server sends RECONNBEGIN. -/
def Action.Handshakes : Action → Prop
  | .recv received => Task.Begins received
  | _ => False

/-- The server of the session has sent RECONNBEGIN. -/
def Handshaken (past : List Action) : Prop := ∃ action ∈ session past, action.Handshakes

/-- The server of the session has sent RECONNBEGIN, and has been sent the device id. -/
def Established (past : List Action) : Prop :=
  Handshaken past ∧ .sendDeviceId true ∈ session past

/-- What may be done only in a session that is established. -/
def Action.Serves : Action → Prop
  | .sendRemoteMonitorConnectionStatus .connected | .webServiceDataFlow _ => True
  | _ => False

instance : (action : Action) → Decidable action.Handshakes
  | .recv received => inferInstanceAs (Decidable (Task.Begins received))
  | .connect | .sendDeviceId _ | .sendReconnResponse .. | .webServiceDataFlow _ => isFalse id
  | .sendRemoteMonitorConnectionStatus _ => isFalse id

instance (past : List Action) : Decidable (Established past) :=
  inferInstanceAs (Decidable ((∃ action ∈ session past, action.Handshakes) ∧ _))

instance : (action : Action) → Decidable action.Serves
  | .webServiceDataFlow _ | .sendRemoteMonitorConnectionStatus .connected => isTrue trivial
  | .connect | .recv _ | .sendDeviceId _ | .sendReconnResponse .. => isFalse id
  | .sendRemoteMonitorConnectionStatus .disconnected => isFalse id

/-- After what has been done, none of these actions comes too early. -/
def Served : List Action → List Action → Prop
  | _, [] => True
  | past, action :: rest =>
      (action.Serves → Established past) ∧ Served (past ++ [action]) rest

instance decidableServed : (past actions : List Action) → Decidable (Served past actions)
  | _, [] => isTrue trivial
  | past, action :: rest =>
      have : Decidable (Served (past ++ [action]) rest) := decidableServed _ rest
      inferInstanceAs (Decidable (_ ∧ _))

/-- What is not the beginning of a session belongs to the last one, by induction on what is
done.
-/
theorem session_append {actions : List Action} (same : .connect ∉ actions)
    (past : List Action)
    : session (past ++ actions) = session past ++ actions := by
  induction actions generalizing past with
  | nil => simp
  | cons action rest ih =>
      have first := List.ne_of_not_mem_cons same
      have others := List.not_mem_of_not_mem_cons same
      have one : session (past ++ [action]) = session past ++ [action] :=
        List.rtakeWhile_concat_pos _ _ _ (by simpa using Ne.symm first)
      rw [List.append_cons, ih others, one, List.append_assoc]
      rfl

theorem Handshaken.append {past actions : List Action} (handshaken : Handshaken past)
    (same : .connect ∉ actions)
    : Handshaken (past ++ actions) := by
  obtain ⟨action, member, handshakes⟩ := handshaken
  refine ⟨action, ?_, handshakes⟩
  rw [session_append same]
  exact List.mem_append_left actions member

theorem Established.append {past actions : List Action} (established : Established past)
    (same : .connect ∉ actions)
    : Established (past ++ actions) := by
  refine ⟨established.1.append same, ?_⟩
  rw [session_append same]
  exact List.mem_append_left actions established.2

/-- Once a session is established, nothing comes too early, by induction on what is done. -/
theorem Established.served {past actions : List Action} (established : Established past)
    (same : .connect ∉ actions)
    : Served past actions := by
  induction actions generalizing past with
  | nil => trivial
  | cons action rest ih =>
      have first := List.ne_of_not_mem_cons same
      have others := List.not_mem_of_not_mem_cons same
      refine ⟨fun _ => established, ih (established.append ?_) others⟩
      simpa using first

/-- What serves nothing never comes too early, by induction on what is done. -/
theorem served_of_silent {actions : List Action} (silent : ∀ action ∈ actions, ¬ action.Serves)
    (past : List Action)
    : Served past actions := by
  induction actions generalizing past with
  | nil => trivial
  | cons action rest ih =>
      obtain ⟨first, others⟩ := List.forall_mem_cons.mp silent
      exact ⟨fun serves => absurd serves first, ih others _⟩

/-- Two sequences of actions, one after the other, by induction on the first. -/
theorem served_append (past first second : List Action)
    : Served past (first ++ second) ↔ Served past first ∧ Served (past ++ first) second := by
  induction first generalizing past with
  | nil => simp [Served]
  | cons action rest ih => simp [Served, ih, and_assoc]

-----------------------------------------------------------------------------------------
-- What theState and a task's place tell of the session
-----------------------------------------------------------------------------------------

/-- What has happened in the session where theState is beyond the handshake. -/
structure Known (past : List Action) (theState : RemoteMonitorState) : Prop where
  deviceId : theState = .rmDeviceId → Handshaken past
  rcvData : theState = .rmRcvData → Established past

/-- What has happened in the session of a task. -/
structure Task.Known (past : List Action) (theState : RemoteMonitorState) (t : Task) : Prop
    extends RemoteMonitor.Known past theState where
  buffer : theState = .rmGetHandshake → Begins t.theRecvBuf → Handshaken past
  comparing : t.place = .comparing → Begins t.theRecvBuf → Handshaken past
  identifying : t.place = .identifying → Handshaken past
  receivingData : t.place = .receivingData → Established past

theorem Known.append {past actions : List Action} {theState : RemoteMonitorState}
    (known : Known past theState) (same : .connect ∉ actions)
    : Known (past ++ actions) theState where
  deviceId := fun state => (known.deviceId state).append same
  rcvData := fun state => (known.rcvData state).append same

theorem Task.Known.append {past actions : List Action} {theState : RemoteMonitorState}
    {t : Task} (known : t.Known past theState) (same : .connect ∉ actions)
    : t.Known (past ++ actions) theState where
  toKnown := known.toKnown.append same
  buffer := fun state begins => (known.buffer state begins).append same
  comparing := fun place begins => (known.comparing place begins).append same
  identifying := fun place => (known.identifying place).append same
  receivingData := fun place => (known.receivingData place).append same

/-- A task that goes back to the loop or returns, with its buffer as it was. -/
theorem Task.Known.leave {past : List Action} {theState : RemoteMonitorState} {t : Task}
    (known : t.Known past theState) {place : Place}
    (away : place = .looping ∨ place = .returned ∨ place = .selecting ∨ place = .receiving)
    : Task.Known past theState { t with place } where
  toKnown := known.toKnown
  buffer := known.buffer
  comparing := by
    intro comparing
    simp only at comparing
    simp [comparing] at away
  identifying := by
    intro identifying
    simp only at identifying
    simp [identifying] at away
  receivingData := by
    intro receivingData
    simp only at receivingData
    simp [receivingData] at away

/-- remoteMonitorActivate(NO) leaves theState as it is and serves nothing. -/
theorem Statics.deactivate_quiet (s : Statics)
    : s.deactivate.1.theState = s.theState ∧ .connect ∉ s.deactivate.2
      ∧ ∀ action ∈ s.deactivate.2, ¬ action.Serves := by
  unfold Statics.deactivate
  split_ifs <;> simp [Statics.remoteMonitorCleanup, Action.Serves]

/-- The result of a turn: nothing came too early, and what theState and the task's place tell of
the session is still right.
-/
structure Keeps (past : List Action) (result : (Statics × Task) × List Action) : Prop where
  served : Served past result.2
  known : Task.Known (past ++ result.2) result.1.1.theState result.1.2
  same : .connect ∉ result.2

namespace Keeps

variable {past actions : List Action} {s : Statics} {t : Task}

/-- A turn that does nothing. -/
theorem silent (known : t.Known past s.theState) : Keeps past ((s, t), []) where
  served := trivial
  known := by simpa using known
  same := List.not_mem_nil

/-- A turn whose actions serve nothing. -/
theorem of_actions (known : t.Known past s.theState) (same : .connect ∉ actions)
    (silent : ∀ action ∈ actions, ¬ action.Serves)
    : Keeps past ((s, t), actions) where
  served := served_of_silent silent past
  known := known.append same
  same

/-- A turn whose actions may serve. -/
theorem of_established (known : t.Known past s.theState) (same : .connect ∉ actions)
    (established : Established past)
    : Keeps past ((s, t), actions) where
  served := established.served same
  known := known.append same
  same

/-- A turn that ends the session. -/
theorem giveUp (keeps : Keeps past ((s, t), actions))
    : Keeps past (Task.giveUp s t actions) := by
  obtain ⟨state, same, silent⟩ := s.deactivate_quiet
  refine ⟨(served_append ..).mpr ⟨keeps.served, served_of_silent silent _⟩, ?_, ?_⟩
  · have known := keeps.known.append same
    rw [List.append_assoc] at known
    simpa only [Task.giveUp, state] using known
  · exact List.not_mem_append keeps.same same

/-- A turn that does something first. -/
theorem cons {action : Action} {result : Statics × Task}
    (keeps : Keeps (past ++ [action]) (result, actions)) (silent : ¬ action.Serves)
    (same : .connect ≠ action)
    : Keeps past (result, action :: actions) where
  served := ⟨fun serves => absurd serves silent, keeps.served⟩
  known := by simpa using keeps.known
  same := List.not_mem_cons_of_ne_of_not_mem same keeps.same

/-- RM_RCV_DATA, in a session that is established. -/
theorem rcvData (known : Known past s.theState) (established : Established past)
    (theRecvBuf : List UInt8) (env : Outcomes)
    : Keeps past (Task.rcvData s theRecvBuf env) := by
  have task : Task.Known past s.theState ⟨.looping, theRecvBuf⟩ := {
    toKnown := known
    buffer := fun _ _ => established.1
    comparing := nofun
    identifying := nofun
    receivingData := nofun
  }
  have flow {actions : List Action} (same : .connect ∉ actions)
      : Keeps past ((s, ⟨.looping, theRecvBuf⟩), actions) :=
    of_established task same established
  unfold Task.rcvData
  simp only
  split_ifs
  · exact (flow (by simp)).giveUp
  · exact flow (by simp)
  · exact flow (by simp)
  · exact flow (by simp)
  · exact (flow (by simp)).giveUp
  · exact flow (by simp)

end Keeps

namespace Task.Known

variable {past : List Action} {s : Statics} {theRecvBuf : List UInt8} {env : Outcomes}

/-- After select the state of the connection decides where the task goes on. -/
theorem turn_selecting (known : Task.Known past s.theState ⟨.selecting, theRecvBuf⟩)
    : Keeps past (Task.turn ⟨.selecting, theRecvBuf⟩ s env) := by
  simp only [Task.turn]
  by_cases failed : env.retStatus < 0
  · rw [if_pos failed]
    exact (Keeps.silent (known.leave (.inr (.inl rfl)))).giveUp
  rw [if_neg failed]
  cases state : s.theState with
  | rmInit =>
      simp only
      split_ifs
      · exact (Keeps.silent (known.leave (.inl rfl))).giveUp
      · exact .silent (known.leave (.inr (.inr (.inr rfl))))
  | rmGetHandshake =>
      refine .silent ⟨known.toKnown, known.buffer, ?_, nofun, nofun⟩
      exact fun _ => known.buffer state
  | rmDeviceId =>
      refine .silent ⟨known.toKnown, known.buffer, nofun, ?_, nofun⟩
      exact fun _ => known.deviceId state
  | rmRcvData =>
      refine .silent ⟨known.toKnown, known.buffer, nofun, nofun, ?_⟩
      exact fun _ => known.rcvData state
  | rmSendClientAccess => exact .silent (known.leave (.inl rfl))
  | rmWaitResp => exact .silent (known.leave (.inl rfl))

/-- What is received may be the handshake. -/
theorem turn_receiving (known : Task.Known past s.theState ⟨.receiving, theRecvBuf⟩)
    : Keeps past (Task.turn ⟨.receiving, theRecvBuf⟩ s env) := by
  simp only [Task.turn]
  split_ifs
  · have empty : ¬ Task.Begins [] := by decide
    have left : Task.Known past s.theState ⟨.looping, []⟩ :=
      ⟨known.toKnown, fun _ begins => absurd begins empty, nofun, nofun, nofun⟩
    exact (Keeps.silent left).giveUp
  · have heard (begins : Task.Begins env.received)
        : Handshaken (past ++ [.recv env.received]) := by
      refine ⟨.recv env.received, ?_, begins⟩
      rw [session_append (by simp)]
      exact List.mem_append_right _ (List.mem_singleton.mpr rfl)
    refine ⟨⟨fun serves => serves.elim, trivial⟩, ?_, by simp⟩
    exact ⟨⟨nofun, nofun⟩, fun _ => heard, fun _ => heard, nofun, nofun⟩

/-- The device id is sent after the handshake, and the connection is announced after it. -/
theorem turn_identifying (known : Task.Known past s.theState ⟨.identifying, theRecvBuf⟩)
    (sent : env.deviceId = true → env.sent = true)
    : Keeps past (Task.turn ⟨.identifying, theRecvBuf⟩ s env) := by
  simp only [Task.turn]
  have handshaken := known.identifying rfl
  split_ifs with read
  · have established : Established (past ++ [.sendDeviceId env.sent]) := by
      rw [sent read]
      refine ⟨handshaken.append (by simp), ?_⟩
      rw [session_append (by simp)]
      exact List.mem_append_right _ (List.mem_singleton.mpr rfl)
    refine Keeps.cons ?_ id (by simp)
    refine .of_established ⟨⟨nofun, fun _ => established⟩, nofun, nofun, nofun, nofun⟩ ?_
      established
    simp
  · refine (Keeps.of_actions (known.leave (.inl rfl)) (by simp) ?_).giveUp
    simp [Action.Serves]

/-- A turn of a task keeps what is known of its session. The device id must be sent before the
connection is announced.
-/
theorem turn {t : Task} (known : t.Known past s.theState)
    (sent : t.place = .identifying → env.deviceId = true → env.sent = true)
    : Keeps past (t.turn s env) := by
  obtain ⟨place, theRecvBuf⟩ := t
  cases place with
  | created =>
      simp only [Task.turn]
      split_ifs
      · exact .silent (known.leave (.inl rfl))
      · exact (Keeps.silent (known.leave (.inr (.inl rfl)))).giveUp
  | looping =>
      simp only [Task.turn]
      split_ifs
      · exact .silent (known.leave (.inr (.inl rfl)))
      · exact .silent (known.leave (.inr (.inr (.inl rfl))))
  | selecting => exact known.turn_selecting
  | receiving => exact known.turn_receiving
  | comparing =>
      simp only [Task.turn]
      split_ifs with begins
      · have handshaken := known.comparing rfl begins
        refine .silent ⟨⟨fun _ => handshaken, nofun⟩, nofun, nofun, ?_, nofun⟩
        exact fun _ => handshaken
      · refine (Keeps.of_actions (known.leave (.inl rfl)) (by simp) ?_).giveUp
        simp [Action.Serves]
  | identifying => exact known.turn_identifying (sent rfl)
  | receivingData =>
      simp only [Task.turn]
      have established := known.receivingData rfl
      split_ifs
      · exact (Keeps.silent (known.leave (.inl rfl))).giveUp
      · have same : .connect ∉ [Action.recv env.received] := by simp
        exact (Keeps.rcvData (known.toKnown.append same) (established.append same) _ env).cons
          id (by simp)
  | returned => exact .silent known

end Task.Known

-----------------------------------------------------------------------------------------
-- Sequences of sessions
-----------------------------------------------------------------------------------------

/-- The condition on an event. A session begins only if the tasks of earlier ones have returned
and theState is RM_INIT, or RM_GET_HANDSHAKE with no handshake on the new task's stack; and the
device id is sent.
-/
def State.Allowed (s : State) : Event → Prop
  | .activate env =>
      s.statics.remoteMonitorActive = false → 0 ≤ env.webServerSocket
        → env.hostnameResolves = true → env.connects = true
        → (∀ t ∈ s.tasks, t.place = .returned)
          ∧ (s.statics.theState = .rmInit
            ∨ (s.statics.theState = .rmGetHandshake ∧ ¬ Task.Begins env.stack))
  | .deactivate | .cleanup => True
  | .turn index env =>
      ∀ t ∈ s.tasks[index]?,
        t.place = .identifying → env.deviceId = true → env.sent = true

instance (s : State) : (event : Event) → Decidable (s.Allowed event)
  | .activate _ => inferInstanceAs (Decidable (_ → _))
  | .deactivate | .cleanup => isTrue trivial
  | .turn _ _ => inferInstanceAs (Decidable (∀ t ∈ _, _))

/-- What is known of the session in a state: at most one task has not returned. -/
structure State.Sound (past : List Action) (s : State) : Prop where
  known : Known past s.statics.theState
  tasks : ∀ t ∈ s.tasks, t.place ≠ .returned → t.Known past s.statics.theState
  alone
    : ∀ (i j : Nat) (t u : Task),
        s.tasks[i]? = some t → s.tasks[j]? = some u
          → t.place ≠ .returned → u.place ≠ .returned → i = j

/-- remoteMonitorActivate(YES) leaves theState as it is, whether it begins a session or not. -/
theorem Statics.activate_cases (s : Statics) (env : ActivateOutcomes)
    : (∃ statics : Statics,
        statics.theState = s.theState ∧ s.activate env = (statics, none, []))
      ∨ (s.remoteMonitorActive = false ∧ 0 ≤ env.webServerSocket
        ∧ env.hostnameResolves = true ∧ env.connects = true
        ∧ ∃ (statics : Statics) (created : Option Task),
          statics.theState = s.theState
          ∧ (created = none ∨ created = some ⟨.created, env.stack⟩)
          ∧ s.activate env = (statics, created, [.connect])) := by
  unfold Statics.activate
  simp only
  split_ifs with active fails error task
  · exact .inl ⟨s, rfl, rfl⟩
  · exact .inl ⟨{ s with webServerSocket := env.webServerSocket }, rfl, rfl⟩
  all_goals
    obtain ⟨opens, resolves, connects⟩ :
        0 ≤ env.webServerSocket ∧ env.hostnameResolves = true ∧ env.connects = true := by
      simpa only [not_or, not_lt, Bool.not_eq_false] using fails
    refine .inr ⟨Bool.not_eq_true _ ▸ active, opens, resolves, connects, _, _, ?_, ?_, rfl⟩
  · rfl
  · exact .inl rfl
  · rfl
  · exact .inr rfl
  · rfl
  · exact .inl rfl

namespace State.Sound

variable {past : List Action} {s : State}

/-- A turn of the task that has not returned leaves no other. -/
theorem only (sound : s.Sound past) {index : Nat} {t t' : Task}
    (found : s.tasks[index]? = some t) (running : t.place ≠ .returned) {j : Nat} {u : Task}
    (found' : (s.tasks.set index t')[j]? = some u) (running' : u.place ≠ .returned)
    : j = index ∧ u = t' := by
  rcases eq_or_ne index j with rfl | apart
  · rw [List.getElem?_set_self (List.getElem?_eq_some_iff.mp found).1] at found'
    exact ⟨rfl, (Option.some.inj found').symm⟩
  · rw [List.getElem?_set_ne apart] at found'
    exact absurd (sound.alone index j t u found found' running running') apart

/-- A new task is the only one if all others have returned. -/
theorem new (returned : ∀ t ∈ s.tasks, t.place = .returned) {created : Option Task} {j : Nat}
    {u : Task} (found : (s.tasks ++ created.toList)[j]? = some u)
    (running : u.place ≠ .returned)
    : j = s.tasks.length ∧ created = some u := by
  rcases Nat.lt_or_ge j s.tasks.length with old | late
  · rw [List.getElem?_append_left old] at found
    exact absurd (returned u (List.mem_of_getElem? found)) running
  · rw [List.getElem?_append_right late] at found
    cases created with
    | none => simp at found
    | some t =>
        obtain ⟨inside, same⟩ := List.getElem?_eq_some_iff.mp found
        simp only [Option.toList_some, List.length_singleton] at inside
        have first : j - s.tasks.length = 0 := by omega
        simp only [Option.toList_some, first, List.getElem_cons_zero] at same
        exact ⟨by omega, by rw [same]⟩

/-- A session that begins tells nothing yet, and its task is the only one. -/
theorem begun {statics : Statics} {created : Option Task} {stack : List UInt8}
    (returned : ∀ t ∈ s.tasks, t.place = .returned)
    (state : statics.theState = .rmInit
      ∨ (statics.theState = .rmGetHandshake ∧ ¬ Task.Begins stack))
    (own : created = none ∨ created = some ⟨.created, stack⟩)
    : Sound (past ++ [.connect]) ⟨statics, s.tasks ++ created.toList⟩ := by
  have known : Known (past ++ [.connect]) statics.theState := by
    rcases state with init | ⟨handshake, -⟩
    · rw [init]
      exact ⟨nofun, nofun⟩
    · rw [handshake]
      exact ⟨nofun, nofun⟩
  refine ⟨known, ?_, ?_⟩
  · intro t member running
    obtain ⟨j, found⟩ := List.getElem?_of_mem member
    obtain ⟨-, same⟩ := new returned found running
    have first : t = ⟨.created, stack⟩ := by
      rcases own with none | some
      · rw [none] at same
        cases same
      · exact (Option.some.inj (some.symm.trans same)).symm
    rw [first]
    refine ⟨known, fun handshake begins => ?_, nofun, nofun, nofun⟩
    rcases state with init | ⟨-, other⟩
    · rw [init] at handshake
      cases handshake
    · exact absurd begins other
  · intro i j t u found found' running running'
    exact (new returned found running).1.trans (new returned found' running').1.symm

end State.Sound

/-- A turn is one of a task that has not returned. -/
theorem State.step_turn {s s' : State} {index : Nat} {env : Outcomes} {actions : List Action}
    (taken : s.step (.turn index env) = some (s', actions))
    : ∃ t, s.tasks[index]? = some t ∧ t.place ≠ .returned
      ∧ s' = ⟨(t.turn s.statics env).1.1, s.tasks.set index (t.turn s.statics env).1.2⟩
      ∧ actions = (t.turn s.statics env).2 := by
  simp only [State.step] at taken
  cases found : s.tasks[index]? with
  | none => simp [found] at taken
  | some t =>
      simp only [found] at taken
      split_ifs at taken with refused
      obtain ⟨rfl, rfl⟩ := Prod.mk.inj (Option.some.inj taken)
      exact ⟨t, rfl, (not_or.mp refused).1, rfl, rfl⟩

/-- A step that the condition allows. -/
theorem State.Sound.step {past actions : List Action} {s s' : State} {event : Event}
    (sound : s.Sound past) (allowed : s.Allowed event)
    (taken : s.step event = some (s', actions))
    : s'.Sound (past ++ actions) ∧ Served past actions := by
  cases event with
  | activate env =>
      obtain ⟨rfl, rfl⟩ := Prod.mk.inj (Option.some.inj taken)
      rcases s.statics.activate_cases env with ⟨statics, same, result⟩
        | ⟨inactive, opens, resolves, connects, statics, created, same, own, result⟩
      · rw [result]
        simp only [List.append_nil, Option.toList_none]
        exact ⟨⟨same ▸ sound.known, same ▸ sound.tasks, sound.alone⟩, trivial⟩
      · obtain ⟨returned, state⟩ := allowed inactive opens resolves connects
        rw [result]
        rw [← same] at state
        exact ⟨State.Sound.begun returned state own, fun serves => serves.elim, trivial⟩
  | deactivate =>
      obtain ⟨rfl, rfl⟩ := Prod.mk.inj (Option.some.inj taken)
      obtain ⟨state, same, silent⟩ := s.statics.deactivate_quiet
      refine ⟨⟨?_, ?_, sound.alone⟩, served_of_silent silent past⟩
      · rw [state]
        exact sound.known.append same
      · intro t member running
        rw [state]
        exact (sound.tasks t member running).append same
  | cleanup =>
      obtain ⟨rfl, rfl⟩ := Prod.mk.inj (Option.some.inj taken)
      rw [List.append_nil]
      exact ⟨⟨sound.known, sound.tasks, sound.alone⟩, trivial⟩
  | turn index env =>
      obtain ⟨t, found, running, rfl, rfl⟩ := State.step_turn taken
      have known := sound.tasks t (List.mem_of_getElem? found) running
      have keeps := known.turn (allowed t found)
      refine ⟨⟨keeps.known.toKnown, ?_, ?_⟩, keeps.served⟩
      · intro u member running'
        obtain ⟨j, found'⟩ := List.getElem?_of_mem member
        obtain ⟨-, rfl⟩ := sound.only found running found' running'
        exact keeps.known
      · intro i j u v foundU foundV runningU runningV
        exact (sound.only found running foundU runningU).1.trans
          (sound.only found running foundV runningV).1.symm

/-- In every sequence of sessions that the condition allows, each session is established before
its connection is announced and before WEB_SERVICE_DATA_FLOW is acted on.
-/
theorem served_throughout {transitions : List (Transition State Event (List Action))}
    {finish : State} (run : Run State.step .initial transitions finish)
    (allowed : ∀ t ∈ transitions, t.before.Allowed t.event)
    : Throughout (fun past t => past ++ t.output) (fun past t => Served past t.output) []
        transitions := by
  have initially : State.initial.Sound [] :=
    ⟨⟨nofun, nofun⟩, by simp [State.initial], by simp [State.initial]⟩
  have keep (past : List Action) (t : Transition State Event (List Action))
      (sound : t.before.Sound past) (allowed : t.before.Allowed t.event)
      (taken : t.before.step t.event = some (t.after, t.output))
      : t.after.Sound (past ++ t.output) ∧ Served past t.output :=
    sound.step allowed taken
  exact run.throughout_of_allowed keep [] initially allowed

-----------------------------------------------------------------------------------------
-- theState is not set back
-----------------------------------------------------------------------------------------

theorem Task.rcvData_theState (s : Statics) (theRecvBuf : List UInt8) (env : Outcomes)
    : (Task.rcvData s theRecvBuf env).1.1.theState = s.theState := by
  have same := s.deactivate_quiet.1
  unfold Task.rcvData Task.giveUp
  simp only
  split_ifs
  · exact same
  · rfl
  · rfl
  · rfl
  · exact same
  · rfl

/-- A turn of a task does not set theState back to RM_INIT. -/
theorem Task.turn_theState (t : Task) (s : Statics) (env : Outcomes)
    (beyond : s.theState ≠ .rmInit)
    : (t.turn s env).1.1.theState ≠ .rmInit := by
  have same := s.deactivate_quiet.1
  have deactivated : s.deactivate.1.theState ≠ .rmInit := by rwa [same]
  obtain ⟨place, theRecvBuf⟩ := t
  cases place with
  | selecting =>
      simp only [Task.turn]
      by_cases failed : env.retStatus < 0
      · rw [if_pos failed]
        exact deactivated
      · rw [if_neg failed]
        cases state : s.theState with
        | rmInit => exact absurd state beyond
        | _ => exact beyond
  | receivingData =>
      simp only [Task.turn]
      split_ifs
      · exact deactivated
      · simp only [Task.rcvData_theState]
        exact beyond
  | created =>
      simp only [Task.turn]
      split_ifs
      · exact beyond
      · exact deactivated
  | looping => exact beyond
  | receiving =>
      simp only [Task.turn]
      split_ifs
      · exact deactivated
      · simp
  | comparing =>
      simp only [Task.turn]
      split_ifs
      · simp
      · exact deactivated
  | identifying =>
      simp only [Task.turn]
      split_ifs
      · simp
      · exact deactivated
  | returned => exact beyond

/-- Once a server has answered, no later session finds RM_INIT. -/
theorem State.beyond_rmInit {start finish : State}
    {transitions : List (Transition State Event (List Action))}
    (run : Run State.step start transitions finish) (beyond : start.statics.theState ≠ .rmInit)
    : (∀ t ∈ transitions,
        t.before.statics.theState ≠ .rmInit ∧ t.after.statics.theState ≠ .rmInit)
      ∧ finish.statics.theState ≠ .rmInit := by
  let Beyond (s : State) : Prop := s.statics.theState ≠ .rmInit
  have keep : ∀ (s : State) event (s' : State) (output : List Action),
      Beyond s → s.step event = some (s', output) → Beyond s' := by
    intro s event s' output beyond taken
    cases event with
    | activate env =>
        obtain ⟨rfl, -⟩ := Prod.mk.inj (Option.some.inj taken)
        rcases s.statics.activate_cases env with ⟨statics, same, result⟩
          | ⟨-, -, -, -, statics, created, same, -, result⟩
        · simpa only [Beyond, result, same] using beyond
        · simpa only [Beyond, result, same] using beyond
    | deactivate =>
        obtain ⟨rfl, -⟩ := Prod.mk.inj (Option.some.inj taken)
        simpa only [Beyond, s.statics.deactivate_quiet.1] using beyond
    | cleanup =>
        obtain ⟨rfl, -⟩ := Prod.mk.inj (Option.some.inj taken)
        exact beyond
    | turn index env =>
        obtain ⟨t, -, -, rfl, -⟩ := State.step_turn taken
        exact t.turn_theState s.statics env beyond
  exact run.invariant_always keep beyond

-----------------------------------------------------------------------------------------
-- Two sequences of sessions
-----------------------------------------------------------------------------------------

/-- A session that begins, with nothing in the buffer of its task. -/
def activation : Event :=
  .activate {
    webServerSocket := 9
    hostnameResolves := true
    connects := true
    pthreadCreate := 0
    stack := []
  }

/-- A turn of a task in which its calls succeed, for what select() and recv() return. -/
def turnWith (task : Nat) (retStatus : Int) (received : List UInt8) : Event :=
  .turn task {
    starts := true
    retStatus
    received
    deviceId := true
    sent := true
    remoteRegistered := false
    freeIndex := true
    registers := true
  }

/-- The turns of a task up to the one in which it announces its connection. -/
def connection (task : Nat) : List Event :=
  [
    turnWith task 1 [],
    turnWith task 1 [],
    turnWith task 1 [],
    turnWith task 1 reconnBegin,
    turnWith task 1 [],
    turnWith task 1 []
  ]

/-- WEB_SERVICE_DATA_FLOW with RM_SEND_DATA. -/
def sendData : List UInt8 := [0x0b, 0x00, 0x00, 0x01, 0x01]

/-- CLIENT_RESIGN_REQ -/
def resign : List UInt8 := [0x00, 0x02, 0x00, 0x00]

/-- A session whose server says nothing, and one that comes to its data. -/
theorem served_timedOut
    : Throughout (fun past t => past ++ t.output) (fun past t => Served past t.output) []
        (replay State.step .initial
          ([activation, turnWith 0 1 [], turnWith 0 1 [], turnWith 0 0 [], turnWith 0 1 []]
            ++ [activation]
            ++ connection 1
            ++ [turnWith 1 1 [], turnWith 1 1 [], turnWith 1 1 sendData])).1 :=
  served_throughout (replay_run _ _) (by decide +kernel)

/-- After a session that has come to its data, the next server need not send a handshake. -/
theorem unserved_secondSession
    : ¬ ∀ transitions finish, Run State.step .initial transitions finish
        → Throughout (fun past t => past ++ t.output) (fun past t => Served past t.output) []
            transitions := by
  intro always
  have served := always _ _
    (replay_run State.initial
      ([activation] ++ connection 0
        ++ [turnWith 0 1 [], turnWith 0 1 [], turnWith 0 1 resign, turnWith 0 1 []]
        ++ [activation, turnWith 1 1 [], turnWith 1 1 [], turnWith 1 1 [],
          turnWith 1 1 sendData]))
  exact absurd served (by decide +kernel)

end Reconn.RemoteMonitor
