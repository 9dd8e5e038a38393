import Reconn.Client.Mastership

/-! The resign protocol. theSlaveContextPtr remembers the last slave whose request was passed
on to the master; it is cleared by a hand-over only, so that it says who asked last, but not
whether that client is still there and waits for an answer.
-/

namespace Reconn.Client

open TransitionRuns

namespace State

variable {s s' : State} {event : Event} {output : Output}

/-- A request that is passed on makes the pointer refer to the client that asks. -/
theorem asks_pointer {a : Addr} (asks : s.asks event = some a)
    (taken : s.step event = some (s', output))
    : s'.globals.theSlaveContextPtr = some a := by
  obtain ⟨⟨a', c, p⟩, switched, asked⟩ := Option.bind_eq_some_iff.mp asks
  simp only at asked
  split_ifs at asked with request
  obtain rfl := Option.some.inj asked
  obtain ⟨received, env, rfl, handles, rfl⟩ := switches_eq_some switched taken
  obtain ⟨resigns, other, none⟩ := request
  simp [command, resigns, masterModeResignReq, other, none]

/-- Only a request that is passed on sets the pointer, and only a response clears it. -/
theorem pointer_of_asks_eq_none (placed : s.WellPlaced) (none : s.asks event = none)
    (taken : s.step event = some (s', output))
    : s'.globals.theSlaveContextPtr = s.globals.theSlaveContextPtr
      ∨ (s.answers event = true ∧ s'.globals.theSlaveContextPtr = Option.none) := by
  cases step_effect taken with
  | halts => exact .inl rfl
  | keeps globals | transmits globals | accepts _ _ _ globals | inserts _ _ globals
  | notified _ _ globals | leaves _ _ globals | breaks _ _ globals
  | openFails _ _ _ globals | grants _ _ _ globals | denies _ _ _ _ globals =>
      exact .inl (by rw [globals])
  | stepsBack _ globals | extracted _ globals | releases _ _ _ globals =>
      exact .inl (by rw [globals]; rfl)
  | posts globals => exact .inl (by rw [globals, Globals.mqSend_theSlaveContextPtr])
  | unregistered handles outside =>
      exact absurd (placed.index_lt handles.toTurns) (not_lt.mpr outside)
  | forwards handles other none_ =>
      simp [asks, handles.switches, handles.command, other, none_] at none
  | handsOver handles success _ _ globals =>
      refine .inr ⟨?_, by rw [globals]⟩
      simp [answers, handles.switches, handles.command, success]

end State

/-- What has happened in the resign protocol: the clients whose requests were passed on and
have not been answered, and the one that asked last, if there has been no response since and
it has not left.
-/
structure Requests where
  unanswered : Addr → Bool
  last : Option Addr

namespace Requests

/-- Before the first request. -/
def empty : Requests := ⟨fun _ => false, none⟩

/-- The requests after a transition. A response answers the client that the pointer refers
to, and a client that leaves does not wait any more.
-/
def record (past : Requests) (t : Transition State Event Output) : Requests :=
  match t.before.asks t.event with
  | some a => { unanswered := Function.update past.unanswered a true, last := some a }
  | none =>
      if t.before.answers t.event then
        {
          unanswered := fun a =>
            past.unanswered a && t.before.globals.theSlaveContextPtr ≠ some a
          last := none
        }
      else
        {
          unanswered := fun a => past.unanswered a && (t.after.task a).isSome
          last := past.last.filter fun a => (t.after.task a).isSome
        }

/-- The last request is the one that the pointer remembers, as long as it waits. -/
structure Remembered (past : Requests) (s : State) : Prop where
  placed : s.WellPlaced
  last
    : ∀ a, past.last = some a
        → s.globals.theSlaveContextPtr = some a ∧ past.unanswered a = true
  waits
    : ∀ a, s.globals.theSlaveContextPtr = some a → past.unanswered a = true
        → past.last = some a

/-- Every step keeps the last request remembered. Witness: a request that is passed on sets
both, a response ends the wait of the client that the pointer refers to, and every other
step leaves the pointer as it is.
-/
theorem Remembered.record {past : Requests} (t : Transition State Event Output)
    (remembered : past.Remembered t.before)
    (taken : t.before.step t.event = some (t.after, t.output))
    : (past.record t).Remembered t.after := by
  have placed := (State.step_effect taken).wellPlaced remembered.placed
  unfold Requests.record
  split
  · rename_i a asks
    have pointer := State.asks_pointer asks taken
    refine ⟨placed, ?_, ?_⟩
    · rintro b ⟨⟩
      exact ⟨pointer, Function.update_self ..⟩
    · intro b here _
      exact pointer.symm.trans here
  · rename_i none
    have kept := State.pointer_of_asks_eq_none remembered.placed none taken
    split_ifs with answers
    · refine ⟨placed, by simp, ?_⟩
      intro b here waits
      simp only [Bool.and_eq_true, decide_eq_true_eq] at waits
      rcases kept with same | ⟨-, cleared⟩
      · exact absurd (same.symm.trans here) waits.2
      · rw [cleared] at here
        cases here
    · have same : t.after.globals.theSlaveContextPtr = t.before.globals.theSlaveContextPtr := by
        rcases kept with same | ⟨answered, -⟩
        · exact same
        · exact absurd answered answers
      refine ⟨placed, ?_, ?_⟩
      · intro b last
        obtain ⟨last, here⟩ := Option.filter_eq_some_iff.mp last
        obtain ⟨pointer, waits⟩ := remembered.last b last
        exact ⟨same.trans pointer, by simp [waits, here]⟩
      · intro b pointer waits
        simp only [Bool.and_eq_true] at waits
        have last := remembered.waits b (same.symm.trans pointer) waits.1
        simp [last, waits.2]

end Requests

/-- A response finds theSlaveContextPtr at the context of a live slave task whose request has
not been answered.
-/
def PointsToAsker (past : Requests) (t : Transition State Event Output) : Prop :=
  t.before.answers t.event = true
    → ∃ a task, t.before.globals.theSlaveContextPtr = some a ∧ t.before.task a = some task
      ∧ task.mode = .slaveMode ∧ past.unanswered a = true

/-- A response comes while the client that asked last is connected and a slave and there has
been no response since it asked.
-/
def InTime (past : Requests) (t : Transition State Event Output) : Prop :=
  t.before.answers t.event = true
    → ∃ a task, past.last = some a ∧ t.before.task a = some task ∧ task.mode = .slaveMode

/-- In a run the pointer refers at every response to a live slave that waits for an answer,
exactly if every response comes in time.
-/
theorem pointsToAsker_throughout_iff {transitions : List (Transition State Event Output)}
    {finish : State} (run : State.Runs .initial transitions finish)
    : Throughout Requests.record PointsToAsker .empty transitions
      ↔ Throughout Requests.record InTime .empty transitions := by
  have agree (past : Requests) (t : Transition State Event Output)
      (remembered : past.Remembered t.before)
      (_ : t.before.step t.event = some (t.after, t.output))
      : PointsToAsker past t ↔ InTime past t := by
    refine imp_congr_right fun _ => exists_congr fun a => exists_congr fun task => ?_
    constructor
    · rintro ⟨pointer, runs, slave, waits⟩
      exact ⟨remembered.waits a pointer waits, runs, slave⟩
    · rintro ⟨last, runs, slave⟩
      obtain ⟨pointer, waits⟩ := remembered.last a last
      exact ⟨pointer, runs, slave, waits⟩
  exact run.throughout_iff (fun _ t => Requests.Remembered.record t) agree _
    ⟨State.wellPlaced_initial, nofun, nofun⟩

/-- The client at the address sends MASTER_MODE_RESIGN_REQ. -/
def masterModeResignReq (a : Addr) : Event := .iterate a (request (0, 6) 0) .usual

/-- The client at the address sends MASTER_MODE_RESIGN_RESP with RECONN_SUCCESS. -/
def masterModeResignResp (a : Addr) : Event :=
  .iterate a (request (0, 8) reconnSuccess) .usual

/-- The first client becomes the master, and the second asks it to resign. -/
def asking : List Event :=
  connects 1 5 ++ [masterModeReq 1] ++ connects 2 6 ++ [masterModeResignReq 2]

/-- A response to a slave that has stayed finds it at the pointer. -/
theorem pointsToAsker_of_response
    : Throughout Requests.record PointsToAsker .empty
        (replay State.step .initial (asking ++ [masterModeResignResp 1])).1 := by
  refine (pointsToAsker_throughout_iff (replay_run _ _)).mpr ?_
  refine (throughout_replay_cons rfl).mpr ⟨fun answers => absurd answers (by decide), ?_⟩
  refine (throughout_replay_cons rfl).mpr ⟨fun answers => absurd answers (by decide), ?_⟩
  refine (throughout_replay_cons rfl).mpr ⟨fun answers => absurd answers (by decide +kernel), ?_⟩
  refine (throughout_replay_cons rfl).mpr ⟨fun answers => absurd answers (by decide), ?_⟩
  refine (throughout_replay_cons rfl).mpr ⟨fun answers => absurd answers (by decide), ?_⟩
  refine (throughout_replay_cons rfl).mpr ⟨fun answers => absurd answers (by decide +kernel), ?_⟩
  refine (throughout_replay_cons rfl).mpr ⟨fun _ => ?_, trivial⟩
  exact ⟨2, ⟨2, .slaveMode, 6⟩, by decide +kernel, by decide +kernel, rfl⟩

/-- A response without a live task at the pointer finds no client that waits. -/
theorem not_pointsToAsker {past : Requests} {t : Transition State Event Output}
    (answers : t.before.answers t.event = true)
    (gone : t.before.globals.theSlaveContextPtr.bind t.before.task = none)
    : ¬ PointsToAsker past t := by
  intro points
  obtain ⟨a, task, pointer, runs, -⟩ := points answers
  simp [pointer, runs] at gone

/-- A response after the slave has left dereferences its freed context. -/
theorem pointer_dangles
    : ¬ ∀ transitions finish, State.Runs .initial transitions finish
        → Throughout Requests.record PointsToAsker .empty transitions := by
  intro always
  have whole := always _ _
    (replay_run State.initial (asking ++ [.iterate 2 .closed .usual, masterModeResignResp 1]))
  iterate 7 obtain ⟨-, whole⟩ := (throughout_replay_cons rfl).mp whole
  obtain ⟨last, -⟩ := (throughout_replay_cons rfl).mp whole
  exact not_pointsToAsker (by decide +kernel) (by decide +kernel) last

end Reconn.Client
