import Reconn.Iphoned.Monitor

/-! What becomes of the monitor thread once stop_iphoned_monitor has asked it to terminate. The
thread only does so at the top of its loop, and only if it has a descriptor to close.
-/

namespace Reconn.Iphoned

open TransitionRuns

/-- Where the thread is when the flag is set. -/
inductive Moment where
  /-- at the top of its loop or between two attempts to connect, or it does not run -/
  | between
  /-- in a turn of its loop whose test of the flag it has passed -/
  | during (received : Received)
  deriving DecidableEq, Repr

namespace Monitor

/-- The event has the thread call startiphoned. -/
def CallsStartiphoned (m : Monitor) (event : MonitorEvent) : Prop :=
  (∃ received, event = .turn received) ∧ m.AtTop ∧ m.iphonedMonitorState = .start
    ∧ ¬ (m.monitorthreadterminate = true ∧ m.iphonedFd ≠ -1)

/-- stop_iphoned_monitor sets the flag. A turn that is under way goes on as if it had not; none
if the thread cannot take that turn.
-/
def requestStop (heap : Nat → Nat → UInt8) (m : Monitor) : Moment → Option Monitor
  | .between => some { m with monitorthreadterminate := true }
  | .during received =>
      if m.monitorthreadterminate then none
      else
        (m.step heap (.turn received)).map fun turned =>
          { turned.1 with monitorthreadterminate := true }

/-- The event does not start another thread. -/
def StartsNoThread (m : Monitor) (event : MonitorEvent) : Prop :=
  event = .libiphonedStart → m.monitorthreadrunning = true

/-- In no run of the thread from here on does it call startiphoned. -/
def NeverStarts (heap : Nat → Nat → UInt8) (m : Monitor) : Prop :=
  ∀ transitions finish, Runs heap m transitions finish
    → (∀ t ∈ transitions, t.before.StartsNoThread t.event)
    → ∀ t ∈ transitions, ¬ t.before.CallsStartiphoned t.event

/-- Once the flag is set, neither a turn that is under way nor a later one calls startiphoned. -/
def StopMeansStop (heap : Nat → Nat → UInt8) (m : Monitor) (moment : Moment) (m' : Monitor)
    : Prop :=
  (∀ received, moment = .during received → ¬ m.CallsStartiphoned (.turn received))
    ∧ NeverStarts heap m'

/-- The thread does not run, or it comes to the top of its loop next, with a descriptor. -/
def StopsNext (m : Monitor) : Prop :=
  m.monitorthreadrunning = false ∨ (m.attempt = none ∧ m.iphonedFd ≠ -1)

/-- When the thread stops. -/
def StopsAt (m : Monitor) : Moment → Prop
  | .between => m.StopsNext
  | .during received =>
      m.iphonedFd ≠ -1
        ∧ (m.iphonedMonitorState = .kill ∨ m.iphonedMonitorState = .killwait
          ∨ (m.iphonedMonitorState = .connected ∧ received ≠ .fails false))

variable {heap : Nat → Nat → UInt8} {m m' : Monitor} {event : MonitorEvent}
  {reports : List Int}

-----------------------------------------------------------------------------------------
-- A thread that stops
-----------------------------------------------------------------------------------------

/-- The flag is set, and the thread stops next. -/
structure Stopping (m : Monitor) : Prop where
  asked : m.monitorthreadterminate = true
  stops : m.StopsNext

theorem Stopping.not_calls (stopping : m.Stopping) : ¬ m.CallsStartiphoned event := by
  rintro ⟨-, top, -, goesOn⟩
  rcases stopping.stops with ended | ⟨-, opened⟩
  · exact absurd (top.1.symm.trans ended) (by simp)
  · exact goesOn ⟨stopping.asked, opened⟩

/-- An attempt to connect has nothing to do with the flags. -/
theorem tryConnect_flags (m : Monitor) (attempts : Nat) (socket : Int) (connects : Bool)
    : (m.tryConnect attempts socket connects).monitorthreadrunning = m.monitorthreadrunning
      ∧ (m.tryConnect attempts socket connects).monitorthreadterminate
        = m.monitorthreadterminate := by
  unfold tryConnect connectToIphoned
  dsimp only
  split_ifs <;> exact ⟨rfl, rfl⟩

/-- A step that starts no other thread leaves the thread stopping. -/
theorem Stopping.step (stopping : m.Stopping) (alone : m.StartsNoThread event)
    (taken : m.step heap event = some (m', reports))
    : m'.Stopping := by
  obtain ⟨asked, stops⟩ := stopping
  cases event with
  | libiphonedStart =>
      simp only [Monitor.step, if_pos (alone rfl)] at taken
      obtain ⟨rfl, -⟩ := Prod.mk.inj (Option.some.inj taken)
      exact ⟨asked, stops⟩
  | stopIphonedMonitor =>
      obtain ⟨rfl, -⟩ := Prod.mk.inj (Option.some.inj taken)
      exact ⟨rfl, stops⟩
  | turn received =>
      simp only [Monitor.step] at taken
      split_ifs at taken with top
      have opened : m.iphonedFd ≠ -1 := by
        rcases stops with ended | ⟨-, opened⟩
        · exact absurd (top.1.symm.trans ended) (by simp)
        · exact opened
      rw [turn, if_pos ⟨asked, opened⟩] at taken
      obtain ⟨rfl, -⟩ := Prod.mk.inj (Option.some.inj taken)
      exact ⟨asked, .inl rfl⟩
  | attempt socket connects =>
      obtain ⟨attempts, attempting, taken⟩ := Option.bind_eq_some_iff.mp taken
      split_ifs at taken
      obtain ⟨rfl, -⟩ := Prod.mk.inj (Option.some.inj taken)
      obtain ⟨running, terminate⟩ := m.tryConnect_flags attempts socket connects
      rcases stops with ended | ⟨none, -⟩
      · exact ⟨terminate.trans asked, .inl (running.trans ended)⟩
      · exact absurd (attempting.symm.trans none) (by simp)
  | otherOpens fd | otherCloses fd =>
      simp only [Monitor.step] at taken
      split_ifs at taken
      obtain ⟨rfl, -⟩ := Prod.mk.inj (Option.some.inj taken)
      exact ⟨asked, stops⟩

/-- A stopping thread never calls startiphoned. -/
theorem Stopping.neverStarts (stopping : m.Stopping) : NeverStarts heap m := by
  intro transitions finish run alone t member
  have keep (m : Monitor) (event : MonitorEvent) (m' : Monitor) (reports : List Int)
      (stopping : m.Stopping) (alone : m.StartsNoThread event)
      (taken : m.step heap event = some (m', reports))
      : m'.Stopping :=
    stopping.step alone taken
  exact ((run.invariant keep stopping alone).1 t member).1.not_calls

-----------------------------------------------------------------------------------------
-- A thread that goes on
-----------------------------------------------------------------------------------------

/-- A thread that can come to a state from which it may start calls startiphoned may do so
before.
-/
theorem not_neverStarts_of_step (alone : m.StartsNoThread event)
    (taken : m.step heap event = some (m', reports)) (later : ¬ NeverStarts heap m')
    : ¬ NeverStarts heap m := by
  intro never
  refine later fun transitions finish run alones t member => ?_
  exact never _ _ (.cons taken run) (List.forall_mem_cons.mpr ⟨alone, alones⟩) t
    (List.mem_cons_of_mem _ member)

theorem step_turn (top : m.AtTop) (received : Received)
    : m.step heap (.turn received) = m.turn heap received :=
  if_pos top

/-- The same for a turn of the thread. -/
theorem not_neverStarts_of_turn (received : Received) (top : m.AtTop)
    (taken : m.turn heap received = some (m', reports)) (later : ¬ NeverStarts heap m')
    : ¬ NeverStarts heap m := by
  have alone : m.StartsNoThread (.turn received) := nofun
  exact not_neverStarts_of_step alone ((step_turn top received).trans taken) later

/-- A thread that has no descriptor at the top of its loop goes on. -/
theorem goesOn_of_closed (closed : m.iphonedFd = -1)
    : ¬ (m.monitorthreadterminate = true ∧ m.iphonedFd ≠ -1) :=
  fun ends => ends.2 closed

/-- Without a descriptor, START calls startiphoned. -/
theorem not_neverStarts_of_start (top : m.AtTop) (closed : m.iphonedFd = -1)
    (state : m.iphonedMonitorState = .start)
    : ¬ NeverStarts heap m := by
  intro never
  have goesOn := goesOn_of_closed closed
  have taken : m.step heap (.turn .timeout)
      = some ({ m with iphonedMonitorState := .startwait }, []) := by
    rw [step_turn top, turn, if_neg goesOn, state]
  refine never _ _ (.cons taken (.nil _)) ?_ _ (List.mem_singleton_self _) ?_
  · exact List.forall_mem_singleton.mpr nofun
  · exact ⟨⟨.timeout, rfl⟩, top, state, goesOn⟩

/-- Without a descriptor, KILLWAIT goes on to START. -/
theorem not_neverStarts_of_killwait (top : m.AtTop) (closed : m.iphonedFd = -1)
    (state : m.iphonedMonitorState = .killwait)
    : ¬ NeverStarts heap m := by
  have taken : m.turn heap .timeout = some ({ m with iphonedMonitorState := .start }, []) := by
    rw [turn, if_neg (goesOn_of_closed closed), state]
  refine not_neverStarts_of_turn .timeout top taken ?_
  apply not_neverStarts_of_start
  · exact top
  · exact closed
  · rfl

/-- Without a descriptor, KILL goes on to KILLWAIT once stopiphoned has returned. -/
theorem not_neverStarts_of_kill (top : m.AtTop) (closed : m.iphonedFd = -1)
    (state : m.iphonedMonitorState = .kill)
    : ¬ NeverStarts heap m := by
  have taken
      : m.turn heap .timeout = some ({ m with iphonedMonitorState := .killwait }, []) := by
    rw [turn, if_neg (goesOn_of_closed closed), state]
  refine not_neverStarts_of_turn .timeout top taken ?_
  apply not_neverStarts_of_killwait
  · exact top
  · exact closed
  · rfl

/-- An attempt whose socket() fails leads to a state from which the thread may start. -/
theorem not_neverStarts_of_tryConnect {attempts : Nat} (attempting : m.attempt = some attempts)
    (later : ¬ NeverStarts heap (m.tryConnect attempts (-1) false))
    : ¬ NeverStarts heap m := by
  have alone : m.StartsNoThread (.attempt (-1) false) := nofun
  have taken : m.step heap (.attempt (-1) false)
      = some (m.tryConnect attempts (-1) false, []) := by
    simp [step, attempting, MaySocket]
  exact not_neverStarts_of_step alone taken later

/-- The last attempt to connect comes to KILL without a descriptor. -/
theorem not_neverStarts_of_lastAttempt {attempts : Nat}
    (running : m.monitorthreadrunning = true) (attempting : m.attempt = some attempts)
    (last : connectAttempts ≤ attempts + 1)
    : ¬ NeverStarts heap m := by
  obtain ⟨-, ends, closed, same⟩ :=
    m.tryConnect_fails attempts (-1) false (by simp [connectToIphoned])
  obtain ⟨none, kill⟩ := ends last
  refine not_neverStarts_of_tryConnect attempting ?_
  exact not_neverStarts_of_kill ⟨same.trans running, none⟩ closed kill

/-- A thread that tries to connect may come to KILL without a descriptor, by induction on the
attempts that are left: socket() may fail in all of them.
-/
theorem not_neverStarts_of_attempt (left : Nat) {attempts : Nat}
    (running : m.monitorthreadrunning = true) (attempting : m.attempt = some attempts)
    (few : connectAttempts ≤ attempts + 1 + left)
    : ¬ NeverStarts heap m := by
  induction left generalizing m attempts with
  | zero => exact not_neverStarts_of_lastAttempt running attempting few
  | succ left ih =>
      by_cases again : attempts + 1 < connectAttempts
      · refine not_neverStarts_of_tryConnect attempting ?_
        have next : (m.tryConnect attempts (-1) false).attempt = some (attempts + 1) := by
          simp [tryConnect, connectToIphoned, again]
        exact ih ((m.tryConnect_flags attempts (-1) false).1.trans running) next (by omega)
      · exact not_neverStarts_of_lastAttempt running attempting (not_lt.mp again)

/-- A running thread that does not stop next may call startiphoned, by the cases of its state. -/
theorem not_neverStarts_of_running (running : m.monitorthreadrunning = true)
    (goesOn : ¬ (m.attempt = none ∧ m.iphonedFd ≠ -1))
    : ¬ NeverStarts heap m := by
  cases attempting : m.attempt with
  | some attempts =>
      exact not_neverStarts_of_attempt connectAttempts running attempting (by omega)
  | none =>
      have top : m.AtTop := ⟨running, attempting⟩
      have closed : m.iphonedFd = -1 := not_not.mp fun opened => goesOn ⟨attempting, opened⟩
      cases state : m.iphonedMonitorState with
      | start => exact not_neverStarts_of_start top closed state
      | killwait => exact not_neverStarts_of_killwait top closed state
      | kill => exact not_neverStarts_of_kill top closed state
      | startwait =>
          have taken : m.turn heap .timeout = some ({ m with attempt := some 0 }, []) := by
            rw [turn, if_neg (goesOn_of_closed closed), state]
          refine not_neverStarts_of_turn .timeout top taken ?_
          exact not_neverStarts_of_attempt connectAttempts running rfl (by omega)
      | connected =>
          have taken : m.turn heap (.fails false) = some (m.lose, []) := by
            rw [turn, if_neg (goesOn_of_closed closed), state]
            rfl
          refine not_neverStarts_of_turn (.fails false) top taken ?_
          apply not_neverStarts_of_kill
          · exact top
          · rfl
          · rfl

/-- A thread that is asked to stop never calls startiphoned exactly if it stops next. -/
theorem neverStarts_iff (asked : m.monitorthreadterminate = true)
    : NeverStarts heap m ↔ m.StopsNext := by
  constructor
  · intro never
    by_cases running : m.monitorthreadrunning = true
    · exact .inr (not_not.mp fun goesOn => not_neverStarts_of_running running goesOn never)
    · exact .inl (by simpa using running)
  · exact fun stops => (Stopping.mk asked stops).neverStarts

/-- A turn that is under way in CONNECTED leaves the thread stopping exactly if it has a
descriptor and does not lose the connection.
-/
theorem receive_stopsNext_iff {received : Received} (top : m.AtTop)
    (taken : m.receive heap received = some (m', reports))
    : { m' with monitorthreadterminate := true }.StopsNext
      ↔ m.iphonedFd ≠ -1 ∧ received ≠ .fails false := by
  have kept {after : Monitor} (fd : after.iphonedFd = m.iphonedFd)
      (running : after.monitorthreadrunning = true) (attempt : after.attempt = none)
      (silent : received ≠ .fails false)
      : { after with monitorthreadterminate := true }.StopsNext
        ↔ m.iphonedFd ≠ -1 ∧ received ≠ .fails false := by
    simp [StopsNext, fd, running, attempt, silent]
  cases received with
  | selectFails | timeout =>
      obtain ⟨rfl, -⟩ := Prod.mk.inj (Option.some.inj taken)
      exact kept rfl top.1 top.2 (by simp)
  | bytes rxbuf =>
      simp only [receive] at taken
      split_ifs at taken
      obtain ⟨rfl, -⟩ := Prod.mk.inj (Option.some.inj taken)
      exact kept rfl top.1 top.2 (by simp)
  | fails etimedout =>
      cases etimedout with
      | true =>
          obtain ⟨rfl, -⟩ := Prod.mk.inj (Option.some.inj taken)
          exact kept rfl top.1 top.2 (by simp)
      | false =>
          obtain ⟨rfl, -⟩ := Prod.mk.inj (Option.some.inj taken)
          simp [StopsNext, lose, closeIphonedFd, setDescriptor, top.1]

/-- Over every state of the monitor and at every moment, a request to stop keeps the thread
from calling startiphoned exactly if the thread stops at it.
-/
theorem stopMeansStop_iff {moment : Moment} (requested : m.requestStop heap moment = some m')
    : StopMeansStop heap m moment m' ↔ m.StopsAt moment := by
  cases moment with
  | between =>
      obtain rfl := Option.some.inj requested
      exact (and_iff_right nofun).trans (neverStarts_iff rfl)
  | during received =>
      simp only [requestStop] at requested
      split_ifs at requested with already
      obtain ⟨⟨next, reports⟩, taken, rfl⟩ := Option.map_eq_some_iff.mp requested
      simp only [step] at taken
      split_ifs at taken with top
      have goesOn : ¬ (m.monitorthreadterminate = true ∧ m.iphonedFd ≠ -1) :=
        fun ends => already ends.1
      rw [turn, if_neg goesOn] at taken
      rw [StopMeansStop, neverStarts_iff rfl]
      cases state : m.iphonedMonitorState with
      | start =>
          refine iff_of_false (fun stops => ?_) (by simp [StopsAt, state])
          exact stops.1 received rfl ⟨⟨received, rfl⟩, top, state, goesOn⟩
      | startwait =>
          rw [state] at taken
          obtain ⟨rfl, -⟩ := Prod.mk.inj (Option.some.inj taken)
          simp [StopsAt, StopsNext, state, top.1]
      | kill | killwait =>
          rw [state] at taken
          obtain ⟨rfl, -⟩ := Prod.mk.inj (Option.some.inj taken)
          simp [StopsAt, StopsNext, CallsStartiphoned, state, top.1, top.2]
      | connected =>
          rw [state] at taken
          simp only at taken
          rw [receive_stopsNext_iff top taken]
          simp [StopsAt, CallsStartiphoned, state]

/-- The monitor after it has connected to the daemon. -/
def connectedMonitor : Monitor :=
  (replay (step fun _ _ => 0) (.initial true true) (starts ++ [.attempt 3 true])).2

/-- A request that finds the thread at the top of its loop with a connection stops it. -/
theorem stopMeansStop_connected
    : StopMeansStop (fun _ _ => 0) connectedMonitor .between
        { connectedMonitor with monitorthreadterminate := true } :=
  (stopMeansStop_iff rfl).mpr (.inr ⟨rfl, by decide⟩)

/-- A request after the connection has been lost does not keep the thread from starting the
daemon again.
-/
theorem stop_startsAgain
    : ¬ ∀ transitions m, Runs (fun _ _ => 0) (.initial true true) transitions m
        → ∀ moment m', m.requestStop (fun _ _ => 0) moment = some m'
          → StopMeansStop (fun _ _ => 0) m moment m' := by
  intro always
  have stops := always _ _
    (replay_run (initial true true) (starts ++ [.attempt 3 true, .turn (.fails false)]))
    .between _ rfl
  exact not_neverStarts_of_kill ⟨rfl, rfl⟩ rfl rfl stops.2

end Monitor

end Reconn.Iphoned
