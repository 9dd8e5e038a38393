import Reconn.Iphoned.Packets
import Reconn.Library.TransitionRuns

/-! The monitor thread of libiphoned.c, which keeps the connection to the daemon: its state
machine, the socket it talks to the daemon over, and the descriptors of the process.
-/

namespace Reconn.Iphoned

open TransitionRuns

/-- iphoned_monitor_state_t -/
inductive MonitorState where
  | start
  | connected
  | kill
  | killwait
  | startwait
  deriving DecidableEq, Repr

/-- What a file descriptor of the process refers to. -/
inductive Descriptor where
  | closed
  /-- a socket that connect() has connected to the daemon -/
  | connected
  /-- whatever the other threads have opened -/
  | other
  deriving DecidableEq, Repr

/-- What select and recv give in one turn of the connected thread. -/
inductive Received where
  | selectFails
  | timeout
  | bytes (rxbuf : List UInt8)
  /-- recv does not return a positive number -/
  | fails (etimedout : Bool)
  deriving DecidableEq, Repr

/-- The static variables of libiphoned.c that the monitor thread uses. `attempt` counts the
turns of the loop that tries to connect; at the top of the thread's own loop there is none.
-/
structure Monitor where
  iphonedFd : Int
  monitorthreadterminate : Bool
  monitorthreadrunning : Bool
  iphonedMonitorState : MonitorState
  attempt : Option Nat
  parser : State
  descriptors : Int → Descriptor

inductive MonitorEvent where
  /-- libiphoned_start, and the thread's first statements -/
  | libiphonedStart
  /-- stop_iphoned_monitor -/
  | stopIphonedMonitor
  /-- one turn of the thread's loop, up to its attempts to connect -/
  | turn (received : Received)
  /-- one attempt to connect: what socket() returns, and whether connect() succeeds -/
  | attempt (socket : Int) (connects : Bool)
  /-- another thread opens a file or a socket -/
  | otherOpens (fd : Int)
  | otherCloses (fd : Int)
  deriving DecidableEq, Repr

/-- libiphoned_isiphonepresent -/
def Receiver.libiphonedIsiphonepresent (s : Receiver) : Int :=
  if s.iphoneconnected then 0 else -1

def connectAttempts : Nat := 50
def rxbufSize : Nat := 1024

namespace Monitor

/-- The static initialisers, with the given callbacks registered. -/
def initial (rxcallbackfn presencechangecallbackfn : Bool) : Monitor where
  iphonedFd := -1
  monitorthreadterminate := false
  monitorthreadrunning := false
  iphonedMonitorState := .start
  attempt := none
  parser := .initial rxcallbackfn presencechangecallbackfn
  descriptors := fun _ => .closed

def setDescriptor (m : Monitor) (fd : Int) (descriptor : Descriptor) : Monitor :=
  { m with descriptors := Function.update m.descriptors fd descriptor }

/-- close(iphoned_fd) -/
def closeIphonedFd (m : Monitor) : Monitor :=
  { m.setDescriptor m.iphonedFd .closed with iphonedFd := -1 }

/-- The connection is lost. Neither lastpresence nor the callback learns of it. -/
def lose (m : Monitor) : Monitor :=
  let receiver := { m.parser.receiver with iphoneconnected := false }
  {
    m.closeIphonedFd with
    parser := { m.parser with receiver }
    iphonedMonitorState := .kill
  }

/-- What libiphoned_isiphonepresent returns in the presence callbacks that processrx makes:
a byte makes at most one, as the last thing that it does to the presence.
-/
def presenceReports (heap : Nat → Nat → UInt8) : State → List UInt8 → List Int
  | _, [] => []
  | s, byte :: rest =>
      let processed := processByte heap s byte
      (if .presencechangecallbackfn ∈ processed.2 then
        [processed.1.receiver.libiphonedIsiphonepresent]
      else [])
        ++ presenceReports heap processed.1 rest

/-- A turn in CONNECTED. -/
def receive (heap : Nat → Nat → UInt8) (m : Monitor) : Received → Option (Monitor × List Int)
  | .selectFails | .timeout | .fails true => some (m, [])
  | .fails false => some (m.lose, [])
  | .bytes rxbuf =>
      if rxbuf = [] ∨ rxbufSize < rxbuf.length then none
      else
        some
          (
            { m with parser := (processrx heap m.parser rxbuf).1 },
            presenceReports heap m.parser rxbuf
          )

/-- A turn of the loop of iphoned_monitor_thread. A thread that is to terminate goes on until
it has a descriptor to close.
-/
def turn (heap : Nat → Nat → UInt8) (m : Monitor) (received : Received)
    : Option (Monitor × List Int) :=
  if m.monitorthreadterminate ∧ m.iphonedFd ≠ -1 then
    some ({ m.closeIphonedFd with monitorthreadrunning := false }, [])
  else match m.iphonedMonitorState with
    | .start => some ({ m with iphonedMonitorState := .startwait }, [])
    | .startwait => some ({ m with attempt := some 0 }, [])
    | .connected => m.receive heap received
    | .kill => some ({ m with iphonedMonitorState := .killwait }, [])
    | .killwait => some ({ m with iphonedMonitorState := .start }, [])

/-- connect_to_iphoned assigns the global before it knows whether it can connect. -/
def connectToIphoned (m : Monitor) (socket : Int) (connects : Bool) : Monitor × Int :=
  let m := { m with iphonedFd := socket }
  if socket < 0 then (m, -1)
  else if connects then (m.setDescriptor socket .connected, 0)
  else (m.setDescriptor socket .closed, -1)

/-- A turn of the loop in STARTWAIT, with the attempts before it. -/
def tryConnect (m : Monitor) (attempts : Nat) (socket : Int) (connects : Bool) : Monitor :=
  let result := m.connectToIphoned socket connects
  if result.2 = 0 then
    { result.1 with iphonedMonitorState := .connected, attempt := none }
  else if attempts + 1 < connectAttempts then { result.1 with attempt := some (attempts + 1) }
  else { result.1 with iphonedMonitorState := .kill, attempt := none }

/-- The kernel's socket() fails, or gives a descriptor that is not in use. -/
def MaySocket (m : Monitor) (socket : Int) : Prop :=
  socket = -1 ∨ (0 ≤ socket ∧ m.descriptors socket = .closed)

instance (m : Monitor) (socket : Int) : Decidable (m.MaySocket socket) :=
  inferInstanceAs (Decidable (_ ∨ _))

/-- A step puts out what libiphoned_isiphonepresent returns in each presence callback. -/
def step (heap : Nat → Nat → UInt8) (m : Monitor) : MonitorEvent → Option (Monitor × List Int)
  | .libiphonedStart =>
      if m.monitorthreadrunning then some (m, [])
      else
        some
          (
            {
              m with
              monitorthreadterminate := false
              monitorthreadrunning := true
              iphonedMonitorState := .start
            },
            []
          )
  | .stopIphonedMonitor => some ({ m with monitorthreadterminate := true }, [])
  | .turn received =>
      if m.monitorthreadrunning ∧ m.attempt = none then m.turn heap received else none
  | .attempt socket connects =>
      m.attempt.bind fun attempts =>
        if m.MaySocket socket then some (m.tryConnect attempts socket connects, []) else none
  | .otherOpens fd =>
      if m.descriptors fd = .closed then some (m.setDescriptor fd .other, []) else none
  | .otherCloses fd =>
      if m.descriptors fd = .other then some (m.setDescriptor fd .closed, []) else none

abbrev Runs (heap : Nat → Nat → UInt8) := Run (step heap)

-----------------------------------------------------------------------------------------
-- The descriptor of the connection
-----------------------------------------------------------------------------------------

/-- The thread is at the top of its loop. -/
def AtTop (m : Monitor) : Prop := m.monitorthreadrunning = true ∧ m.attempt = none

/-- iphoned_fd is set exactly in CONNECTED, and then it is an open, connected socket. -/
def Consistent (m : Monitor) : Prop :=
  m.iphonedFd ≠ -1
    ↔ m.iphonedMonitorState = .connected ∧ m.descriptors m.iphonedFd = .connected

/-- The last of the attempts to connect does not fail in connect(). -/
def LastAttempt (m : Monitor) (event : MonitorEvent) : Prop :=
  ∀ socket, event = .attempt socket false → m.attempt = some (connectAttempts - 1)
    → socket = -1

/-- What every step keeps: a thread that does not run has closed its socket, and the thread
counts its attempts only in STARTWAIT.
-/
structure Sound (m : Monitor) : Prop where
  ended : m.monitorthreadrunning = false → m.iphonedFd = -1 ∧ m.attempt = none
  attempting : ∀ attempts, m.attempt = some attempts
    → m.monitorthreadrunning = true ∧ attempts < connectAttempts

variable {heap : Nat → Nat → UInt8} {m m' : Monitor} {event : MonitorEvent}
  {reports : List Int}

theorem Consistent.closed (consistent : m.Consistent)
    (elsewhere : m.iphonedMonitorState ≠ .connected)
    : m.iphonedFd = -1 :=
  not_not.mp fun set => elsewhere (consistent.mp set).1

theorem consistent_of_closed (closed : m.iphonedFd = -1)
    (elsewhere : m.iphonedMonitorState ≠ .connected)
    : m.Consistent :=
  iff_of_false (not_not.mpr closed) fun connected => elsewhere connected.1

/-- What a turn of the thread's loop makes of what it receives, with the reports to the
presence callback.
-/
inductive Turned (heap : Nat → Nat → UInt8) (m : Monitor)
    : Received → Monitor → List Int → Prop where
  | terminates {received : Received}
    (ends : m.monitorthreadterminate = true ∧ m.iphonedFd ≠ -1)
    : Turned heap m received { m.closeIphonedFd with monitorthreadrunning := false } []
  | advances {received : Received} {state : MonitorState}
    (source : m.iphonedMonitorState ≠ .connected) (target : state ≠ .connected)
    : Turned heap m received { m with iphonedMonitorState := state } []
  | tries {received : Received} (waiting : m.iphonedMonitorState = .startwait)
    : Turned heap m received { m with attempt := some 0 } []
  | waits {received : Received} (silent : received ≠ .fails false)
    : Turned heap m received m []
  | loses (connected : m.iphonedMonitorState = .connected)
    (goesOn : ¬ (m.monitorthreadterminate = true ∧ m.iphonedFd ≠ -1))
    : Turned heap m (.fails false) m.lose []
  | receives (rxbuf : List UInt8)
    : Turned heap m (.bytes rxbuf)
        { m with parser := (processrx heap m.parser rxbuf).1 }
        (presenceReports heap m.parser rxbuf)

/-- A turn does nothing else, by the cases of the state. -/
theorem turned_of_turn {received : Received}
    (taken : m.turn heap received = some (m', reports))
    : Turned heap m received m' reports := by
  unfold turn at taken
  split_ifs at taken with ends
  · obtain ⟨rfl, rfl⟩ := Prod.mk.inj (Option.some.inj taken)
    exact .terminates ends
  · cases state : m.iphonedMonitorState with
    | connected =>
        rw [state] at taken
        cases received with
        | selectFails | timeout =>
            obtain ⟨rfl, rfl⟩ := Prod.mk.inj (Option.some.inj taken)
            exact .waits (by simp)
        | bytes rxbuf =>
            simp only [receive] at taken
            split_ifs at taken
            obtain ⟨rfl, rfl⟩ := Prod.mk.inj (Option.some.inj taken)
            exact .receives rxbuf
        | fails etimedout =>
            cases etimedout with
            | true =>
                obtain ⟨rfl, rfl⟩ := Prod.mk.inj (Option.some.inj taken)
                exact .waits (by simp)
            | false =>
                obtain ⟨rfl, rfl⟩ := Prod.mk.inj (Option.some.inj taken)
                exact .loses state ends
    | startwait =>
        rw [state] at taken
        obtain ⟨rfl, rfl⟩ := Prod.mk.inj (Option.some.inj taken)
        rw [← state]
        exact .tries state
    | start | kill | killwait =>
        rw [state] at taken
        obtain ⟨rfl, rfl⟩ := Prod.mk.inj (Option.some.inj taken)
        exact .advances (by simp [state]) (by simp)

/-- A turn of the thread's loop ends consistent. -/
theorem Turned.consistent {received : Received} (turned : Turned heap m received m' reports)
    (consistent : m.Consistent)
    : m'.AtTop → m'.Consistent := by
  cases turned with
  | terminates ends => exact fun top => absurd top.1 (by simp)
  | advances source target =>
      exact fun _ => consistent_of_closed (consistent.closed source) target
  | tries waiting => exact fun _ => consistent
  | waits silent => exact fun _ => consistent
  | loses connected goesOn => exact fun _ => consistent_of_closed rfl (by simp [lose])
  | receives rxbuf => exact fun _ => consistent

/-- What another thread does to a descriptor that is not the connection's. -/
theorem Consistent.setDescriptor {fd : Int} {descriptor : Descriptor}
    (consistent : m.Consistent) (unconnected : m.descriptors fd ≠ .connected)
    (other : descriptor ≠ .connected)
    : (m.setDescriptor fd descriptor).Consistent := by
  refine consistent.trans (and_congr_right fun _ => ?_)
  by_cases same : m.iphonedFd = fd
  · subst same
    simp [Monitor.setDescriptor, unconnected, other]
  · simp [Monitor.setDescriptor, Function.update_of_ne same]

/-- A failed attempt ends at the top of the loop only if it was the last one, and leaves the
descriptor number that it got.
-/
theorem tryConnect_fails (m : Monitor) (attempts : Nat) (socket : Int) (connects : Bool)
    (failed : (m.connectToIphoned socket connects).2 ≠ 0)
    : ((m.tryConnect attempts socket connects).AtTop → connectAttempts ≤ attempts + 1)
      ∧ (connectAttempts ≤ attempts + 1
        → (m.tryConnect attempts socket connects).attempt = none
          ∧ (m.tryConnect attempts socket connects).iphonedMonitorState = .kill)
      ∧ (m.tryConnect attempts socket connects).iphonedFd = socket
      ∧ (m.tryConnect attempts socket connects).monitorthreadrunning
        = m.monitorthreadrunning := by
  have fd : (m.connectToIphoned socket connects).1.iphonedFd = socket := by
    unfold connectToIphoned
    dsimp only
    split_ifs <;> rfl
  have running : (m.connectToIphoned socket connects).1.monitorthreadrunning
      = m.monitorthreadrunning := by
    unfold connectToIphoned
    dsimp only
    split_ifs <;> rfl
  simp only [tryConnect, if_neg failed]
  split_ifs with again
  · refine ⟨fun top => absurd top.2 (by simp), fun last => ?_, fd, running⟩
    exact absurd again (not_lt.mpr last)
  · exact ⟨fun _ => not_lt.mp again, fun _ => ⟨rfl, rfl⟩, fd, running⟩

/-- An attempt to connect ends consistent, or the thread goes on trying, exactly if it is not
the last one failing in connect().
-/
theorem tryConnect_consistent_iff {attempts : Nat} {socket : Int} {connects : Bool}
    (running : m.monitorthreadrunning = true) (attempting : m.attempt = some attempts)
    (below : attempts < connectAttempts) (given : m.MaySocket socket)
    : ((m.tryConnect attempts socket connects).AtTop
        → (m.tryConnect attempts socket connects).Consistent)
      ↔ m.LastAttempt (.attempt socket connects) := by
  rcases given with rfl | ⟨inUse, -⟩
  · obtain ⟨ends, last, fd, -⟩ :=
      m.tryConnect_fails attempts (-1) connects (by simp [connectToIphoned])
    refine iff_of_true (fun top => consistent_of_closed fd ?_) ?_
    · rw [(last (ends top)).2]
      simp
    · rintro _ ⟨⟩ _
      rfl
  · have nonneg : ¬ socket < 0 := Int.not_lt.mpr inUse
    cases connects with
    | true =>
        refine iff_of_true (fun _ => ?_) (by simp [LastAttempt])
        have set : socket ≠ -1 := by omega
        simp [tryConnect, connectToIphoned, nonneg, Consistent, setDescriptor, set]
    | false =>
        obtain ⟨ends, last, fd, same⟩ :=
          m.tryConnect_fails attempts socket false (by simp [connectToIphoned, nonneg])
        constructor
        · rintro consistent _ ⟨⟩ final
          have count : attempts = connectAttempts - 1 :=
            Option.some.inj (attempting.symm.trans final)
          obtain ⟨top, killed⟩ := last (by unfold connectAttempts at *; omega)
          rw [← fd]
          exact (consistent ⟨same.trans running, top⟩).closed (by simp [killed])
        · intro allowed top
          have final : m.attempt = some (connectAttempts - 1) := by
            rw [attempting, Option.some.injEq]
            have := ends top
            omega
          have := allowed socket rfl final
          omega

/-- A thread that runs, and makes no attempt to connect, is sound. -/
theorem Sound.of_atTop (top : m.AtTop) : m.Sound :=
  ⟨
    fun ended => absurd (top.1.symm.trans ended) (by simp),
    fun attempts attempting => absurd (top.2.symm.trans attempting) (by simp)
  ⟩

theorem Turned.sound {received : Received} (turned : Turned heap m received m' reports)
    (top : m.AtTop)
    : m'.Sound := by
  cases turned with
  | terminates ends =>
      refine ⟨fun _ => ⟨rfl, top.2⟩, fun _ attempting => ?_⟩
      exact absurd (top.2.symm.trans attempting) (by simp)
  | tries waiting =>
      refine ⟨fun ended => absurd (top.1.symm.trans ended) (by simp), ?_⟩
      rintro _ ⟨⟩
      exact ⟨top.1, by decide⟩
  | advances source target => exact .of_atTop top
  | waits silent => exact .of_atTop top
  | loses connected goesOn => exact .of_atTop top
  | receives rxbuf => exact .of_atTop top

theorem tryConnect_sound {attempts : Nat} {socket : Int} {connects : Bool}
    (running : m.monitorthreadrunning = true)
    : (m.tryConnect attempts socket connects).Sound := by
  have still : (m.connectToIphoned socket connects).1.monitorthreadrunning = true := by
    unfold connectToIphoned
    dsimp only
    split_ifs <;> exact running
  simp only [tryConnect]
  split_ifs with connected again
  · exact .of_atTop ⟨still, rfl⟩
  · refine ⟨fun ended => absurd (still.symm.trans ended) (by simp), ?_⟩
    rintro _ ⟨⟩
    exact ⟨still, again⟩
  · exact .of_atTop ⟨still, rfl⟩

/-- Every step keeps what is known of every state. -/
theorem Sound.step (sound : m.Sound) (taken : m.step heap event = some (m', reports))
    : m'.Sound := by
  cases event with
  | libiphonedStart =>
      simp only [Monitor.step] at taken
      split_ifs at taken with running
      · obtain ⟨rfl, -⟩ := Prod.mk.inj (Option.some.inj taken)
        exact sound
      · obtain ⟨rfl, -⟩ := Prod.mk.inj (Option.some.inj taken)
        exact .of_atTop ⟨rfl, (sound.ended (by simpa using running)).2⟩
  | stopIphonedMonitor =>
      obtain ⟨rfl, -⟩ := Prod.mk.inj (Option.some.inj taken)
      exact ⟨sound.ended, sound.attempting⟩
  | turn received =>
      simp only [Monitor.step] at taken
      split_ifs at taken with top
      exact (turned_of_turn taken).sound top
  | attempt socket connects =>
      obtain ⟨attempts, attempting, taken⟩ := Option.bind_eq_some_iff.mp taken
      split_ifs at taken
      obtain ⟨rfl, -⟩ := Prod.mk.inj (Option.some.inj taken)
      exact tryConnect_sound (sound.attempting attempts attempting).1
  | otherOpens fd | otherCloses fd =>
      simp only [Monitor.step] at taken
      split_ifs at taken
      obtain ⟨rfl, -⟩ := Prod.mk.inj (Option.some.inj taken)
      exact ⟨sound.ended, sound.attempting⟩

/-- Where the state is consistent at the top of the loop, a step keeps it so exactly if it is
not the last attempt to connect failing in connect().
-/
theorem consistent_iff (sound : m.Sound) (before : m.AtTop → m.Consistent)
    (taken : m.step heap event = some (m', reports))
    : (m'.AtTop → m'.Consistent) ↔ m.LastAttempt event := by
  cases event with
  | libiphonedStart =>
      refine iff_of_true (fun top => ?_) (by simp [LastAttempt])
      simp only [Monitor.step] at taken
      split_ifs at taken with running
      · obtain ⟨rfl, -⟩ := Prod.mk.inj (Option.some.inj taken)
        exact before top
      · obtain ⟨rfl, -⟩ := Prod.mk.inj (Option.some.inj taken)
        exact consistent_of_closed (sound.ended (by simpa using running)).1 (by simp)
  | stopIphonedMonitor =>
      obtain ⟨rfl, -⟩ := Prod.mk.inj (Option.some.inj taken)
      exact iff_of_true before (by simp [LastAttempt])
  | turn received =>
      refine iff_of_true ?_ (by simp [LastAttempt])
      simp only [Monitor.step] at taken
      split_ifs at taken with top
      exact (turned_of_turn taken).consistent (before top)
  | attempt socket connects =>
      obtain ⟨attempts, attempting, taken⟩ := Option.bind_eq_some_iff.mp taken
      split_ifs at taken with given
      obtain ⟨rfl, -⟩ := Prod.mk.inj (Option.some.inj taken)
      obtain ⟨running, below⟩ := sound.attempting attempts attempting
      exact tryConnect_consistent_iff running attempting below given
  | otherOpens fd | otherCloses fd =>
      refine iff_of_true ?_ (by simp [LastAttempt])
      simp only [Monitor.step] at taken
      split_ifs at taken with unconnected
      obtain ⟨rfl, -⟩ := Prod.mk.inj (Option.some.inj taken)
      exact fun top => (before top).setDescriptor (by simp [unconnected]) (by simp)

/-- Over every run iphoned_fd is consistent at the top of the loop exactly if in no row of
attempts to connect the last one fails in connect().
-/
theorem consistent_throughout_iff {rxcallbackfn presencechangecallbackfn : Bool}
    {transitions : List (Transition Monitor MonitorEvent (List Int))} {finish : Monitor}
    (run : Runs heap (.initial rxcallbackfn presencechangecallbackfn) transitions finish)
    : (∀ t ∈ transitions, t.after.AtTop → t.after.Consistent)
      ↔ ∀ t ∈ transitions, t.before.LastAttempt t.event :=
  run.forall_after_iff (fun _ _ _ _ => Sound.step) (fun _ _ _ _ => consistent_iff)
    ⟨fun _ => ⟨rfl, rfl⟩, by simp [initial]⟩ (fun top => by simp [AtTop, initial] at top)

/-- libiphoned_start, and the turns until the thread tries to connect. -/
def starts : List MonitorEvent := [.libiphonedStart, .turn .timeout, .turn .timeout]

/-- A connection that is lost once it has been made. -/
theorem consistent_lost
    : (replay (step fun _ _ => 0) (.initial true true)
          (starts ++ [.attempt (-1) false, .attempt 3 true, .turn (.fails false)])).1.Forall
        fun t => t.after.AtTop → t.after.Consistent := by
  refine List.forall_iff_forall_mem.mpr ((consistent_throughout_iff (replay_run _ _)).mpr ?_)
  refine forall_replay_cons rfl (by simp [LastAttempt]) ?_
  refine forall_replay_cons rfl (by simp [LastAttempt]) ?_
  refine forall_replay_cons rfl (by simp [LastAttempt]) ?_
  refine forall_replay_cons rfl (fun _ same _ => by cases same; rfl) ?_
  refine forall_replay_cons rfl (by simp [LastAttempt]) ?_
  exact forall_replay_cons rfl (by simp [LastAttempt]) (forall_replay_nil _)

/-- A daemon that refuses all the attempts leaves a closed descriptor in iphoned_fd. -/
theorem inconsistent_refused
    : ¬ ∀ transitions finish, Runs (fun _ _ => 0) (.initial true true) transitions finish
        → ∀ t ∈ transitions, t.after.AtTop → t.after.Consistent := by
  intro always
  have last := always _ _
    (replay_run (initial true true)
      (starts ++ .replicate connectAttempts (.attempt 3 false)))
    _ (List.mem_of_getElem? (i := 52) rfl)
  have connected := (last ⟨rfl, rfl⟩).mp (by decide)
  exact absurd connected.1 (by decide)

end Monitor

end Reconn.Iphoned
