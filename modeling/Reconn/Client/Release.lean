import Reconn.Client.Mastership

/-! Giving mastership back. A task that leaves may leave masterClientSocketFd behind, and the
control queue may stay open without a master; both happen on known paths only.
-/

namespace Reconn.Client

open TransitionRuns

/-- masterClientSocketFd does not name the socket of a task that has left in the step. -/
def State.ReleasedAfter (s s' : State) : Prop :=
  ∀ a t, s.task a = some t → s'.task a = none
    → s'.globals.masterClientSocketFd ≠ t.socketFd

/-- The exits that do not look after mastership are harmless: only a WiFi master gives it
back on a closed socket, a read error of a slave and its resignation never do, and a read
error of another task is harmless unless its descriptor is -1.
-/
def Globals.HarmlessExit (g : Globals) (c : Context) : Turn → Prop
  | .closed => c.mode ≠ .masterMode → g.masterClientSocketFd ≠ c.socketFd
  | .failed =>
      (c.mode = .slaveMode → g.masterClientSocketFd ≠ c.socketFd)
        ∧ (c.mode ≠ .slaveMode → c.socketFd ≠ -1)
  | .dispatches p =>
      p.command = some .clientResignReq → c.mode = .slaveMode
        → g.masterClientSocketFd ≠ c.socketFd
  | _ => True

/-- If a task leaves at this event, its exit is harmless. -/
def State.LeavesCleanly (s : State) (event : Event) : Prop :=
  ∀ a received env c, event = .iterate a received env → s.contexts a = some c
    → s.globals.HarmlessExit c (turn s.globals env.mqReceive received)

namespace State

variable {s : State} {a : Addr} {c : Context} {received : Received} {env : Outcomes}

theorem LeavesCleanly.harmless {way : Turn}
    (cleanly : s.LeavesCleanly (.iterate a received env))
    (turns : s.Turns a c received env way)
    : s.globals.HarmlessExit c way := by
  have here := cleanly a received env c rfl turns.found
  rwa [turns.way] at here

theorem leavesCleanly_of_noTurn {event : Event}
    (noTurn : ∀ a received env, event ≠ .iterate a received env)
    : s.LeavesCleanly event :=
  fun a received env _ same => absurd same (noTurn a received env)

/-- A packet that does not resign has no task leave. -/
theorem leavesCleanly_of_packet {p : Packet} (other : p.command ≠ some .clientResignReq)
    : s.LeavesCleanly (.iterate a (.packet p) env) := by
  rintro _ _ _ c ⟨⟩ found
  have dispatched : s.globals.HarmlessExit c (.dispatches p) := fun resigns => absurd resigns other
  rw [turn]
  by_cases long : reconnPayloadSize < p.pktLength
  · rw [if_pos long]
    trivial
  rw [if_neg long]
  by_cases opened : s.globals.masterClientMsgQid ≠ -1
  · rw [if_pos opened]
    cases s.globals.masterClientMsgQ with
    | nil => exact dispatched
    | cons message _ => cases env.mqReceive <;> trivial
  · rw [if_neg opened]
    exact dispatched

/-- Where only the task on `a` leaves, mastership is released exactly if its socket is not
the master's afterwards.
-/
theorem Turns.releasedAfter (s' : State) {way : Turn} (turns : s.Turns a c received env way)
    (tasks : s'.task = s.without a)
    : s.ReleasedAfter s' ↔ s'.globals.masterClientSocketFd ≠ c.socketFd := by
  constructor
  · intro released
    exact released a _ turns.task (by rw [tasks]; exact Function.update_self ..)
  · intro other b u found gone
    rw [tasks] at gone
    by_cases same : b = a
    · subst same
      obtain rfl := Option.some.inj (found.symm.trans turns.task)
      exact other
    · rw [without, Function.update_of_ne same, found] at gone
      cases gone

end State

/-- A step whose exit is harmless releases mastership. Witness: the exits that set
masterClientSocketFd to -1 are those of a task that has just received something.
-/
theorem Effect.releasedAfter {s s' : State} {event : Event} (effect : Effect s event s')
    (placed : s.WellPlaced) (cleanly : s.LeavesCleanly event)
    : s.ReleasedAfter s' := by
  have stays (tasks : ∀ a t, s.task a = some t → s'.task a ≠ none) : s.ReleasedAfter s' :=
    fun a t found gone => absurd gone (tasks a t found)
  have same (tasks : s'.task = s.task) : s.ReleasedAfter s' :=
    stays fun a t found => by simp [tasks, found]
  have updated {a : Addr} {new : Task} (tasks : s'.task = Function.update s.task a (some new))
      : s.ReleasedAfter s' := by
    refine stays fun b t found => ?_
    by_cases here : b = a
    · simp [tasks, here]
    · simp [tasks, here, found]
  cases effect with
  | halts => exact same rfl
  | keeps _ task | posts _ task | transmits _ task | notified _ _ _ task
  | forwards _ _ _ _ task | denies _ _ _ _ _ task => exact same task
  | accepts _ _ _ _ task | inserts _ _ _ task | stepsBack _ _ task | grants _ _ _ _ task =>
      exact updated task
  | extracted turns globals task =>
      have open_ := turns.socketFd_nonneg_of_ne_failed (by simp)
      refine (turns.releasedAfter s' task).mpr ?_
      rw [globals]
      simp only [Globals.releaseMastership]
      omega
  | @releases _ c _ _ _ _ turns leaving _ globals task =>
      have open_ : 0 ≤ c.socketFd := by
        rcases leaving with rfl | rfl | ⟨p, handles⟩
        · exact turns.socketFd_nonneg_of_ne_failed (by simp)
        · exact turns.socketFd_nonneg_of_ne_failed (by simp)
        · exact handles.socketFd_nonneg
      refine (turns.releasedAfter s' task).mpr ?_
      rw [globals]
      simp only [Globals.releaseMastership]
      omega
  | leaves turns leaving globals task =>
      refine (turns.releasedAfter s' task).mpr ?_
      rw [globals]
      rcases leaving with ⟨rfl, mode⟩ | ⟨rfl, mode⟩ | ⟨noMaster, noIphone, p, handles⟩
      · exact cleanly.harmless turns mode
      · exact (cleanly.harmless turns).1 mode
      · by_contra named
        have slave := fun mode => cleanly.harmless handles.toTurns handles.command mode named
        rcases Task.master_of_ne slave (placed _ _ turns.task).2 with wifi | iphone
        · exact noMaster wifi
        · exact noIphone iphone
  | breaks turns mode globals task =>
      refine (turns.releasedAfter s' task).mpr ?_
      rw [globals]
      exact ((cleanly.harmless turns).2 mode).symm
  | openFails handles free _ globals task =>
      have open_ := handles.socketFd_nonneg
      refine (handles.toTurns.releasedAfter s' task).mpr ?_
      rw [globals]
      simp only
      omega
  | unregistered handles outside =>
      exact absurd (placed.index_lt handles.toTurns) (not_lt.mpr outside)
  | @handsOver a _ _ _ _ b _ _ _ _ _ _ _ task =>
      refine stays fun d t found => ?_
      rw [task]
      by_cases new : d = b
      · subst new
        simp [found]
      · rw [Function.update_of_ne new]
        by_cases own : d = a
        · simp [own]
        · simp [own, found]

namespace State

variable {s s' : State} {output : Output}

/-- A step releases mastership exactly if its exit is harmless. Witness: the exits that are
not, each of which leaves masterClientSocketFd as it is or finds it at the descriptor -1.
-/
theorem releasedAfter_iff {event : Event} (placed : s.WellPlaced)
    (taken : s.step event = some (s', output))
    : s.ReleasedAfter s' ↔ s.LeavesCleanly event := by
  refine ⟨?_, (step_effect taken).releasedAfter placed⟩
  rintro released a received env c rfl found
  obtain ⟨c', way, turns, rfl, -⟩ := step_iterate taken
  obtain rfl := Option.some.inj (found.symm.trans turns.found)
  rw [turns.way]
  cases way with
  | closed =>
      intro noMaster
      have after := turns.releasedAfter (s.takeTurn env a c .closed).1
        (by simp [takeTurn, socketClosed, noMaster])
      simpa [takeTurn, socketClosed, noMaster] using after.mp released
  | failed =>
      constructor
      · intro slave
        have after := turns.releasedAfter (s.takeTurn env a c .failed).1
          (by simp [takeTurn, readError, slave])
        simpa [takeTurn, readError, slave] using after.mp released
      · intro other
        have after := turns.releasedAfter (s.takeTurn env a c .failed).1
          (by simp only [takeTurn, readError, if_pos other]; exact leave_task)
        have differs := after.mp released
        simp only [takeTurn, readError, if_pos other] at differs
        exact differs.symm
  | dispatches p =>
      intro resigns slave
      have passes : filtered c p = false := by
        simp [filtered, slave, resigns, Command.slaveMayUse]
      have left : (s.takeTurn env a c (.dispatches p)).1
          = s.leave a { c with noDataCount := 0 } := by
        simp [takeTurn, dispatch, passes, command, resigns, clientResignReq, slave]
      rw [left] at released
      simpa using (turns.releasedAfter _ (by simp)).mp released
  | overrun | stalled | takes | idle => trivial

end State

/-- In a run every task that leaves gives mastership back exactly if every exit is harmless. -/
theorem releasedAfter_throughout_iff {transitions : List (Transition State Event Output)}
    {finish : State} (run : State.Runs .initial transitions finish)
    : (∀ t ∈ transitions, t.before.ReleasedAfter t.after)
      ↔ ∀ t ∈ transitions, t.before.LeavesCleanly t.event := by
  have placed := State.Runs.wellPlaced run
  exact forall₂_congr fun t member =>
    State.releasedAfter_iff (placed t member).1 (run.taken t member)

/-- A WiFi client becomes the master, and leaves as its peer closes the socket; a second one
does so next, and leaves by a read error.
-/
def mastersLeave : List Event :=
  connects 1 5 ++ [masterModeReq 1, .iterate 1 .closed .usual] ++ connects 2 6
    ++ [masterModeReq 2, .iterate 2 .failed .usual]

/-- Each of the two masters leaves none behind. -/
theorem releasedAfter_of_masters
    : (replay State.step .initial mastersLeave).1.Forall
        fun t => t.before.ReleasedAfter t.after := by
  refine List.forall_iff_forall_mem.mpr ((releasedAfter_throughout_iff (replay_run _ _)).mpr ?_)
  refine forall_replay_cons rfl (State.leavesCleanly_of_noTurn (by simp)) ?_
  refine forall_replay_cons rfl (State.leavesCleanly_of_noTurn (by simp)) ?_
  refine forall_replay_cons rfl ?_ (forall_replay_cons rfl ?_ ?_)
  · exact State.leavesCleanly_of_packet (by decide +kernel)
  · rintro _ _ _ c ⟨⟩ found
    have mode := State.context_field Context.mode .masterMode found (by decide +kernel)
    exact fun other => absurd mode other
  refine forall_replay_cons rfl (State.leavesCleanly_of_noTurn (by simp)) ?_
  refine forall_replay_cons rfl (State.leavesCleanly_of_noTurn (by simp)) ?_
  refine forall_replay_cons rfl ?_ (forall_replay_cons rfl ?_ (forall_replay_nil _))
  · exact State.leavesCleanly_of_packet (by decide +kernel)
  · rintro _ _ _ c ⟨⟩ found
    have mode := State.context_field Context.mode .masterMode found (by decide +kernel)
    have socketFd := State.context_field Context.socketFd 6 found (by decide +kernel)
    refine ⟨fun slave => ?_, fun _ => ?_⟩
    · rw [mode] at slave
      cases slave
    · rw [socketFd]
      decide

/-- An inserted master whose socket is closed stays the master. -/
theorem insertedMaster_notReleased
    : ¬ ∀ transitions finish, State.Runs .initial transitions finish
        → ∀ t ∈ transitions, t.before.ReleasedAfter t.after := by
  intro always
  have last := always _ _
    (replay_run State.initial (insertion 0 4 ++ [masterModeReq 0, .iterate 0 .closed .usual]))
    _ (List.mem_of_getElem? (i := 6) rfl)
  exact last 0 ⟨0, .insertedMasterMode, 4⟩ (by decide) (by decide) (by decide)

-----------------------------------------------------------------------------------------
-- The control queue
-----------------------------------------------------------------------------------------

/-- The control queue is open exactly if there is a master. -/
def State.QueueTied (s : State) : Prop :=
  s.globals.masterClientMsgQid ≠ -1 ↔ s.globals.masterClientSocketFd ≠ -1

/-- The event has a task call mq_open for the control queue. -/
def State.opensQueue (s : State) (event : Event) : Bool :=
  (s.switches event).any fun (_, c, p) =>
    p.command = some .masterModeReq
      && s.globals.masterClientSocketFd ≠ c.socketFd
      && s.globals.masterClientSocketFd = -1

/-- What an event must not do for queue and master to stay tied: only a slave has a read
error while the queue is open, and mastership is handed over to a context with a socket
while the queue is open, and to one without while it is not.
-/
structure State.KeepsQueueTied (s : State) (event : Event) : Prop where
  failure
    : ∀ a env c, event = .iterate a .failed env → s.contexts a = some c
        → c.mode ≠ .slaveMode → s.globals.masterClientMsgQid = -1
  handOver
    : ∀ a c p b o, s.switches event = some (a, c, p)
        → p.command = some .masterModeResignResp → p.dataPayload 0 = reconnSuccess
        → s.globals.theSlaveContextPtr = some b → s.contexts b = some o
        → (s.globals.masterClientMsgQid ≠ -1 ↔ o.socketFd ≠ -1)

/-- A step that keeps to the conditions keeps queue and master tied. Witness: the branches
that set or clear either of them, which set or clear both.
-/
theorem Effect.queueTied {s s' : State} {event : Event} (effect : Effect s event s')
    (placed : s.WellPlaced) (tied : s.QueueTied) (keeps : s.KeepsQueueTied event)
    : s'.QueueTied := by
  unfold State.QueueTied at tied ⊢
  cases effect with
  | halts => exact tied
  | keeps globals | transmits globals | accepts _ _ _ globals | inserts _ _ globals
  | notified _ _ globals | leaves _ _ globals | forwards _ _ _ globals
  | denies _ _ _ _ globals =>
      rw [globals]
      exact tied
  | posts globals =>
      rw [globals]
      simpa using tied
  | stepsBack _ globals | extracted _ globals | releases _ _ _ globals =>
      rw [globals]
      simp [Globals.releaseMastership]
  | breaks turns mode globals =>
      obtain rfl := turn_failed turns.way
      rw [globals]
      simp [keeps.failure _ _ _ rfl turns.found mode]
  | openFails _ free _ globals =>
      rw [globals]
      simp [free]
  | grants handles _ opens globals =>
      have open_ := handles.socketFd_nonneg
      rw [globals]
      simp only [ne_eq, opens, not_false_eq_true, true_iff]
      omega
  | unregistered handles outside =>
      exact absurd (placed.index_lt handles.toTurns) (not_lt.mpr outside)
  | handsOver handles success pointer found globals =>
      rw [globals]
      exact keeps.handOver _ _ _ _ _ handles.switches handles.command success pointer found

/-- In a run whose steps keep to the conditions, the control queue is open exactly if there
is a master, and no queue is opened while another one is open.
-/
theorem queueTied_of_keeps {transitions : List (Transition State Event Output)}
    {finish : State} (run : State.Runs .initial transitions finish)
    (keeps : ∀ t ∈ transitions, t.before.KeepsQueueTied t.event)
    : (∀ t ∈ transitions, t.after.QueueTied
        ∧ (t.before.opensQueue t.event = true → t.before.globals.masterClientMsgQid = -1))
      ∧ finish.QueueTied := by
  have keep (s : State) (event : Event) (s' : State) (output : Output)
      (known : s.QueueTied ∧ s.WellPlaced) (keeps : s.KeepsQueueTied event)
      (taken : s.step event = some (s', output))
      : s'.QueueTied ∧ s'.WellPlaced := by
    have effect := State.step_effect taken
    exact ⟨effect.queueTied known.2 known.1 keeps, effect.wellPlaced known.2⟩
  have throughout := run.invariant keep
    ⟨by simp [State.QueueTied, State.initial], State.wellPlaced_initial⟩ keeps
  refine ⟨fun t member => ?_, throughout.2.1⟩
  obtain ⟨before, after⟩ := throughout.1 t member
  refine ⟨after.1, fun opens => ?_⟩
  obtain ⟨_, -, asks⟩ := (Option.any_eq_true ..).mp opens
  simp only [Bool.and_eq_true, decide_eq_true_eq] at asks
  by_contra isOpen
  exact before.1.mp isOpen asks.2

/-- A grant opens the queue and makes a master. -/
theorem queueTied_of_grant
    : (replay State.step .initial (connects 1 5 ++ [masterModeReq 1])).2.QueueTied := by
  refine (queueTied_of_keeps (replay_run _ _) ?_).2
  refine forall_replay_cons rfl ⟨by simp, by simp [State.switches]⟩ ?_
  refine forall_replay_cons rfl ⟨by simp, by simp [State.switches]⟩ ?_
  refine forall_replay_cons rfl ⟨?_, ?_⟩ (forall_replay_nil _)
  · rintro a env c ⟨⟩
  · intro a c p b o switched resigns
    have asks := (congrArg (Option.map fun (_, _, p) => p.command) switched).symm.trans
      (by decide +kernel : _ = some (some Command.masterModeReq))
    simp [resigns] at asks

/-- The read error of a WiFi master leaves the control queue open without a master. -/
theorem readError_untied
    : ¬ ∀ transitions finish, State.Runs .initial transitions finish
        → finish.QueueTied := by
  intro always
  have tied := always _ _
    (replay_run State.initial (connects 1 5 ++ [masterModeReq 1, .iterate 1 .failed .usual]))
  exact tied.mp (by decide) (by decide)

end Reconn.Client
