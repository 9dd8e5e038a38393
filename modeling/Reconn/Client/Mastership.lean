import Reconn.Client.Effects
import Reconn.Library.TransitionRuns

/-! Who is the master. The runs of the program keep a single master as long as mastership is
not granted beside an inserted iPhone, no iPhone is inserted beside a master, and no task
but the master's steps back or is ended by a message of the front panel.
-/

namespace Reconn.Client

open TransitionRuns

/-- A run of the program, with the transitions it took. -/
abbrev State.Runs := Run State.step

/-- A task that is left after another one has gone. -/
theorem State.of_without {s : State} {a b : Addr} {t : Task} (left : s.without a b = some t)
    : b ≠ a ∧ s.task b = some t := by
  rcases update_apply_eq_iff.mp left with ⟨-, none⟩ | old
  · cases none
  · exact old

/-- A task is that of its context. -/
theorem State.task_asTask {s : State} {a : Addr} {c : Context} {t : Task}
    (found : s.contexts a = some c) (runs : s.task a = some t)
    : t = c.asTask := by
  simp only [State.task, found, Option.bind_some, Context.task] at runs
  split at runs
  · cases runs
  all_goals exact (Option.some.inj runs).symm

/-- A context whose thread has been created has a task. -/
theorem State.task_of_runs {s : State} {a : Addr} {c : Context} (found : s.contexts a = some c)
    (runs : c.thread ≠ .none)
    : s.task a = some c.asTask := by
  simp only [State.task, found, Option.bind_some, Context.task]
  cases thread : c.thread with
  | none => exact absurd thread runs
  | starting | looping => rfl

/-- Every task has a context whose thread has been created. -/
theorem State.context_of_task {s : State} {a : Addr} {t : Task} (runs : s.task a = some t)
    : ∃ c, s.contexts a = some c ∧ c.thread ≠ .none ∧ t = c.asTask := by
  obtain ⟨c, found, own⟩ := Option.bind_eq_some_iff.mp runs
  refine ⟨c, found, fun idle => ?_, task_asTask found runs⟩
  rw [Context.task, idle] at own
  cases own

/-- A task after a hand-over from `a` to `b`: the new master, the slave that the old one has
become, or another one.
-/
theorem State.of_handOver {s : State} {a b d : Addr} {old t : Task}
    (after : Function.update (s.withMode a old .slaveMode) b
      ((s.task b).map fun u => { u with mode := .masterMode }) d = some t)
    : (d = b ∧ ∃ u, s.task b = some u ∧ t = { u with mode := .masterMode })
      ∨ (d ≠ b ∧ d = a ∧ t = { old with mode := .slaveMode })
      ∨ (d ≠ b ∧ d ≠ a ∧ s.task d = some t) := by
  rcases update_apply_eq_iff.mp after with ⟨here, new⟩ | ⟨there, kept⟩
  · obtain ⟨u, found, rfl⟩ := Option.map_eq_some_iff.mp new
    exact .inl ⟨here, u, found, rfl⟩
  · rcases update_apply_eq_iff.mp kept with ⟨own, new⟩ | ⟨other, same⟩
    · exact .inr (.inl ⟨there, own, (Option.some.inj new).symm⟩)
    · exact .inr (.inr ⟨there, other, same⟩)

/-- (TaskOrigin s b t event) says where the task at `b` comes from that is there after the
event: it was there before, perhaps in another mode, or the event has made it.
-/
inductive TaskOrigin (s : State) (b : Addr) (t : Task) : Event → Prop where
  | kept {event} (old : s.task b = some t) : TaskOrigin s b t event
  | moded {event u} (old : s.task b = some u) (index : t.index = u.index)
      (mode : t.mode = .slaveMode ∨ t.mode = .masterMode ∨ t.mode = u.mode)
      : TaskOrigin s b t event
  | accepted {fd mem} (inside : t.index ∈ Registry.indices) (mode : t.mode = .slaveMode)
      : TaskOrigin s b t (.accept fd (some mem) true)
  | inserted {a} (index : t.index = 0) (mode : t.mode = .insertedMasterMode)
      : TaskOrigin s b t (.createInserted (some a) true)

/-- Every task after a step has an origin. -/
theorem Effect.taskOrigin {s s' : State} {event : Event} (effect : Effect s event s')
    {b : Addr} {t : Task} (found : s'.task b = some t)
    : TaskOrigin s b t event := by
  cases effect with
  | halts => exact .kept found
  | keeps _ task | posts _ task | transmits _ task | notified _ _ _ task
  | forwards _ _ _ _ task | denies _ _ _ _ _ task => exact .kept (by rwa [task] at found)
  | accepts _ _ inside _ task =>
      rw [task] at found
      rcases update_apply_eq_iff.mp found with ⟨-, new⟩ | ⟨-, old⟩
      · obtain rfl := Option.some.inj new
        exact .accepted inside rfl
      · exact .kept old
  | inserts _ _ _ task =>
      rw [task] at found
      rcases update_apply_eq_iff.mp found with ⟨-, new⟩ | ⟨-, old⟩
      · obtain rfl := Option.some.inj new
        exact .inserted rfl rfl
      · exact .kept old
  | extracted _ _ task | releases _ _ _ _ task | leaves _ _ _ task | breaks _ _ _ task
  | openFails _ _ _ _ task | unregistered _ _ task =>
      rw [task] at found
      exact .kept (State.of_without found).2
  | stepsBack turns _ task =>
      rw [task] at found
      rcases update_apply_eq_iff.mp found with ⟨rfl, new⟩ | ⟨-, old⟩
      · obtain rfl := Option.some.inj new
        exact .moded turns.task rfl (.inl rfl)
      · exact .kept old
  | grants handles _ _ _ task =>
      rw [task] at found
      rcases update_apply_eq_iff.mp found with ⟨rfl, new⟩ | ⟨-, old⟩
      · obtain rfl := Option.some.inj new
        refine .moded handles.task rfl (.inr ?_)
        split_ifs
        · exact .inl rfl
        · exact .inr rfl
      · exact .kept old
  | handsOver handles _ _ _ _ task =>
      rw [task] at found
      rcases State.of_handOver found with ⟨rfl, u, old, rfl⟩ | ⟨-, rfl, rfl⟩ | ⟨-, -, old⟩
      · exact .moded old rfl (.inr (.inl rfl))
      · exact .moded handles.task rfl (.inl rfl)
      · exact .kept old

/-- Every live client task has an index inside the tables, and none is remote. -/
def State.WellPlaced (s : State) : Prop :=
  ∀ a t, s.task a = some t → t.index ∈ Registry.indices ∧ t.mode ≠ .remoteMode

theorem State.wellPlaced_initial : State.initial.WellPlaced := by
  intro a t found
  cases found

/-- The index of a well placed task can be registered. -/
theorem State.WellPlaced.index_lt {s : State} {a : Addr} {c : Context} {received : Received}
    {env : Outcomes} {way : Turn} (placed : s.WellPlaced)
    (turns : s.Turns a c received env way)
    : c.index < reconnMaxNumClients :=
  (Registry.mem_indices.mp (placed _ _ turns.task).1).2

/-- Every step keeps the tasks well placed. Witness: a new task gets a free index, and a
task's index never changes.
-/
theorem Effect.wellPlaced {s s' : State} {event : Event} (effect : Effect s event s')
    (placed : s.WellPlaced)
    : s'.WellPlaced := by
  intro b t found
  cases effect.taskOrigin found with
  | kept old => exact placed b t old
  | moded old index mode =>
      obtain ⟨inside, local_⟩ := placed b _ old
      refine ⟨by rwa [index], ?_⟩
      rcases mode with slave | master | same
      · simp [slave]
      · simp [master]
      · rwa [same]
  | accepted inside mode => exact ⟨inside, by simp [mode]⟩
  | inserted index mode => exact ⟨by simp [index, Registry.indices], by simp [mode]⟩

/-- In every run the tasks are well placed around every transition. -/
theorem State.Runs.wellPlaced {transitions : List (Transition State Event Output)}
    {finish : State} (run : State.Runs .initial transitions finish)
    : ∀ t ∈ transitions, t.before.WellPlaced ∧ t.after.WellPlaced :=
  (run.invariant_always
    (fun _ _ _ _ placed taken => (State.step_effect taken).wellPlaced placed)
    State.wellPlaced_initial).1

-----------------------------------------------------------------------------------------
-- A single master
-----------------------------------------------------------------------------------------

/-- At most one live client task is master, and a WiFi master is the one whose socket
masterClientSocketFd names.
-/
structure State.SingleMaster (s : State) : Prop where
  unique : ∀ a b t u, s.task a = some t → s.task b = some u → t.Master → u.Master → a = b
  socket
    : ∀ a t, s.task a = some t → t.mode = .masterMode
        → t.socketFd = s.globals.masterClientSocketFd

theorem Task.master_of_ne {t : Task} (noSlave : t.mode ≠ .slaveMode)
    (local_ : t.mode ≠ .remoteMode)
    : t.Master := by
  unfold Task.Master
  cases mode : t.mode <;> simp_all

/-- What an event must not do for mastership to stay with one client: a grant finds no
iPhone inserted, an insertion finds no master, and a message of the front panel is not taken
by another task than the WiFi master's while there is one.
-/
structure State.Orderly (s : State) (event : Event) : Prop where
  grant
    : ∀ a, s.grantsTo event = some a
        → ∀ b t, b ≠ a → s.task b = some t → t.mode ≠ .insertedMasterMode
  insertion
    : ∀ a, event = .createInserted (some a) true
        → s.registry.numberOfActiveClients < reconnMaxNumClients
        → ∀ b t, s.task b = some t → ¬ t.Master
  message
    : ∀ a c message, s.takes event = some (a, c, message)
        → message = .masterInserted ∨ message = .masterExtracted
        → ∀ b t, b ≠ a → s.task b = some t → t.mode ≠ .masterMode

/-- Every task but an inserted master's has an open socket. -/
def State.Connected (s : State) : Prop :=
  ∀ a t, s.task a = some t → t.mode ≠ .insertedMasterMode → 0 ≤ t.socketFd

namespace State

variable {s : State} {a : Addr} {c : Context} {received : Received} {env : Outcomes}

theorem Turns.takes {message : ControlMessage}
    (turns : s.Turns a c received env (.takes message))
    : s.takes (.iterate a received env) = some (a, c, message) := by
  simp [State.takes, turns.found, turns.way]

theorem Handles.grantsTo {p : Packet}
    (handles : s.Handles a c received env p (some .masterModeReq))
    (free : s.globals.masterClientSocketFd = -1) (opens : env.mqOpen ≠ -1)
    : s.grantsTo (.iterate a received env) = some a := by
  simp [State.grantsTo, handles.switches, handles.command, free, opens]

/-- An event that is neither a turn nor the creation of an inserted master is orderly. -/
theorem orderly_of_noTurn {event : Event}
    (noTurn : ∀ a received env, event ≠ .iterate a received env)
    (noInsertion : ∀ a, event ≠ .createInserted (some a) true)
    : s.Orderly event := by
  refine ⟨?_, fun a same => absurd same (noInsertion a), ?_⟩
  · cases event with
    | iterate a received env => exact absurd rfl (noTurn a received env)
    | _ => simp [State.grantsTo]
  · cases event with
    | iterate a received env => exact absurd rfl (noTurn a received env)
    | _ => simp [State.takes]

/-- A client whose MASTER_MODE_RESIGN_RESP passes the mode filter is a master. -/
theorem Handles.master_of_response {p : Packet}
    (handles : s.Handles a c received env p (some .masterModeResignResp))
    : c.asTask.Master := by
  have passes := handles.passes
  unfold Task.Master
  cases mode : c.mode <;>
    simp_all [filtered, handles.command, Command.slaveMayUse, Command.remoteMayUse]

end State

/-- As long as there is a single master, a step keeps the tasks connected. Witness: a task
that becomes a WiFi master or a slave has just received something, or was asked by the only
master and is no inserted iPhone.
-/
theorem Effect.connected {s s' : State} {event : Event} (effect : Effect s event s')
    (single : s.SingleMaster) (connected : s.Connected)
    : s'.Connected := by
  have same (tasks : s'.task = s.task) : s'.Connected := by
    intro b t found
    exact connected b t (by rwa [tasks] at found)
  have left {a : Addr} (tasks : s'.task = s.without a) : s'.Connected := by
    intro b t found
    rw [tasks] at found
    exact connected b t (State.of_without found).2
  have moded {a : Addr} {c : Context} {mode : Mode} (open_ : 0 ≤ c.socketFd)
      (tasks : s'.task = s.withMode a c.asTask mode)
      : s'.Connected := by
    intro b t found
    rw [tasks] at found
    rcases update_apply_eq_iff.mp found with ⟨-, new⟩ | ⟨-, old⟩
    · obtain rfl := Option.some.inj new
      exact fun _ => open_
    · exact connected b t old
  cases effect with
  | halts => exact connected
  | keeps _ task | posts _ task | transmits _ task | notified _ _ _ task
  | forwards _ _ _ _ task | denies _ _ _ _ _ task => exact same task
  | accepts _ positive _ _ task =>
      intro b t found
      rw [task] at found
      rcases update_apply_eq_iff.mp found with ⟨-, new⟩ | ⟨-, old⟩
      · obtain rfl := Option.some.inj new
        exact fun _ => positive.le
      · exact connected b t old
  | inserts _ _ _ task =>
      intro b t found
      rw [task] at found
      rcases update_apply_eq_iff.mp found with ⟨-, new⟩ | ⟨-, old⟩
      · obtain rfl := Option.some.inj new
        simp
      · exact connected b t old
  | extracted _ _ task | releases _ _ _ _ task | leaves _ _ _ task | breaks _ _ _ task
  | openFails _ _ _ _ task | unregistered _ _ task => exact left task
  | stepsBack turns _ task => exact moded (turns.socketFd_nonneg_of_ne_failed (by simp)) task
  | grants handles _ _ _ task => exact moded handles.socketFd_nonneg task
  | handsOver handles _ _ _ _ task =>
      intro d t found
      rw [task] at found
      rcases State.of_handOver found with ⟨rfl, u, old, rfl⟩ | ⟨-, -, rfl⟩ | ⟨-, -, old⟩
      · intro _
        by_cases inserted : u.mode = .insertedMasterMode
        · -- Then the one who hands over is that iPhone itself.
          obtain rfl := single.unique d _ u _ old handles.task (.inr inserted)
            handles.master_of_response
          obtain rfl := Option.some.inj (old.symm.trans handles.task)
          exact handles.socketFd_nonneg
        · exact connected d u old inserted
      · exact fun _ => handles.socketFd_nonneg
      · exact connected d t old

namespace State.SingleMaster

variable {s s' : State}

/-- Where no task changes and no other becomes the master, the single master stays. -/
theorem of_eq (single : s.SingleMaster) (tasks : s'.task = s.task)
    (master : s'.globals.masterClientSocketFd = s.globals.masterClientSocketFd)
    : s'.SingleMaster := by
  constructor
  · rw [tasks]
    exact single.unique
  · rw [tasks, master]
    exact single.socket

/-- A task that leaves takes nobody's mastership but its own away. -/
theorem of_without {a : Addr} (single : s.SingleMaster) (tasks : s'.task = s.without a)
    (master : s'.globals.masterClientSocketFd = s.globals.masterClientSocketFd
      ∨ ∀ b t, b ≠ a → s.task b = some t → t.mode ≠ .masterMode)
    : s'.SingleMaster := by
  constructor
  · intro b d t u first second
    rw [tasks] at first second
    exact single.unique b d t u (State.of_without first).2 (State.of_without second).2
  · intro b t found isMaster
    rw [tasks] at found
    obtain ⟨other, old⟩ := State.of_without found
    rcases master with kept | alone
    · rw [kept]
      exact single.socket b t old isMaster
    · exact absurd isMaster (alone b t other old)

/-- A new task at `a` that is the only master, or no master, leaves a single master. -/
theorem of_update {a : Addr} {new : Task} (single : s.SingleMaster)
    (tasks : s'.task = Function.update s.task a (some new))
    (alone : new.Master → ∀ b t, b ≠ a → s.task b = some t → ¬ t.Master)
    (own : new.mode = .masterMode → new.socketFd = s'.globals.masterClientSocketFd)
    (others : ∀ b t, b ≠ a → s.task b = some t → t.mode = .masterMode
      → t.socketFd = s'.globals.masterClientSocketFd)
    : s'.SingleMaster := by
  constructor
  · intro b d t u first second isMaster alsoMaster
    rw [tasks] at first second
    rcases update_apply_eq_iff.mp first with ⟨rfl, here⟩ | ⟨there, old⟩
    · obtain rfl := Option.some.inj here
      rcases update_apply_eq_iff.mp second with ⟨rfl, -⟩ | ⟨there, old⟩
      · rfl
      · exact absurd alsoMaster (alone isMaster d u there old)
    · rcases update_apply_eq_iff.mp second with ⟨rfl, here⟩ | ⟨-, old'⟩
      · obtain rfl := Option.some.inj here
        exact absurd isMaster (alone alsoMaster b t there old)
      · exact single.unique b d t u old old' isMaster alsoMaster
  · intro b t found isMaster
    rw [tasks] at found
    rcases update_apply_eq_iff.mp found with ⟨-, here⟩ | ⟨there, old⟩
    · obtain rfl := Option.some.inj here
      exact own isMaster
    · exact others b t there old isMaster

/-- Beside a master there is no other. -/
theorem alone {a b : Addr} {t u : Task} (single : s.SingleMaster) (found : s.task a = some t)
    (isMaster : t.Master) (other : b ≠ a) (here : s.task b = some u)
    : ¬ u.Master := by
  intro alsoMaster
  exact other (single.unique b a u t here found alsoMaster isMaster)

/-- Beside a master there is no WiFi master. -/
theorem alone_wifi {a b : Addr} {t u : Task} (single : s.SingleMaster)
    (found : s.task a = some t) (isMaster : t.Master) (other : b ≠ a)
    (here : s.task b = some u)
    : u.mode ≠ .masterMode := by
  intro wifi
  exact single.alone found isMaster other here (.inl wifi)

/-- Without a master's socket there is no WiFi master. -/
theorem no_wifi (single : s.SingleMaster) (connected : s.Connected)
    (free : s.globals.masterClientSocketFd = -1) {b : Addr} {t : Task}
    (here : s.task b = some t)
    : t.mode ≠ .masterMode := by
  intro wifi
  have named := single.socket b t here wifi
  have open_ := connected b t here (by simp [wifi])
  omega

end State.SingleMaster

/-- An orderly step keeps the single master. Witness: the effects that make a master, that
unmake one, and a hand-over, which makes the only master a slave first.
-/
theorem Effect.singleMaster {s s' : State} {event : Event} (effect : Effect s event s')
    (placed : s.WellPlaced) (connected : s.Connected) (single : s.SingleMaster)
    (orderly : s.Orderly event)
    : s'.SingleMaster := by
  cases effect with
  | halts => exact single.of_eq rfl rfl
  | keeps globals task | transmits globals task | notified _ _ globals task
  | forwards _ _ _ globals task | denies _ _ _ _ globals task =>
      exact single.of_eq task (by rw [globals])
  | posts globals task =>
      exact single.of_eq task (by rw [globals, Globals.mqSend_masterClientSocketFd])
  | accepts _ _ _ globals task =>
      exact single.of_update task (by simp [Task.Master]) (by simp)
        fun b t _ here wifi => by rw [globals]; exact single.socket b t here wifi
  | inserts _ room globals task =>
      exact single.of_update task
        (fun _ b t _ => orderly.insertion _ rfl room b t) (by simp)
        fun b t _ here wifi => by rw [globals]; exact single.socket b t here wifi
  | leaves _ _ globals task => exact single.of_without task (.inl (by rw [globals]))
  | openFails _ _ _ globals task => exact single.of_without task (.inl (by rw [globals]))
  | releases turns _ master globals task =>
      exact single.of_without task
        (.inr fun b t other here => single.alone_wifi turns.task (.inl master) other here)
  | breaks turns mode globals task =>
      have master := Task.master_of_ne mode (placed _ _ turns.task).2
      exact single.of_without task
        (.inr fun b t other here => single.alone_wifi turns.task master other here)
  | extracted turns _ task =>
      exact single.of_without task
        (.inr fun b t => orderly.message _ _ _ turns.takes (.inr rfl) b t)
  | stepsBack turns _ task =>
      exact single.of_update task (by simp [Task.Master]) (by simp)
        fun b t other here wifi =>
          absurd wifi (orderly.message _ _ _ turns.takes (.inl rfl) b t other here)
  | unregistered handles outside =>
      exact absurd (placed.index_lt handles.toTurns) (not_lt.mpr outside)
  | grants handles free opens globals task =>
      have wifi {b : Addr} {t : Task} (here : s.task b = some t) : t.mode ≠ .masterMode :=
        single.no_wifi connected free here
      refine single.of_update task ?_ (fun _ => by rw [globals])
        fun b t _ here isMaster => absurd isMaster (wifi here)
      intro _ b t other here isMaster
      rcases isMaster with here' | inserted
      · exact wifi here here'
      · exact orderly.grant _ (handles.grantsTo free opens) b t other here inserted
  | @handsOver a c _ _ _ b o _ handles _ _ found globals task =>
      have only {d : Addr} {t : Task} (here : s'.task d = some t) (isMaster : t.Master)
          : d = b ∧ t.socketFd = o.socketFd := by
        rw [task] at here
        rcases State.of_handOver here with ⟨rfl, u, old, rfl⟩ | ⟨-, -, rfl⟩ | ⟨-, other, old⟩
        · exact ⟨rfl, congrArg Task.socketFd (State.task_asTask found old)⟩
        · simp [Task.Master] at isMaster
        · exact absurd isMaster
            (single.alone handles.task handles.master_of_response other old)
      constructor
      · intro d e t u first second isMaster alsoMaster
        exact (only first isMaster).1.trans (only second alsoMaster).1.symm
      · intro d t here wifi
        rw [globals]
        exact (only here (.inl wifi)).2

theorem State.singleMaster_initial : State.initial.SingleMaster where
  unique := by
    intro a b t u found
    cases found
  socket := by
    intro a t found
    cases found

/-- Orderly steps keep a single master throughout a run. -/
theorem State.Runs.singleMaster {transitions : List (Transition State Event Output)}
    {finish : State} (run : State.Runs .initial transitions finish)
    (orderly : ∀ t ∈ transitions, t.before.Orderly t.event)
    : (∀ t ∈ transitions, t.before.SingleMaster ∧ t.after.SingleMaster)
      ∧ finish.SingleMaster := by
  have keep (s : State) (event : Event) (s' : State) (output : Output)
      (known : s.SingleMaster ∧ s.Connected ∧ s.WellPlaced) (orderly : s.Orderly event)
      (taken : s.step event = some (s', output))
      : s'.SingleMaster ∧ s'.Connected ∧ s'.WellPlaced := by
    obtain ⟨single, connected, placed⟩ := known
    have effect := State.step_effect taken
    exact ⟨
      effect.singleMaster placed connected single orderly,
      effect.connected single connected,
      effect.wellPlaced placed
    ⟩
  have throughout := run.invariant keep
    ⟨State.singleMaster_initial, fun _ _ found => (by cases found), State.wellPlaced_initial⟩
    orderly
  refine ⟨fun t member => ?_, throughout.2.1⟩
  obtain ⟨before, after⟩ := throughout.1 t member
  exact ⟨before.1, after.1⟩

/-- In a run of orderly steps there is a single master in every reached state. -/
theorem singleMaster_of_orderly {transitions : List (Transition State Event Output)}
    {finish : State} (run : State.Runs .initial transitions finish)
    (orderly : ∀ t ∈ transitions, t.before.Orderly t.event)
    : (∀ t ∈ transitions, t.after.SingleMaster) ∧ finish.SingleMaster := by
  obtain ⟨throughout, last⟩ := State.Runs.singleMaster run orderly
  exact ⟨fun t member => (throughout t member).2, last⟩

/-- Every call succeeds, no power meter is present and there is nothing to upgrade. -/
def Outcomes.usual : Outcomes where
  mqReceive := true
  mqOpen := 7
  serialNumberFile := none
  defaultFileExists := false
  defaultFileOpens := true
  newSsidTail := none
  shortPrintReturns := true
  wifiUpdateHostapdConfFile := fun _ => reconnSuccess
  isPowerMeterPresent := reconnFailure
  getReconnSwVersion := []
  ipSocketOpens := true
  ipAddress := none
  subnetMask := none
  crashlogExists := false
  crashlog := none
  gBatteryPercentage := 50
  gChargerState := 0
  wifiGetState := wifiEnable
  wifiSetState := fun _ => reconnSuccess
  wifiGetMacAddress := none
  wifiGetSsidOrPasswd := fun _ => none
  reconnGpioAction := fun _ _ => reconnSuccess
  theValue := fun _ => 0
  spectrumAnalyzerWrite := reconnSuccess
  spectrumAnalyzerInit := reconnSuccess
  spectrumAnalyzerUpgrade := reconnSuccess
  powerMeterWrite := reconnSuccess
  dmmWrite := reconnSuccess
  dmmWriteAgain := reconnSuccess
  dmmInit := reconnSuccess
  dmmPowerDown := reconnSuccess
  dmmDiags := reconnSuccess
  extractBundle := reconnFailure
  upgradeScript := none
  linkSocketOpens := true
  linkIoctl := true
  linkUp := true
  webServerSocket := 20
  hostnameResolves := true
  webServerConnect := reconnSuccess
  remoteMonitorTaskStarts := true

/-- A packet of the given id with one byte of payload. -/
def requestPacket (messageId : UInt8 × UInt8) (first : UInt8) : Packet :=
  ⟨messageId, (0, 1), fun i => if i = 0 then first else 0⟩

def request (messageId : UInt8 × UInt8) (first : UInt8) : Received :=
  .packet (requestPacket messageId first)

/-- A client connects over WiFi, at the given address. -/
def connects (a : Addr) (fd : Int) : List Event :=
  [.accept fd (some ⟨a, 0, .zero⟩) true, .start a]

/-- An iPhone is inserted while there is no master. -/
def insertion (a : Addr) (fd : Int) : List Event :=
  [
    .iphoneInserted,
    .connectTransmit 3 true,
    .transmitAccept fd,
    .createInserted (some a) true,
    .start a
  ]

/-- The client at the address sends MASTER_MODE_REQ. -/
def masterModeReq (a : Addr) : Event := .iterate a (request (0, 3) 0) .usual

/-- What a context holds can be computed from the table. -/
theorem State.context_field {s : State} {a : Addr} {c : Context} {β : Type}
    (field : Context → β) (value : β) (found : s.contexts a = some c)
    (computed : (s.contexts a).map field = some value)
    : field c = value := by
  rw [found] at computed
  exact Option.some.inj computed

/-- The first client to ask becomes the only master. -/
theorem singleMaster_of_orderly_grant
    : (replay State.step .initial (connects 1 5 ++ [masterModeReq 1])).2.SingleMaster := by
  refine (singleMaster_of_orderly (replay_run _ _) ?_).2
  refine forall_replay_cons rfl (State.orderly_of_noTurn (by simp) (by simp)) ?_
  refine forall_replay_cons rfl (State.orderly_of_noTurn (by simp) (by simp)) ?_
  refine forall_replay_cons rfl ⟨?_, nofun, ?_⟩ (forall_replay_nil _)
  · rintro a ⟨⟩ b t other found
    cases b with
    | zero => cases found
    | succ b =>
      cases b with
      | zero => exact absurd rfl other
      | succ b => cases found
  · intro a c message taken
    cases taken

/-- A client that asks for mastership while an iPhone is inserted becomes a second master. -/
theorem two_masters
    : ¬ ∀ transitions finish, State.Runs .initial transitions finish → finish.SingleMaster := by
  intro always
  have single := always _ _
    (replay_run State.initial (insertion 0 4 ++ connects 1 5 ++ [masterModeReq 1]))
  have same := single.unique 0 1 ⟨0, .insertedMasterMode, 4⟩ ⟨1, .masterMode, 5⟩
    (by decide) (by decide) (.inr rfl) (.inl rfl)
  cases same

end Reconn.Client
