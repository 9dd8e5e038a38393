import Reconn.Client.System
import Reconn.Library.TransitionRuns

/-! What one step can do to mastership and to the live client tasks, said once.
Every step falls under one of the effects below, so an invariant of the globals and tasks
needs a case for each effect and none for the commands that have no effect of their own.
-/

namespace Reconn.Client

open TransitionRuns

/-- The task on `a`, with context `c`, can take a turn that goes this way. -/
structure State.Turns (s : State) (a : Addr) (c : Context) (received : Received)
    (env : Outcomes) (way : Turn)
    : Prop where
  found : s.contexts a = some c
  looping : c.thread = .looping
  receives : s.canReceive c received = true
  way : turn s.globals env.mqReceive received = way

/-- The task on `a` can take a turn that brings a packet to a case of the switch. -/
structure State.Handles (s : State) (a : Addr) (c : Context) (received : Received)
    (env : Outcomes) (p : Packet) (cmdid : Option Command)
    : Prop extends s.Turns a c received env (.dispatches p) where
  passes : filtered c p = false
  command : p.command = cmdid

/-- The packet that an event brings to the switch, with the task that received it. -/
def State.switches (s : State) : Event → Option (Addr × Context × Packet)
  | .iterate a received env =>
      (s.contexts a).bind fun c =>
        match turn s.globals env.mqReceive received with
        | .dispatches p => if filtered c p then none else some (a, c, p)
        | _ => none
  | _ => none

/-- The message that an event has a task take out of the control queue. -/
def State.takes (s : State) : Event → Option (Addr × Context × ControlMessage)
  | .iterate a received env =>
      (s.contexts a).bind fun c =>
        match turn s.globals env.mqReceive received with
        | .takes message => some (a, c, message)
        | _ => none
  | _ => none

/-- The client that an event grants mastership. -/
def State.grantsTo (s : State) : Event → Option Addr
  | .iterate a received env =>
      (s.switches (.iterate a received env)).bind fun (_, _, p) =>
        if p.command = some .masterModeReq
            ∧ s.globals.masterClientSocketFd = -1
            ∧ env.mqOpen ≠ -1 then some a
        else none
  | _ => none

/-- The slave whose MASTER_MODE_RESIGN_REQ an event passes on to the master. -/
def State.asks (s : State) (event : Event) : Option Addr :=
  (s.switches event).bind fun (a, c, p) =>
    if p.command = some .masterModeResignReq
        ∧ s.globals.masterClientSocketFd ≠ c.socketFd
        ∧ s.globals.insertedMasterSocketFd = -1 then some a
    else none

/-- The event processes MASTER_MODE_RESIGN_RESP with RECONN_SUCCESS or RECONN_DENIED. -/
def State.answers (s : State) (event : Event) : Bool :=
  (s.switches event).any fun (_, _, p) =>
    p.command = some .masterModeResignResp
      && (p.dataPayload 0 = reconnSuccess || p.dataPayload 0 = reconnDenied)

/-- The event has no part in the resign protocol. -/
def State.Silent (s : State) (event : Event) : Prop :=
  s.asks event = none ∧ s.answers event = false

theorem State.silent_of_switches_eq_none {s : State} {event : Event}
    (none : s.switches event = none)
    : s.Silent event := by
  simp [State.Silent, State.asks, State.answers, none]

namespace State.Turns

variable {s : State} {a : Addr} {c : Context} {received : Received} {env : Outcomes}
  {way : Turn}

theorem task (turns : s.Turns a c received env way)
    : s.task a = some ⟨c.index, c.mode, c.socketFd⟩ := by
  simp [State.task, turns.found, Context.task, turns.looping]

/-- A receive that does not fail is on a descriptor. -/
theorem socketFd_nonneg (turns : s.Turns a c received env way) (works : received ≠ .failed)
    : 0 ≤ c.socketFd := by
  have receives := turns.receives
  cases received with
  | failed => exact absurd rfl works
  | closed | wouldBlock | packet =>
      simp only [State.canReceive, Bool.and_eq_true, decide_eq_true_eq] at receives
      exact receives.1

/-- A failed receive does nothing else. -/
theorem socketFd_nonneg_of_ne_failed (turns : s.Turns a c received env way)
    (works : way ≠ .failed)
    : 0 ≤ c.socketFd := by
  apply turns.socketFd_nonneg
  rintro rfl
  exact works turns.way.symm

end State.Turns

-----------------------------------------------------------------------------------------
-- Effects
-----------------------------------------------------------------------------------------

/-- Writing `none` for a task that has left. -/
abbrev State.without (s : State) (a : Addr) : Addr → Option Task := Function.update s.task a none

/-- The tasks with one of them in another mode. -/
abbrev State.withMode (s : State) (a : Addr) (t : Task) (mode : Mode) : Addr → Option Task :=
  Function.update s.task a (some { t with mode })

/-- The task of a context. -/
abbrev Context.asTask (c : Context) : Task := ⟨c.index, c.mode, c.socketFd⟩

/-- (Effect s event s') is what an event can do to the globals and the live tasks. -/
inductive Effect (s : State) : Event → State → Prop where
  /-- The process has ended, or the step is undefined. -/
  | halts {event} : Effect s event s.halt
  | keeps {event s'} (globals : s'.globals = s.globals) (task : s'.task = s.task)
      (silent : s.Silent event)
      : Effect s event s'
  | posts {event s' message} (globals : s'.globals = s.globals.mqSend message)
      (task : s'.task = s.task) (noTurn : s.switches event = none)
      (extraction
        : message = .masterExtracted → event = .iphoneExtracted ∧ s.iphoneInserted = true)
      : Effect s event s'
  | transmits {fd s'}
      (globals : s'.globals = { s.globals with insertedMasterSocketFd := fd })
      (task : s'.task = s.task)
      : Effect s (.transmitAccept fd) s'
  | accepts {fd mem s' index} (fresh : s.contexts mem.address = none) (positive : 0 < fd)
      (inside : index ∈ Registry.indices) (globals : s'.globals = s.globals)
      (task : s'.task
        = Function.update s.task mem.address (some ⟨index, .slaveMode, fd⟩))
      : Effect s (.accept fd (some mem) true) s'
  | inserts {a s'} (fresh : s.contexts a = none)
      (room : s.registry.numberOfActiveClients < reconnMaxNumClients)
      (globals : s'.globals = s.globals)
      (task : s'.task
        = Function.update s.task a
          (some ⟨0, .insertedMasterMode, s.globals.insertedMasterSocketFd⟩))
      : Effect s (.createInserted (some a) true) s'
  /-- A message other than an insertion or an extraction is taken. -/
  | notified {a c received env message s'}
      (turns : s.Turns a c received env (.takes message))
      (notice : message ≠ .masterInserted ∧ message ≠ .masterExtracted)
      (globals : s'.globals
        = { s.globals with masterClientMsgQ := s.globals.masterClientMsgQ.tail })
      (task : s'.task = s.task)
      : Effect s (.iterate a received env) s'
  | stepsBack {a c received env s'}
      (turns : s.Turns a c received env (.takes .masterInserted))
      (globals : s'.globals = s.globals.releaseMastership)
      (task : s'.task = s.withMode a c.asTask .slaveMode)
      : Effect s (.iterate a received env) s'
  | extracted {a c received env s'}
      (turns : s.Turns a c received env (.takes .masterExtracted))
      (globals : s'.globals
        = { s.globals.releaseMastership with insertedMasterSocketFd := -1 })
      (task : s'.task = s.without a)
      : Effect s (.iterate a received env) s'
  /-- A task in MASTERMODE leaves and gives mastership back. -/
  | releases {a c received env way s'} (turns : s.Turns a c received env way)
      (leaving : way = .closed ∨ way = .idle
        ∨ ∃ p, s.Handles a c received env p (some .clientResignReq))
      (master : c.mode = .masterMode)
      (globals : s'.globals = s.globals.releaseMastership)
      (task : s'.task = s.without a)
      : Effect s (.iterate a received env) s'
  /-- A task leaves without a change to the globals. -/
  | leaves {a c received env way s'} (turns : s.Turns a c received env way)
      (leaving : (way = .closed ∧ c.mode ≠ .masterMode)
        ∨ (way = .failed ∧ c.mode = .slaveMode)
        ∨ (c.mode ≠ .masterMode ∧ c.mode ≠ .insertedMasterMode
          ∧ ∃ p, s.Handles a c received env p (some .clientResignReq)))
      (globals : s'.globals = s.globals) (task : s'.task = s.without a)
      : Effect s (.iterate a received env) s'
  /-- A read error of a task that is no slave leaves the queue open. -/
  | breaks {a c received env s'} (turns : s.Turns a c received env .failed)
      (mode : c.mode ≠ .slaveMode)
      (globals : s'.globals = { s.globals with masterClientSocketFd := -1 })
      (task : s'.task = s.without a)
      : Effect s (.iterate a received env) s'
  | openFails {a c received env p s'}
      (handles : s.Handles a c received env p (some .masterModeReq))
      (free : s.globals.masterClientSocketFd = -1) (fails : env.mqOpen = -1)
      (globals : s'.globals
        = { s.globals with masterClientMsgQid := -1, masterClientMsgQ := [] })
      (task : s'.task = s.without a)
      : Effect s (.iterate a received env) s'
  | grants {a c received env p s'}
      (handles : s.Handles a c received env p (some .masterModeReq))
      (free : s.globals.masterClientSocketFd = -1) (opens : env.mqOpen ≠ -1)
      (globals : s'.globals
        = {
            s.globals with
            masterClientMsgQid := env.mqOpen
            masterClientMsgQ := []
            masterClientSocketFd := c.socketFd
          })
      (task : s'.task
        = s.withMode a c.asTask (if c.mode = .slaveMode then .masterMode else c.mode))
      : Effect s (.iterate a received env) s'
  /-- Registration has failed, which takes an index outside the tables. -/
  | unregistered {a c received env p s'}
      (handles : s.Handles a c received env p (some .masterModeReq))
      (outside : reconnMaxNumClients ≤ c.index) (task : s'.task = s.without a)
      : Effect s (.iterate a received env) s'
  | forwards {a c received env p s'}
      (handles : s.Handles a c received env p (some .masterModeResignReq))
      (other : s.globals.masterClientSocketFd ≠ c.socketFd)
      (none_ : s.globals.insertedMasterSocketFd = -1)
      (globals : s'.globals = { s.globals with theSlaveContextPtr := some a })
      (task : s'.task = s.task)
      : Effect s (.iterate a received env) s'
  | handsOver {a c received env p b o s'}
      (handles : s.Handles a c received env p (some .masterModeResignResp))
      (success : p.dataPayload 0 = reconnSuccess)
      (pointer : s.globals.theSlaveContextPtr = some b) (found : s.contexts b = some o)
      (globals : s'.globals
        = {
            s.globals with
            masterClientSocketFd := o.socketFd
            theSlaveContextPtr := none
          })
      (task : s'.task
        = Function.update (s.withMode a c.asTask .slaveMode) b
          ((s.task b).map fun t => { t with mode := .masterMode }))
      : Effect s (.iterate a received env) s'
  | denies {a c received env p b o s'}
      (handles : s.Handles a c received env p (some .masterModeResignResp))
      (denied : p.dataPayload 0 = reconnDenied)
      (pointer : s.globals.theSlaveContextPtr = some b) (found : s.contexts b = some o)
      (globals : s'.globals = s.globals) (task : s'.task = s.task)
      : Effect s (.iterate a received env) s'

namespace State

variable {s : State} {a : Addr} {c : Context} {received : Received} {env : Outcomes}

@[simp] theorem leave_globals : (s.leave a c).globals = s.globals := by
  simp [leave]

@[simp] theorem leave_task : (s.leave a c).task = s.without a := by
  simp [leave, without]

@[simp] theorem becomeMaster_task (qid : Int) : (s.becomeMaster c qid).task = s.task := rfl

/-- Rewriting a context's own data leaves the tasks as they are. -/
theorem setContext_same_task (found : s.contexts a = some c) {c' : Context}
    (same : c'.task = c.task)
    : (s.setContext a c').task = s.task := by
  have unchanged : s.task a = c.task := by simp [task, found]
  rw [setContext_task, same, ← unchanged, Function.update_eq_self]

namespace Turns

/-- A turn that brings no packet to the switch has no part in the resign protocol. -/
theorem silent {way : Turn} (turns : s.Turns a c received env way)
    (undispatched : ∀ p, way ≠ .dispatches p)
    : s.Silent (.iterate a received env) := by
  apply silent_of_switches_eq_none
  have reached := turns.way
  simp only [switches, turns.found, Option.bind_some, reached]

theorem closed_effect (turns : s.Turns a c received env .closed)
    : Effect s (.iterate a received env) (s.socketClosed a c).1 := by
  unfold socketClosed
  split_ifs with master
  · exact .releases turns (.inl rfl) master rfl (by exact leave_task)
  · exact .leaves turns (.inl ⟨rfl, master⟩) (by simp) (by simp)

theorem failed_effect (turns : s.Turns a c received env .failed)
    : Effect s (.iterate a received env) (s.readError a c).1 := by
  unfold readError
  simp only
  split_ifs with mode
  · exact .breaks turns mode rfl (by exact leave_task)
  · exact .leaves turns (.inr (.inl ⟨rfl, not_not.mp mode⟩)) (by simp) (by simp)

theorem idle_effect (turns : s.Turns a c received env .idle)
    : Effect s (.iterate a received env) (s.idlePoll a c).1 := by
  have silent := turns.silent (by simp)
  unfold idlePoll
  split_ifs with master
  · simp only
    split_ifs
    · exact .releases turns (.inr (.inl rfl)) master rfl (by exact leave_task)
    · exact .keeps rfl (setContext_same_task turns.found rfl) silent
  · exact .keeps rfl rfl silent

theorem takes_effect {message : ControlMessage}
    (turns : s.Turns a c received env (.takes message))
    : Effect s (.iterate a received env) (s.controlMessage a c message).1 := by
  have running (mode : Mode)
      : ({ c with mode } : Context).task = some { c.asTask with mode } := by
    simp [Context.task, turns.looping]
  cases message with
  | masterInserted =>
      exact .stepsBack turns rfl (by
        simp only [controlMessage]
        exact (s.setContext_task a _).trans (by rw [running]))
  | masterExtracted =>
      exact .extracted turns rfl (by
        simp only [controlMessage]
        exact leave_task)
  | masterAck | lowBattery | meterInserted | meterExtracted | rmStateChange =>
      exact .notified turns (by simp) rfl (setContext_same_task turns.found rfl)

end Turns

-----------------------------------------------------------------------------------------
-- Commands
-----------------------------------------------------------------------------------------

/-- registerClient writes the context, or frees it if its index is outside the tables. -/
theorem registerClient_cases (s : State) (a : Addr) (c : Context) (actions : List Action)
    (open_ : 0 ≤ c.socketFd)
    : (∃ registry, (s.registerClient a c actions).1 = { s.setContext a c with registry })
      ∨ (reconnMaxNumClients ≤ c.index
        ∧ (s.registerClient a c actions).1
          = (s.freeContext a).setSocket c.socketFd .closed) := by
  unfold registerClient
  cases registered : s.registry.reconnRegisterClientApp a c.index c.socketFd with
  | some registry => exact .inl ⟨registry, rfl⟩
  | none =>
      refine .inr ⟨?_, by simp [open_]⟩
      by_contra inside
      simp [Registry.reconnRegisterClientApp, not_le.mp inside] at registered

/-- A disconnection only sends the notice of it and shuts sockets down. -/
theorem mem_disconnectAllClients {mode : Mode} {actions : List Action} {action : Action}
    (disconnected : s.disconnectAllClients mode = some actions) (member : action ∈ actions)
    : ∃ fd, action = .sendSocket fd (formatReconnPacket reconnQuitingNotif)
      ∨ action = .shutdown fd := by
  obtain ⟨visits, visited, rfl⟩ := Option.map_eq_some_iff.mp disconnected
  obtain ⟨visit, collected, member⟩ := List.mem_flatten.mp member
  obtain ⟨i, -, visited⟩ := visit_of_mem_mapM visited collected
  split at visited
  · obtain rfl := Option.some.inj visited
    cases member
  · cases visited
  · obtain ⟨other, -, rfl⟩ := Option.map_eq_some_iff.mp visited
    split_ifs at member
    · refine ⟨other.socketFd, ?_⟩
      simpa only [List.mem_cons, List.not_mem_nil, or_false, or_self] using member
    · cases member

/-- WIFI_SET_POWER_REQ disconnects the slaves, sets the state and answers. -/
theorem mem_wifiSetPowerReq {env : Outcomes} {s : State} {c : Context} {p : Packet}
    {actions : List Action} {action : Action}
    (set : c.wifiSetPowerReq env p s = some actions) (member : action ∈ actions)
    : (∃ disconnects,
        s.disconnectAllClients .slaveMode = some disconnects ∧ action ∈ disconnects)
      ∨ action = .wifiSetState (p.dataPayload 0)
      ∨ (∃ errCode, action = c.respond p errCode)
      ∨ action = .resetPowerStandbyCounter .resetSystemShutdownTime := by
  unfold Context.wifiSetPowerReq at set
  simp only at set
  by_cases valid : p.dataPayload 0 = wifiEnable ∨ p.dataPayload 0 = wifiDisable
  · rw [if_pos valid] at set
    obtain ⟨disconnects, disconnected, rfl⟩ := Option.map_eq_some_iff.mp set
    simp only [List.cons_append, List.mem_cons, List.mem_append, List.not_mem_nil, or_false]
      at member
    rcases member with state | slaves | answer | reset
    · exact .inr (.inl state)
    · split_ifs at disconnected
      · exact .inl ⟨disconnects, disconnected, slaves⟩
      · obtain rfl := Option.some.inj disconnected
        cases slaves
    · exact .inr (.inr (.inl ⟨_, answer⟩))
    · exact .inr (.inr (.inr reset))
  · rw [if_neg valid] at set
    obtain rfl := Option.some.inj set
    simp only [List.mem_cons, List.not_mem_nil, or_false] at member
    rcases member with answer | reset
    · exact .inr (.inr (.inl ⟨_, answer⟩))
    · exact .inr (.inr (.inr reset))

/-- A change of the network's name or password disconnects the slaves, writes the file, answers
and has hostapd read it.
-/
theorem mem_wifiChange {env : Outcomes} {s : State} {c : Context} {p : Packet} {token : String}
    {accepted : Nat → Bool} {actions : List Action} {action : Action}
    (changed : c.wifiChange env p s token accepted = some actions) (member : action ∈ actions)
    : (∃ disconnects,
        s.disconnectAllClients .slaveMode = some disconnects ∧ action ∈ disconnects)
      ∨ action = .wifiUpdateHostapdConfFile token (cString (p.payload p.pktLength))
      ∨ (∃ errCode, action = c.respond p errCode)
      ∨ action = .system "/etc/init.d/hostapd reload"
      ∨ action = .resetPowerStandbyCounter .resetSystemShutdownTime := by
  unfold Context.wifiChange at changed
  simp only at changed
  by_cases valid : accepted p.pktLength = true
  · rw [if_pos valid] at changed
    obtain ⟨disconnects, disconnected, rfl⟩ := Option.map_eq_some_iff.mp changed
    simp only [List.mem_append, List.mem_cons, List.not_mem_nil, or_false] at member
    rcases member with ((slaves | update | answer) | reload) | reset
    · exact .inl ⟨disconnects, disconnected, slaves⟩
    · exact .inr (.inl update)
    · exact .inr (.inr (.inl ⟨_, answer⟩))
    · split_ifs at reload
      · exact .inr (.inr (.inr (.inl (List.mem_singleton.mp reload))))
      · cases reload
    · exact .inr (.inr (.inr (.inr reset)))
  · rw [if_neg valid] at changed
    obtain rfl := Option.some.inj changed
    simp only [List.mem_cons, List.not_mem_nil, or_false] at member
    rcases member with answer | reset
    · exact .inr (.inr (.inl ⟨_, answer⟩))
    · exact .inr (.inr (.inr (.inr reset)))

/-- What an answer to a resignation query comes to, where it names a slave. The slave becomes the
master, or is told that it does not, or the answer is neither.
-/
inductive ResignResp (s : State) (a : Addr) (c : Context) (p : Packet)
    : State × List Action → Prop where
  | hands {slave : Addr} {result : State × List Action}
      (success : p.dataPayload 0 = reconnSuccess)
      (pointer : s.globals.theSlaveContextPtr = some slave)
      (handed : s.handOver a c slave = some result)
      : ResignResp s a c p result
  | denies {slave : Addr} {other : Context} (denied : p.dataPayload 0 = reconnDenied)
      (pointer : s.globals.theSlaveContextPtr = some slave)
      (found : s.contexts slave = some other)
      : ResignResp s a c p
          (
            s.setContext a c,
            [sendReconnResponse other.socketFd p.messageId.1 p.messageId.2 reconnDenied c.mode]
          )
  | neither : ResignResp s a c p (s.setContext a c, [])

theorem masterModeResignResp_comes {a : Addr} {c : Context} {p : Packet}
    {result : State × List Action} (answered : s.masterModeResignResp a c p = some result)
    : ResignResp s a c p result := by
  unfold masterModeResignResp at answered
  split_ifs at answered with success denied
  · obtain ⟨slave, pointer, handed⟩ := Option.bind_eq_some_iff.mp answered
    exact .hands success pointer handed
  · obtain ⟨slave, pointer, answered⟩ := Option.bind_eq_some_iff.mp answered
    obtain ⟨other, found, rfl⟩ := Option.map_eq_some_iff.mp answered
    exact .denies denied pointer found
  · obtain rfl := Option.some.inj answered
    exact .neither

/-- What SW_UPGRADE_REQ does with a bundle before it looks at the clients. -/
def upgradeScriptActions (env : Outcomes) : List Action :=
  .wifiCleanUp
    :: if env.upgradeScript.isSome then
      [.system ("chmod ugo+x " ++ swUpgradeReq.upgradeScriptName),
        .system swUpgradeReq.upgradeScriptName, .unlink swUpgradeReq.upgradeScriptName]
    else []

/-- What SW_UPGRADE_REQ comes to. There is no bundle, its script fails, an entry of the table is
no context, or the other clients are disconnected and the process ends.
-/
inductive SwUpgrade (env : Outcomes) (s : State) (a : Addr) (c : Context) (p : Packet)
    : State × List Action → Prop where
  | missing : SwUpgrade env s a c p (s.setContext a c, [])
  | fails (retCode : ReconnErrCode)
      : SwUpgrade env s a c p (s.setContext a c, upgradeScriptActions env ++ [c.respond p retCode])
  | stumbles : SwUpgrade env s a c p (s.halt, upgradeScriptActions env)
  | ends (retCode : ReconnErrCode) {slaves remotes : List Action}
      (slaves' : s.disconnectAllClients .slaveMode = some slaves)
      (remotes' : s.disconnectAllClients .remoteMode = some remotes)
      : SwUpgrade env s a c p
          (
            s.halt,
            upgradeScriptActions env ++ slaves ++ remotes
              ++ [
                .reconnGpioAction .powerLedGpio .disable,
                .reconnGpioAction .batteryLedRedGpio .enable,
                .reconnGpioAction .batteryLedGreenGpio .enable,
                c.respond p retCode,
                .libiphonedStop
              ]
              ++ (if retCode = reconnNeedsReboot then [.system "reboot"] else [])
              ++ [.raiseSigterm]
          )

theorem swUpgradeReq_upgrade (env : Outcomes) (s : State) (a : Addr) (c : Context) (p : Packet)
    : SwUpgrade env s a c p (s.swUpgradeReq env a c p) := by
  unfold swUpgradeReq
  by_cases success : env.extractBundle = reconnSuccess
  · rw [if_pos success]
    by_cases ends : env.upgradeScript.getD env.extractBundle = reconnSuccess
        ∨ env.upgradeScript.getD env.extractBundle = reconnNeedsReboot
    · simp only [if_pos ends]
      split
      · rename_i slaves remotes slaves' remotes'
        exact .ends _ slaves' remotes'
      · exact .stumbles
    · simp only [if_neg ends]
      exact .fails _
  · rw [if_neg success]
    exact .missing

/-- SW_UPGRADE_REQ ends the process or only writes the context. -/
theorem swUpgradeReq_cases (env : Outcomes) (s : State) (a : Addr) (c : Context) (p : Packet)
    : (s.swUpgradeReq env a c p).1 = s.halt
      ∨ (s.swUpgradeReq env a c p).1 = s.setContext a c := by
  have upgrade := swUpgradeReq_upgrade env s a c p
  generalize s.swUpgradeReq env a c p = result at upgrade ⊢
  cases upgrade with
  | missing => exact .inr rfl
  | fails retCode => exact .inr rfl
  | stumbles => exact .inl rfl
  | ends retCode slaves' remotes' => exact .inl rfl

/-- remoteMonitorActivate(YES) writes to the monitor's own variables and to its socket. -/
theorem remoteMonitorActivateYes_same (env : Outcomes) (s : State)
    : (s.remoteMonitorActivateYes env).1.globals = s.globals
      ∧ (s.remoteMonitorActivateYes env).1.task = s.task
      ∧ (s.remoteMonitorActivateYes env).1.contexts = s.contexts
      ∧ (s.remoteMonitorActivateYes env).1.registry = s.registry := by
  unfold remoteMonitorActivateYes
  simp only
  split_ifs <;> exact ⟨rfl, rfl, rfl, rfl⟩

namespace Handles

variable {p : Packet} {cmdid : Option Command}

theorem switches (handles : s.Handles a c received env p cmdid)
    : s.switches (.iterate a received env) = some (a, c, p) := by
  simp [State.switches, handles.found, handles.way, handles.passes]

theorem silent (handles : s.Handles a c received env p cmdid)
    (noRequest : cmdid ≠ some .masterModeResignReq)
    (noResponse : cmdid ≠ some .masterModeResignResp)
    : s.Silent (.iterate a received env) := by
  simp [Silent, asks, answers, handles.switches, handles.command, noRequest, noResponse]

theorem socketFd_nonneg (handles : s.Handles a c received env p cmdid) : 0 ≤ c.socketFd :=
  handles.toTurns.socketFd_nonneg_of_ne_failed (by simp)

/-- A handler that rewrites the context's own data has no effect on the tasks. -/
theorem keeps (handles : s.Handles a c received env p cmdid)
    (silent : s.Silent (.iterate a received env)) {c' : Context} {s' : State}
    (globals : s'.globals = s.globals) (task : s'.task = Function.update s.task a c'.task)
    (same : c'.task = c.task)
    : Effect s (.iterate a received env) s' := by
  refine .keeps globals ?_ silent
  rw [task, ← s.setContext_task]
  exact setContext_same_task handles.found same

theorem clientResignReq_effect
    (handles : s.Handles a c received env p (some .clientResignReq))
    : Effect s (.iterate a received env)
        (s.clientResignReq a { c with noDataCount := 0 } p).1 := by
  have silent := handles.silent (by simp) (by simp)
  unfold clientResignReq
  simp only
  split_ifs with insertedMaster master
  · exact handles.keeps silent rfl (s.setContext_task a _) rfl
  · exact .releases handles.toTurns (.inr (.inr ⟨p, handles⟩)) master rfl
      (by exact leave_task)
  · exact .leaves handles.toTurns (.inr (.inr ⟨master, insertedMaster, p, handles⟩))
      (by simp) (by simp)

theorem masterModeReq_effect
    (handles : s.Handles a c received env p (some .masterModeReq))
    : Effect s (.iterate a received env)
        (s.masterModeReq env a { c with noDataCount := 0 } p).1 := by
  have silent := handles.silent (by simp) (by simp)
  have open_ := handles.socketFd_nonneg
  unfold masterModeReq
  simp only
  split_ifs with already free
  · exact handles.keeps silent rfl (s.setContext_task a _) rfl
  · by_cases fails : env.mqOpen = -1
    · simp only [grantMastership, if_pos fails]
      exact .openFails handles free fails rfl (s.freeContext_task a)
    · simp only [grantMastership, if_neg fails]
      rcases registerClient_cases (s.becomeMaster { c with noDataCount := 0 } env.mqOpen) a
          (granted env { c with noDataCount := 0 }) _ open_ with
        ⟨registry, registered⟩ | ⟨outside, freed⟩
      · rw [registered]
        refine .grants handles free fails rfl ?_
        refine (State.setContext_task _ a _).trans ?_
        simp [Context.task, handles.looping, withMode, granted]
      · rw [freed]
        exact .unregistered handles outside (State.freeContext_task _ a)
  · unfold refuseMastership
    rcases registerClient_cases s a (refused env { c with noDataCount := 0 }) _ open_ with
      ⟨registry, registered⟩ | ⟨outside, freed⟩
    · simp only
      rw [registered]
      exact handles.keeps silent rfl (s.setContext_task a _) rfl
    · simp only
      rw [freed]
      exact .unregistered handles outside (s.freeContext_task a)

theorem masterModeResignReq_effect
    (handles : s.Handles a c received env p (some .masterModeResignReq))
    : Effect s (.iterate a received env)
        (s.masterModeResignReq a { c with noDataCount := 0 } p).1 := by
  unfold masterModeResignReq
  simp only
  split_ifs with own insertedMaster
  · refine handles.keeps ?_ rfl (s.setContext_task a _) rfl
    simp [Silent, asks, answers, handles.switches, handles.command, own]
  · refine handles.keeps ?_ rfl (s.setContext_task a _) rfl
    simp [Silent, asks, answers, handles.switches, handles.command, insertedMaster]
  · refine .forwards handles own (not_not.mp insertedMaster) rfl ?_
    exact (setContext_same_task handles.found rfl)

/-- A hand-over to a context makes the task a slave first, and then the other the master,
which may be the same task.
-/
theorem handOver_effect (handles : s.Handles a c received env p (some .masterModeResignResp))
    (success : p.dataPayload 0 = reconnSuccess) {b : Addr}
    (pointer : s.globals.theSlaveContextPtr = some b)
    : Effect s (.iterate a received env)
        ((s.handOver a { c with noDataCount := 0 } b).getD (s.halt, [])).1 := by
  let slave : Context := {
    c with
    mode := .slaveMode
    noDataCount := 0
    theResponsePkt := (c.theResponsePkt.address reconnSlaveAttached).withLength 0
  }
  have own : slave.task = some { c.asTask with mode := .slaveMode } := by
    simp [Context.task, slave, handles.looping]
  have effect {o other : Context} (found : s.contexts b = some o)
      (same : other.socketFd = o.socketFd)
      (becomes : ({ other with mode := .masterMode } : Context).task
        = (s.task b).map fun t => { t with mode := .masterMode })
      : Effect s (.iterate a received env) {
          (((s.setContext a slave).setSocket c.socketFd .blocking).setContext b
            { other with mode := .masterMode }).setSocket other.socketFd .nonBlocking with
          globals := {
            s.globals with
            masterClientSocketFd := other.socketFd
            theSlaveContextPtr := none
          }
        } := by
    refine .handsOver handles success pointer found (by simp [same]) ?_
    refine (State.setContext_task _ b _).trans ?_
    rw [becomes, setSocket_task, setContext_task, own]
  unfold handOver
  simp only [setSocket_contexts]
  by_cases self : b = a
  · subst self
    have found : (s.setContext b slave).contexts b = some slave := Function.update_self ..
    rw [found]
    refine effect handles.found rfl ?_
    rw [handles.task, Option.map_some]
    simp [Context.task, slave, handles.looping]
  · have kept : (s.setContext a slave).contexts b = s.contexts b :=
      Function.update_of_ne self ..
    rw [kept]
    cases found : s.contexts b with
    | none => exact .halts
    | some other =>
        refine effect found rfl ((other.task_withMode .masterMode).trans ?_)
        simp [State.task, found]

/-- MASTER_MODE_RESIGN_RESP dereferences the pointer for a success or a denial, and is
undefined if there is no context at it.
-/
theorem masterModeResignResp_effect
    (handles : s.Handles a c received env p (some .masterModeResignResp))
    : Effect s (.iterate a received env)
        ((s.masterModeResignResp a { c with noDataCount := 0 } p).getD (s.halt, [])).1 := by
  unfold masterModeResignResp
  split_ifs with success denied
  · cases pointer : s.globals.theSlaveContextPtr with
    | none => exact .halts
    | some b => exact handles.handOver_effect success pointer
  · cases pointer : s.globals.theSlaveContextPtr with
    | none => exact .halts
    | some b =>
        cases found : s.contexts b with
        | none =>
            simp only [Option.bind_some, found]
            exact .halts
        | some o =>
            simp only [Option.bind_some, found]
            exact .denies handles denied pointer found rfl
              (setContext_same_task handles.found rfl)
  · refine handles.keeps ?_ rfl (s.setContext_task a _) rfl
    simp [Silent, asks, answers, handles.switches, handles.command, success, denied]

theorem webServiceIpAndPort_effect
    (handles : s.Handles a c received env p (some .webServiceIpAndPort))
    : Effect s (.iterate a received env)
        (s.webServiceIpAndPort env a { c with noDataCount := 0 } p).1 := by
  have silent := handles.silent (by simp) (by simp)
  unfold webServiceIpAndPort
  simp only
  split_ifs
  · exact handles.keeps silent rfl (s.setContext_task a _) rfl
  · exact handles.keeps silent rfl (s.setContext_task a _) rfl
  · exact handles.keeps silent rfl (s.setContext_task a _) rfl
  · obtain ⟨globals, task, -, -⟩ := remoteMonitorActivateYes_same env s
    refine handles.keeps silent globals ((State.setContext_task _ a _).trans ?_) rfl
    rw [task]
    rfl

theorem swUpgradeReq_effect (handles : s.Handles a c received env p (some .swUpgradeReq))
    : Effect s (.iterate a received env)
        (s.swUpgradeReq env a { c with noDataCount := 0 } p).1 := by
  rcases swUpgradeReq_cases env s a { c with noDataCount := 0 } p with ends | stays
  · rw [ends]
    exact .halts
  · rw [stays]
    have silent := handles.silent (by simp) (by simp)
    exact handles.keeps silent rfl (s.setContext_task a _) rfl

/-- A command of the switch has one of the effects. Witness: the cases with an effect of
their own, and the rest, which rewrite the response packet.
-/
theorem command_effect {cmdid : Option Command}
    (handles : s.Handles a c received env p cmdid)
    : Effect s (.iterate a received env)
        ((s.command env a { c with noDataCount := 0 } p).getD (s.halt, [])).1 := by
  unfold State.command
  rw [handles.command]
  split
  · exact handles.clientResignReq_effect
  · exact handles.masterModeReq_effect
  · exact handles.masterModeResignReq_effect
  · exact handles.masterModeResignResp_effect
  · exact handles.swUpgradeReq_effect
  · exact handles.webServiceIpAndPort_effect
  · rename_i noRequest noResponse _ _
    cases handled : equipmentCommand env s { c with noDataCount := 0 } p cmdid with
    | none => exact .halts
    | some handled =>
        have silent := handles.silent noRequest noResponse
        exact handles.keeps silent rfl (s.setContext_task a _) rfl

end Handles

/-- A turn of the loop has one of the effects. -/
theorem Turns.takeTurn_effect {way : Turn} (turns : s.Turns a c received env way)
    : Effect s (.iterate a received env) (s.takeTurn env a c way).1 := by
  cases way with
  | closed => exact turns.closed_effect
  | failed => exact turns.failed_effect
  | overrun => exact .halts
  | stalled => exact .keeps rfl rfl (turns.silent (by simp))
  | takes message => exact turns.takes_effect
  | idle => exact turns.idle_effect
  | dispatches p =>
      simp only [takeTurn, dispatch]
      split_ifs with blocked
      · refine .keeps rfl rfl (silent_of_switches_eq_none ?_)
        simp [switches, turns.found, turns.way, blocked]
      · exact Handles.command_effect ⟨turns, by simpa using blocked, rfl⟩

-----------------------------------------------------------------------------------------
-- The other steps
-----------------------------------------------------------------------------------------

/-- An event that is no turn has no part in the resign protocol. -/
theorem silent_of_noTurn {event : Event}
    (noTurn : ∀ a received env, event ≠ .iterate a received env)
    : s.Silent event := by
  apply silent_of_switches_eq_none
  cases event with
  | iterate a received env => exact absurd rfl (noTurn a received env)
  | _ => rfl

/-- There is no task where there is no context. -/
theorem task_of_fresh (fresh : s.contexts a = none) : s.task a = none := by
  simp [task, fresh]

/-- Taking away the task of an address that has none. -/
theorem without_nobody (nobody : s.task a = none) : s.without a = s.task :=
  Function.update_eq_self_iff.mpr nobody.symm

theorem accept_fresh {fd : Int} {mem : Memory} {started : Bool}
    (enabled : s.enabled (.accept fd (some mem) started) = true)
    : 0 < fd ∧ s.contexts mem.address = none := by
  simp only [State.enabled, Bool.and_eq_true, decide_eq_true_eq, Option.all_some] at enabled
  exact ⟨enabled.1.1, by simpa using enabled.2⟩

theorem createInserted_fresh {started : Bool}
    (enabled : s.enabled (.createInserted (some a) started) = true)
    : s.contexts a = none := by
  simp only [State.enabled, Bool.and_eq_true, Option.all_some] at enabled
  simpa using enabled.2

theorem remoteStart_fresh (enabled : s.enabled (.remoteStart (some a)) = true)
    : s.contexts a = none := by
  simp only [State.enabled, Bool.and_eq_true, Option.all_some] at enabled
  simpa using enabled.2

theorem start_effect (found : s.contexts a = some c) (starting : c.thread = .starting)
    : Effect s (.start a) (s.prologue a c).1 := by
  have silent : s.Silent (.start a) := silent_of_noTurn (by simp)
  have unchanged : (s.setContext a { c with thread := .looping }).task = s.task :=
    setContext_same_task found (by simp [Context.task, starting])
  unfold prologue
  simp only
  split_ifs
  · split
    · exact .keeps rfl unchanged silent
    · exact .keeps rfl unchanged silent
  · exact .keeps rfl unchanged silent

theorem accept_effect {fd : Int} {mem : Option Memory} {started : Bool}
    (enabled : s.enabled (.accept fd mem started) = true)
    : Effect s (.accept fd mem started) (s.accept fd mem started).1 := by
  have silent : s.Silent (.accept fd mem started) := silent_of_noTurn (by simp)
  unfold accept
  split
  · exact .keeps rfl rfl silent
  · rename_i registry index free
    cases mem with
    | none => exact .keeps rfl rfl silent
    | some mem =>
        obtain ⟨positive, fresh⟩ := accept_fresh enabled
        have inside := (Registry.reconnGetFreeClientIndex_spec free).1
        cases started with
        | true => exact .accepts fresh positive inside rfl (State.setContext_task _ _ _)
        | false =>
            refine .keeps rfl ((State.setContext_task _ _ _).trans ?_) silent
            exact without_nobody (task_of_fresh fresh)

theorem createInserted_effect {mem : Option Addr} {started : Bool}
    (enabled : s.enabled (.createInserted mem started) = true)
    : Effect s (.createInserted mem started) (s.createInserted mem started) := by
  have silent : s.Silent (.createInserted mem started) := silent_of_noTurn (by simp)
  cases mem with
  | none => exact .keeps rfl rfl silent
  | some a =>
      have fresh := createInserted_fresh enabled
      have idle := without_nobody (task_of_fresh fresh)
      unfold createInserted
      simp only
      split
      · exact .keeps rfl ((State.setContext_task _ a _).trans idle) silent
      · rename_i registry index free
        obtain ⟨-, -, -, room, zero, -⟩ := Registry.reconnGetFreeClientIndex_spec free
        cases started with
        | true =>
            refine .inserts fresh room rfl ((State.setContext_task _ a _).trans ?_)
            simp only [Context.task, zero rfl]
            rfl
        | false => exact .keeps rfl ((State.setContext_task _ a _).trans idle) silent

/-- One turn of the scan in remoteMonitorCleanup gives at most an index back. -/
theorem cleanupEntry_frame {i : Int} {s' : State} (visited : s.cleanupEntry i = some s')
    : s'.globals = s.globals ∧ s'.contexts = s.contexts := by
  unfold cleanupEntry at visited
  split at visited
  · obtain rfl := Option.some.inj visited
    exact ⟨rfl, rfl⟩
  · cases visited
  · obtain ⟨c, -, rfl⟩ := Option.map_eq_some_iff.mp visited
    split_ifs <;> simp

/-- remoteMonitorCleanup is its scan of the client table as far as the globals, the contexts
and the table go.
-/
theorem remoteMonitorCleanup_scan {s' : State} (cleaned : s.remoteMonitorCleanup = some s')
    : ∃ swept, Registry.indices.foldlM cleanupEntry s = some swept
      ∧ s'.globals = swept.globals ∧ s'.contexts = swept.contexts
      ∧ s'.registry = swept.registry := by
  unfold remoteMonitorCleanup at cleaned
  obtain ⟨swept, scanned, rfl⟩ := Option.map_eq_some_iff.mp cleaned
  refine ⟨swept, scanned, ?_⟩
  simp only
  split_ifs <;> exact ⟨rfl, rfl, rfl⟩

/-- remoteMonitorCleanup leaves the globals and the tasks alone. -/
theorem remoteMonitorCleanup_frame {s' : State} (cleaned : s.remoteMonitorCleanup = some s')
    : s'.globals = s.globals ∧ s'.task = s.task := by
  obtain ⟨swept, scanned, globals, contexts, -⟩ := remoteMonitorCleanup_scan cleaned
  have frame : swept.globals = s.globals ∧ swept.contexts = s.contexts :=
    foldlM_invariant (fun _ next => next.globals = s.globals ∧ next.contexts = s.contexts)
      (fun _ _ _ _ known visited =>
        have same := cleanupEntry_frame visited
        ⟨same.1.trans known.1, same.2.trans known.2⟩)
      ⟨rfl, rfl⟩ scanned
  refine ⟨globals.trans frame.1, funext fun a => ?_⟩
  simp only [task, contexts, frame.2]

/-- Deactivating the remote monitor at most reports to the master. -/
theorem remoteMonitorActivateNo_effect {event : Event}
    (noTurn : ∀ a received env, event ≠ .iterate a received env) (s₀ : State) {s' : State}
    (globals : s₀.globals = s.globals) (task : s₀.task = s.task)
    (deactivated : s₀.remoteMonitorActivateNo = some s')
    : Effect s event s' := by
  unfold remoteMonitorActivateNo at deactivated
  split_ifs at deactivated
  · obtain ⟨same, tasks⟩ := remoteMonitorCleanup_frame deactivated
    have sent : s'.globals = s.globals.mqSend (.rmStateChange disconnected) := by
      rw [same]
      exact congrArg (Globals.mqSend · _) globals
    refine .posts sent (tasks.trans task) ?_ (by simp)
    cases event with
    | iterate a received env => exact absurd rfl (noTurn a received env)
    | _ => rfl
  · obtain rfl := Option.some.inj deactivated
    exact .keeps globals task (silent_of_noTurn noTurn)

theorem remoteContext_task {r : Addr} {c : Context} (found : s.remoteContext = some (r, c))
    : s.contexts r = some c ∧ c.thread = .none ∧ s.task r = none := by
  obtain ⟨r', -, here⟩ := Option.bind_eq_some_iff.mp found
  obtain ⟨c', allocated, checked⟩ := Option.bind_eq_some_iff.mp here
  split_ifs at checked with idle
  obtain ⟨rfl, rfl⟩ := Prod.mk.inj (Option.some.inj checked)
  exact ⟨allocated, idle, by simp [task, allocated, Context.task, idle]⟩

/-- What holds of the halted state and of each result holds behind a step that may be undefined. -/
theorem getD_halt {P : State → Prop} {result : Option State} (halts : P s.halt)
    (defined : ∀ s', result = some s' → P s')
    : P (result.getD s.halt) := by
  cases same : result with
  | none => exact halts
  | some s' => exact defined s' same

/-- The steps of the remote monitor that may be undefined. -/
theorem undefined_effect {event : Event} {result : Option State}
    (defined : ∀ s', result = some s' → Effect s event s')
    : Effect s event (result.getD s.halt) :=
  getD_halt (P := Effect s event) .halts defined

theorem remoteSendData_effect {s' : State} (sent : s.remoteSendData = some s')
    : Effect s .remoteSendData s' := by
  obtain ⟨⟨r, c⟩, found, sent⟩ := Option.bind_eq_some_iff.mp sent
  obtain ⟨allocated, idle, nobody⟩ := remoteContext_task found
  obtain ⟨registered, -, sent⟩ := Option.bind_eq_some_iff.mp sent
  have unchanged (registry : Registry) (index : Int)
      : (({ s with registry } : State).setContext r { c with index }).task = s.task := by
    refine (State.setContext_task _ r _).trans (Eq.trans ?_ (without_nobody nobody))
    simp only [Context.task, idle]
    rfl
  simp only at sent
  split_ifs at sent
  · split at sent
    · exact remoteMonitorActivateNo_effect (by simp) s rfl rfl sent
    · rename_i registry index _
      split at sent
      · obtain rfl := Option.some.inj sent
        exact .keeps rfl (unchanged registry index) (silent_of_noTurn (by simp))
      · exact remoteMonitorActivateNo_effect (by simp)
          (({ s with registry } : State).setContext r { c with index })
          rfl (unchanged registry index) sent
  · obtain rfl := Option.some.inj sent
    exact .keeps rfl rfl (silent_of_noTurn (by simp))

theorem remoteStart_effect {mem : Option Addr} {s' : State}
    (enabled : s.enabled (.remoteStart mem) = true) (started : s.remoteStart mem = some s')
    : Effect s (.remoteStart mem) s' := by
  unfold remoteStart at started
  cases mem with
  | none =>
      let remote := { s.remote with created := s.remote.created - 1, aContextPtr := none }
      exact remoteMonitorActivateNo_effect (by simp) { s with remote } rfl rfl started
  | some a =>
      have nobody := task_of_fresh (remoteStart_fresh enabled)
      obtain rfl := Option.some.inj started
      refine .keeps rfl ((State.setContext_task _ a _).trans ?_) (silent_of_noTurn (by simp))
      exact without_nobody nobody

theorem remoteStopData_effect {s' : State} (stopped : s.remoteStopData = some s')
    : Effect s .remoteStopData s' := by
  obtain ⟨⟨r, c⟩, -, stopped⟩ := Option.bind_eq_some_iff.mp stopped
  simp only at stopped
  split_ifs at stopped
  obtain rfl := Option.some.inj stopped
  exact .keeps (s.deRegister_globals c) (s.deRegister_task c) (silent_of_noTurn (by simp))

theorem remoteExit_effect {s' : State} (left : s.remoteExit = some s')
    : Effect s .remoteExit s' := by
  have silent : s.Silent .remoteExit := silent_of_noTurn (by simp)
  unfold remoteExit at left
  split_ifs at left
  · obtain rfl := Option.some.inj left
    exact .keeps rfl rfl silent
  · obtain ⟨⟨r, c⟩, found, rfl⟩ := Option.map_eq_some_iff.mp left
    have nobody := (remoteContext_task found).2.2
    refine .keeps rfl ((State.freeContext_task _ r).trans ?_) silent
    exact without_nobody nobody

/-- A client task that can start is at the start of its function. -/
theorem starting_of_enabled (enabled : s.enabled (.start a) = true)
    : ∃ c, s.contexts a = some c ∧ c.thread = .starting := by
  obtain ⟨c, found, starting⟩ := (Option.any_eq_true ..).mp enabled
  exact ⟨c, found, by simpa using starting⟩

/-- A client task that can take a turn is in its loop and can receive what it does. -/
theorem turns_of_enabled (enabled : s.enabled (.iterate a received env) = true)
    : ∃ c, s.Turns a c received env (turn s.globals env.mqReceive received) := by
  simp only [State.enabled, Bool.and_eq_true] at enabled
  obtain ⟨c, found, ready⟩ := (Option.any_eq_true ..).mp enabled.1
  simp only [Bool.and_eq_true, decide_eq_true_eq] at ready
  exact ⟨c, found, ready.1, ready.2, rfl⟩

/-- What an event does to the globals and the tasks. Witness: the events one by one, with
the turns of the client tasks by the way they go.
-/
theorem perform_effect {event : Event} (enabled : s.enabled event = true)
    : Effect s event (s.perform event).1 := by
  have silent : (∀ a received env, event ≠ .iterate a received env) → s.Silent event :=
    silent_of_noTurn
  cases event with
  | accept fd mem started => exact accept_effect enabled
  | start a =>
      obtain ⟨c, found, starting⟩ := starting_of_enabled enabled
      simp only [perform, found]
      exact start_effect found starting
  | iterate a received env =>
      obtain ⟨c, turns⟩ := turns_of_enabled enabled
      simp only [perform, turns.found]
      exact turns.takeTurn_effect
  | iphoneInserted =>
      simp only [perform, masterIphoneInserted]
      split_ifs
      · exact .posts rfl rfl rfl (by simp)
      · exact .keeps rfl rfl (silent (by simp))
  | semTimedWaitFails => exact .keeps rfl rfl (silent (by simp))
  | semTimedWait => exact .keeps rfl rfl (silent (by simp))
  | connectTransmit fd connected =>
      simp only [perform, connectTransmit]
      split_ifs <;> exact .keeps rfl rfl (silent (by simp))
  | transmitAccept fd =>
      simp only [perform, transmitAccept]
      split_ifs <;> exact .transmits rfl rfl
  | createInserted mem started => exact createInserted_effect enabled
  | iphoneExtracted =>
      simp only [perform, masterIphoneExtracted]
      split_ifs with inserted
      · exact .posts rfl rfl rfl fun _ => ⟨rfl, inserted⟩
      · exact .keeps rfl rfl (silent (by simp))
  | meterPresence present =>
      cases present with
      | true => exact .posts rfl rfl rfl (by simp)
      | false => exact .posts rfl rfl rfl (by simp)
  | remoteStart mem => exact undefined_effect fun _ => remoteStart_effect enabled
  | remoteConnected => exact .posts rfl rfl rfl (by simp)
  | remoteSendData => exact undefined_effect fun _ => remoteSendData_effect
  | remoteStopData => exact undefined_effect fun _ => remoteStopData_effect
  | remoteDeactivate =>
      exact undefined_effect fun _ => remoteMonitorActivateNo_effect (by simp) s rfl rfl
  | remoteExit => exact undefined_effect fun _ => remoteExit_effect

theorem step_eq_some {event : Event} {s' : State} {output : Output}
    (taken : s.step event = some (s', output))
    : s.halted = false ∧ s.enabled event = true ∧ s.perform event = (s', output) := by
  unfold step at taken
  split_ifs at taken with possible
  exact ⟨possible.1, possible.2, Option.some.inj taken⟩

/-- A step of a client task is a turn of its loop. -/
theorem step_iterate {s' : State} {output : Output}
    (taken : s.step (.iterate a received env) = some (s', output))
    : ∃ c way, s.Turns a c received env way
      ∧ s' = (s.takeTurn env a c way).1
      ∧ output = ⟨received.complete, way.taken, way.dispatched, (s.takeTurn env a c way).2⟩ := by
  obtain ⟨-, enabled, performed⟩ := step_eq_some taken
  obtain ⟨c, turns⟩ := turns_of_enabled enabled
  simp only [perform, turns.found, iterate] at performed
  obtain ⟨rfl, rfl⟩ := Prod.mk.inj performed
  exact ⟨c, _, turns, rfl, rfl⟩

/-- A packet that reaches the switch is handled there. -/
theorem switches_eq_some {event : Event} {p : Packet} {s' : State} {output : Output}
    (switched : s.switches event = some (a, c, p))
    (taken : s.step event = some (s', output))
    : ∃ received env, event = .iterate a received env
      ∧ s.Handles a c received env p p.command
      ∧ s' = ((s.command env a { c with noDataCount := 0 } p).getD (s.halt, [])).1 := by
  cases event with
  | iterate a' received env =>
      obtain ⟨c', way, turns, rfl, -⟩ := step_iterate taken
      simp only [switches, turns.found, Option.bind_some, turns.way] at switched
      cases way with
      | dispatches p' =>
          simp only at switched
          split_ifs at switched with blocked
          obtain ⟨rfl, rfl, rfl⟩ := by simpa using switched
          refine ⟨received, env, rfl, ⟨turns, by simpa using blocked, rfl⟩, ?_⟩
          simp only [takeTurn, dispatch, if_neg blocked]
      | _ => cases switched
  | _ => cases switched

/-- A step that is no turn of a client task receives and takes nothing. -/
theorem step_output_of_noTurn {event : Event} {s' : State} {output : Output}
    (noTurn : ∀ a received env, event ≠ .iterate a received env)
    (taken : s.step event = some (s', output))
    : ∃ actions, output = .of actions := by
  obtain ⟨-, -, performed⟩ := step_eq_some taken
  obtain ⟨-, rfl⟩ := Prod.mk.inj performed.symm
  cases event with
  | iterate a received env => exact absurd rfl (noTurn a received env)
  | start a =>
      simp only
      split <;> exact ⟨_, rfl⟩
  | _ => exact ⟨_, rfl⟩

/-- Every step has one of the effects. -/
theorem step_effect {event : Event} {s' : State} {output : Output}
    (taken : s.step event = some (s', output))
    : Effect s event s' := by
  obtain ⟨-, enabled, performed⟩ := step_eq_some taken
  have effect := perform_effect enabled
  rwa [performed] at effect

end State

end Reconn.Client
