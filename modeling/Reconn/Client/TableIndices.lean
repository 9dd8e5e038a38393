import Reconn.Client.Scans

/-! The calls that use the client table and the sockets. The three functions of the table
check the upper bound of an index only; what keeps an index from being negative is that a
context gets it from reconnGetFreeClientIndex before it is used, except that of the remote
monitor, which starts at -1.
-/

namespace Reconn.Client

open TransitionRuns

namespace Action

/-- The index that a call uses on the tables. -/
def tableIndex : Action → Option Int
  | .reconnReturnClientIndex index => some index
  | .reconnRegisterClientApp index => some index
  | .reconnDeRegisterClientApp index => some index
  | _ => none

/-- The action uses neither the tables nor closes a descriptor. -/
def plain : Action → Bool
  | .reconnReturnClientIndex _ | .reconnRegisterClientApp _ | .reconnDeRegisterClientApp _ =>
      false
  | .close _ => false
  | _ => true

/-- Sending, driving the equipment and the configuration are plain. -/
@[simp] theorem plain_eq_true
    : (∀ buffer, (libiphonedTx buffer).plain = true)
      ∧ (∀ length, (libiphonedTxPointer length).plain = true)
      ∧ (∀ socketFd buffer, (sendSocket socketFd buffer).plain = true)
      ∧ (∀ message, (reconnEqptAddMsgToQ message).plain = true)
      ∧ (∀ theEqpt, (resetPowerStandbyCounter theEqpt).plain = true)
      ∧ (∀ fd, (shutdown fd).plain = true)
      ∧ (∀ command, (system command).plain = true)
      ∧ (∀ path, (unlink path).plain = true)
      ∧ (∀ theGpio theAction, (reconnGpioAction theGpio theAction).plain = true)
      ∧ (∀ buffer, (dmmWrite buffer).plain = true)
      ∧ dmmInit.plain = true ∧ dmmPowerDown.plain = true ∧ dmmDiags.plain = true
      ∧ dmmSaveConfig.plain = true
      ∧ (∀ buffer, (spectrumAnalyzerWrite buffer).plain = true)
      ∧ spectrumAnalyzerInit.plain = true ∧ spectrumAnalyzerUpgrade.plain = true
      ∧ (∀ buffer, (powerMeterWrite buffer).plain = true)
      ∧ (∀ newState, (wifiSetState newState).plain = true)
      ∧ (∀ token theNewValue, (wifiUpdateHostapdConfFile token theNewValue).plain = true)
      ∧ wifiCleanUp.plain = true ∧ libiphonedStop.plain = true
      ∧ raiseSigterm.plain = true := by
  simp only [plain, implies_true, and_self]

end Action

-----------------------------------------------------------------------------------------
-- Commands that make no such call
-----------------------------------------------------------------------------------------

@[simp] theorem sendReconnResponse_plain (socketFd : Int) (c1 c2 : UInt8)
    (errCode : ReconnErrCode) (mode : Mode)
    : (sendReconnResponse socketFd c1 c2 errCode mode).plain = true := by
  unfold sendReconnResponse
  simp only
  split_ifs <;> rfl

namespace Context

variable (c : Context) (p : Packet)

@[simp] theorem respond_plain (errCode : ReconnErrCode) : (c.respond p errCode).plain = true :=
  sendReconnResponse_plain ..

@[simp] theorem notify_plain (messageId : UInt16) (errCode : ReconnErrCode)
    : (c.notify messageId errCode).plain = true :=
  sendReconnResponse_plain ..

@[simp] theorem transmit_plain (socketFd : Int) (pkt : ResponsePacket) (length : Nat)
    : (c.transmit socketFd pkt length).plain = true := by
  unfold transmit
  simp only
  split_ifs <;> rfl

@[simp] theorem broadcast_plain (pkt : ResponsePacket) (length : Nat)
    : (c.broadcast pkt length).all Action.plain = true := by
  unfold broadcast
  simp only
  split_ifs <;> rfl

@[simp] theorem gpioPowerSet_plain (env : Outcomes) (theGpio : GpioName)
    (failed : ReconnErrCode)
    : (c.gpioPowerSet env p theGpio failed).all Action.plain = true := by
  simp [gpioPowerSet]

@[simp] theorem answered_plain (errCode : ReconnErrCode) (theEqpt : PowerMgmtEqptType)
    : (c.answered p errCode theEqpt).all Action.plain = true := by
  simp [answered]

end Context

/-- disconnectAllClients only sends and shuts down. -/
theorem State.disconnectAllClients_plain {s : State} {mode : Mode} {actions : List Action}
    (disconnected : s.disconnectAllClients mode = some actions)
    : actions.all Action.plain = true := by
  refine List.all_eq_true.mpr fun action member => ?_
  obtain ⟨fd, rfl | rfl⟩ := State.mem_disconnectAllClients disconnected member <;> rfl

namespace Context

variable {env : Outcomes} {s : State} {c : Context} {p : Packet} {actions : List Action}

theorem reconnInitStateSetReq_plain (set : c.reconnInitStateSetReq env p = some actions)
    : actions.all Action.plain = true := by
  obtain ⟨changes, changed, rfl⟩ := Option.map_eq_some_iff.mp set
  dsimp only at changed
  split_ifs at changed
  all_goals
    obtain rfl := Option.some.inj changed
    simp

theorem wifiSetPowerReq_plain (set : c.wifiSetPowerReq env p s = some actions)
    : actions.all Action.plain = true := by
  refine List.all_eq_true.mpr fun action member => ?_
  rcases State.mem_wifiSetPowerReq set member with ⟨disconnects, disconnected, slaves⟩
    | rfl | ⟨errCode, rfl⟩ | rfl
  · exact List.all_eq_true.mp (State.disconnectAllClients_plain disconnected) action slaves
  · rfl
  · exact respond_plain ..
  · rfl

theorem wifiChange_plain {token : String} {accepted : Nat → Bool}
    (changed : c.wifiChange env p s token accepted = some actions)
    : actions.all Action.plain = true := by
  refine List.all_eq_true.mpr fun action member => ?_
  rcases State.mem_wifiChange changed member with ⟨disconnects, disconnected, slaves⟩
    | rfl | ⟨errCode, rfl⟩ | rfl | rfl
  · exact List.all_eq_true.mp (State.disconnectAllClients_plain disconnected) action slaves
  · rfl
  · exact respond_plain ..
  · rfl
  · rfl

/-- The lines of LNB_GPIO_STATES are read only. -/
theorem lnbGpioStates_plain : (c.lnbGpioStates env p).2.all Action.plain = true := by
  have reads (lines : List GpioName)
      : (lines.map fun line => Action.reconnGpioAction line .read).all Action.plain = true := by
    simp
  unfold lnbGpioStates
  simp only
  split_ifs <;> simp only [List.all_append, reads, Bool.true_and] <;> simp

end Context

/-- The commands that only send and drive the equipment make no call of the tables. Witness:
the handlers one by one.
-/
theorem equipmentCommand_plain {env : Outcomes} {s : State} {c : Context} {p : Packet}
    {cmdid : Option Command} {handled : Handled}
    (equipment : equipmentCommand env s c p cmdid = some handled)
    : handled.2.all Action.plain = true := by
  cases cmdid with
  | none =>
      obtain rfl := Option.some.inj equipment
      simp
  | some theCommand =>
      cases theCommand with
      | clientResignReq | masterModeReq | masterModeResignReq | masterModeResignResp
      | swUpgradeReq | webServiceIpAndPort => cases equipment
      | keepaliveMessage | reconnConnectionStatusReq | clientAccessReq | reconnDeviceDebugReq
      | wifiStatusReq | specanaIdleCfgReq | pmeterPowerSetReq | pmeterIdleCfgReq
      | dmmIdleCfgReq | dmmBuiltintestReq | fwUpgradeReq | webServiceState
      | batteryLevelReq | batteryChargeStateReq | reconnSwVersionReq | reconnIpAddressReq
      | wifiSsidRetrieve | wifiPasswordRetrieve | wifiMacAddressReq =>
          obtain rfl := Option.some.inj equipment
          simp [Context.batteryLevelReq, Context.batteryChargeStateReq, Context.batteryReq,
            Context.reconnSwVersionReq, Context.reconnIpAddressReq, Context.wifiRetrieve,
            Context.wifiMacAddressReq]
      | reconnIdReq =>
          obtain rfl := Option.some.inj equipment
          unfold Context.reconnIdReq
          split <;> simp
      | reconnRetrieveCrashlog =>
          obtain rfl := Option.some.inj equipment
          unfold Context.reconnRetrieveCrashlog
          simp only
          split <;> simp
      | reconnInitStateSetReq =>
          obtain ⟨actions, set, same⟩ := Option.bind_eq_some_iff.mp equipment
          obtain rfl := Option.some.inj same
          exact Context.reconnInitStateSetReq_plain set
      | specanaPowerSetReq | specanaPktSendReq | pmeterPktSendReq | dmmPowerSetReq
      | dmmPktSendReq | lnbPowerSetReq | lnbSa10Mhz | lnb10Mhz | lnb18VdcBias =>
          obtain rfl := Option.some.inj equipment
          simp only [Context.specanaPowerSetReq, Context.specanaPktSendReq,
            Context.pmeterPktSendReq, Context.dmmPowerSetReq, Context.dmmPktSendReq,
            Context.lnbPowerSet, Context.lnb18VdcBias]
          split_ifs <;> simp
      | lnbGpioStates =>
          obtain rfl := Option.some.inj equipment
          exact Context.lnbGpioStates_plain
      | wifiSetPowerReq =>
          obtain ⟨actions, set, same⟩ := Option.bind_eq_some_iff.mp equipment
          obtain rfl := Option.some.inj same
          exact Context.wifiSetPowerReq_plain set
      | wifiChangePasswordReq | wifiChangeSsidReq =>
          obtain ⟨actions, changed, same⟩ := Option.bind_eq_some_iff.mp equipment
          obtain rfl := Option.some.inj same
          exact Context.wifiChange_plain changed
      | slavesSendMsg =>
          obtain ⟨registered, -, same⟩ := Option.bind_eq_some_iff.mp equipment
          obtain rfl := Option.some.inj same
          simp only
          split_ifs <;> simp

-----------------------------------------------------------------------------------------
-- The calls of a turn
-----------------------------------------------------------------------------------------

/-- The actions that use the tables or close a descriptor. -/
def calls (actions : List Action) : List Action := actions.filter fun action => !action.plain

theorem mem_calls {actions : List Action} {action : Action}
    : action ∈ calls actions ↔ action ∈ actions ∧ action.plain = false := by
  simp [calls]

@[simp] theorem calls_append (first second : List Action)
    : calls (first ++ second) = calls first ++ calls second :=
  List.filter_append ..

theorem calls_of_plain {actions : List Action} (plain : actions.all Action.plain = true)
    : calls actions = [] := by
  simpa [calls] using plain

namespace State

variable {env : Outcomes} {s : State} {a : Addr} {c : Context} {p : Packet} {way : Turn}

/-- A task leaves its loop in this turn through a closed socket, a read error, inactivity or
a resignation.
-/
def exits (c : Context) : Turn → Bool
  | .closed | .failed => true
  | .idle => c.mode = .masterMode && clientNoDataTime ≤ c.noDataCount + clientSleepTime
  | .dispatches p =>
      p.command = some .clientResignReq && !filtered c p && c.mode ≠ .insertedMasterMode
  | .overrun | .stalled | .takes _ => false

/-- (TurnCalls s c way actions) says which calls use the tables or close a descriptor in a
turn.
-/
inductive TurnCalls (s : State) (c : Context) (way : Turn) : List Action → Prop where
  | quiet (stays : exits c way = false) : TurnCalls s c way []
  | registers (stays : exits c way = false)
      : TurnCalls s c way [.reconnRegisterClientApp c.index]
  /-- Registration has failed, which takes an index outside the tables. -/
  | unregistered (outside : reconnMaxNumClients ≤ c.index)
      : TurnCalls s c way [.reconnRegisterClientApp c.index, .close c.socketFd]
  | returns (left : exits c way = true) : TurnCalls s c way (s.leaveActions c)
  | deRegisters (left : exits c way = true)
      : TurnCalls s c way (s.deRegisterActions c ++ [.reconnReturnClientIndex c.index])
  | extracted (message : way = .takes .masterExtracted)
      : TurnCalls s c way (s.leaveActions c ++ [.close s.globals.insertedMasterSocketFd])

theorem calls_deRegisterActions : calls (s.deRegisterActions c) = s.deRegisterActions c := by
  unfold deRegisterActions
  cases s.registry.deRegisteredSocket c.index (c.mode = .remoteMode) <;> rfl

theorem calls_leaveActions : calls (s.leaveActions c) = s.leaveActions c := by
  change Action.reconnReturnClientIndex c.index :: calls (s.deRegisterActions c) = _
  rw [calls_deRegisterActions]
  rfl

theorem socketClosed_calls : calls (s.socketClosed a c).2 = s.leaveActions c := by
  unfold socketClosed
  simp only
  split_ifs
  · rw [calls_append, calls_leaveActions]
    exact List.append_nil _
  · exact calls_leaveActions

theorem readError_calls
    : calls (s.readError a c).2
        = s.deRegisterActions c ++ [.reconnReturnClientIndex c.index] := by
  unfold readError
  rw [calls_append, calls_deRegisterActions]
  rfl

theorem idlePoll_calls
    : calls (s.idlePoll a c).2 = if exits c .idle = true then s.leaveActions c else [] := by
  unfold idlePoll
  by_cases master : c.mode = .masterMode
  · by_cases inactive : clientNoDataTime ≤ c.noDataCount + clientSleepTime
    · have left : exits c .idle = true := by simp [exits, master, inactive]
      simp only [if_pos master, if_pos inactive, if_pos left, calls_append, calls_leaveActions]
      exact List.append_nil _
    · have stays : ¬ exits c .idle = true := by simp [exits, inactive]
      simp only [if_pos master, if_neg inactive, if_neg stays]
      rfl
  · have stays : ¬ exits c .idle = true := by simp [exits, master]
    simp only [if_neg master, if_neg stays]
    rfl

theorem notification_calls {message : ControlMessage}
    : calls (s.notification c message).2 = [] := by
  refine calls_of_plain ?_
  cases message with
  | masterInserted | masterExtracted | masterAck => rfl
  | lowBattery => simp [notification]
  | meterInserted | meterExtracted =>
      simp only [notification, notification.meter]
      split_ifs <;> simp
  | rmStateChange state =>
      simp only [notification]
      split_ifs <;> simp

theorem controlMessage_calls {message : ControlMessage}
    : TurnCalls s c (.takes message) (calls (s.controlMessage a c message).2) := by
  cases message with
  | masterInserted =>
      have plain : calls [c.notify masterModeRemovedNotif reconnErrorUnknown] = [] :=
        calls_of_plain (by simp)
      simpa [controlMessage, plain] using TurnCalls.quiet rfl
  | masterExtracted =>
      simp only [controlMessage, calls_append, calls_leaveActions]
      exact .extracted rfl
  | masterAck | lowBattery | meterInserted | meterExtracted | rmStateChange =>
      simp only [controlMessage, notification_calls]
      exact .quiet rfl

theorem registerClient_calls {s₁ : State} {c₁ : Context} {actions : List Action}
    (plain : actions.all Action.plain = true) (index : c₁.index = c.index)
    (socketFd : c₁.socketFd = c.socketFd) (stays : exits c way = false)
    : TurnCalls s c way (calls (s₁.registerClient a c₁ actions).2) := by
  unfold registerClient
  rw [index, socketFd]
  have registers : calls (actions ++ [.reconnRegisterClientApp c.index, resetSystem])
      = [.reconnRegisterClientApp c.index] := by
    rw [calls_append, calls_of_plain plain]
    rfl
  cases registered : s₁.registry.reconnRegisterClientApp a c.index c.socketFd with
  | some registry =>
      simp only [registers]
      exact .registers stays
  | none =>
      have outside : reconnMaxNumClients ≤ c.index := by
        by_contra inside
        simp [Registry.reconnRegisterClientApp, not_le.mp inside] at registered
      simp only
      split_ifs
      · rw [calls_append, calls_of_plain plain]
        exact .unregistered outside
      · simp only [registers]
        exact .registers stays

theorem masterModeReq_calls (stays : exits c way = false)
    : TurnCalls s c way (calls (s.masterModeReq env a { c with noDataCount := 0 } p).2) := by
  unfold masterModeReq
  simp only
  split_ifs
  · rw [calls_of_plain (by simp [resetSystem])]
    exact .quiet stays
  · unfold grantMastership
    by_cases fails : env.mqOpen = -1
    · rw [if_pos fails]
      exact .quiet stays
    · rw [if_neg fails]
      refine registerClient_calls ?_ rfl rfl stays
      split_ifs <;> simp
  · refine registerClient_calls ?_ rfl rfl stays
    split_ifs <;> simp

theorem upgradeScriptActions_plain (env : Outcomes)
    : (upgradeScriptActions env).all Action.plain = true := by
  unfold upgradeScriptActions
  split_ifs <;> simp

theorem swUpgradeReq_plain : (s.swUpgradeReq env a c p).2.all Action.plain = true := by
  have scripts := upgradeScriptActions_plain env
  have upgrade := swUpgradeReq_upgrade env s a c p
  generalize s.swUpgradeReq env a c p = result at upgrade ⊢
  cases upgrade with
  | missing => rfl
  | fails retCode => simp [scripts]
  | stumbles => exact scripts
  | ends retCode slaves' remotes' =>
      simp only [List.all_append, disconnectAllClients_plain slaves',
        disconnectAllClients_plain remotes', scripts, Bool.and_true]
      split_ifs <;> simp

/-- A command that is no resignation calls nothing or registers. -/
theorem command_calls (other : p.command ≠ some .clientResignReq)
    (stays : exits c way = false)
    : TurnCalls s c way
        (calls ((s.command env a { c with noDataCount := 0 } p).getD (s.halt, [])).2) := by
  have quiet {actions : List Action} (plain : actions.all Action.plain = true)
      : TurnCalls s c way (calls actions) := by
    rw [calls_of_plain plain]
    exact .quiet stays
  unfold State.command
  split
  · rename_i resigns
    exact absurd resigns other
  · exact masterModeReq_calls stays
  · simp only [Option.getD_some]
    unfold masterModeResignReq
    simp only
    split_ifs <;> exact quiet (by simp [resetSystem])
  · cases answered : s.masterModeResignResp a { c with noDataCount := 0 } p with
    | none => exact quiet rfl
    | some result =>
        cases masterModeResignResp_comes answered with
        | hands success pointer handed =>
            obtain ⟨o, -, rfl⟩ := Option.map_eq_some_iff.mp handed
            exact quiet (by simp)
        | denies denied pointer found => exact quiet (by simp)
        | neither => exact quiet rfl
  · exact quiet swUpgradeReq_plain
  · simp only [Option.getD_some]
    unfold webServiceIpAndPort
    simp only
    split_ifs <;> exact quiet (by simp)
  · cases handled : equipmentCommand env s { c with noDataCount := 0 } p p.command with
    | none => exact quiet rfl
    | some handled => exact quiet (equipmentCommand_plain ‹_›)

/-- A resignation leaves the loop, unless it is an inserted master's. -/
theorem clientResignReq_calls (resigns : p.command = some .clientResignReq)
    (passes : filtered c p = false)
    : TurnCalls s c (.dispatches p)
        (calls (s.clientResignReq a { c with noDataCount := 0 } p).2) := by
  unfold clientResignReq
  simp only
  let c' := { c with noDataCount := 0 }
  have left {first : List Action} (plain : first.all Action.plain = true)
      (other : c.mode ≠ .insertedMasterMode)
      : TurnCalls s c (.dispatches p)
          (calls (first ++ c'.respond p reconnSuccess
            :: s.deRegisterActions c' ++ [.reconnReturnClientIndex c'.index, resetSystem])) := by
    have answered : calls (c'.respond p reconnSuccess :: s.deRegisterActions c')
        = s.deRegisterActions c' := by
      refine (calls_append [c'.respond p reconnSuccess] (s.deRegisterActions c')).trans ?_
      rw [calls_of_plain (by simp), calls_deRegisterActions]
      rfl
    rw [calls_append, calls_append, calls_of_plain plain, answered]
    exact .deRegisters (by simp [exits, resigns, passes, other])
  split_ifs with inserted master
  · rw [calls_of_plain (by simp)]
    exact .quiet (by simp [exits, inserted])
  · exact left (by rfl : [Action.dmmSaveConfig].all Action.plain = true) inserted
  · exact left (by rfl : ([] : List Action).all Action.plain = true) inserted

/-- The calls of a turn. Witness: the ways a turn can go. -/
theorem takeTurn_calls (env : Outcomes) (s : State) (a : Addr) (c : Context) (way : Turn)
    : TurnCalls s c way (calls (s.takeTurn env a c way).2) := by
  cases way with
  | closed =>
      simp only [takeTurn, socketClosed_calls]
      exact .returns rfl
  | failed =>
      simp only [takeTurn, readError_calls]
      exact .deRegisters rfl
  | overrun | stalled => exact .quiet rfl
  | takes message => exact controlMessage_calls
  | idle =>
      simp only [takeTurn, idlePoll_calls]
      by_cases left : exits c .idle = true
      · rw [if_pos left]
        exact .returns left
      · rw [if_neg left]
        exact .quiet (by simpa using left)
  | dispatches p =>
      simp only [takeTurn, dispatch]
      by_cases blocked : filtered c p = true
      · rw [if_pos blocked]
        exact .quiet (by simp [exits, blocked])
      · rw [if_neg blocked]
        by_cases resigns : p.command = some .clientResignReq
        · simp only [command, resigns, Option.getD_some]
          exact clientResignReq_calls resigns (by simpa using blocked)
        · exact command_calls resigns (by simp [exits, resigns])

end State

-----------------------------------------------------------------------------------------
-- Indices inside the tables
-----------------------------------------------------------------------------------------

/-- Every index that the calls use is inside the tables. -/
def IndicesInside (actions : List Action) : Prop :=
  ∀ action ∈ actions, ∀ i, action.tableIndex = some i → i ∈ Registry.indices

/-- What an event must not do for the indices to stay inside the tables: RM_STOP_DATA comes
before the remote monitor's context has an index, and a clean-up comes upon an entry that
refers to a REMOTEMODE context without one.
-/
structure State.UsesIndices (s : State) (event : Event) : Prop where
  stopData
    : ∀ r c, event = .remoteStopData → s.remoteContext = some (r, c) → 0 ≤ c.index
  cleanup
    : s.cleansUp event → ∀ i ∈ s.cleanupDereferences Registry.indices,
        ∀ c, s.entryContext i = some c → c.mode = .remoteMode → 0 ≤ c.index

/-- Every context has an index inside the tables or none yet. -/
def State.Indexed (s : State) : Prop :=
  ∀ a c, s.contexts a = some c → c.index ∈ Registry.indices ∨ c.index = -1

/-- Every step keeps the contexts indexed. -/
theorem TableEffect.indexed {s s' : State} {event : Event} (effect : TableEffect s event s')
    (placed : s.WellPlaced) (indexed : s.Indexed)
    : s'.Indexed := by
  have continued (contexts : ContextsContinue s.contexts s'.contexts) : s'.Indexed := by
    intro a c found
    obtain ⟨old, before, continues⟩ := contexts.origin found
    rw [continues.index]
    exact indexed a old before
  have updated {b : Addr} {new : Option Context}
      (contexts : s'.contexts = Function.update s.contexts b new)
      (fine : ∀ c, new = some c → c.index ∈ Registry.indices ∨ c.index = -1)
      : s'.Indexed := by
    intro a c found
    rw [contexts] at found
    rcases update_apply_eq_iff.mp found with ⟨-, new⟩ | ⟨-, old⟩
    · exact fine c new
    · exact indexed a c old
  cases effect with
  | keeps _ contexts | registers _ _ _ contexts => exact continued contexts
  | leaves _ _ _ contexts | openFails _ _ _ _ contexts => exact updated contexts (by simp)
  | remoteFrees _ _ _ contexts => exact updated contexts (by simp)
  | unregistered handles outside =>
      exact absurd (placed.index_lt handles.toTurns) (not_lt.mpr outside)
  | reserves _ contexts | remoteStops _ _ _ contexts => exact continued (contexts ▸ .refl _)
  | creates _ given _ contexts =>
      refine updated contexts ?_
      rintro c ⟨⟩
      exact .inl (Registry.reconnGetFreeClientIndex_spec given).1
  | allocates _ _ inside _ contexts =>
      refine updated contexts ?_
      rintro c ⟨⟩
      exact .inl inside
  | remoteStarts _ _ index _ contexts =>
      refine updated contexts ?_
      rintro c ⟨⟩
      exact .inr index
  | remoteRegisters _ given _ contexts =>
      refine updated contexts ?_
      rintro c ⟨⟩
      exact .inl (Registry.reconnGetFreeClientIndex_spec given).1
  | cleans _ swept =>
      obtain ⟨-, -, -, -, contexts⟩ := swept
      exact continued (contexts ▸ .refl _)

namespace State

variable {s s' : State} {a : Addr} {c : Context} {event : Event} {output : Output}

/-- Plain actions use no index. -/
theorem plain_of_tableIndex_eq_none {action : Action} {i : Int}
    (index : action.tableIndex = some i)
    : action.plain = false := by
  cases action <;> simp_all [Action.tableIndex, Action.plain]

theorem indicesInside_iff_calls {actions : List Action}
    : IndicesInside actions ↔ IndicesInside (calls actions) := by
  constructor
  · intro inside action member
    exact inside action (mem_calls.mp member).1
  · intro inside action member i index
    exact inside action (mem_calls.mpr ⟨member, plain_of_tableIndex_eq_none index⟩) i index

/-- What reconnDeRegisterClientApp calls outside the tables uses no index. -/
theorem index_of_deRegisterActions {action : Action} {i : Int}
    (member : action ∈ s.deRegisterActions c) (index : action.tableIndex = some i)
    : i = c.index := by
  unfold deRegisterActions at member
  rcases List.mem_cons.mp member with rfl | closes
  · exact (Option.some.inj index).symm
  · cases closed : s.registry.deRegisteredSocket c.index (c.mode = .remoteMode) with
    | none => simp [closed] at closes
    | some fd =>
        obtain rfl : action = .close fd := by simpa [closed] using closes
        cases index

theorem index_of_leaveActions {action : Action} {i : Int}
    (member : action ∈ s.leaveActions c) (index : action.tableIndex = some i)
    : i = c.index := by
  rcases List.mem_cons.mp member with rfl | rest
  · exact (Option.some.inj index).symm
  · exact index_of_deRegisterActions rest index

/-- A turn uses the index of the task's context. -/
theorem TurnCalls.indicesInside {way : Turn} {actions : List Action}
    (turnCalls : TurnCalls s c way actions) (inside : c.index ∈ Registry.indices)
    : IndicesInside actions := by
  intro action member i index
  have own : i = c.index := by
    cases turnCalls with
    | quiet => cases member
    | registers | unregistered =>
        simp only [List.mem_cons, List.not_mem_nil, or_false] at member
        rcases member with rfl | rfl <;> simp_all [Action.tableIndex]
    | returns => exact index_of_leaveActions member index
    | deRegisters =>
        rcases List.mem_append.mp member with first | last
        · exact index_of_deRegisterActions first index
        · obtain rfl := List.mem_singleton.mp last
          exact (Option.some.inj index).symm
    | extracted =>
        rcases List.mem_append.mp member with first | last
        · exact index_of_leaveActions first index
        · obtain rfl := List.mem_singleton.mp last
          cases index
  exact own ▸ inside

/-- A visit of the sweep uses the index of the REMOTEMODE context that it finds. -/
theorem index_cleanupEntryActions {i k : Int}
    : (∃ action ∈ s.cleanupEntryActions i, action.tableIndex = some k)
      ↔ ∃ c, s.entryContext i = some c ∧ c.mode = .remoteMode ∧ c.index = k := by
  unfold cleanupEntryActions entryContext
  cases entry : s.registry.activeClientsList i with
  | free => simp
  | reserved => simp
  | registered a =>
      cases found : s.contexts a with
      | none => simp [found]
      | some c =>
          by_cases remote : c.mode = .remoteMode
          · simp only [found, if_pos remote]
            constructor
            · rintro ⟨action, member, index⟩
              refine ⟨c, rfl, remote, ?_⟩
              rcases List.mem_cons.mp member with rfl | rest
              · exact Option.some.inj index
              · exact (index_of_deRegisterActions rest index).symm
            · rintro ⟨_, ⟨⟩, -, rfl⟩
              exact ⟨_, List.mem_cons_self .., rfl⟩
          · simp [found, remote]

/-- The sweep uses the indices of the REMOTEMODE contexts that it finds, by induction on the
indices it visits.
-/
theorem index_cleanupActions (is : List Int) {k : Int}
    : (∃ action ∈ s.cleanupActions is, action.tableIndex = some k)
      ↔ ∃ j ∈ s.cleanupDereferences is,
        ∃ c, s.entryContext j = some c ∧ c.mode = .remoteMode ∧ c.index = k := by
  induction is generalizing s with
  | nil => simp [cleanupActions, cleanupDereferences]
  | cons i rest ih =>
      rw [cleanupActions, cleanupDereferences]
      have here : (∃ j ∈ (if s.registry.activeClientsList i = .free then [] else [i]),
            ∃ c, s.entryContext j = some c ∧ c.mode = .remoteMode ∧ c.index = k)
          ↔ ∃ c, s.entryContext i = some c ∧ c.mode = .remoteMode ∧ c.index = k := by
        by_cases free : s.registry.activeClientsList i = .free
        · simp [free, entryContext]
        · simp [free]
      cases visited : s.cleanupEntry i with
      | none =>
          have nothing : s.entryContext i = none := by
            unfold cleanupEntry at visited
            unfold entryContext
            split at visited <;> simp_all
          simp only [List.append_nil]
          rw [here]
          simp [nothing]
      | some s' =>
          have later : (∃ j ∈ s'.cleanupDereferences rest,
                ∃ c, s'.entryContext j = some c ∧ c.mode = .remoteMode ∧ c.index = k)
              ↔ ∃ j ∈ s'.cleanupDereferences rest,
                ∃ c, s.entryContext j = some c ∧ c.mode = .remoteMode ∧ c.index = k := by
            refine exists_congr fun j => and_congr_right fun member => ?_
            rw [entryContext_of_visit visited member]
          simp only [List.mem_append, or_and_right, exists_or]
          rw [here, index_cleanupEntryActions, ih, later]

/-- A context that is in use has its index inside the tables unless it is negative. -/
theorem Indexed.mem_iff (indexed : s.Indexed) (found : s.contexts a = some c)
    : c.index ∈ Registry.indices ↔ 0 ≤ c.index := by
  constructor
  · exact fun inside => (Registry.mem_indices.mp inside).1
  · intro nonneg
    rcases indexed a c found with inside | minusOne
    · exact inside
    · omega

/-- remoteMonitorActivate(NO) uses indices inside the tables exactly if the contexts that the
sweep finds have one.
-/
theorem activateNo_indicesInside (indexed : s.Indexed)
    : IndicesInside s.remoteMonitorActivateNoActions
      ↔ (s.remote.remoteMonitorActive = true
        → ∀ i ∈ s.cleanupDereferences Registry.indices,
          ∀ c, s.entryContext i = some c → c.mode = .remoteMode → 0 ≤ c.index) := by
  have known {i : Int} {c : Context} (found : s.entryContext i = some c)
      : c.index ∈ Registry.indices ↔ 0 ≤ c.index := by
    unfold entryContext at found
    split at found
    · exact indexed.mem_iff found
    · cases found
    · cases found
  unfold remoteMonitorActivateNoActions
  split_ifs with active
  · simp only [active, forall_const]
    constructor
    · intro inside i member c found remote
      obtain ⟨action, calls, index⟩ :=
        (index_cleanupActions Registry.indices).mpr ⟨i, member, c, found, remote, rfl⟩
      exact (known found).mp (inside action (List.mem_append_left _ calls) c.index index)
    · intro nonneg action member k index
      rcases List.mem_append.mp member with swept | closes
      · obtain ⟨i, member, c, found, remote, rfl⟩ :=
          (index_cleanupActions Registry.indices).mp ⟨action, swept, index⟩
        exact (known found).mpr (nonneg i member c found remote)
      · split_ifs at closes
        · simp only [List.mem_cons, List.not_mem_nil, or_false] at closes
          rcases closes with rfl | rfl <;> cases index
        · cases closes
  · simp [active, IndicesInside]

/-- An event that neither stops the data of the remote monitor nor cleans up. -/
theorem usesIndices_of_quiet (noStop : event ≠ .remoteStopData) (noCleanup : ¬ s.cleansUp event)
    : s.UsesIndices event :=
  ⟨fun _ _ stops => absurd stops noStop, fun cleanup => absurd cleanup noCleanup⟩

/-- RM_SEND_DATA with an index left to hand out. -/
theorem usesIndices_of_room
    (room : (s.remoteContext.any fun (_, c) =>
      (s.registry.reconnGetFreeClientIndex c.index).isSome) = true)
    : s.UsesIndices .remoteSendData := by
  refine usesIndices_of_quiet (by simp) ?_
  rintro ⟨-, r, c, found, full⟩
  simp [found, full] at room

/-- RM_STOP_DATA deregisters inside the tables exactly if its context has an index. -/
theorem remoteStopData_indicesInside (indexed : s.Indexed)
    : IndicesInside s.remoteStopDataActions ↔ s.UsesIndices .remoteStopData := by
  constructor
  · intro inside
    refine ⟨fun r c _ found => ?_, False.elim⟩
    have member : Action.reconnDeRegisterClientApp c.index ∈ s.remoteStopDataActions := by
      simp only [remoteStopDataActions, found]
      exact List.mem_cons_self ..
    exact (Registry.mem_indices.mp (inside _ member _ rfl)).1
  · intro uses action member i index
    unfold remoteStopDataActions at member
    split at member
    · rename_i r c found
      obtain rfl := index_of_deRegisterActions member index
      exact (indexed.mem_iff (remoteContext_task found).1).mpr (uses.stopData r c rfl found)
    · cases member

/-- RM_SEND_DATA registers inside the tables, or deactivates the monitor where no index is
left.
-/
theorem remoteSendData_indicesInside (indexed : s.Indexed)
    : IndicesInside s.remoteSendDataActions ↔ s.UsesIndices .remoteSendData := by
  have quiet (noCleanup : ¬ s.cleansUp .remoteSendData)
      (inside : IndicesInside s.remoteSendDataActions)
      : IndicesInside s.remoteSendDataActions ↔ s.UsesIndices .remoteSendData :=
    ⟨fun _ => usesIndices_of_quiet (by simp) noCleanup, fun _ => inside⟩
  cases found : s.remoteContext with
  | none =>
      refine quiet ?_ ?_
      · rintro ⟨-, r, c, here, -⟩
        simp [found] at here
      · simp [IndicesInside, remoteSendDataActions, found]
  | some context =>
      obtain ⟨r, c⟩ := context
      cases given : s.registry.reconnGetFreeClientIndex c.index with
      | none =>
          rw [(remoteSendData_full found given).2]
          refine (activateNo_indicesInside indexed).trans ?_
          exact ⟨fun cleanup => ⟨by simp, fun cleans => cleanup cleans.1⟩,
            fun uses active => uses.cleanup ⟨active, r, c, found, given⟩⟩
      | some result =>
          obtain ⟨registry, index⟩ := result
          have inside := (Registry.reconnGetFreeClientIndex_spec given).1
          refine quiet ?_ fun action member i used => ?_
          · rintro ⟨-, r', c', found', full⟩
            obtain ⟨rfl, rfl⟩ := Prod.mk.inj (Option.some.inj (found.symm.trans found'))
            simp [given] at full
          · rw [remoteSendDataActions_room found given, List.mem_singleton] at member
            subst member
            exact Option.some.inj used ▸ inside

/-- A step uses indices inside the tables exactly if it keeps to the conditions. Witness: a
client task uses the index it was given.
-/
theorem indicesInside_iff (placed : s.WellPlaced) (indexed : s.Indexed)
    (taken : s.step event = some (s', output))
    : IndicesInside output.actions ↔ s.UsesIndices event := by
  have quiet (noStop : event ≠ .remoteStopData) (noCleanup : ¬ s.cleansUp event)
      (inside : IndicesInside output.actions)
      : IndicesInside output.actions ↔ s.UsesIndices event :=
    ⟨fun _ => usesIndices_of_quiet noStop noCleanup, fun _ => inside⟩
  obtain ⟨-, enabled, performed⟩ := step_eq_some taken
  cases event with
  | iterate a received env =>
      obtain ⟨c, way, turns, -, rfl⟩ := step_iterate taken
      refine quiet (by simp) id (indicesInside_iff_calls.mpr ?_)
      exact (takeTurn_calls env s a c way).indicesInside (placed _ _ turns.task).1
  | start a =>
      obtain ⟨c, found, starting⟩ := starting_of_enabled enabled
      simp only [perform, found] at performed
      obtain ⟨-, rfl⟩ := Prod.mk.inj performed.symm
      refine quiet (by simp) id fun action member i index => ?_
      have own := (placed.local_ found (by simp [starting])).1
      unfold Output.of prologue at member
      simp only at member
      split_ifs at member
      · simp only [List.mem_cons, List.not_mem_nil, or_false] at member
        rcases member with rfl | rfl
        · cases index
        · exact Option.some.inj index ▸ own
      · obtain rfl := List.mem_singleton.mp member
        cases index
  | accept fd mem started =>
      obtain ⟨-, rfl⟩ := Prod.mk.inj performed.symm
      refine quiet (by simp) id fun action member i index => ?_
      unfold Output.of accept at member
      simp only at member
      split at member
      · obtain rfl := List.mem_singleton.mp member
        cases index
      · cases mem with
        | none =>
            obtain rfl := List.mem_singleton.mp member
            cases index
        | some mem => cases member
  | remoteStopData =>
      obtain ⟨-, rfl⟩ := Prod.mk.inj performed.symm
      exact remoteStopData_indicesInside indexed
  | remoteDeactivate =>
      obtain ⟨-, rfl⟩ := Prod.mk.inj performed.symm
      exact (activateNo_indicesInside indexed).trans
        ⟨fun cleanup => ⟨by simp, cleanup⟩, fun uses => uses.cleanup⟩
  | remoteStart mem =>
      obtain ⟨-, rfl⟩ := Prod.mk.inj performed.symm
      cases mem with
      | none =>
          exact (activateNo_indicesInside indexed).trans
            ⟨fun cleanup => ⟨by simp, cleanup⟩, fun uses => uses.cleanup⟩
      | some a => exact quiet (by simp) id (by simp [IndicesInside, Output.of])
  | remoteSendData =>
      obtain ⟨-, rfl⟩ := Prod.mk.inj performed.symm
      exact remoteSendData_indicesInside indexed
  | _ =>
      obtain ⟨-, rfl⟩ := Prod.mk.inj performed.symm
      exact quiet (by simp) id (by simp [IndicesInside, Output.of])

end State

/-- In a run every index that is used on the tables is inside them, exactly if RM_STOP_DATA
comes only once the remote monitor's context has an index, and a clean-up finds no registered
REMOTEMODE context without one.
-/
theorem indicesInside_throughout_iff {transitions : List (Transition State Event Output)}
    {finish : State} (run : State.Runs .initial transitions finish)
    : (∀ t ∈ transitions, IndicesInside t.output.actions)
      ↔ ∀ t ∈ transitions, t.before.UsesIndices t.event := by
  have keep (s : State) (event : Event) (s' : State) (output : Output)
      (known : s.WellPlaced ∧ s.Indexed) (taken : s.step event = some (s', output))
      : s'.WellPlaced ∧ s'.Indexed :=
    ⟨(State.step_effect taken).wellPlaced known.1,
      (State.step_table taken).indexed known.1 known.2⟩
  have around := run.invariant_always keep ⟨State.wellPlaced_initial, nofun⟩
  refine forall₂_congr fun t member => ?_
  obtain ⟨placed, indexed⟩ := (around.1 t member).1
  exact State.indicesInside_iff placed indexed (run.taken t member)

/-- The remote client is registered, stopped and cleaned up at its index. -/
theorem indicesInside_of_stopData
    : (replay State.step .initial
        (remoteData ++ [.remoteStopData, .remoteSendData, .remoteDeactivate])).1.Forall
        fun t => IndicesInside t.output.actions := by
  refine List.forall_iff_forall_mem.mpr ((indicesInside_throughout_iff (replay_run _ _)).mpr ?_)
  refine forall_replay_cons rfl (State.usesIndices_of_quiet (by simp) id) ?_
  refine forall_replay_cons rfl (State.usesIndices_of_quiet (by simp) id) ?_
  refine forall_replay_cons rfl (State.usesIndices_of_quiet nofun id) ?_
  refine forall_replay_cons rfl (State.usesIndices_of_quiet (by simp) id) ?_
  refine forall_replay_cons rfl (State.usesIndices_of_quiet (by simp) id) ?_
  refine forall_replay_cons rfl (State.usesIndices_of_room (by decide +kernel)) ?_
  refine forall_replay_cons rfl ⟨fun r c _ found => ?_, False.elim⟩ ?_
  · have index := (congrArg (Option.map fun (_, c) => c.index) found).symm.trans
      (by decide +kernel : _ = some (2 : Int))
    have two : c.index = 2 := Option.some.inj index
    omega
  refine forall_replay_cons rfl (State.usesIndices_of_room (by decide +kernel)) ?_
  refine forall_replay_cons rfl ⟨by simp, fun _ i member c found remote => ?_⟩
    (forall_replay_nil _)
  have indexed (s : State)
      (known : (s.cleanupDereferences Registry.indices).all (fun i =>
        (s.entryContext i).all fun c => 0 ≤ c.index) = true)
      (member : i ∈ s.cleanupDereferences Registry.indices) (found : s.entryContext i = some c)
      : 0 ≤ c.index := by
    simpa [found] using List.all_eq_true.mp known i member
  exact indexed _ (by decide +kernel) member found

/-- RM_STOP_DATA before RM_SEND_DATA deregisters the remote client at index -1. -/
theorem stopData_outside
    : ¬ ∀ transitions finish, State.Runs .initial transitions finish
        → ∀ t ∈ transitions, IndicesInside t.output.actions := by
  intro always
  have last := always _ _
    (replay_run State.initial (remoteData.dropLast ++ [.remoteStopData]))
    _ (List.mem_of_getElem? (i := 5) rfl)
  have index := last (.reconnDeRegisterClientApp (-1)) (by decide +kernel) (-1) rfl
  exact absurd index (by decide)

end Reconn.Client
