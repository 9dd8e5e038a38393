import Reconn.Client.Scans

/-! The answers to the requests of a master: which responses with the message id of a request
its handler sends back to the client, and when that is exactly one.
-/

namespace Reconn.Client

open TransitionRuns

/-- The bytes are those of a response packet with the message id of the request. -/
def Packet.answeredBy (p : Packet) (buffer : List UInt8) : Bool :=
  buffer[4]? = some p.messageId.1 && buffer[5]? = some p.messageId.2

/-- The action sends a response to the request back to the client: out of the 30 pin connector
to an inserted master, else on the client's socket.
-/
def Context.isAnswer (c : Context) (p : Packet) : Action → Bool
  | .libiphonedTx buffer => c.mode = .insertedMasterMode && p.answeredBy buffer
  | .sendSocket socketFd buffer =>
      c.mode ≠ .insertedMasterMode && socketFd = c.socketFd && p.answeredBy buffer
  | _ => false

/-- How many responses to the request the actions send back to the client. -/
def Context.answers (c : Context) (p : Packet) (actions : List Action) : Nat :=
  actions.countP (c.isAnswer p)

/-- The requests whose handlers answer in every branch or mean to. The ids without a case of
their own are among them, as that of LNB_HARDWARE_FAIL is.
-/
def Command.wantsAnswer : Option Command → Bool
  | some .reconnInitStateSetReq | some .wifiSetPowerReq | some .wifiChangePasswordReq
  | some .wifiChangeSsidReq | some .specanaPowerSetReq | some .dmmPowerSetReq
  | some .dmmBuiltintestReq | some .lnbPowerSetReq | some .lnbSa10Mhz | some .lnb10Mhz
  | some .lnb18VdcBias | some .lnbGpioStates | some .swUpgradeReq | some .fwUpgradeReq
  | none => true
  | _ => false

namespace State

/-- Every entry of the client table that is not NULL refers to an allocated context. -/
def Resolves (s : State) : Prop := ∀ i ∈ s.nonNull, (s.entryContext i).isSome = true

/-- The upgrade succeeds, so that the other clients are disconnected before the answer. -/
def Upgrades (env : Outcomes) : Prop :=
  env.upgradeScript.getD env.extractBundle = reconnSuccess
    ∨ env.upgradeScript.getD env.extractBundle = reconnNeedsReboot

/-- The default network name fits its array, and the prints that lack arguments return: that
of a marker file that cannot be created, and that of a state that is none.
-/
def InitAnswers (env : Outcomes) (p : Packet) : Prop :=
  (p.dataPayload 0 ≠ nonDefault
      → (p.dataPayload 0 = default_ → env.defaultFileOpens = false)
      → env.shortPrintReturns = true)
    ∧ (p.dataPayload 0 = default_ → env.defaultFileOpens = true
      → env.wifiUpdateHostapdConfFile wifiPasswdToken = reconnSuccess
      → (env.newSsidTail.getD []).length ≤ 27)

/-- When the handler of a request sends exactly one answer. The default network name fits and
prints that lack arguments return; the power of the analyzer is set with one of the two values,
and that of the DMM is not switched off; an upgrade has a bundle that can be extracted; and no
entry is in the way of a disconnection of the clients.
-/
def AnswersOnce (s : State) (env : Outcomes) (p : Packet) : Option Command → Prop
  | some .reconnInitStateSetReq => InitAnswers env p
  | some .specanaPowerSetReq => p.dataPayload 0 = powerOn ∨ p.dataPayload 0 = powerOff
  | some .dmmPowerSetReq => p.dataPayload 0 ≠ powerOff
  | some .wifiSetPowerReq =>
      p.dataPayload 0 = wifiDisable → env.wifiGetState = wifiEnable → s.Resolves
  | some .wifiChangePasswordReq =>
      8 ≤ p.pktLength → p.pktLength ≤ wifiPasswdMaxLength → s.Resolves
  | some .wifiChangeSsidReq => p.pktLength ≤ wifiSsidMaxLength → s.Resolves
  | some .swUpgradeReq =>
      env.extractBundle = reconnSuccess ∧ (Upgrades env → s.Resolves)
  | _ => True

end State

-----------------------------------------------------------------------------------------
-- Counting answers
-----------------------------------------------------------------------------------------

/-- The id of LNB_GPIO_STATES in the header of a packet. -/
theorem Packet.messageId_of_lnbGpioStates (p : Packet)
    (asks : p.command = some .lnbGpioStates)
    : highByte lnbGpioStatesId = p.messageId.1 ∧ lowByte lnbGpioStatesId = p.messageId.2 := by
  have id : p.cmdid.toNat = 0x0605 := by
    unfold Packet.command Command.ofId at asks
    split at asks <;> first | assumption | cases asks
  rw [← UInt16.toNat_inj.mp (id.trans rfl : p.cmdid.toNat = lnbGpioStatesId.toNat)]
  exact ⟨highByte_ofNat .., lowByte_ofNat ..⟩

namespace Context

variable (c : Context) (env : Outcomes) (p : Packet)

@[simp] theorem answers_nil : c.answers p [] = 0 := rfl

@[simp] theorem answers_append (first second : List Action)
    : c.answers p (first ++ second) = c.answers p first + c.answers p second :=
  List.countP_append

/-- The request's own answer. -/
@[simp] theorem answers_respond_cons (errCode : ReconnErrCode) (rest : List Action)
    : c.answers p (c.respond p errCode :: rest) = c.answers p rest + 1 := by
  have carries (length : UInt8) (payload : List UInt8)
      : p.answeredBy
          ([highByte genericResponse, lowByte genericResponse, 0, length,
            p.messageId.1, p.messageId.2] ++ payload) = true := by
    simp [Packet.answeredBy]
  apply List.countP_cons_of_pos
  unfold respond sendReconnResponse
  by_cases inserted : c.mode = .insertedMasterMode
  · simp only [if_pos inserted, isAnswer, carries, decide_eq_true inserted, Bool.and_self]
  · simp only [if_neg inserted, isAnswer, carries, decide_eq_true inserted, decide_true,
      Bool.and_self]

/-- What is no transmission is no answer. -/
theorem answers_cons_of_ne {action : Action} (other : c.isAnswer p action = false)
    (rest : List Action)
    : c.answers p (action :: rest) = c.answers p rest :=
  List.countP_cons_of_neg (by simp [other])

@[simp] theorem answers_reset_cons (theEqpt : PowerMgmtEqptType) (rest : List Action)
    : c.answers p (.resetPowerStandbyCounter theEqpt :: rest) = c.answers p rest :=
  c.answers_cons_of_ne p rfl rest

@[simp] theorem answers_gpio_cons (theGpio : GpioName) (theAction : GpioAction)
    (rest : List Action)
    : c.answers p (.reconnGpioAction theGpio theAction :: rest) = c.answers p rest :=
  c.answers_cons_of_ne p rfl rest

/-- The notice that disconnects a client has no message id where a response has it. -/
theorem answers_disconnectAllClients {s : State} {mode : Mode} {actions : List Action}
    (disconnected : s.disconnectAllClients mode = some actions)
    : c.answers p actions = 0 := by
  refine List.countP_eq_zero.mpr fun action member => ?_
  have short : p.answeredBy (formatReconnPacket reconnQuitingNotif) = false := rfl
  obtain ⟨fd, rfl | rfl⟩ := State.mem_disconnectAllClients disconnected member
  · simp [isAnswer, short]
  · simp [isAnswer]

-----------------------------------------------------------------------------------------
-- The handlers
-----------------------------------------------------------------------------------------

theorem answers_answered (errCode : ReconnErrCode) (theEqpt : PowerMgmtEqptType)
    : c.answers p (c.answered p errCode theEqpt) = 1 := by
  simp [answered]

/-- Setting the initial state answers once if the handler comes to its end. -/
theorem answers_reconnInitStateSetReq
    : c.answers p ((c.reconnInitStateSetReq env p).getD []) = 1 ↔ State.InitAnswers env p := by
  have fits : (ascii "reconn" ++ env.newSsidTail.getD []).length < tmpSsidSize
      ↔ (env.newSsidTail.getD []).length ≤ 27 := by
    rw [List.length_append, show (ascii "reconn").length = 6 by decide, tmpSsidSize,
      wifiSsidMaxLength]
    omega
  have once (changes : List Action × ReconnErrCode) (none : c.answers p changes.1 = 0)
      : c.answers p (changes.1
          ++ [c.respond p changes.2, .resetPowerStandbyCounter .resetSystemShutdownTime]) = 1 := by
    rw [answers_append, none]
    simp
  have other : default_ ≠ nonDefault := by decide
  unfold reconnInitStateSetReq State.InitAnswers
  simp only [fits]
  split_ifs with leaves returns opens accepts short prints prints
  · exact iff_of_true (once _ rfl) ⟨fun no => absurd leaves no,
      fun yes => absurd (yes.symm.trans leaves) other⟩
  · exact iff_of_true (once _ rfl) ⟨fun _ closed => absurd (closed returns) (by simp [opens]),
      fun _ _ _ => short⟩
  · exact iff_of_false (by simp) fun answers => short (answers.2 returns opens accepts)
  · exact iff_of_true (once _ rfl) ⟨fun _ closed => absurd (closed returns) (by simp [opens]),
      fun _ _ success => absurd success accepts⟩
  · exact iff_of_true (once _ rfl) ⟨fun _ _ => prints, fun _ isOpen => absurd isOpen opens⟩
  · exact iff_of_false (by simp) fun answers =>
      prints (answers.1 leaves fun _ => by simpa using opens)
  · exact iff_of_true (once _ rfl) ⟨fun _ _ => prints, fun same => absurd same returns⟩
  · exact iff_of_false (by simp) fun answers =>
      prints (answers.1 leaves fun same => absurd same returns)

theorem answers_gpioPowerSet (theGpio : GpioName) (failed : ReconnErrCode)
    : c.answers p (c.gpioPowerSet env p theGpio failed) = 1 := by
  simp [gpioPowerSet]

/-- The four LNB requests that switch a line answer once. -/
theorem answers_lnbPowerSet (theGpio : GpioName)
    : c.answers p (c.lnbPowerSet env p theGpio) = 1 := by
  unfold lnbPowerSet
  split_ifs <;> simp [answers_gpioPowerSet]

theorem answers_lnb18VdcBias : c.answers p (c.lnb18VdcBias env p) = 1 := by
  unfold lnb18VdcBias
  split_ifs <;> simp [answers_gpioPowerSet]

/-- An invalid payload for the analyzer's power falls out of the handler. -/
theorem answers_specanaPowerSetReq
    : c.answers p (c.specanaPowerSetReq env p) = 1
      ↔ p.dataPayload 0 = powerOn ∨ p.dataPayload 0 = powerOff := by
  unfold specanaPowerSetReq
  split_ifs with valid
  · simp [answers_gpioPowerSet, valid]
  · simp [valid]

/-- The branch of the DMM that powers off answers, and then the branches' common answer is
sent too.
-/
theorem answers_dmmPowerSetReq
    : c.answers p (c.dmmPowerSetReq env p) = 1 ↔ p.dataPayload 0 ≠ powerOff := by
  have powers : ∀ action ∈ [Action.dmmPowerDown, .dmmInit], c.isAnswer p action = false := by
    simp [isAnswer]
  obtain ⟨down, init⟩ := by simpa using powers
  unfold dmmPowerSetReq
  simp only
  split_ifs with off on inactive
  · simp [c.answers_cons_of_ne p down, off]
  · simp [c.answers_cons_of_ne p init, off]
  · simp [off]
  · simp [off]

/-- A response packet that is sent back to the client under the id of the request. -/
theorem isAnswer_transmit {pkt : ResponsePacket} (length : Nat)
    (high : highByte pkt.messageId = p.messageId.1)
    (low : lowByte pkt.messageId = p.messageId.2)
    : c.isAnswer p (c.transmit c.socketFd pkt length) = true := by
  have carries : p.answeredBy (pkt.bytes (reconnRspPacketHeaderSize + length)) = true := by
    unfold Packet.answeredBy ResponsePacket.bytes reconnRspPacketHeaderSize
    rw [List.getElem?_take_of_lt (by omega), List.getElem?_take_of_lt (by omega)]
    simp [high, low]
  unfold transmit
  by_cases inserted : c.mode = .insertedMasterMode
  · simp only [if_pos inserted, isAnswer, carries, decide_eq_true inserted, Bool.and_self]
  · simp only [if_neg inserted, isAnswer, carries, decide_eq_true inserted, decide_true,
      Bool.and_self]

/-- The states of the lines are sent under the id of the request. -/
theorem answers_lnbGpioStates (asks : p.command = some .lnbGpioStates)
    : c.answers p (c.lnbGpioStates env p).2 = 1 := by
  obtain ⟨high, low⟩ := p.messageId_of_lnbGpioStates asks
  have reads (lines : List GpioName)
      : c.answers p (lines.map fun line => .reconnGpioAction line .read) = 0 := by
    refine List.countP_eq_zero.mpr fun action member => ?_
    obtain ⟨line, -, rfl⟩ := List.mem_map.mp member
    simp [isAnswer]
  unfold lnbGpioStates
  simp only
  split_ifs
  · rw [answers_append, reads, answers,
      List.countP_cons_of_pos (isAnswer_transmit c p 3 high low)]
    rfl
  · rw [answers_append, reads, answers_respond_cons]
    rfl

/-- A handler that disconnects the clients of a mode before it answers once does so exactly if
no entry is in the way.
-/
theorem answers_disconnected (s : State) (mode : Mode) {handler : List Action → List Action}
    (once : ∀ actions, c.answers p actions = 0 → c.answers p (handler actions) = 1)
    : c.answers p (((s.disconnectAllClients mode).map handler).getD []) = 1
      ↔ s.Resolves := by
  have defined : (s.disconnectAllClients mode).isSome = true ↔ s.Resolves :=
    Scan.defined_iff s (.disconnectAllClients mode)
  rw [← defined]
  cases disconnected : s.disconnectAllClients mode with
  | none => simp
  | some actions =>
      simp [once actions (answers_disconnectAllClients c p disconnected)]

/-- Setting the power of the WiFi disconnects the slaves if a WiFi that is on is switched off. -/
theorem answers_wifiSetPowerReq (s : State)
    : c.answers p ((c.wifiSetPowerReq env p s).getD []) = 1
      ↔ (p.dataPayload 0 = wifiDisable → env.wifiGetState = wifiEnable → s.Resolves) := by
  have set (actions : List Action) (none : c.answers p actions = 0)
      : c.answers p (.wifiSetState (p.dataPayload 0)
          :: actions ++ [
            c.respond p (env.wifiSetState (p.dataPayload 0)),
            .resetPowerStandbyCounter .resetSystemShutdownTime
          ]) = 1 := by
    rw [List.cons_append, c.answers_cons_of_ne p rfl]
    simp [none]
  unfold wifiSetPowerReq
  simp only [← and_imp]
  split_ifs with valid off
  · rw [answers_disconnected c p s .slaveMode set]
    simp [off]
  · simpa [off] using set [] rfl
  · have other : p.dataPayload 0 ≠ wifiDisable := fun same => valid (.inr same)
    simp [other]

/-- Changing the password or the name of the network disconnects the slaves, unless the new
value is refused before.
-/
theorem answers_wifiChange (s : State) (token : String) (accepted : Nat → Bool)
    : c.answers p ((c.wifiChange env p s token accepted).getD []) = 1
      ↔ (accepted p.pktLength = true → s.Resolves) := by
  have reload (retCode : ReconnErrCode)
      : c.answers p
          (if retCode = reconnSuccess then [.system "/etc/init.d/hostapd reload"] else []) = 0 := by
    split_ifs <;> rfl
  unfold wifiChange
  by_cases valid : accepted p.pktLength = true
  · simp only [valid, true_imp_iff]
    refine answers_disconnected c p s .slaveMode fun actions none => ?_
    rw [answers_append, answers_append, answers_append, none, reload, c.answers_cons_of_ne p rfl]
    simp
  · simp [valid]

/-- An upgrade answers if there is a bundle, and disconnects the other clients before if it
succeeds.
-/
theorem answers_swUpgradeReq (s : State) (a : Addr)
    : c.answers p (s.swUpgradeReq env a c p).2 = 1
      ↔ env.extractBundle = reconnSuccess ∧ (State.Upgrades env → s.Resolves) := by
  have defined (mode : Mode) : (s.disconnectAllClients mode).isSome = true ↔ s.Resolves :=
    Scan.defined_iff s (.disconnectAllClients mode)
  have script : c.answers p
      (.wifiCleanUp
        :: if env.upgradeScript.isSome then
          [.system ("chmod ugo+x " ++ State.swUpgradeReq.upgradeScriptName),
            .system State.swUpgradeReq.upgradeScriptName,
            .unlink State.swUpgradeReq.upgradeScriptName]
        else []) = 0 := by
    split_ifs <;> rfl
  have reboot (retCode : ReconnErrCode)
      : c.answers p (if retCode = reconnNeedsReboot then [.system "reboot"] else []) = 0 := by
    split_ifs <;> rfl
  unfold State.swUpgradeReq State.Upgrades
  by_cases extracted : env.extractBundle = reconnSuccess
  · rw [if_pos extracted, and_iff_right extracted]
    by_cases upgrades : env.upgradeScript.getD env.extractBundle = reconnSuccess
        ∨ env.upgradeScript.getD env.extractBundle = reconnNeedsReboot
    · rw [imp_iff_right upgrades, ← defined .slaveMode]
      simp only [if_pos upgrades]
      cases slaves : s.disconnectAllClients .slaveMode with
      | none => simp [script]
      | some slaves' =>
          have resolves := (defined .slaveMode).mp (by rw [slaves]; rfl)
          obtain ⟨remotes', remotes⟩ :=
            Option.isSome_iff_exists.mp ((defined .remoteMode).mpr resolves)
          simp only [remotes, answers_append, script, reboot,
            answers_disconnectAllClients c p slaves, answers_disconnectAllClients c p remotes,
            answers_gpio_cons, answers_respond_cons]
          simp [answers, isAnswer]
    · simp only [if_neg upgrades, answers_append, script]
      simp [upgrades]
  · simp [extracted]

end Context

namespace State

variable {env : Outcomes} {s : State} {a : Addr} {c : Context} {p : Packet}

/-- The handler of a request answers once exactly under its condition. Witness: the handlers
one by one.
-/
theorem command_answers_iff {cmdid : Option Command} (asks : p.command = cmdid)
    (wants : Command.wantsAnswer cmdid = true)
    : c.answers p ((s.command env a c p).getD (s.halt, [])).2 = 1
      ↔ s.AnswersOnce env p cmdid := by
  have keeps (handled : Option (List Action))
      : (((handled.bind (equipmentCommand.keep c)).map fun handled =>
          (s.setContext a { c with theResponsePkt := handled.1 }, handled.2)).getD
            (s.halt, [])).2 = handled.getD [] := by
    cases handled <;> rfl
  unfold command
  rw [asks]
  cases cmdid with
  | none => exact iff_of_true (c.answers_answered p _ _) trivial
  | some cmdid =>
      cases cmdid with
      | reconnInitStateSetReq =>
          simp only [equipmentCommand, keeps]
          exact c.answers_reconnInitStateSetReq env p
      | wifiSetPowerReq =>
          simp only [equipmentCommand, keeps]
          exact c.answers_wifiSetPowerReq env p s
      | wifiChangePasswordReq =>
          simp only [equipmentCommand, keeps]
          rw [Context.wifiChangePasswordReq, c.answers_wifiChange env p s]
          simp [AnswersOnce]
      | wifiChangeSsidReq =>
          simp only [equipmentCommand, keeps]
          rw [Context.wifiChangeSsidReq, c.answers_wifiChange env p s]
          simp [AnswersOnce]
      | specanaPowerSetReq => exact c.answers_specanaPowerSetReq env p
      | dmmPowerSetReq => exact c.answers_dmmPowerSetReq env p
      | dmmBuiltintestReq =>
          refine iff_of_true ?_ trivial
          exact (c.answers_cons_of_ne p rfl _).trans (c.answers_answered p env.dmmDiags _)
      | lnbPowerSetReq => exact iff_of_true (c.answers_lnbPowerSet env p _) trivial
      | lnbSa10Mhz => exact iff_of_true (c.answers_lnbPowerSet env p _) trivial
      | lnb10Mhz => exact iff_of_true (c.answers_lnbPowerSet env p _) trivial
      | lnb18VdcBias => exact iff_of_true (c.answers_lnb18VdcBias env p) trivial
      | lnbGpioStates => exact iff_of_true (c.answers_lnbGpioStates env p asks) trivial
      | swUpgradeReq => exact c.answers_swUpgradeReq env p s a
      | fwUpgradeReq =>
          refine iff_of_true ?_ trivial
          exact (c.answers_cons_of_ne p rfl _).trans (c.answers_respond_cons p _ [])
      | _ => cases wants

/-- A request that a master sends is answered once exactly under the condition of its handler. -/
theorem dispatch_answers_iff {cmdid : Option Command} (asks : p.command = cmdid)
    (wants : Command.wantsAnswer cmdid = true)
    (master : c.mode = .masterMode ∨ c.mode = .insertedMasterMode)
    : c.answers p (s.dispatch env a c p).2 = 1 ↔ s.AnswersOnce env p cmdid := by
  have passes : filtered c p = false := by
    rcases master with wifi | iphone
    · simp [filtered, wifi]
    · simp [filtered, iphone]
  rw [dispatch, passes]
  exact @command_answers_iff env s a { c with noDataCount := 0 } p cmdid asks wants

end State

/-- The context of a first WiFi client that has become the master. -/
def wifiMaster : Context := ⟨1, .masterMode, 5, 0, .zero, .looping⟩

/-- The WiFi master's request to switch the analyzer on is answered once. -/
theorem dispatch_answers_powerOn
    : wifiMaster.answers (requestPacket (2, 0) powerOn)
        ((replay State.step .initial (connects 1 5 ++ [masterModeReq 1])).2.dispatch
          .usual 1 wifiMaster (requestPacket (2, 0) powerOn)).2 = 1 :=
  (State.dispatch_answers_iff rfl rfl (.inl rfl)).mpr (.inl rfl)

/-- The WiFi master's request to switch the DMM off is answered twice. -/
theorem powerOff_answered_twice
    : ¬ ∀ transitions finish, State.Runs .initial transitions finish
        → ∀ env a c p, finish.contexts a = some c
          → c.mode = .masterMode ∨ c.mode = .insertedMasterMode
          → Command.wantsAnswer p.command = true
          → c.answers p (finish.dispatch env a c p).2 = 1 := by
  intro always
  have once := always _ _
    (replay_run State.initial (connects 1 5 ++ [masterModeReq 1])) .usual 1
    wifiMaster (requestPacket (5, 0) powerOff) rfl (.inl rfl) rfl
  exact absurd once (by decide +kernel)

end Reconn.Client
