import Reconn.Client.Mastership
import Reconn.Client.Receive
import Reconn.Client.ResponseBytes
import Reconn.Library.SelfDelimiting

/-! How the responses of a client task are framed: whether every response packet that a turn
transmits is as long as its header says.
-/

namespace Reconn.Client

open TransitionRuns

/-- The buffer is the bytes of a response packet: its header, and as much of its payload as
the header announces.
-/
def Framed (buffer : List UInt8) : Prop :=
  ∃ pkt : ResponsePacket, pkt.dataLength.toNat ≤ reconnRspPayloadSize
    ∧ buffer = pkt.bytes (reconnRspPacketHeaderSize + pkt.dataLength.toNat)

/-- The buffer is a ReconnPacket, which the task sends as well: a bare header, or the request
that is relayed. A bare header is shorter than any response.
-/
def PlainPacket (relayed : Option Packet) (buffer : List UInt8) : Prop :=
  (∃ theMsgId, buffer = formatReconnPacket theMsgId)
    ∨ ∃ p, relayed = some p ∧ buffer = p.wire

/-- If the action transmits a response packet, then its bytes in the right length. The bytes
of the pointer to it are not the packet's.
-/
def Action.InSync (relayed : Option Packet) : Action → Prop
  | .libiphonedTx buffer | .sendSocket _ buffer | .reconnEqptAddMsgToQ buffer =>
      PlainPacket relayed buffer ∨ Framed buffer
  | .libiphonedTxPointer _ => False
  | _ => True

/-- All response packets that the actions transmit have the right length. -/
def InSync (relayed : Option Packet) (actions : List Action) : Prop :=
  ∀ action ∈ actions, action.InSync relayed

/-- The request that the turn relays. SLAVES_SEND_MSG sends no response. -/
def Turn.relayed : Turn → Option Packet
  | .dispatches p => if p.command = some .slavesSendMsg then some p else none
  | _ => none

/-- When the handler of a packet sends its responses in the right length. The texts it answers
with fit a response, there is a MAC address, and if no socket can be opened for the IP address
then the response packet happens to have the length of the request.
-/
def Context.Frames (c : Context) (env : Outcomes) (p : Packet) : Prop :=
  match p.command with
  | some .reconnSwVersionReq => env.getReconnSwVersion.length ≤ reconnRspPayloadSize
  | some .reconnIpAddressReq =>
      if env.ipSocketOpens then
        ∀ ipAddr ∈ env.ipAddress, ∀ subnetMask ∈ env.subnetMask,
          ipAddr.length + subnetMask.length + 2 ≤ reconnRspPayloadSize
      else c.theResponsePkt.dataLength.toNat = p.pktLength + 4
  | some .wifiMacAddressReq => env.wifiGetMacAddress.isSome = true
  | some .wifiSsidRetrieve =>
      ∀ ssid ∈ env.wifiGetSsidOrPasswd wifiSsidToken, ssid.length ≤ reconnRspPayloadSize
  | some .wifiPasswordRetrieve =>
      ∀ passwd ∈ env.wifiGetSsidOrPasswd wifiPasswdToken,
        passwd.length ≤ reconnRspPayloadSize
  | _ => True

/-- When a turn sends its responses in the right length: it takes no RM_STATE_CHANGE while an
iPhone is inserted, and the handler of a packet that passes the filter keeps to its condition.
-/
def State.KeepsSync (s : State) (env : Outcomes) (c : Context) : Turn → Prop
  | .takes (.rmStateChange _) => s.globals.insertedMasterSocketFd = -1
  | .dispatches p => State.filtered c p = false → c.Frames env p
  | _ => True

-----------------------------------------------------------------------------------------
-- Frames
-----------------------------------------------------------------------------------------

/-- What is sent of a response packet is framed exactly if its header says so. -/
theorem framed_bytes_iff (pkt : ResponsePacket) (length : Nat)
    : Framed (pkt.bytes (reconnRspPacketHeaderSize + length))
      ↔ pkt.dataLength.toNat = length ∧ length ≤ reconnRspPayloadSize := by
  constructor
  · rintro ⟨other, fits, same⟩
    have lengths := congrArg List.length same
    have headers := congrArg (fun buffer => announced (buffer.take reconnRspPacketHeaderSize)) same
    simp only [ResponsePacket.bytes_length, ResponsePacket.announced_header] at lengths headers
    omega
  · rintro ⟨rfl, fits⟩
    exact ⟨pkt, fits, rfl⟩

theorem Framed.announced {buffer : List UInt8} (framed : Framed buffer)
    : reconnRspPacketHeaderSize ≤ buffer.length
      ∧ buffer.length = Client.announced (buffer.take reconnRspPacketHeaderSize) := by
  obtain ⟨pkt, -, rfl⟩ := framed
  rw [pkt.announced_header, pkt.bytes_length]
  exact ⟨Nat.le_add_right .., rfl⟩

/-- A reader of a stream of framed responses never loses sync. -/
theorem framed_uniquelyDecodable
    : InformationTheory.UniquelyDecodable { buffer | Framed buffer } :=
  SelfDelimiting.TellsLength.uniquelyDecodable (fun _ framed => Framed.announced framed)
    (by decide : 0 < reconnRspPacketHeaderSize)

/-- A response packet is no bare header. -/
theorem not_plainPacket_bytes (pkt : ResponsePacket) (length : Nat)
    : ¬ PlainPacket none (pkt.bytes (reconnRspPacketHeaderSize + length)) := by
  rintro (⟨theMsgId, same⟩ | ⟨p, none, -⟩)
  · have lengths := congrArg List.length same
    rw [pkt.bytes_length] at lengths
    simp only [reconnRspPacketHeaderSize, formatReconnPacket, List.length_cons,
      List.length_nil] at lengths
    omega
  · cases none

-----------------------------------------------------------------------------------------
-- Transmissions
-----------------------------------------------------------------------------------------

/-- The field takes a length that fits the payload. -/
theorem announces_iff (length : Nat)
    : (UInt16.ofNat length).toNat = length ∧ length ≤ reconnRspPayloadSize
      ↔ length ≤ reconnRspPayloadSize := by
  rw [and_iff_right_iff_imp]
  intro fits
  exact UInt16.toNat_ofNat_of_lt' (lt_of_le_of_lt fits (by decide : 2048 < 65536))

theorem one_fits : 1 ≤ reconnRspPayloadSize := by decide

/-- What transmits nothing. -/
@[simp] theorem Action.inSync_silent (relayed : Option Packet)
    : (∀ theEqpt, (Action.resetPowerStandbyCounter theEqpt).InSync relayed)
      ∧ (∀ index, (Action.reconnReturnClientIndex index).InSync relayed)
      ∧ (∀ index, (Action.reconnRegisterClientApp index).InSync relayed)
      ∧ (∀ index, (Action.reconnDeRegisterClientApp index).InSync relayed)
      ∧ (∀ fd, (Action.close fd).InSync relayed)
      ∧ (∀ fd, (Action.shutdown fd).InSync relayed)
      ∧ (∀ command, (Action.system command).InSync relayed)
      ∧ (∀ path, (Action.unlink path).InSync relayed)
      ∧ (∀ theGpio theAction, (Action.reconnGpioAction theGpio theAction).InSync relayed)
      ∧ (∀ buffer, (Action.dmmWrite buffer).InSync relayed)
      ∧ Action.dmmInit.InSync relayed
      ∧ Action.dmmPowerDown.InSync relayed
      ∧ Action.dmmDiags.InSync relayed
      ∧ Action.dmmSaveConfig.InSync relayed
      ∧ (∀ buffer, (Action.spectrumAnalyzerWrite buffer).InSync relayed)
      ∧ Action.spectrumAnalyzerInit.InSync relayed
      ∧ Action.spectrumAnalyzerUpgrade.InSync relayed
      ∧ (∀ buffer, (Action.powerMeterWrite buffer).InSync relayed)
      ∧ (∀ newState, (Action.wifiSetState newState).InSync relayed)
      ∧ (∀ token value, (Action.wifiUpdateHostapdConfFile token value).InSync relayed)
      ∧ Action.wifiCleanUp.InSync relayed
      ∧ Action.libiphonedStop.InSync relayed
      ∧ Action.raiseSigterm.InSync relayed := by
  simp [Action.InSync]

@[simp] theorem inSync_nil (relayed : Option Packet) : InSync relayed [] := by
  simp [InSync]

@[simp] theorem inSync_cons (relayed : Option Packet) (action : Action) (rest : List Action)
    : InSync relayed (action :: rest) ↔ action.InSync relayed ∧ InSync relayed rest := by
  simp [InSync]

@[simp] theorem inSync_append (relayed : Option Packet) (first second : List Action)
    : InSync relayed (first ++ second) ↔ InSync relayed first ∧ InSync relayed second :=
  List.forall_mem_append

/-- A framed buffer may be transmitted on all three ways. -/
theorem Framed.inSync {buffer : List UInt8} (framed : Framed buffer) (relayed : Option Packet)
    : (Action.libiphonedTx buffer).InSync relayed
      ∧ (∀ socketFd, (Action.sendSocket socketFd buffer).InSync relayed)
      ∧ (Action.reconnEqptAddMsgToQ buffer).InSync relayed :=
  ⟨.inr framed, fun _ => .inr framed, .inr framed⟩

/-- sendReconnResponse announces the byte it sends, or none. -/
theorem sendReconnResponse_inSync (relayed : Option Packet) (socketFd : Int) (c1 c2 : UInt8)
    (errCode : ReconnErrCode) (mode : Mode)
    : (sendReconnResponse socketFd c1 c2 errCode mode).InSync relayed := by
  let messageId := UInt16.ofNat (c1.toNat * 256 + c2.toNat)
  have empty
      : Framed ([highByte genericResponse, lowByte genericResponse, 0, 0, c1, c2] ++ []) := by
    refine ⟨⟨genericResponse, 0, messageId, fun _ => 0⟩, Nat.zero_le _, ?_⟩
    simp only [ResponsePacket.bytes, messageId, highByte_ofNat, lowByte_ofNat]
    rfl
  have code
      : Framed
          ([highByte genericResponse, lowByte genericResponse, 0, 1, c1, c2] ++ [errCode]) := by
    refine ⟨⟨genericResponse, 1, messageId, fun _ => errCode⟩, Nat.le_of_ble_eq_true rfl, ?_⟩
    simp only [ResponsePacket.bytes, messageId, highByte_ofNat, lowByte_ofNat]
    rfl
  unfold sendReconnResponse
  by_cases unknown : errCode = reconnErrorUnknown
  · simp only [if_pos unknown]
    split_ifs <;> exact .inr empty
  · simp only [if_neg unknown]
    split_ifs <;> exact .inr code

namespace Context

variable (c : Context) (relayed : Option Packet) (p : Packet)

@[simp] theorem respond_inSync (errCode : ReconnErrCode)
    : (c.respond p errCode).InSync relayed :=
  sendReconnResponse_inSync ..

@[simp] theorem notify_inSync (messageId : UInt16) (errCode : ReconnErrCode)
    : (c.notify messageId errCode).InSync relayed :=
  sendReconnResponse_inSync ..

/-- A transmission of a response packet. -/
theorem transmit_inSync_iff (socketFd : Int) (pkt : ResponsePacket) (length : Nat)
    : (c.transmit socketFd pkt length).InSync none
      ↔ pkt.dataLength.toNat = length ∧ length ≤ reconnRspPayloadSize := by
  rw [← framed_bytes_iff]
  unfold transmit
  simp only
  split_ifs
  · exact or_iff_right (not_plainPacket_bytes pkt length)
  · exact or_iff_right (not_plainPacket_bytes pkt length)

/-- A transmission of a response packet that announces the length it is sent with. -/
theorem transmit_announced (socketFd : Int) {pkt : ResponsePacket} {length : Nat}
    (same : pkt.dataLength = UInt16.ofNat length)
    : (c.transmit socketFd pkt length).InSync none ↔ length ≤ reconnRspPayloadSize := by
  rw [transmit_inSync_iff, same, announces_iff]

/-- A response packet that goes to all clients and announces the length it is sent with. -/
theorem broadcast_announced {pkt : ResponsePacket} {length : Nat}
    (same : pkt.dataLength = UInt16.ofNat length) (fits : length ≤ reconnRspPayloadSize)
    : InSync none (c.broadcast pkt length) := by
  have framed := (framed_bytes_iff pkt length).mpr (same ▸ (announces_iff length).mpr fits)
  unfold broadcast
  simp only
  split_ifs
  · exact List.forall_mem_cons.mpr ⟨.inr framed, List.forall_mem_singleton.mpr (.inr framed)⟩
  · exact List.forall_mem_singleton.mpr (.inr framed)

end Context

-----------------------------------------------------------------------------------------
-- The handlers
-----------------------------------------------------------------------------------------

/-- A serial number is short. -/
theorem getDeviceId_length {serialNumberFile : Option (List UInt8)} {serial : List UInt8}
    (read : getDeviceId serialNumberFile = some serial)
    : serial.length ≤ reconnRspPayloadSize := by
  obtain ⟨content, -, kept⟩ := Option.bind_eq_some_iff.mp read
  split_ifs at kept with short
  obtain rfl := Option.some.inj kept
  have taken := (List.takeWhile_sublist (· ≠ (0 : UInt8)) (l := content)).length_le
  simp only [cString, List.length_append, List.length_singleton, reconnRspPayloadSize,
    reconnSerialnumMaxLen] at short ⊢
  omega

namespace Context

variable (c : Context) (env : Outcomes) (g : Globals) (p : Packet)

@[simp] theorem reconnIdReq_inSync : InSync none (c.reconnIdReq env p).2 := by
  unfold reconnIdReq
  cases found : getDeviceId env.serialNumberFile with
  | none => simp
  | some serial => exact c.broadcast_announced rfl (getDeviceId_length found)

theorem reconnInitStateSetReq_inSync {actions : List Action}
    (set : c.reconnInitStateSetReq env p = some actions)
    : InSync none actions := by
  obtain ⟨changes, changed, rfl⟩ := Option.map_eq_some_iff.mp set
  simp only [inSync_append, inSync_cons, respond_inSync, inSync_nil, and_true]
  dsimp only at changed
  split_ifs at changed
  all_goals
    obtain rfl := Option.some.inj changed
    simp

theorem reconnSwVersionReq_inSync_iff
    : InSync none (c.reconnSwVersionReq env g).2
      ↔ env.getReconnSwVersion.length ≤ reconnRspPayloadSize := by
  unfold reconnSwVersionReq
  simp only [inSync_cons, Action.inSync_silent, inSync_nil, and_true]
  exact c.transmit_announced _ rfl

/-- Without a socket the response packet is sent as it is, with the length of the request. -/
theorem reconnIpAddressReq_inSync_iff (fits : p.pktLength ≤ reconnPayloadSize)
    : InSync none (c.reconnIpAddressReq env g p).2
      ↔ if env.ipSocketOpens then
          ∀ ipAddr ∈ env.ipAddress, ∀ subnetMask ∈ env.subnetMask,
            ipAddr.length + subnetMask.length + 2 ≤ reconnRspPayloadSize
        else c.theResponsePkt.dataLength.toNat = p.pktLength + 4 := by
  unfold reconnIpAddressReq
  simp only [inSync_cons, respond_inSync, inSync_nil, and_true, true_and]
  split_ifs with opens
  · split
    · rename_i ipAddr subnetMask known known'
      rw [c.transmit_announced _ rfl]
      simp [known, known']
      omega
    · rename_i unknown
      refine iff_of_true ((c.transmit_announced _ rfl).mpr one_fits) ?_
      intro ipAddr known subnetMask known'
      exact absurd known' (unknown ipAddr subnetMask known)
  · rw [transmit_inSync_iff, and_iff_left]
    simp only [reconnPayloadSize, reconnRspPayloadSize] at fits ⊢
    omega

/-- The pieces of the crash log fill a response, and what is left does not. -/
@[simp] theorem reconnRetrieveCrashlog_inSync : InSync none (c.reconnRetrieveCrashlog env g).2 := by
  unfold reconnRetrieveCrashlog
  simp only
  generalize (if env.crashlogExists then env.crashlog else none) = content
  cases content with
  | none =>
      simp only [inSync_cons, Action.inSync_silent, inSync_nil, and_true]
      exact (c.transmit_announced _ rfl).mpr (by decide : 2 ≤ reconnRspPayloadSize)
  | some content =>
      simp only [inSync_append, inSync_cons, Action.inSync_silent, inSync_nil, and_true]
      constructor
      · intro action member
        obtain ⟨chunk, -, rfl⟩ := List.mem_map.mp member
        exact (c.transmit_announced _ rfl).mpr le_rfl
      · refine (c.transmit_announced _ rfl).mpr ?_
        have rest := Nat.mod_lt content.length (by decide : 0 < reconnRspPayloadSize)
        have split := Nat.div_add_mod' content.length reconnRspPayloadSize
        rw [List.length_drop]
        omega

@[simp] theorem batteryReq_inSync (messageId : UInt16) (value : UInt8)
    : InSync none (c.batteryReq messageId value).2 := by
  unfold batteryReq
  simp only [inSync_append, inSync_cons, Action.inSync_silent, inSync_nil, and_true]
  exact c.broadcast_announced rfl one_fits

/-- An address is announced with its length, and the failure to get one with another. -/
theorem wifiMacAddressReq_inSync_iff
    : InSync none (c.wifiMacAddressReq env g p).2 ↔ env.wifiGetMacAddress.isSome = true := by
  unfold wifiMacAddressReq
  simp only [inSync_cons, Action.inSync_silent, inSync_nil, and_true]
  rw [transmit_inSync_iff]
  cases env.wifiGetMacAddress with
  | none =>
      refine iff_of_false (fun sent => ?_) Bool.false_ne_true
      have one : 1 = reconnMacaddrLen := sent.1
      exact absurd one (by decide)
  | some mac => exact iff_of_true ⟨rfl, by decide⟩ rfl

theorem wifiRetrieve_inSync_iff (token : String)
    : InSync none (c.wifiRetrieve env g p token).2
      ↔ ∀ value ∈ env.wifiGetSsidOrPasswd token, value.length ≤ reconnRspPayloadSize := by
  unfold wifiRetrieve
  simp only [inSync_cons, Action.inSync_silent, inSync_nil, and_true]
  rw [c.transmit_announced _ rfl]
  cases env.wifiGetSsidOrPasswd token with
  | none => simp [reconnRspPayloadSize]
  | some value => simp

@[simp] theorem gpioPowerSet_inSync (theGpio : GpioName) (failed : ReconnErrCode)
    : InSync none (c.gpioPowerSet env p theGpio failed) := by
  simp [gpioPowerSet]

@[simp] theorem answered_inSync (errCode : ReconnErrCode) (theEqpt : PowerMgmtEqptType)
    : InSync none (c.answered p errCode theEqpt) := by
  simp [answered]

@[simp] theorem specanaPowerSetReq_inSync : InSync none (c.specanaPowerSetReq env p) := by
  unfold specanaPowerSetReq
  split_ifs <;> simp [gpioPowerSet_inSync]

@[simp] theorem specanaPktSendReq_inSync : InSync none (c.specanaPktSendReq env g p) := by
  unfold specanaPktSendReq
  simp only
  split_ifs <;> simp

@[simp] theorem pmeterPktSendReq_inSync : InSync none (c.pmeterPktSendReq env g p) := by
  unfold pmeterPktSendReq
  simp only
  split_ifs <;> simp

@[simp] theorem dmmPowerSetReq_inSync : InSync none (c.dmmPowerSetReq env p) := by
  unfold dmmPowerSetReq
  simp only
  split_ifs <;> simp

@[simp] theorem dmmPktSendReq_inSync : InSync none (c.dmmPktSendReq env p) := by
  unfold dmmPktSendReq
  simp only [inSync_append, inSync_cons, Action.inSync_silent, inSync_nil, and_true]
  constructor
  · split_ifs <;> simp
  · split_ifs <;> simp

@[simp] theorem lnbPowerSet_inSync (theGpio : GpioName)
    : InSync none (c.lnbPowerSet env p theGpio) := by
  unfold lnbPowerSet
  split_ifs <;> simp [gpioPowerSet_inSync]

@[simp] theorem lnb18VdcBias_inSync : InSync none (c.lnb18VdcBias env p) := by
  unfold lnb18VdcBias
  split_ifs <;> simp [gpioPowerSet_inSync]

@[simp] theorem lnbGpioStates_inSync : InSync none (c.lnbGpioStates env p).2 := by
  have reads (lines : List GpioName)
      : InSync none (lines.map fun line => .reconnGpioAction line .read) := by
    intro action member
    obtain ⟨line, -, rfl⟩ := List.mem_map.mp member
    simp
  unfold lnbGpioStates
  simp only
  split_ifs
  · refine (inSync_append ..).mpr ⟨reads _, ?_⟩
    simp only [inSync_cons, Action.inSync_silent, inSync_nil, and_true]
    exact (c.transmit_announced _ rfl).mpr (by decide : 3 ≤ reconnRspPayloadSize)
  · refine (inSync_append ..).mpr ⟨reads _, ?_⟩
    simp

/-- The notices of a disconnection are bare headers. -/
theorem disconnectAllClients_inSync {s : State} {mode : Mode} {actions : List Action}
    (disconnected : s.disconnectAllClients mode = some actions)
    : InSync none actions := by
  intro action member
  obtain ⟨fd, rfl | rfl⟩ := State.mem_disconnectAllClients disconnected member
  · exact .inl (.inl ⟨_, rfl⟩)
  · simp

theorem wifiSetPowerReq_inSync {s : State} {actions : List Action}
    (set : c.wifiSetPowerReq env p s = some actions)
    : InSync none actions := by
  intro action member
  rcases State.mem_wifiSetPowerReq set member with ⟨disconnects, disconnected, slaves⟩
    | rfl | ⟨errCode, rfl⟩ | rfl
  · exact disconnectAllClients_inSync disconnected action slaves
  · simp
  · simp
  · simp

theorem wifiChange_inSync {s : State} {token : String} {accepted : Nat → Bool}
    {actions : List Action} (changed : c.wifiChange env p s token accepted = some actions)
    : InSync none actions := by
  intro action member
  rcases State.mem_wifiChange changed member with ⟨disconnects, disconnected, slaves⟩
    | rfl | ⟨errCode, rfl⟩ | rfl | rfl
  · exact disconnectAllClients_inSync disconnected action slaves
  · simp
  · simp
  · simp
  · simp

end Context

-----------------------------------------------------------------------------------------
-- The switch
-----------------------------------------------------------------------------------------

namespace State

variable {env : Outcomes} {s : State} {a : Addr} {c : Context} {p : Packet}

theorem registerClient_inSync {actions : List Action} (inSync : InSync none actions)
    : InSync none (s.registerClient a c actions).2 := by
  unfold registerClient
  split
  · simpa [resetSystem] using inSync
  · split_ifs <;> simpa [resetSystem] using inSync

theorem meterInserted_framed : Framed (meterInsertedPkt.bytes (reconnRspPacketHeaderSize + 1)) :=
  (framed_bytes_iff meterInsertedPkt 1).mpr ⟨rfl, one_fits⟩

/-- The notice that a slave has been attached. -/
theorem attached_framed (pkt : ResponsePacket)
    : Framed
        (((pkt.address reconnSlaveAttached).withLength 0).bytes reconnRspPacketHeaderSize) :=
  (framed_bytes_iff _ 0).mpr ⟨rfl, Nat.zero_le _⟩

theorem masterModeReq_inSync : InSync none (s.masterModeReq env a c p).2 := by
  have meter := meterInserted_framed.inSync none
  unfold masterModeReq
  split_ifs
  · simp [resetSystem]
  · unfold grantMastership
    by_cases fails : env.mqOpen = -1
    · simp [if_pos fails]
    · rw [if_neg fails]
      refine registerClient_inSync ?_
      split_ifs <;> simp [meter]
  · have attached := (attached_framed c.theResponsePkt).inSync none
    refine registerClient_inSync ?_
    split_ifs <;> simp [meter, attached]

theorem upgradeScriptActions_inSync : InSync none (upgradeScriptActions env) := by
  unfold upgradeScriptActions
  split_ifs <;> simp

theorem swUpgradeReq_inSync : InSync none (s.swUpgradeReq env a c p).2 := by
  have scripts : InSync none (upgradeScriptActions env) := upgradeScriptActions_inSync
  have upgrade := swUpgradeReq_upgrade env s a c p
  generalize s.swUpgradeReq env a c p = result at upgrade ⊢
  cases upgrade with
  | missing => simp
  | fails retCode => simp [scripts]
  | stumbles => exact scripts
  | ends retCode slaves' remotes' =>
      simp only [inSync_append, Context.disconnectAllClients_inSync slaves',
        Context.disconnectAllClients_inSync remotes', scripts, and_true]
      split_ifs <;> simp

/-- A header without data. -/
theorem formatReconnPacket_inSync (relayed : Option Packet) (socketFd : Int)
    (theMsgId : UInt16)
    : (Action.sendSocket socketFd (formatReconnPacket theMsgId)).InSync relayed :=
  .inl (.inl ⟨theMsgId, rfl⟩)

theorem masterModeResignReq_inSync : InSync none (s.masterModeResignReq a c p).2 := by
  unfold masterModeResignReq
  simp only
  split_ifs <;> simp [resetSystem, formatReconnPacket_inSync]

theorem masterModeResignResp_inSync {result : State × List Action}
    (answered : s.masterModeResignResp a c p = some result)
    : InSync none result.2 := by
  cases masterModeResignResp_comes answered with
  | hands success pointer handed =>
      obtain ⟨other, -, rfl⟩ := Option.map_eq_some_iff.mp handed
      have attached := (attached_framed c.theResponsePkt).inSync none
      simp [formatReconnPacket_inSync, attached]
  | denies denied pointer found => simp [sendReconnResponse_inSync]
  | neither => simp

theorem webServiceIpAndPort_inSync : InSync none (s.webServiceIpAndPort env a c p).2 := by
  unfold webServiceIpAndPort
  split_ifs <;> simp

theorem deRegisterActions_inSync (relayed : Option Packet)
    : InSync relayed (s.deRegisterActions c) := by
  unfold deRegisterActions
  cases s.registry.deRegisteredSocket c.index (c.mode = .remoteMode) <;> simp

theorem clientResignReq_inSync : InSync none (s.clientResignReq a c p).2 := by
  unfold clientResignReq
  simp only
  split_ifs <;> simp [deRegisterActions_inSync, resetSystem]

/-- The commands that only send and drive the equipment. Witness: the handlers one by one. -/
theorem equipmentCommand_inSync_iff {cmdid : Option Command} {handled : Handled}
    (asks : p.command = cmdid) (fits : p.pktLength ≤ reconnPayloadSize)
    (equipment : equipmentCommand env s c p cmdid = some handled)
    : InSync (Turn.dispatches p).relayed handled.2 ↔ c.Frames env p := by
  have noRelay (other : cmdid ≠ some .slavesSendMsg) : (Turn.dispatches p).relayed = none :=
    if_neg (asks ▸ other)
  have always (other : cmdid ≠ some .slavesSendMsg) (frames : c.Frames env p)
      (inSync : InSync none handled.2)
      : InSync (Turn.dispatches p).relayed handled.2 ↔ c.Frames env p := by
    rw [noRelay other]
    exact iff_of_true inSync frames
  cases cmdid with
  | none =>
      obtain rfl := Option.some.inj equipment
      exact always nofun (by simp [Context.Frames, asks]) (by simp)
  | some theCommand =>
      cases theCommand with
      | clientResignReq | masterModeReq | masterModeResignReq | masterModeResignResp
      | swUpgradeReq | webServiceIpAndPort => cases equipment
      | reconnSwVersionReq =>
          obtain rfl := Option.some.inj equipment
          rw [noRelay nofun, Context.Frames, asks]
          exact c.reconnSwVersionReq_inSync_iff env s.globals
      | reconnIpAddressReq =>
          obtain rfl := Option.some.inj equipment
          rw [noRelay nofun, Context.Frames, asks]
          exact c.reconnIpAddressReq_inSync_iff env s.globals p fits
      | wifiMacAddressReq =>
          obtain rfl := Option.some.inj equipment
          rw [noRelay nofun, Context.Frames, asks]
          exact c.wifiMacAddressReq_inSync_iff env s.globals p
      | wifiSsidRetrieve =>
          obtain rfl := Option.some.inj equipment
          rw [noRelay nofun, Context.Frames, asks]
          exact c.wifiRetrieve_inSync_iff env s.globals p wifiSsidToken
      | wifiPasswordRetrieve =>
          obtain rfl := Option.some.inj equipment
          rw [noRelay nofun, Context.Frames, asks]
          exact c.wifiRetrieve_inSync_iff env s.globals p wifiPasswdToken
      | reconnInitStateSetReq =>
          obtain ⟨actions, set, kept⟩ := Option.bind_eq_some_iff.mp equipment
          obtain rfl := Option.some.inj kept
          exact always nofun (by simp [Context.Frames, asks])
            (c.reconnInitStateSetReq_inSync env p set)
      | wifiSetPowerReq =>
          obtain ⟨actions, set, kept⟩ := Option.bind_eq_some_iff.mp equipment
          obtain rfl := Option.some.inj kept
          exact always nofun (by simp [Context.Frames, asks]) (c.wifiSetPowerReq_inSync env p set)
      | wifiChangePasswordReq | wifiChangeSsidReq =>
          obtain ⟨actions, changed, kept⟩ := Option.bind_eq_some_iff.mp equipment
          obtain rfl := Option.some.inj kept
          exact always nofun (by simp [Context.Frames, asks]) (c.wifiChange_inSync env p changed)
      | slavesSendMsg =>
          have relays : (Turn.dispatches p).relayed = some p := if_pos asks
          obtain ⟨registered, -, kept⟩ := Option.bind_eq_some_iff.mp equipment
          obtain rfl := Option.some.inj kept
          rw [relays]
          refine iff_of_true ?_ (by simp [Context.Frames, asks])
          have wire : (Action.reconnEqptAddMsgToQ p.wire).InSync (some p) :=
            .inl (.inr ⟨p, rfl, rfl⟩)
          simp only [inSync_append, inSync_cons, Action.inSync_silent, inSync_nil, and_true]
          split_ifs
          · exact List.forall_mem_singleton.mpr wire
          · simp
      | batteryLevelReq | batteryChargeStateReq =>
          obtain rfl := Option.some.inj equipment
          exact always nofun (by simp [Context.Frames, asks]) (c.batteryReq_inSync _ _)
      | _ =>
          obtain rfl := Option.some.inj equipment
          exact always nofun (by simp [Context.Frames, asks]) (by simp)

/-- The handlers with a condition are defined. -/
theorem frames_of_undefined (undefined : equipmentCommand env s c p p.command = none)
    : c.Frames env p := by
  unfold Context.Frames
  split
  case h_6 => trivial
  all_goals
    rename_i asks
    rw [asks] at undefined
    cases undefined

/-- A packet that reaches the switch. Witness: the commands with an effect of their own, and
the rest.
-/
theorem command_inSync_iff (fits : p.pktLength ≤ reconnPayloadSize)
    : InSync (Turn.dispatches p).relayed ((s.command env a c p).getD (s.halt, [])).2
      ↔ c.Frames env p := by
  have always {cmdid : Option Command} (asks : p.command = cmdid)
      (other : cmdid ≠ some .slavesSendMsg) (frames : c.Frames env p) {actions : List Action}
      (inSync : InSync none actions)
      : InSync (Turn.dispatches p).relayed actions ↔ c.Frames env p := by
    have noRelay : (Turn.dispatches p).relayed = none := if_neg (asks ▸ other)
    rw [noRelay]
    exact iff_of_true inSync frames
  unfold command
  split
  · rename_i asks
    exact always asks nofun (by simp [Context.Frames, asks]) clientResignReq_inSync
  · rename_i asks
    exact always asks nofun (by simp [Context.Frames, asks]) masterModeReq_inSync
  · rename_i asks
    exact always asks nofun (by simp [Context.Frames, asks]) masterModeResignReq_inSync
  · rename_i asks
    refine always asks nofun (by simp [Context.Frames, asks]) ?_
    cases answered : s.masterModeResignResp a c p with
    | none => simp
    | some result => exact masterModeResignResp_inSync answered
  · rename_i asks
    exact always asks nofun (by simp [Context.Frames, asks]) swUpgradeReq_inSync
  · rename_i asks
    exact always asks nofun (by simp [Context.Frames, asks]) webServiceIpAndPort_inSync
  · cases equipment : equipmentCommand env s c p p.command with
    | none => exact iff_of_true (inSync_nil _) (frames_of_undefined equipment)
    | some handled =>
        exact equipmentCommand_inSync_iff rfl fits equipment

/-- A control message. An RM_STATE_CHANGE is transmitted to an inserted iPhone as the bytes of
the pointer to the response packet.
-/
theorem controlMessage_inSync_iff (message : ControlMessage)
    : InSync none (s.controlMessage a c message).2
      ↔ s.KeepsSync env c (.takes message) := by
  have meter (presence : UInt8)
      := (framed_bytes_iff
          (((ResponsePacket.zero.address pmeterStatusNotif).withLength 1).write [presence]) 1).mpr
        ⟨rfl, one_fits⟩
  cases message with
  | masterInserted => exact iff_of_true (by simp [controlMessage]) trivial
  | masterExtracted =>
      exact iff_of_true (by simp [controlMessage, leaveActions, deRegisterActions_inSync]) trivial
  | masterAck => exact iff_of_true (by simp [controlMessage, notification]) trivial
  | lowBattery =>
      exact iff_of_true (c.broadcast_announced rfl (Nat.zero_le _)) trivial
  | meterInserted =>
      refine iff_of_true ?_ trivial
      have sent := (meter inserted).inSync none
      simp only [controlMessage, notification, notification.meter]
      split_ifs <;> simp [sent]
  | meterExtracted =>
      refine iff_of_true ?_ trivial
      have sent := (meter extracted).inSync none
      simp only [controlMessage, notification, notification.meter]
      split_ifs <;> simp [sent]
  | rmStateChange state =>
      have sent := ((framed_bytes_iff
        (((c.theResponsePkt.address webServiceStateId).withLength 1).write [state]) 1).mpr
          ⟨rfl, one_fits⟩).inSync none
      simp only [controlMessage, notification, KeepsSync]
      split_ifs with iphone
      · refine iff_of_false ?_ iphone
        intro inSync
        exact inSync _ (List.mem_cons_self ..)
      · refine iff_of_true ?_ (not_not.mp iphone)
        simp [sent]

/-- A packet that is dispatched fits the buffer. -/
theorem turn_dispatches_fits {g : Globals} {mqReceive : Bool} {received : Received}
    (way : turn g mqReceive received = .dispatches p)
    : p.pktLength ≤ reconnPayloadSize := by
  rcases (turn_dispatches way).2 with complete | ⟨-, rfl⟩
  · have dispatched : (turn g mqReceive received).dispatched = some p := by rw [way]; rfl
    exact ((turn_complete complete).mp dispatched).1
  · exact Nat.zero_le _

/-- One turn of the loop transmits its responses in the right length exactly under its
condition. Witness: the ways a turn goes, with the control messages and the switch.
-/
theorem iterate_inSync_iff (env : Outcomes) (s : State) (a : Addr) (c : Context)
    (received : Received)
    : InSync (turn s.globals env.mqReceive received).relayed
          (s.iterate env a c received).2.actions
      ↔ s.KeepsSync env c (turn s.globals env.mqReceive received) := by
  simp only [iterate]
  cases way : turn s.globals env.mqReceive received with
  | closed =>
      refine iff_of_true ?_ trivial
      simp only [takeTurn, socketClosed]
      split_ifs <;> simp [leaveActions, deRegisterActions_inSync]
  | failed =>
      exact iff_of_true (by simp [takeTurn, readError, deRegisterActions_inSync]) trivial
  | overrun => exact iff_of_true (inSync_nil _) trivial
  | stalled => exact iff_of_true (inSync_nil _) trivial
  | idle =>
      refine iff_of_true ?_ trivial
      simp only [takeTurn, idlePoll]
      split_ifs <;> simp [leaveActions, deRegisterActions_inSync]
  | takes message => exact controlMessage_inSync_iff message
  | dispatches p =>
      simp only [takeTurn, dispatch, KeepsSync]
      split_ifs with blocked
      · exact iff_of_true (inSync_nil _) (by simp [blocked])
      · rw [imp_iff_right (by simpa using blocked)]
        exact @command_inSync_iff env s a { c with noDataCount := 0 } p (turn_dispatches_fits way)

end State

/-- Without a socket to ask for the MAC address, its failure is announced with one byte and
sent with the length of an address.
-/
theorem wifiMacAddressReq_outOfSync
    : ¬ ∀ transitions finish, State.Runs .initial transitions finish
        → ∀ env a c received, finish.contexts a = some c
          → InSync (turn finish.globals env.mqReceive received).relayed
              (finish.iterate env a c received).2.actions := by
  intro always
  let master := (replay State.step .initial (connects 1 5 ++ [masterModeReq 1])).2
  let c : Context := ⟨1, .masterMode, 5, 0, .zero, .looping⟩
  have inSync := always _ master (replay_run _ _) .usual 1 c (request (9, 4) 0) rfl
  have sends : Action.sendSocket 5 ([0xFF, 0xFF, 0, 1, 9, 4, 6] ++ List.replicate 16 0)
      ∈ (master.iterate .usual 1 c (request (9, 4) 0)).2.actions := by
    decide +kernel
  have noRelay : (turn master.globals true (request (9, 4) 0)).relayed.isNone = true := by
    decide +kernel
  rcases inSync _ sends with (⟨theMsgId, same⟩ | ⟨p, relayed, -⟩) | framed
  · cases congrArg List.length same
  · have none := Option.isNone_iff_eq_none.mp noRelay
    cases none.symm.trans relayed
  · exact absurd framed.announced.2 (by decide)

end Reconn.Client
