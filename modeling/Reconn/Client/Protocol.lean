import Mathlib.Data.UInt

/-! The packets of the client protocol of clientApp.c, the identifiers of its messages and
the actions by which a client task reaches sockets, equipment and files.
-/

namespace Reconn.Client

/-- ReconnMasterClientMode -/
inductive Mode where
  | masterMode
  | slaveMode
  | insertedMasterMode
  | remoteMode
  deriving DecidableEq, Repr

/-- ReconnErrCodes, as the byte that a response carries. -/
abbrev ReconnErrCode := UInt8

def reconnSuccess : ReconnErrCode := 1
def reconnDenied : ReconnErrCode := 2
def reconnInvalidParameter : ReconnErrCode := 3
def reconnInvalidState : ReconnErrCode := 4
def reconnInvalidMessage : ReconnErrCode := 5
def reconnFailure : ReconnErrCode := 6
def reconnLinkDown : ReconnErrCode := 10
def reconnHostnameUnresolved : ReconnErrCode := 14
def reconnPmPortNotInitialized : ReconnErrCode := 23
def reconnSaPortNotInitialized : ReconnErrCode := 25
def reconnDmmPortNotInitialized : ReconnErrCode := 26
def reconnNeedsReboot : ReconnErrCode := 33
def reconnErrorUnknown : ReconnErrCode := 0xFF

theorem reconnFailure_ne_success : reconnFailure ≠ reconnSuccess := by decide

def genericResponse : UInt16 := 0xFFFF

def masterModeSetNotif : UInt16 := 0x0004
def masterModeRemovedNotif : UInt16 := 0x0005
def masterModeResignQuery : UInt16 := 0x0007
def masterModeResignRespId : UInt16 := 0x0008
def reconnSlaveAttached : UInt16 := 0x0102
def reconnIdNotif : UInt16 := 0x0105
def reconnInitStateReq : UInt16 := 0x0106
def reconnSwVersionReqId : UInt16 := 0x010a
def reconnIpAddressNotif : UInt16 := 0x010c
def reconnRetrieveCrashlogId : UInt16 := 0x010f
def reconnPowerDownNotif : UInt16 := 0x0110
def reconnQuitingNotif : UInt16 := 0x0111
def specanaHardwareFailNotif : UInt16 := 0x0204
def pmeterStatusNotif : UInt16 := 0x0405
def lnbGpioStatesId : UInt16 := 0x0605
def batteryLevelRsp : UInt16 := 0x08f0
def batteryChargeStateRsp : UInt16 := 0x08f1
def webServiceStateId : UInt16 := 0x0b02

/-- The command ids that the switch of reconnClientTask has a case for. -/
inductive Command where
  | keepaliveMessage
  | reconnConnectionStatusReq
  | reconnIdReq
  | reconnInitStateSetReq
  | clientResignReq
  | clientAccessReq
  | masterModeReq
  | masterModeResignReq
  | masterModeResignResp
  | reconnSwVersionReq
  | reconnDeviceDebugReq
  | reconnIpAddressReq
  | reconnRetrieveCrashlog
  | batteryLevelReq
  | batteryChargeStateReq
  | wifiStatusReq
  | wifiSetPowerReq
  | wifiChangePasswordReq
  | wifiChangeSsidReq
  | wifiMacAddressReq
  | wifiSsidRetrieve
  | wifiPasswordRetrieve
  | specanaPowerSetReq
  | specanaIdleCfgReq
  | specanaPktSendReq
  | pmeterPowerSetReq
  | pmeterIdleCfgReq
  | pmeterPktSendReq
  | dmmPowerSetReq
  | dmmIdleCfgReq
  | dmmPktSendReq
  | dmmBuiltintestReq
  | lnbPowerSetReq
  | lnbSa10Mhz
  | lnb10Mhz
  | lnb18VdcBias
  | lnbGpioStates
  | swUpgradeReq
  | fwUpgradeReq
  | slavesSendMsg
  | webServiceIpAndPort
  | webServiceState
  deriving DecidableEq, Repr

/-- The case of a command id; none is the default case. -/
def Command.ofId (cmdid : UInt16) : Option Command :=
  match cmdid.toNat with
  | 0xFFFE => some .keepaliveMessage
  | 0x0101 => some .reconnConnectionStatusReq
  | 0x0104 => some .reconnIdReq
  | 0x0107 => some .reconnInitStateSetReq
  | 0x0002 => some .clientResignReq
  | 0x0001 => some .clientAccessReq
  | 0x0003 => some .masterModeReq
  | 0x0006 => some .masterModeResignReq
  | 0x0008 => some .masterModeResignResp
  | 0x010a => some .reconnSwVersionReq
  | 0x0109 => some .reconnDeviceDebugReq
  | 0x010b => some .reconnIpAddressReq
  | 0x010f => some .reconnRetrieveCrashlog
  | 0x0800 => some .batteryLevelReq
  | 0x0801 => some .batteryChargeStateReq
  | 0x0900 => some .wifiStatusReq
  | 0x0901 => some .wifiSetPowerReq
  | 0x0902 => some .wifiChangePasswordReq
  | 0x0903 => some .wifiChangeSsidReq
  | 0x0904 => some .wifiMacAddressReq
  | 0x0906 => some .wifiSsidRetrieve
  | 0x0907 => some .wifiPasswordRetrieve
  | 0x0200 => some .specanaPowerSetReq
  | 0x0201 => some .specanaIdleCfgReq
  | 0x0202 => some .specanaPktSendReq
  | 0x0400 => some .pmeterPowerSetReq
  | 0x0401 => some .pmeterIdleCfgReq
  | 0x0402 => some .pmeterPktSendReq
  | 0x0500 => some .dmmPowerSetReq
  | 0x0501 => some .dmmIdleCfgReq
  | 0x0502 => some .dmmPktSendReq
  | 0x0504 => some .dmmBuiltintestReq
  | 0x0600 => some .lnbPowerSetReq
  | 0x0601 => some .lnbSa10Mhz
  | 0x0602 => some .lnb10Mhz
  | 0x0603 => some .lnb18VdcBias
  | 0x0605 => some .lnbGpioStates
  | 0x0a00 => some .swUpgradeReq
  | 0x0a01 => some .fwUpgradeReq
  | 0x000c => some .slavesSendMsg
  | 0x0b01 => some .webServiceIpAndPort
  | 0x0b02 => some .webServiceState
  | _ => none

/-- The commands that the mode filter lets a slave client use. -/
def Command.slaveMayUse : Option Command → Bool
  | some .keepaliveMessage | some .clientResignReq | some .clientAccessReq
  | some .masterModeResignReq | some .masterModeReq => true
  | _ => false

/-- The commands that the mode filter lets a remote client use. -/
def Command.remoteMayUse : Option Command → Bool
  | some .keepaliveMessage | some .clientResignReq | some .clientAccessReq
  | some .masterModeReq => true
  | _ => false

/-- InsertedClientMessage, with the connection state that RM_STATE_CHANGE carries. -/
inductive ControlMessage where
  | masterInserted
  | masterExtracted
  | masterAck
  | lowBattery
  | meterInserted
  | meterExtracted
  | rmStateChange (state : UInt8)
  deriving DecidableEq, Repr

def highByte (word : UInt16) : UInt8 := UInt8.ofNat (word.toNat / 256)
def lowByte (word : UInt16) : UInt8 := UInt8.ofNat (word.toNat % 256)

/-- The high byte of a word that was put together from two bytes. -/
theorem highByte_ofNat (high low : UInt8)
    : highByte (UInt16.ofNat (high.toNat * 256 + low.toNat)) = high := by
  have highLt := high.toNat_lt
  have lowLt := low.toNat_lt
  rw [highByte, UInt16.toNat_ofNat_of_lt' (by simp only [UInt16.size]; omega),
    (by omega : (high.toNat * 256 + low.toNat) / 256 = high.toNat), UInt8.ofNat_toNat]

/-- The low byte of a word that was put together from two bytes. -/
theorem lowByte_ofNat (high low : UInt8)
    : lowByte (UInt16.ofNat (high.toNat * 256 + low.toNat)) = low := by
  have highLt := high.toNat_lt
  have lowLt := low.toNat_lt
  rw [lowByte, UInt16.toNat_ofNat_of_lt' (by simp only [UInt16.size]; omega),
    (by omega : (high.toNat * 256 + low.toNat) % 256 = low.toNat), UInt8.ofNat_toNat]

/-- A ReconnPacket as it was received; dataPayload is zero after the received bytes. -/
structure Packet where
  messageId : UInt8 × UInt8
  dataLength : UInt8 × UInt8
  dataPayload : Nat → UInt8

namespace Packet

/-- The packet after the memset at the top of the task's loop. -/
def zero : Packet := ⟨(0, 0), (0, 0), fun _ => 0⟩

/-- GET_MSGID_FROM_PACKET -/
def cmdid (packet : Packet) : UInt16 :=
  UInt16.ofNat (packet.messageId.1.toNat * 256 + packet.messageId.2.toNat)

/-- GET_DATA_LENGTH_FROM_PACKET -/
def pktLength (packet : Packet) : Nat :=
  packet.dataLength.1.toNat * 256 + packet.dataLength.2.toNat

def command (packet : Packet) : Option Command := Command.ofId packet.cmdid

/-- The first bytes of the payload. -/
def payload (packet : Packet) (length : Nat) : List UInt8 :=
  (List.range length).map packet.dataPayload

end Packet

def reconnPayloadSize : Nat := 500
def reconnRspPayloadSize : Nat := 2048
def reconnRspPacketHeaderSize : Nat := 6

/-- A ReconnResponsePacket. A context keeps one between commands, so a handler that does not
clear it sends what an earlier one left in the payload.
-/
structure ResponsePacket where
  rspId : UInt16
  dataLength : UInt16
  messageId : UInt16
  dataPayload : Nat → UInt8

namespace ResponsePacket

/-- The memset of a whole response packet. -/
def zero : ResponsePacket := ⟨0, 0, 0, fun _ => 0⟩

/-- ADD_RSPID_TO_PACKET of a generic response and ADD_MSGID_TO_PACKET. -/
def address (packet : ResponsePacket) (messageId : UInt16) : ResponsePacket :=
  { packet with rspId := genericResponse, messageId }

/-- ADD_DATA_LENGTH_TO_PACKET -/
def withLength (packet : ResponsePacket) (length : Nat) : ResponsePacket :=
  { packet with dataLength := UInt16.ofNat length }

/-- Overwrites the payload's first bytes. -/
def write (packet : ResponsePacket) (values : List UInt8) : ResponsePacket :=
  {
    packet with
    dataPayload := fun index => (values[index]?).getD (packet.dataPayload index)
  }

/-- The memset of the payload. -/
def clearPayload (packet : ResponsePacket) : ResponsePacket :=
  { packet with dataPayload := fun _ => 0 }

/-- The first `length` bytes of the packet in memory. -/
def bytes (packet : ResponsePacket) (length : Nat) : List UInt8 :=
  ([
    highByte packet.rspId, lowByte packet.rspId,
    highByte packet.dataLength, lowByte packet.dataLength,
    highByte packet.messageId, lowByte packet.messageId
  ] ++ (List.range (length - reconnRspPacketHeaderSize)).map packet.dataPayload).take length

end ResponsePacket

/-- The GPIO lines that the client task switches or reads. -/
inductive GpioName where
  | power18VGpio
  | dmmPowerGpio
  | lnbEnableGpio
  | sa10MhzGpio
  | lnb10MhzGpio
  | lnb18VdcGpio
  | powerLedGpio
  | batteryLedRedGpio
  | batteryLedGreenGpio
  deriving DecidableEq, Repr

inductive GpioAction where
  | disable
  | enable
  | read
  deriving DecidableEq, Repr

/-- PowerMgmtEqptType, less the GPS counter. -/
inductive PowerMgmtEqptType where
  | resetPowerMeterStbyCounter
  | resetDmmStbyCounter
  | resetSpectrumAnalyzerStbyCounter
  | resetSystemShutdownTime
  deriving DecidableEq, Repr

/-- The calls by which a client task acts on something outside its tables and globals. -/
inductive Action where
  | libiphonedTx (buffer : List UInt8)
  /-- libiphoned_tx of the bytes of the pointer theResponsePktPtr itself. -/
  | libiphonedTxPointer (length : Nat)
  | sendSocket (socketFd : Int) (buffer : List UInt8)
  | reconnEqptAddMsgToQ (message : List UInt8)
  | resetPowerStandbyCounter (theEqpt : PowerMgmtEqptType)
  | reconnReturnClientIndex (index : Int)
  | reconnRegisterClientApp (index : Int)
  | reconnDeRegisterClientApp (index : Int)
  | close (fd : Int)
  | shutdown (fd : Int)
  | system (command : String)
  | unlink (path : String)
  | reconnGpioAction (theGpio : GpioName) (theAction : GpioAction)
  | dmmWrite (buffer : List UInt8)
  | dmmInit
  | dmmPowerDown
  | dmmDiags
  | dmmSaveConfig
  | spectrumAnalyzerWrite (buffer : List UInt8)
  | spectrumAnalyzerInit
  | spectrumAnalyzerUpgrade
  | powerMeterWrite (buffer : List UInt8)
  | wifiSetState (newState : UInt8)
  | wifiUpdateHostapdConfFile (token : String) (theNewValue : List UInt8)
  | wifiCleanUp
  | libiphonedStop
  | raiseSigterm
  deriving DecidableEq, Repr

/-- The actions that write to the DMM, the spectrum analyzer or the power meter, switch a
GPIO or change the WiFi configuration.
-/
def Action.drives : Action → Bool
  | .reconnGpioAction _ .read => false
  | .reconnGpioAction _ _ => true
  | .dmmWrite _ | .dmmInit | .dmmPowerDown | .dmmDiags | .dmmSaveConfig => true
  | .spectrumAnalyzerWrite _ | .spectrumAnalyzerInit | .spectrumAnalyzerUpgrade => true
  | .powerMeterWrite _ => true
  | .wifiSetState _ | .wifiUpdateHostapdConfFile _ _ | .wifiCleanUp => true
  | _ => false

/-- sendReconnResponse, which puts the error code in the payload unless it is unknown. -/
def sendReconnResponse (socketFd : Int) (c1 c2 : UInt8) (errCode : ReconnErrCode)
    (mode : Mode)
    : Action :=
  let length := if errCode = reconnErrorUnknown then 0 else 1
  let payload := if errCode = reconnErrorUnknown then [] else [errCode]
  let buff : List UInt8 :=
    [highByte genericResponse, lowByte genericResponse, 0, length, c1, c2] ++ payload
  if mode = .insertedMasterMode then .libiphonedTx buff else .sendSocket socketFd buff

/-- formatReconnPacket without data, as the header that is sent. -/
def formatReconnPacket (theMsgId : UInt16) : List UInt8 :=
  [highByte theMsgId, lowByte theMsgId, 0, 0]

end Reconn.Client
