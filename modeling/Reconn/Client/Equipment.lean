import Reconn.Client.State

/-! The commands of a client that leave mastership, the client table and the remote monitor
alone: what each handler of the switch sends, and what it does to the equipment.
-/

namespace Reconn.Client

/-- What the calls outside the client tasks' variables return during one turn of a task.
Files are given by their contents, none where a call fails.
-/
structure Outcomes where
  mqReceive : Bool
  mqOpen : Int
  serialNumberFile : Option (List UInt8)
  /-- stat() of RECONN_DEFAULT_FILE_NAME -/
  defaultFileExists : Bool
  /-- fopen() of RECONN_DEFAULT_FILE_NAME for writing -/
  defaultFileOpens : Bool
  /-- the string at newSSID[1] after the serial number was read into newSSID -/
  newSsidTail : Option (List UInt8)
  /-- whether reconnDebugPrint() returns where its format names more than it is given -/
  shortPrintReturns : Bool
  wifiUpdateHostapdConfFile : String → ReconnErrCode
  isPowerMeterPresent : ReconnErrCode
  getReconnSwVersion : List UInt8
  ipSocketOpens : Bool
  ipAddress : Option (List UInt8)
  subnetMask : Option (List UInt8)
  crashlogExists : Bool
  crashlog : Option (List UInt8)
  gBatteryPercentage : UInt8
  gChargerState : UInt8
  wifiGetState : UInt8
  wifiSetState : UInt8 → ReconnErrCode
  wifiGetMacAddress : Option (List UInt8)
  wifiGetSsidOrPasswd : String → Option (List UInt8)
  reconnGpioAction : GpioName → GpioAction → ReconnErrCode
  theValue : GpioName → UInt8
  spectrumAnalyzerWrite : ReconnErrCode
  spectrumAnalyzerInit : ReconnErrCode
  spectrumAnalyzerUpgrade : ReconnErrCode
  powerMeterWrite : ReconnErrCode
  dmmWrite : ReconnErrCode
  /-- the second dmmWrite, after dmmInit -/
  dmmWriteAgain : ReconnErrCode
  dmmInit : ReconnErrCode
  dmmPowerDown : ReconnErrCode
  dmmDiags : ReconnErrCode
  extractBundle : ReconnErrCode
  /-- the exit status of the upgrade script, if the bundle had one -/
  upgradeScript : Option ReconnErrCode
  linkSocketOpens : Bool
  linkIoctl : Bool
  linkUp : Bool
  /-- socket() for the web server -/
  webServerSocket : Int
  hostnameResolves : Bool
  /-- RECONN_SUCCESS, or the code for the errno of connect() -/
  webServerConnect : ReconnErrCode
  remoteMonitorTaskStarts : Bool

def powerOff : UInt8 := 0
def powerOn : UInt8 := 1
def wifiDisable : UInt8 := 0
def wifiEnable : UInt8 := 1
def nonDefault : UInt8 := 0
def default_ : UInt8 := 1
def inserted : UInt8 := 1
def extracted : UInt8 := 0
def gpioIsInactive : UInt8 := 0x30
def fuelGaugeMaxPercentage : UInt8 := 85
def wifiPasswdMaxLength : Nat := 63
def wifiSsidMaxLength : Nat := 33

/-- The size of tmpSSID. -/
def tmpSsidSize : Nat := wifiSsidMaxLength + 1
def reconnMacaddrLen : Nat := 17
def reconnSerialnumMaxLen : Nat := 12
def wifiSsidToken : String := "ssid="
def wifiPasswdToken : String := "wpa_passphrase="

/-- The bytes of a text of ASCII characters. -/
def ascii (text : String) : List UInt8 := text.toList.map fun c => UInt8.ofNat c.toNat

/-- A C string: what stands before the first NUL. -/
def cString (buffer : List UInt8) : List UInt8 := buffer.takeWhile (· ≠ 0)

namespace Context

/-- sendReconnResponse with the request's message id. -/
def respond (c : Context) (p : Packet) (errCode : ReconnErrCode) : Action :=
  sendReconnResponse c.socketFd p.messageId.1 p.messageId.2 errCode c.mode

/-- sendReconnResponse with another message id. -/
def notify (c : Context) (messageId : UInt16) (errCode : ReconnErrCode) : Action :=
  sendReconnResponse c.socketFd (highByte messageId) (lowByte messageId) errCode c.mode

/-- Sends a response packet out of the 30 pin connector for an inserted master, else to the
given socket.
-/
def transmit (c : Context) (socketFd : Int) (pkt : ResponsePacket) (length : Nat) : Action :=
  let buffer := pkt.bytes (reconnRspPacketHeaderSize + length)
  if c.mode = .insertedMasterMode then .libiphonedTx buffer else .sendSocket socketFd buffer

/-- Sends a response packet out of the 30 pin connector for an inserted master, and in any
case to all registered clients.
-/
def broadcast (c : Context) (pkt : ResponsePacket) (length : Nat) : List Action :=
  let buffer := pkt.bytes (reconnRspPacketHeaderSize + length)
  (if c.mode = .insertedMasterMode then [.libiphonedTx buffer] else [])
    ++ [.reconnEqptAddMsgToQ buffer]

end Context

namespace State

/-- disconnectAllClients: what it does to each registered client of the mode; none if it
dereferences an entry that is no allocated context.
-/
def disconnectAllClients (s : State) (mode : Mode) : Option (List Action) :=
  let visit (i : Int) : Option (List Action) :=
    match s.registry.activeClientsList i with
    | .free => some []
    | .reserved => none
    | .registered a =>
        (s.contexts a).map fun other =>
          if other.mode = mode then
            [
              .sendSocket other.socketFd (formatReconnPacket reconnQuitingNotif),
              .shutdown other.socketFd,
              .shutdown other.socketFd
            ]
          else []
  (Registry.indices.mapM visit).map List.flatten

/-- reconnClientsRegistered for a REGISTRATION_TYPE_e value: 0 is ALL, 1 is SLAVE, 2 is
REMOTE, and any other counts no client. none if a type is asked of an entry that is no
allocated context.
-/
def reconnClientsRegistered (s : State) (theType : Nat) : Option Nat :=
  let counts (i : Int) : Option Nat :=
    match s.registry.activeClientsList i with
    | .free => some 0
    | entry =>
        if theType = 0 then some 1
        else if theType = 1 ∨ theType = 2 then
          match entry with
          | .registered a =>
              (s.contexts a).map fun other =>
                if other.mode = (if theType = 2 then .remoteMode else .slaveMode) then 1
                else 0
          | _ => none
        else some 0
  (Registry.indices.mapM counts).map List.sum

end State

/-- getDeviceId: the serial number with its NUL, if the file was read to its end. -/
def getDeviceId (serialNumberFile : Option (List UInt8)) : Option (List UInt8) :=
  serialNumberFile.bind fun content =>
    if content ≠ [] ∧ content.length < reconnSerialnumMaxLen - 1 then
      some (cString content ++ [0])
    else none

/-- What a handler leaves in the context's response packet, and what it does. -/
abbrev Handled := ResponsePacket × List Action

namespace Context

variable (c : Context) (env : Outcomes) (g : Globals) (p : Packet)

def reconnIdReq : Handled :=
  match getDeviceId env.serialNumberFile with
  | some serial =>
      let pkt :=
        ((c.theResponsePkt.address reconnIdNotif).withLength serial.length).write serial
      (pkt, c.broadcast pkt serial.length)
  | none => (c.theResponsePkt, [c.respond p reconnFailure])

/-- RECONN_INIT_STATE_SET_REQ: removes or creates the file that marks the box as defaulted,
and for the default state sets the default password and network name. None if the name does
not fit tmpSSID, or a print that lacks arguments does not return.
-/
def reconnInitStateSetReq : Option (List Action) :=
  let state := p.dataPayload 0
  let changes : Option (List Action × ReconnErrCode) :=
    if state = nonDefault then
      some (
        [
          .unlink "/home/reconn/defaulted",
          .system "/sbin/siconfig usb0 down",
          .system "udhcpc --interface usb0 --host reconn --background --release",
          .system "iptables -X",
          .system "iptables -t nat -X",
          .system "iptables -t nat -A POSTROUTING -o usb0 -j MASQUERADE",
          .system "iptables -A FORWARD -i usb0 -j ACCEPT",
          .system "echo 1 > /proc/sys/net/ipv4/ip_forward"
        ],
        reconnSuccess
      )
    else if state = default_ then
      if env.defaultFileOpens then
        let password := .wifiUpdateHostapdConfFile wifiPasswdToken (ascii "coolfire1")
        if env.wifiUpdateHostapdConfFile wifiPasswdToken = reconnSuccess then
          let tmpSsid := ascii "reconn" ++ env.newSsidTail.getD []
          if tmpSsid.length < tmpSsidSize then
            some (
              [password, .wifiUpdateHostapdConfFile wifiSsidToken tmpSsid],
              env.wifiUpdateHostapdConfFile wifiSsidToken
            )
          else none
        else some ([password], reconnFailure)
      else if env.shortPrintReturns then some ([], reconnFailure)
      else none
    else if env.shortPrintReturns then some ([], reconnInvalidMessage)
    else none
  changes.map fun changes =>
    changes.1
      ++ [c.respond p changes.2, .resetPowerStandbyCounter .resetSystemShutdownTime]

def reconnSwVersionReq : Handled :=
  let version := env.getReconnSwVersion
  let pkt :=
    ((ResponsePacket.zero.address reconnSwVersionReqId).withLength version.length).write version
  (
    pkt,
    [
      c.transmit g.masterClientSocketFd pkt version.length,
      .resetPowerStandbyCounter .resetSystemShutdownTime
    ]
  )

/-- RECONN_IP_ADDRESS_REQ. If no socket could be opened, the response packet and the length
of the request are used as they are.
-/
def reconnIpAddressReq : Handled :=
  let answer : ResponsePacket × Nat :=
    if env.ipSocketOpens then
      let pkt := c.theResponsePkt.clearPayload.address reconnIpAddressNotif
      match env.ipAddress, env.subnetMask with
      | some ipAddr, some subnetMask =>
          let payload := ipAddr ++ [0] ++ subnetMask ++ [0]
          ((pkt.withLength payload.length).write payload, payload.length)
      | _, _ => (pkt.withLength 1, 1)
    else (c.theResponsePkt, p.pktLength + 4)
  (
    answer.1,
    [c.respond p reconnSuccess, c.transmit g.masterClientSocketFd answer.1 answer.2]
  )

/-- RECONN_RETRIEVE_CRASHLOG: full packets while the file fills them, then what is left and
one byte more.
-/
def reconnRetrieveCrashlog : Handled :=
  let pkt := ResponsePacket.zero.address reconnRetrieveCrashlogId
  let send (pkt : ResponsePacket) (length : Nat) : Action :=
    c.transmit g.masterClientSocketFd (pkt.withLength length) length
  let content := if env.crashlogExists then env.crashlog else none
  match content with
  | some content =>
      let size := reconnRspPayloadSize
      let chunks := (List.range (content.length / size)).map fun n =>
        (content.drop (n * size)).take size
      let left := content.drop (content.length / size * size)
      let last := pkt.write left
      (
        last.withLength (left.length + 1),
        chunks.map (fun chunk => send (pkt.write chunk) size)
          ++ [
            send last (left.length + 1),
            .resetPowerStandbyCounter .resetSystemShutdownTime
          ]
      )
  | none =>
      (
        pkt.withLength 2,
        [send pkt 2, .resetPowerStandbyCounter .resetSystemShutdownTime]
      )

/-- The two battery requests: one byte, sent to everybody. -/
def batteryReq (messageId : UInt16) (value : UInt8) : Handled :=
  let pkt := ((ResponsePacket.zero.address messageId).withLength 1).write [value]
  (pkt, c.broadcast pkt 1 ++ [.resetPowerStandbyCounter .resetSystemShutdownTime])

def batteryLevelReq : Handled :=
  c.batteryReq batteryLevelRsp
    (if fuelGaugeMaxPercentage ≤ env.gBatteryPercentage then 100 else env.gBatteryPercentage)

def batteryChargeStateReq : Handled := c.batteryReq batteryChargeStateRsp env.gChargerState

/-- WIFI_SET_POWER_REQ; switching a WiFi that is on off disconnects the slaves first. -/
def wifiSetPowerReq (s : State) : Option (List Action) :=
  let newState := p.dataPayload 0
  let reset : Action := .resetPowerStandbyCounter .resetSystemShutdownTime
  if newState = wifiEnable ∨ newState = wifiDisable then
    let disconnected :=
      if newState = wifiDisable ∧ env.wifiGetState = wifiEnable then
        s.disconnectAllClients .slaveMode
      else some []
    disconnected.map fun actions =>
      .wifiSetState newState
        :: actions ++ [c.respond p (env.wifiSetState newState), reset]
  else some [c.respond p reconnInvalidParameter, reset]

/-- WIFI_CHANGE_PASSWORD_REQ and WIFI_CHANGE_SSID_REQ, for a token and a test of the length
of the new value.
-/
def wifiChange (s : State) (token : String) (accepted : Nat → Bool) : Option (List Action) :=
  let reset : Action := .resetPowerStandbyCounter .resetSystemShutdownTime
  if accepted p.pktLength then
    (s.disconnectAllClients .slaveMode).map fun actions =>
      let retCode := env.wifiUpdateHostapdConfFile token
      actions
        ++ [
          .wifiUpdateHostapdConfFile token (cString (p.payload p.pktLength)),
          c.respond p retCode
        ]
        ++ (if retCode = reconnSuccess then [.system "/etc/init.d/hostapd reload"] else [])
        ++ [reset]
  else some [c.respond p reconnInvalidParameter, reset]

def wifiChangePasswordReq (s : State) : Option (List Action) :=
  c.wifiChange env p s wifiPasswdToken fun length =>
    8 ≤ length && length ≤ wifiPasswdMaxLength

def wifiChangeSsidReq (s : State) : Option (List Action) :=
  c.wifiChange env p s wifiSsidToken fun length => length ≤ wifiSsidMaxLength

/-- WIFI_MAC_ADDRESS_REQ sends the length of an address also when there is none. -/
def wifiMacAddressReq : Handled :=
  let pkt := ResponsePacket.zero.address p.cmdid
  let pkt := match env.wifiGetMacAddress with
    | some mac => (pkt.write mac).withLength reconnMacaddrLen
    | none => (pkt.write [reconnFailure]).withLength 1
  (
    pkt,
    [
      c.transmit g.masterClientSocketFd pkt reconnMacaddrLen,
      .resetPowerStandbyCounter .resetSystemShutdownTime
    ]
  )

/-- WIFI_SSID_RETRIEVE and WIFI_PASSWORD_RETRIEVE -/
def wifiRetrieve (token : String) : Handled :=
  let value := (env.wifiGetSsidOrPasswd token).getD [reconnFailure]
  let pkt := ((ResponsePacket.zero.address p.cmdid).write value).withLength value.length
  (
    pkt,
    [
      c.transmit g.masterClientSocketFd pkt value.length,
      .resetPowerStandbyCounter .resetSystemShutdownTime
    ]
  )

/-- A request that switches a GPIO line on or off: the line's action and the answer. -/
def gpioPowerSet (theGpio : GpioName) (failed : ReconnErrCode) : List Action :=
  let action : GpioAction := if p.dataPayload 0 = powerOn then .enable else .disable
  [
    .reconnGpioAction theGpio action,
    c.respond p
      (if env.reconnGpioAction theGpio action = reconnFailure then failed else reconnSuccess)
  ]

/-- SPECANA_POWER_SET_REQ does not answer an invalid payload. -/
def specanaPowerSetReq : List Action :=
  (if p.dataPayload 0 = powerOn ∨ p.dataPayload 0 = powerOff then
    c.gpioPowerSet env p .power18VGpio reconnInvalidMessage
  else [])
    ++ [.resetPowerStandbyCounter .resetSpectrumAnalyzerStbyCounter]

def specanaPktSendReq : List Action :=
  let write := Action.spectrumAnalyzerWrite (p.payload p.pktLength)
  let reset : Action := .resetPowerStandbyCounter .resetSpectrumAnalyzerStbyCounter
  if g.masterClientSocketFd = c.socketFd then
    if env.spectrumAnalyzerWrite = reconnSaPortNotInitialized then
      if env.spectrumAnalyzerInit = reconnFailure then
        [
          write,
          .spectrumAnalyzerInit,
          c.notify specanaHardwareFailNotif reconnErrorUnknown
        ]
      else [write, .spectrumAnalyzerInit, write, c.respond p reconnSuccess, reset]
    else [write, c.respond p reconnSuccess, reset]
  else [reset]

def pmeterPktSendReq : List Action :=
  let write := Action.powerMeterWrite (p.payload p.pktLength)
  let reset : Action := .resetPowerStandbyCounter .resetPowerMeterStbyCounter
  if g.masterClientSocketFd = c.socketFd then
    if env.powerMeterWrite = reconnPmPortNotInitialized then
      [write, c.respond p reconnInvalidState]
    else [write, reset]
  else [reset]

/-- DMM_POWER_SET_REQ answers a request to power off twice. -/
def dmmPowerSetReq : List Action :=
  let reset : Action := .resetPowerStandbyCounter .resetDmmStbyCounter
  if p.dataPayload 0 = powerOff then
    [
      .dmmPowerDown,
      c.respond p env.dmmPowerDown,
      c.respond p env.dmmPowerDown,
      reset
    ]
  else if p.dataPayload 0 = powerOn then
    let read := Action.reconnGpioAction .dmmPowerGpio .read
    let retCode := env.reconnGpioAction .dmmPowerGpio .read
    if retCode = reconnSuccess ∧ env.theValue .dmmPowerGpio = gpioIsInactive then
      [read, .dmmInit, c.respond p env.dmmInit, reset]
    else [read, c.respond p retCode, reset]
  else [c.respond p reconnInvalidMessage]

def dmmPktSendReq : List Action :=
  let write := Action.dmmWrite (p.payload p.pktLength)
  let done : List Action × ReconnErrCode :=
    if env.dmmWrite = reconnDmmPortNotInitialized then
      if env.dmmInit = reconnSuccess then ([write, .dmmInit, write], env.dmmWriteAgain)
      else ([write, .dmmInit], env.dmmInit)
    else ([write], env.dmmWrite)
  done.1
    ++ (if done.2 ≠ reconnSuccess then [c.respond p reconnFailure] else [])
    ++ [.resetPowerStandbyCounter .resetDmmStbyCounter]

/-- LNB_POWER_SET_REQ, LNB_SA_10MHZ and LNB_10MHZ -/
def lnbPowerSet (theGpio : GpioName) : List Action :=
  if p.dataPayload 0 = powerOn ∨ p.dataPayload 0 = powerOff then
    c.gpioPowerSet env p theGpio reconnFailure
      ++ [.resetPowerStandbyCounter .resetSystemShutdownTime]
  else [c.respond p reconnInvalidMessage]

/-- LNB_18VDC_BIAS resets the shutdown time also for an invalid payload. -/
def lnb18VdcBias : List Action :=
  (if p.dataPayload 0 = powerOn ∨ p.dataPayload 0 = powerOff then
    c.gpioPowerSet env p .lnb18VdcGpio reconnFailure
  else [c.respond p reconnInvalidMessage])
    ++ [.resetPowerStandbyCounter .resetSystemShutdownTime]

/-- LNB_GPIO_STATES reads three lines into the payload, up to the first that fails. -/
def lnbGpioStates : Handled :=
  let lines : List GpioName := [.sa10MhzGpio, .lnb10MhzGpio, .lnb18VdcGpio]
  let readable := lines.takeWhile fun line => env.reconnGpioAction line .read = reconnSuccess
  let reads := (lines.take (readable.length + 1)).map fun line =>
    Action.reconnGpioAction line .read
  let pkt := c.theResponsePkt.write (readable.map env.theValue)
  let reset : Action := .resetPowerStandbyCounter .resetSystemShutdownTime
  if readable.length = 3 then
    let pkt := (pkt.address lnbGpioStatesId).withLength 3
    (pkt, reads ++ [c.transmit c.socketFd pkt 3, reset])
  else (pkt, reads ++ [c.respond p reconnInvalidMessage, reset])

/-- A request that is only answered. -/
def answered (errCode : ReconnErrCode) (theEqpt : PowerMgmtEqptType) : List Action :=
  [c.respond p errCode, .resetPowerStandbyCounter theEqpt]

end Context

/-- The cases of the switch that only send, drive the equipment and read the tables; none if a
handler dereferences an entry that is no context or does not come to its end. The commands with
an effect on the tasks themselves have none here and are not passed to it.
-/
def equipmentCommand (env : Outcomes) (s : State) (c : Context) (p : Packet)
    : Option Command → Option Handled
  | some .reconnIdReq => some (c.reconnIdReq env p)
  | some .reconnInitStateSetReq => (c.reconnInitStateSetReq env p).bind keep
  | some .keepaliveMessage | some .reconnConnectionStatusReq | some .clientAccessReq =>
      keep (c.answered p reconnSuccess .resetSystemShutdownTime)
  | some .reconnSwVersionReq => some (c.reconnSwVersionReq env s.globals)
  | some .reconnDeviceDebugReq => keep [c.respond p reconnFailure]
  | some .reconnIpAddressReq => some (c.reconnIpAddressReq env s.globals p)
  | some .reconnRetrieveCrashlog => some (c.reconnRetrieveCrashlog env s.globals)
  | some .batteryLevelReq => some (c.batteryLevelReq env)
  | some .batteryChargeStateReq => some (c.batteryChargeStateReq env)
  | some .wifiStatusReq => keep (c.answered p env.wifiGetState .resetSystemShutdownTime)
  | some .wifiSetPowerReq => (c.wifiSetPowerReq env p s).bind keep
  | some .wifiChangePasswordReq => (c.wifiChangePasswordReq env p s).bind keep
  | some .wifiChangeSsidReq => (c.wifiChangeSsidReq env p s).bind keep
  | some .wifiMacAddressReq => some (c.wifiMacAddressReq env s.globals p)
  | some .wifiSsidRetrieve => some (c.wifiRetrieve env s.globals p wifiSsidToken)
  | some .wifiPasswordRetrieve => some (c.wifiRetrieve env s.globals p wifiPasswdToken)
  | some .specanaPowerSetReq => keep (c.specanaPowerSetReq env p)
  | some .specanaIdleCfgReq =>
      keep [.resetPowerStandbyCounter .resetSpectrumAnalyzerStbyCounter]
  | some .specanaPktSendReq => keep (c.specanaPktSendReq env s.globals p)
  | some .pmeterPowerSetReq | some .pmeterIdleCfgReq =>
      keep (c.answered p reconnInvalidMessage .resetPowerMeterStbyCounter)
  | some .pmeterPktSendReq => keep (c.pmeterPktSendReq env s.globals p)
  | some .dmmPowerSetReq => keep (c.dmmPowerSetReq env p)
  | some .dmmIdleCfgReq => keep (c.answered p reconnSuccess .resetDmmStbyCounter)
  | some .dmmPktSendReq => keep (c.dmmPktSendReq env p)
  | some .dmmBuiltintestReq =>
      keep (.dmmDiags :: c.answered p env.dmmDiags .resetDmmStbyCounter)
  | some .lnbPowerSetReq => keep (c.lnbPowerSet env p .lnbEnableGpio)
  | some .lnbSa10Mhz => keep (c.lnbPowerSet env p .sa10MhzGpio)
  | some .lnb10Mhz => keep (c.lnbPowerSet env p .lnb10MhzGpio)
  | some .lnb18VdcBias => keep (c.lnb18VdcBias env p)
  | some .lnbGpioStates => some (c.lnbGpioStates env p)
  | some .fwUpgradeReq =>
      keep [.spectrumAnalyzerUpgrade, c.respond p env.spectrumAnalyzerUpgrade]
  | some .slavesSendMsg =>
      (s.reconnClientsRegistered 0).bind fun registered =>
        keep
          ((if 1 < registered then
              [.reconnEqptAddMsgToQ
                ([p.messageId.1, p.messageId.2, p.dataLength.1, p.dataLength.2]
                  ++ p.payload p.pktLength)]
            else [])
          ++ [.resetPowerStandbyCounter .resetSystemShutdownTime])
  | some .webServiceState =>
      keep [c.notify webServiceStateId (if s.remote.remoteMonitorActive then 1 else 2)]
  | none => keep (c.answered p reconnInvalidMessage .resetSystemShutdownTime)
  | some .clientResignReq | some .masterModeReq | some .masterModeResignReq
  | some .masterModeResignResp | some .swUpgradeReq | some .webServiceIpAndPort => none
where
  keep (actions : List Action) : Option Handled := some (c.theResponsePkt, actions)

end Reconn.Client
