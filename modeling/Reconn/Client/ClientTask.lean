import Reconn.Client.Equipment

/-! reconnClientTask: what it does before its loop, and one turn of the loop, which receives
a packet, polls the control queue and then either handles a control message or dispatches
the packet.
-/

namespace Reconn.Client

/-- How receive_packet_data returns. A packet whose payload does not fit the buffer has
overwritten the rest of the context.
-/
inductive Received where
  | closed
  | failed
  | wouldBlock
  | packet (p : Packet)

/-- Which way a turn of the loop goes. -/
inductive Turn where
  | closed
  | failed
  | overrun
  /-- mq_receive failed -/
  | stalled
  | takes (message : ControlMessage)
  | idle
  | dispatches (p : Packet)

/-- The branches of the loop up to the dispatch. With no control queue open, a would-block
result goes on to the dispatch with the cleared packet.
-/
def turn (g : Globals) (mqReceive : Bool) : Received → Turn
  | .closed => .closed
  | .failed => .failed
  | .wouldBlock =>
      if g.masterClientMsgQid ≠ -1 then
        match g.masterClientMsgQ with
        | message :: _ => if mqReceive then .takes message else .stalled
        | [] => .idle
      else .dispatches .zero
  | .packet p =>
      if reconnPayloadSize < p.pktLength then .overrun
      else if g.masterClientMsgQid ≠ -1 then
        match g.masterClientMsgQ with
        | message :: _ => if mqReceive then .takes message else .stalled
        | [] => .dispatches p
      else .dispatches p

/-- The packet that receive_packet_data has returned completely, also one that did not fit
the buffer.
-/
def Received.complete : Received → Option Packet
  | .packet p => some p
  | .closed | .failed | .wouldBlock => none

/-- The message that a turn takes. -/
def Turn.taken : Turn → Option ControlMessage
  | .takes message => some message
  | _ => none

/-- The packet that a turn brings to the command filter. -/
def Turn.dispatched : Turn → Option Packet
  | .dispatches p => some p
  | _ => none

section Turns

variable {g : Globals} {mqReceive : Bool} {received : Received}

/-- Only a failed receive goes the way of a read error. -/
theorem turn_failed (way : turn g mqReceive received = .failed) : received = .failed := by
  fun_cases turn g mqReceive received <;> grind [turn]

/-- A message is taken from the head of the open queue, after a receive that brought a packet
or would have blocked.
-/
theorem turn_takes {message : ControlMessage}
    (way : turn g mqReceive received = .takes message)
    : g.masterClientMsgQid ≠ -1
      ∧ (∃ rest, g.masterClientMsgQ = message :: rest)
      ∧ (received = .wouldBlock ∨ received.complete.isSome) := by
  fun_cases turn g mqReceive received <;> grind [turn, Received.complete]

/-- A packet is dispatched while no message waits. It has just been received, or it is the
cleared one of a receive that would have blocked.
-/
theorem turn_dispatches {p : Packet} (way : turn g mqReceive received = .dispatches p)
    : (g.masterClientMsgQid = -1 ∨ g.masterClientMsgQ = [])
      ∧ (received.complete = some p ∨ (received.complete = none ∧ p = .zero)) := by
  fun_cases turn g mqReceive received <;> grind [turn, Received.complete]

/-- A complete packet is dispatched exactly if it fits the buffer and no message waits. -/
theorem turn_complete {p : Packet} (complete : received.complete = some p)
    : (turn g mqReceive received).dispatched = some p
      ↔ p.pktLength ≤ reconnPayloadSize
        ∧ (g.masterClientMsgQid = -1 ∨ g.masterClientMsgQ = []) := by
  fun_cases turn g mqReceive received <;>
    grind [turn, Received.complete, Turn.dispatched]

end Turns

/-- What a step of the system puts out: the packet a task received completely, the control
message it took, the packet that reached the command filter, and its actions.
-/
structure Output where
  received : Option Packet
  taken : Option ControlMessage
  dispatched : Option Packet
  actions : List Action

/-- The output of a step that only acts. -/
def Output.of (actions : List Action) : Output := ⟨none, none, none, actions⟩

namespace State

def reconnBegin : List UInt8 := ascii "CFS RECONN 00.00 BEGIN"

/-- What reconnClientTask does before its loop. The inserted master registers itself; a
failure to do so is only reported.
-/
def prologue (s : State) (a : Addr) (c : Context) : State × List Action :=
  let s' := s.setContext a { c with thread := .looping }
  if c.mode = .insertedMasterMode then
    (
      match s.registry.reconnRegisterClientApp a c.index c.socketFd with
      | some registry => { s' with registry }
      | none => s',
      [.libiphonedTx reconnBegin, .reconnRegisterClientApp c.index]
    )
  else (s', [.sendSocket c.socketFd reconnBegin])

-----------------------------------------------------------------------------------------
-- Leaving the loop
-----------------------------------------------------------------------------------------

/-- Returns the index, deregisters the client and frees its context. The calls come in
either order, with the same effect.
-/
def leave (s : State) (a : Addr) (c : Context) : State :=
  ((s.returnIndex c).deRegister c).freeContext a

/-- The calls of a task that leaves. -/
def leaveActions (s : State) (c : Context) : List Action :=
  .reconnReturnClientIndex c.index :: s.deRegisterActions c

/-- The client has closed its socket. -/
def socketClosed (s : State) (a : Addr) (c : Context) : State × List Action :=
  let left := s.leave a c
  if c.mode = .masterMode then
    (
      { left with globals := s.globals.releaseMastership },
      s.leaveActions c ++ [.dmmSaveConfig]
    )
  else (left, s.leaveActions c)

/-- receive_packet_data has failed. The control queue stays open. -/
def readError (s : State) (a : Addr) (c : Context) : State × List Action :=
  let left := s.leave a c
  (
    if c.mode ≠ .slaveMode then
      { left with globals := { s.globals with masterClientSocketFd := -1 } }
    else left,
    s.deRegisterActions c ++ [.reconnReturnClientIndex c.index]
  )

/-- CLIENTSLEEPTIME and CLIENTNODATATIME, in microseconds. -/
def clientSleepTime : Int := 1000
def clientNoDataTime : Int := 4000000

/-- No packet and no message: the time without data is counted for a WiFi master. -/
def idlePoll (s : State) (a : Addr) (c : Context) : State × List Action :=
  if c.mode = .masterMode then
    let c' := { c with noDataCount := c.noDataCount + clientSleepTime }
    if clientNoDataTime ≤ c'.noDataCount then
      (
        { s.leave a c with globals := s.globals.releaseMastership },
        s.leaveActions c ++ [.dmmSaveConfig]
      )
    else (s.setContext a c', [])
  else (s, [])

-----------------------------------------------------------------------------------------
-- Control messages
-----------------------------------------------------------------------------------------

/-- The notification that a message other than an insertion or an extraction becomes. -/
def notification (s : State) (c : Context) : ControlMessage → ResponsePacket × List Action
  | .lowBattery =>
      let pkt := (ResponsePacket.zero.address reconnPowerDownNotif).withLength 0
      (pkt, c.broadcast pkt 0)
  | .meterInserted => meter inserted
  | .meterExtracted => meter extracted
  | .rmStateChange state =>
      let pkt := ((c.theResponsePkt.address webServiceStateId).withLength 1).write [state]
      (
        pkt,
        (if s.globals.insertedMasterSocketFd ≠ -1 then
            [.libiphonedTxPointer (reconnRspPacketHeaderSize + 1)]
          else [])
        ++ [.reconnEqptAddMsgToQ (pkt.bytes (reconnRspPacketHeaderSize + 1))]
      )
  | .masterInserted | .masterExtracted | .masterAck => (c.theResponsePkt, [])
where
  meter (presence : UInt8) : ResponsePacket × List Action :=
    let pkt :=
      ((ResponsePacket.zero.address pmeterStatusNotif).withLength 1).write [presence]
    let buffer := pkt.bytes (reconnRspPacketHeaderSize + 1)
    (
      pkt,
      (if s.globals.insertedMasterSocketFd ≠ -1 then [.libiphonedTx buffer] else [])
      ++ [.reconnEqptAddMsgToQ buffer]
    )

/-- The message at the head of the control queue has been received. -/
def controlMessage (s : State) (a : Addr) (c : Context) (message : ControlMessage)
    : State × List Action :=
  match message with
  | .masterInserted =>
      let s' := s.setContext a { c with mode := .slaveMode }
      (
        {
          s'.setSocket c.socketFd .blocking with
          globals := s.globals.releaseMastership
          insertedMasterSemaphore := s.insertedMasterSemaphore + 1
        },
        [c.notify masterModeRemovedNotif reconnErrorUnknown]
      )
  | .masterExtracted =>
      let left := s.leave a c
      (
        {
          left.setSocket s.globals.insertedMasterSocketFd .closed with
          globals := { s.globals.releaseMastership with insertedMasterSocketFd := -1 }
        },
        s.leaveActions c ++ [.close s.globals.insertedMasterSocketFd]
      )
  | message =>
      let notified := s.notification c message
      (
        {
          s.setContext a { c with theResponsePkt := notified.1 } with
          globals := { s.globals with masterClientMsgQ := s.globals.masterClientMsgQ.tail }
        },
        notified.2
      )

-----------------------------------------------------------------------------------------
-- Mastership commands
-----------------------------------------------------------------------------------------

def resetSystem : Action := .resetPowerStandbyCounter .resetSystemShutdownTime

/-- CLIENT_RESIGN_REQ. An inserted master is only told that it has resigned. -/
def clientResignReq (s : State) (a : Addr) (c : Context) (p : Packet)
    : State × List Action :=
  let success := c.respond p reconnSuccess
  let actions :=
    success :: s.deRegisterActions c ++ [.reconnReturnClientIndex c.index, resetSystem]
  if c.mode = .insertedMasterMode then (s.setContext a c, [success])
  else if c.mode = .masterMode then
    (
      { s.leave a c with globals := s.globals.releaseMastership },
      .dmmSaveConfig :: actions
    )
  else (s.leave a c, actions)

/-- The power meter's insertion notice. -/
def meterInsertedPkt : ResponsePacket :=
  ((ResponsePacket.zero.address pmeterStatusNotif).withLength 1).write [inserted]

/-- The last part of MASTER_MODE_REQ, after a grant or a refusal. A client that cannot be
registered has its socket closed and its context freed.
-/
def registerClient (s : State) (a : Addr) (c : Context) (actions : List Action)
    : State × List Action :=
  match s.registry.reconnRegisterClientApp a c.index c.socketFd with
  | some registry =>
      (
        { s.setContext a c with registry },
        actions ++ [.reconnRegisterClientApp c.index, resetSystem]
      )
  | none =>
      if 0 ≤ c.socketFd then
        (
          (s.freeContext a).setSocket c.socketFd .closed,
          actions ++ [.reconnRegisterClientApp c.index, .close c.socketFd]
        )
      else
        (
          s.setContext a c,
          actions ++ [.reconnRegisterClientApp c.index, resetSystem]
        )

/-- The new control queue and the new master's socket. -/
def becomeMaster (s : State) (c : Context) (masterClientMsgQid : Int) : State :=
  {
    s.setSocket c.socketFd .nonBlocking with
    globals := {
      s.globals with
      masterClientMsgQid
      masterClientMsgQ := []
      masterClientSocketFd := c.socketFd
    }
  }

/-- The context of a client that is granted mastership: a slave becomes the master. -/
def granted (env : Outcomes) (c : Context) : Context :=
  {
    c with
    mode := if c.mode = .slaveMode then .masterMode else c.mode
    theResponsePkt :=
      if env.isPowerMeterPresent = reconnSuccess then meterInsertedPkt else c.theResponsePkt
  }

/-- MASTER_MODE_REQ of a client while there is no master: a new control queue is opened, and
the client becomes the master. If the queue cannot be opened, the task just ends.
-/
def grantMastership (env : Outcomes) (s : State) (a : Addr) (c : Context) (p : Packet)
    : State × List Action :=
  if env.mqOpen = -1 then
    (
      {
        s.freeContext a with
        globals := { s.globals with masterClientMsgQid := -1, masterClientMsgQ := [] }
      },
      []
    )
  else
    let c' := granted env c
    let meter := meterInsertedPkt.bytes (reconnRspPacketHeaderSize + 1)
    (s.becomeMaster c env.mqOpen).registerClient a c'
      (c'.respond p reconnSuccess
        :: (if env.defaultFileExists then
            [c'.notify reconnInitStateReq reconnErrorUnknown]
          else [])
        ++ (if env.isPowerMeterPresent = reconnSuccess then
            if s.globals.insertedMasterSocketFd ≠ -1 then [.libiphonedTx meter]
            else [.sendSocket c.socketFd meter]
          else []))

/-- The context of a client that is refused mastership. -/
def refused (env : Outcomes) (c : Context) : Context :=
  {
    c with
    theResponsePkt :=
      if env.isPowerMeterPresent = reconnSuccess then meterInsertedPkt
      else (c.theResponsePkt.address reconnSlaveAttached).withLength 0
  }

/-- MASTER_MODE_REQ of a client while another one is the master. -/
def refuseMastership (env : Outcomes) (s : State) (a : Addr) (c : Context) (p : Packet)
    : State × List Action :=
  let attached := (c.theResponsePkt.address reconnSlaveAttached).withLength 0
  let notice := attached.bytes reconnRspPacketHeaderSize
  let meter := meterInsertedPkt.bytes (reconnRspPacketHeaderSize + 1)
  s.registerClient a (refused env c)
    (c.respond p reconnInvalidMessage
      :: (if s.globals.insertedMasterSocketFd ≠ -1 then .libiphonedTx notice
        else .sendSocket s.globals.masterClientSocketFd notice)
      :: (if env.isPowerMeterPresent = reconnSuccess then [.sendSocket c.socketFd meter]
        else []))

def masterModeReq (env : Outcomes) (s : State) (a : Addr) (c : Context) (p : Packet)
    : State × List Action :=
  if s.globals.masterClientSocketFd = c.socketFd then
    (s.setContext a c, [c.respond p reconnSuccess, resetSystem])
  else if s.globals.masterClientSocketFd = -1 then s.grantMastership env a c p
  else s.refuseMastership env a c p

/-- MASTER_MODE_RESIGN_REQ: the master is asked for a slave, which is remembered. -/
def masterModeResignReq (s : State) (a : Addr) (c : Context) (p : Packet)
    : State × List Action :=
  let master := s.globals.masterClientSocketFd
  if master = c.socketFd then
    (s.setContext a c, [c.respond p reconnInvalidState, resetSystem])
  else if s.globals.insertedMasterSocketFd ≠ -1 then
    (s.setContext a c, [c.notify masterModeResignRespId reconnDenied, resetSystem])
  else
    (
      { s.setContext a c with globals := { s.globals with theSlaveContextPtr := some a } },
      [.sendSocket master (formatReconnPacket masterModeResignQuery), resetSystem]
    )

/-- MASTER_MODE_RESIGN_RESP with success: the task becomes a slave, and then the context
that theSlaveContextPtr refers to, which may be its own, becomes the master.
-/
def handOver (s : State) (a : Addr) (c : Context) (slave : Addr) : Option (State × List Action) :=
  let attached := (c.theResponsePkt.address reconnSlaveAttached).withLength 0
  let s' :=
    (s.setContext a { c with mode := .slaveMode, theResponsePkt := attached }).setSocket
      c.socketFd .blocking
  (s'.contexts slave).map fun other =>
    (
      {
        (s'.setContext slave { other with mode := .masterMode }).setSocket
          other.socketFd .nonBlocking with
        globals := {
          s.globals with
          masterClientSocketFd := other.socketFd
          theSlaveContextPtr := none
        }
      },
      [
        .sendSocket s.globals.masterClientSocketFd (formatReconnPacket masterModeRemovedNotif),
        .sendSocket other.socketFd (formatReconnPacket masterModeSetNotif),
        .sendSocket other.socketFd (attached.bytes reconnRspPacketHeaderSize)
      ]
    )

/-- MASTER_MODE_RESIGN_RESP; none if theSlaveContextPtr is dereferenced and is NULL or
refers to a freed context.
-/
def masterModeResignResp (s : State) (a : Addr) (c : Context) (p : Packet)
    : Option (State × List Action) :=
  if p.dataPayload 0 = reconnSuccess then
    s.globals.theSlaveContextPtr.bind fun slave => s.handOver a c slave
  else if p.dataPayload 0 = reconnDenied then
    s.globals.theSlaveContextPtr.bind fun slave =>
      (s.contexts slave).map fun other =>
        (
          s.setContext a c,
          [sendReconnResponse other.socketFd p.messageId.1 p.messageId.2 reconnDenied c.mode]
        )
  else some (s.setContext a c, [])

/-- SW_UPGRADE_REQ. A failed extraction is not answered, and a successful upgrade ends the
process, if it does not stumble over an entry that is no context before.
-/
def swUpgradeReq (env : Outcomes) (s : State) (a : Addr) (c : Context) (p : Packet)
    : State × List Action :=
  if env.extractBundle = reconnSuccess then
    let retCode := env.upgradeScript.getD env.extractBundle
    let extracted : List Action :=
      .wifiCleanUp
        :: if env.upgradeScript.isSome then
          [.system ("chmod ugo+x " ++ upgradeScriptName), .system upgradeScriptName,
            .unlink upgradeScriptName]
        else []
    if retCode = reconnSuccess ∨ retCode = reconnNeedsReboot then
      match s.disconnectAllClients .slaveMode, s.disconnectAllClients .remoteMode with
      | some slaves, some remotes =>
          (
            s.halt,
            extracted ++ slaves ++ remotes
              ++ [
                .reconnGpioAction .powerLedGpio .disable,
                .reconnGpioAction .batteryLedRedGpio .enable,
                .reconnGpioAction .batteryLedGreenGpio .enable,
                c.respond p retCode,
                .libiphonedStop
              ]
              ++ (if retCode = reconnNeedsReboot then [.system "reboot"] else [])
              ++ [.raiseSigterm]
          )
      | _, _ => (s.halt, extracted)
    else (s.setContext a c, extracted ++ [c.respond p retCode])
  else (s.setContext a c, [])
where
  upgradeScriptName : String := "/tmp/upgradeScript.sh"

/-- remoteMonitorActivate(YES), with its result. -/
def remoteMonitorActivateYes (env : Outcomes) (s : State) : State × ReconnErrCode :=
  if s.remote.remoteMonitorActive then (s, reconnSuccess)
  else
    let s' := { s with remote := { s.remote with webServerSocket := env.webServerSocket } }
    if env.webServerSocket < 0 then (s', reconnFailure)
    else
      let s' := s'.setSocket env.webServerSocket .blocking
      if env.hostnameResolves = false then (s', reconnHostnameUnresolved)
      else if env.webServerConnect ≠ reconnSuccess then (s', env.webServerConnect)
      else
        -- pthread_create never returns a negative value, so its failure is not noticed.
        (
          {
            s' with
            remote := {
              s'.remote with
              remoteMonitorDone := false
              remoteMonitorActive := true
              created := s.remote.created + if env.remoteMonitorTaskStarts then 1 else 0
            }
          },
          reconnSuccess
        )

/-- WEB_SERVICE_IP_AND_PORT activates the remote monitor if usb0 is up. -/
def webServiceIpAndPort (env : Outcomes) (s : State) (a : Addr) (c : Context) (p : Packet)
    : State × List Action :=
  if env.linkSocketOpens = false then (s.setContext a c, [c.respond p reconnFailure])
  else
    let c' := { c with theResponsePkt := c.theResponsePkt.clearPayload }
    if env.linkIoctl = false then (s.setContext a c', [c.respond p reconnFailure])
    else if env.linkUp = false then (s.setContext a c', [c.respond p reconnLinkDown])
    else
      let activated := s.remoteMonitorActivateYes env
      (activated.1.setContext a c', [c.respond p activated.2])

-----------------------------------------------------------------------------------------
-- Dispatch
-----------------------------------------------------------------------------------------

/-- The mode filter before the switch. -/
def filtered (c : Context) (p : Packet) : Bool :=
  (c.mode = .slaveMode && !Command.slaveMayUse p.command)
    || (c.mode = .remoteMode && !Command.remoteMayUse p.command)

/-- The switch; none if it has done something undefined. -/
def command (env : Outcomes) (s : State) (a : Addr) (c : Context) (p : Packet)
    : Option (State × List Action) :=
  match p.command with
  | some .clientResignReq => some (s.clientResignReq a c p)
  | some .masterModeReq => some (s.masterModeReq env a c p)
  | some .masterModeResignReq => some (s.masterModeResignReq a c p)
  | some .masterModeResignResp => s.masterModeResignResp a c p
  | some .swUpgradeReq => some (s.swUpgradeReq env a c p)
  | some .webServiceIpAndPort => some (s.webServiceIpAndPort env a c p)
  | cmdid =>
      (equipmentCommand env s c p cmdid).map fun handled =>
        (s.setContext a { c with theResponsePkt := handled.1 }, handled.2)

/-- The mode filter and the switch. -/
def dispatch (env : Outcomes) (s : State) (a : Addr) (c : Context) (p : Packet)
    : State × List Action :=
  if filtered c p then (s, [])
  else (s.command env a { c with noDataCount := 0 } p).getD (s.halt, [])

/-- What a turn does, by the way it goes. -/
def takeTurn (env : Outcomes) (s : State) (a : Addr) (c : Context) : Turn → State × List Action
  | .closed => s.socketClosed a c
  | .failed => s.readError a c
  | .overrun => (s.halt, [])
  | .stalled => (s, [])
  | .takes message => s.controlMessage a c message
  | .idle => s.idlePoll a c
  | .dispatches p => s.dispatch env a c p

/-- One turn of the loop of reconnClientTask. -/
def iterate (env : Outcomes) (s : State) (a : Addr) (c : Context) (received : Received)
    : State × Output :=
  let way := turn s.globals env.mqReceive received
  let done := s.takeTurn env a c way
  (
    done.1,
    {
      received := received.complete
      taken := way.taken
      dispatched := way.dispatched
      actions := done.2
    }
  )

end State

end Reconn.Client
