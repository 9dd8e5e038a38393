import Reconn.Client.ClientTask

/-! The sessions of the remote monitor in remoteMonitor.c. The variables that all its tasks
share are static, and theState among them is set at no other place than in the switch of
remoteMonitorTask. A task may still run when the next session begins.
-/

namespace Reconn.RemoteMonitor

open Client (ReconnErrCode Packet cString reconnFailure reconnInvalidParameter)
open Client.State (reconnBegin)

/-- REMOTE_MONITOR_STATES -/
inductive RemoteMonitorState where
  | rmInit
  | rmGetHandshake
  | rmSendClientAccess
  | rmWaitResp
  | rmDeviceId
  | rmRcvData
  deriving DecidableEq, Repr

/-- REMOTE_MONITOR_CONNECTION_STATES -/
inductive ConnectionState where
  | connected
  | disconnected
  deriving DecidableEq, Repr

def webServiceDataFlow : UInt16 := 0x0b00
def rmSendData : UInt8 := 1
def rmStopData : UInt8 := 2

/-- sizeof(theRecvBuf), which is that of its ReconnResponsePacket. -/
def theRecvBufSize : Nat := 2054

inductive Receiver where
  | webServer
  | master
  deriving DecidableEq, Repr

/-- What the remote monitor does to the web server and for it, with what recv() and send() have
returned.
-/
inductive Action where
  /-- connect() to the web server has succeeded, which begins a session. -/
  | connect
  | recv (received : List UInt8)
  /-- sendSocket of what getDeviceId has formatted; whether send() has taken all of it -/
  | sendDeviceId (sent : Bool)
  | sendReconnResponse (receiver : Receiver) (messageId : UInt8 × UInt8)
    (errCode : ReconnErrCode)
  | sendRemoteMonitorConnectionStatus (theState : ConnectionState)
  /-- what the payload of WEB_SERVICE_DATA_FLOW asks for -/
  | webServiceDataFlow (dataPayload : UInt8)
  deriving DecidableEq, Repr

/-- The static variables. -/
structure Statics where
  remoteMonitorDone : Bool
  remoteMonitorActive : Bool
  webServerSocket : Int
  theState : RemoteMonitorState

/-- Where a task is. Between two of these places another task may run. -/
inductive Place where
  /-- pthread_create has returned. -/
  | created
  /-- before the condition of the loop -/
  | looping
  /-- in select() -/
  | selecting
  /-- in the recv() of RM_INIT -/
  | receiving
  /-- at RM_GET_HANDSHAKE -/
  | comparing
  /-- at RM_DEVICE_ID -/
  | identifying
  /-- in the recv() of RM_RCV_DATA -/
  | receivingData
  | returned
  deriving DecidableEq, Repr

/-- A remoteMonitorTask. Its buffer is zero after the listed bytes. -/
structure Task where
  place : Place
  theRecvBuf : List UInt8

/-- What the calls in one turn of a task return. -/
structure Outcomes where
  /-- malloc() and the start of remoteMonitorKeepAliveTask succeed -/
  starts : Bool
  retStatus : Int
  /-- what recv() has received, which is nothing if it fails -/
  received : List UInt8
  /-- getDeviceId() == RECONN_SUCCESS -/
  deviceId : Bool
  sent : Bool
  /-- reconnClientsRegistered(REMOTEMODE) != 0 -/
  remoteRegistered : Bool
  /-- reconnGetFreeClientIndex() == RECONN_SUCCESS -/
  freeIndex : Bool
  /-- reconnRegisterClientApp() == RECONN_SUCCESS -/
  registers : Bool

/-- What the calls in remoteMonitorActivate(YES) return. -/
structure ActivateOutcomes where
  webServerSocket : Int
  /-- getaddrinfo() succeeds, or the server is given by its address -/
  hostnameResolves : Bool
  connects : Bool
  pthreadCreate : Int
  /-- what the new task's stack contains at its theRecvBuf, which is not initialized -/
  stack : List UInt8

namespace Statics

/-- remoteMonitorCleanup, for these variables. -/
def remoteMonitorCleanup (s : Statics) : Statics :=
  { s with webServerSocket := -1, remoteMonitorDone := true, remoteMonitorActive := false }

/-- remoteMonitorActivate(NO) -/
def deactivate (s : Statics) : Statics × List Action :=
  if s.remoteMonitorActive then
    (s.remoteMonitorCleanup, [.sendRemoteMonitorConnectionStatus .disconnected])
  else (s, [])

/-- remoteMonitorActivate(YES), with the task that it creates. -/
def activate (s : Statics) (env : ActivateOutcomes)
    : Statics × Option Task × List Action :=
  if s.remoteMonitorActive then (s, none, [])
  else
    let s := { s with webServerSocket := env.webServerSocket }
    if env.webServerSocket < 0 ∨ env.hostnameResolves = false ∨ env.connects = false then
      (s, none, [])
    else
      let s := { s with remoteMonitorDone := false }
      if env.pthreadCreate < 0 then ({ s with remoteMonitorActive := false }, none, [.connect])
      else
        (
          { s with remoteMonitorActive := true },
          -- An error number of pthread_create is positive, and goes unnoticed.
          if env.pthreadCreate = 0 then some ⟨.created, env.stack⟩ else none,
          [.connect]
        )

end Statics

namespace Task

/-- strcmp(theRecvBuf.data, RECONNBEGIN) == 0 -/
def Begins (theRecvBuf : List UInt8) : Prop := cString theRecvBuf = reconnBegin

instance (theRecvBuf : List UInt8) : Decidable (Begins theRecvBuf) :=
  inferInstanceAs (Decidable (_ = _))

/-- theRecvBuf.thePacket -/
def thePacket (theRecvBuf : List UInt8) : Packet where
  messageId := (theRecvBuf.getD 0 0, theRecvBuf.getD 1 0)
  dataLength := (theRecvBuf.getD 2 0, theRecvBuf.getD 3 0)
  dataPayload := fun index => theRecvBuf.getD (4 + index) 0

/-- A turn that calls remoteMonitorActivate(NO) after these actions. -/
def giveUp (s : Statics) (task : Task) (actions : List Action)
    : (Statics × Task) × List Action :=
  ((s.deactivate.1, task), actions ++ s.deactivate.2)

/-- RM_RCV_DATA, when a message has been received. -/
def rcvData (s : Statics) (theRecvBuf : List UInt8) (env : Outcomes)
    : (Statics × Task) × List Action :=
  let packet := thePacket theRecvBuf
  let task : Task := ⟨.looping, theRecvBuf⟩
  let invalid : Action := .sendReconnResponse .master packet.messageId reconnInvalidParameter
  if packet.cmdid = webServiceDataFlow then
    let flow : Action := .webServiceDataFlow (packet.dataPayload 0)
    if packet.dataPayload 0 = rmSendData then
      if env.remoteRegistered = false ∧ (env.freeIndex = false ∨ env.registers = false) then
        giveUp s task [flow]
      else ((s, task), [flow])
    else if packet.dataPayload 0 = rmStopData then ((s, task), [flow])
    else ((s, task), [flow, invalid])
  else if packet.command = some .clientResignReq then giveUp s task []
  else ((s, task), [invalid])

/-- A task's turn, up to the next place where it waits or looks at a static variable. -/
def turn (t : Task) (s : Statics) (env : Outcomes) : (Statics × Task) × List Action :=
  match t.place with
  | .created =>
      if env.starts then ((s, { t with place := .looping }), [])
      else giveUp s { t with place := .returned } []
  | .looping =>
      ((s, { t with place := if s.remoteMonitorDone then .returned else .selecting }), [])
  | .selecting =>
      if env.retStatus < 0 then giveUp s { t with place := .returned } []
      else
        match s.theState with
        | .rmInit =>
            if env.retStatus = 0 then giveUp s { t with place := .looping } []
            else ((s, { t with place := .receiving }), [])
        | .rmGetHandshake => ((s, { t with place := .comparing }), [])
        | .rmDeviceId => ((s, { t with place := .identifying }), [])
        | .rmRcvData => ((s, { t with place := .receivingData }), [])
        | .rmSendClientAccess | .rmWaitResp => ((s, { t with place := .looping }), [])
  | .receiving =>
      if env.received = [] then giveUp s ⟨.looping, []⟩ []
      else
        (
          ({ s with theState := .rmGetHandshake }, ⟨.comparing, env.received⟩),
          [.recv env.received]
        )
  | .comparing =>
      if Begins t.theRecvBuf then
        (({ s with theState := .rmDeviceId }, { t with place := .identifying }), [])
      else
        giveUp s { t with place := .looping }
          [.sendReconnResponse .webServer (thePacket t.theRecvBuf).messageId reconnFailure]
  | .identifying =>
      if env.deviceId then
        (
          ({ s with theState := .rmRcvData }, { t with place := .looping }),
          [.sendDeviceId env.sent, .sendRemoteMonitorConnectionStatus .connected]
        )
      else
        giveUp s { t with place := .looping }
          [.sendReconnResponse .webServer (thePacket t.theRecvBuf).messageId reconnFailure]
  | .receivingData =>
      if env.received = [] then giveUp s { t with place := .looping } []
      else
        let received := rcvData s
          (env.received ++ t.theRecvBuf.drop env.received.length) env
        (received.1, .recv env.received :: received.2)
  | .returned => ((s, t), [])

end Task

/-- The static variables and all tasks that have been created, also those that have returned.
-/
structure State where
  statics : Statics
  tasks : List Task

inductive Event where
  /-- WEB_SERVICE_IP_AND_PORT: remoteMonitorActivate(YES) -/
  | activate (env : ActivateOutcomes)
  /-- another thread calls remoteMonitorActivate(NO). -/
  | deactivate
  /-- remoteMonitorCleanup(), at the program's end -/
  | cleanup
  | turn (task : Nat) (env : Outcomes)

namespace State

/-- The program's start. -/
def initial : State where
  statics := {
    remoteMonitorDone := false
    remoteMonitorActive := false
    webServerSocket := -1
    theState := .rmInit
  }
  tasks := []

/-- A task that has returned takes no turn, and recv() returns no more than it is asked for. -/
def step (s : State) : Event → Option (State × List Action)
  | .activate env =>
      let activated := s.statics.activate env
      some (⟨activated.1, s.tasks ++ activated.2.1.toList⟩, activated.2.2)
  | .deactivate => some ({ s with statics := s.statics.deactivate.1 }, s.statics.deactivate.2)
  | .cleanup => some ({ s with statics := s.statics.remoteMonitorCleanup }, [])
  | .turn index env =>
      match s.tasks[index]? with
      | none => none
      | some t =>
          if t.place = .returned ∨ theRecvBufSize < env.received.length then none
          else
            let turned := t.turn s.statics env
            some (⟨turned.1.1, s.tasks.set index turned.1.2⟩, turned.2)

end State

end Reconn.RemoteMonitor
