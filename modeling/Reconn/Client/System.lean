import Reconn.Client.ClientTask

/-! The whole program around the client table and mastership: the client tasks, the task
that accepts WiFi connections, the front panel callback, the power meter task and the remote
monitor, as one machine that any of them may move next.
-/

namespace Reconn.Client

/-- What malloc returned for a context: its address and what it happens to hold there. -/
structure Memory where
  address : Addr
  noDataCount : Int
  theResponsePkt : ResponsePacket

inductive Event where
  /-- wifiConnectionTask accepts a connection. -/
  | accept (gNewSocketFd : Int) (mem : Option Memory) (started : Bool)
  /-- A client task runs up to its loop. -/
  | start (a : Addr)
  /-- A client task takes one turn of its loop. -/
  | iterate (a : Addr) (received : Received) (env : Outcomes)
  /-- reconnMasterIphone is called with an iPhone present. -/
  | iphoneInserted
  | semTimedWaitFails
  | semTimedWait
  | connectTransmit (fromLibToClientfd : Int) (connected : Bool)
  /-- insertedMasterTransmitTask accepts a connection. -/
  | transmitAccept (fd : Int)
  | createInserted (mem : Option Addr) (started : Bool)
  /-- reconnMasterIphone is called without an iPhone present. -/
  | iphoneExtracted
  /-- powerMeterPresenceTask reports the meter. -/
  | meterPresence (present : Bool)
  | remoteStart (mem : Option Addr)
  /-- remoteMonitorTask reports its connection. -/
  | remoteConnected
  /-- remoteMonitorTask handles RM_SEND_DATA. -/
  | remoteSendData
  /-- remoteMonitorTask handles RM_STOP_DATA. -/
  | remoteStopData
  /-- A task of the remote monitor, perhaps a late one, calls remoteMonitorActivate(NO). -/
  | remoteDeactivate
  | remoteExit

namespace State

-----------------------------------------------------------------------------------------
-- WiFi connections
-----------------------------------------------------------------------------------------

/-- A new connection in wifiConnectionTask. The result of pthread_create is compared with
zero from below, so a task that does not start keeps its index and context.
-/
def accept (s : State) (fd : Int) (mem : Option Memory) (started : Bool)
    : State × List Action :=
  match s.registry.reconnGetFreeClientIndex (-1) with
  | none => (s, [.close fd])
  | some (registry, index) =>
      let s' := { s with registry }
      match mem with
      | none => (s', [.close fd])
      | some mem =>
          (
            (s'.setContext mem.address {
              index
              mode := .slaveMode
              socketFd := fd
              noDataCount := mem.noDataCount
              theResponsePkt := mem.theResponsePkt
              thread := if started then .starting else .none
            }).setSocket fd .blocking,
            []
          )

-----------------------------------------------------------------------------------------
-- Front panel
-----------------------------------------------------------------------------------------

/-- reconnMasterIphone up to its wait for the master to step back, if there is one. -/
def masterIphoneInserted (s : State) : State :=
  if s.globals.masterClientSocketFd ≠ -1 then
    {
      s with
      globals := s.globals.mqSend .masterInserted
      insertedMasterSemaphore := 0
      insertion := .waiting
    }
  else { s with insertion := .connecting }

/-- reconnMasterIphone opens the connection to insertedMasterTransmitTask. -/
def connectTransmit (s : State) (fd : Int) (connected : Bool) : State :=
  let opened := if fd < 0 then s else s.setSocket fd .blocking
  {
    opened with
    insertion := .creating
    pendingConnect := s.pendingConnect + if 0 ≤ fd ∧ connected then 1 else 0
  }

/-- insertedMasterTransmitTask accepts, or fails to and ends. -/
def transmitAccept (s : State) (fd : Int) : State :=
  let s' := { s with globals := { s.globals with insertedMasterSocketFd := fd } }
  if fd < 0 then { s' with transmitTaskEnded := true }
  else { s'.setSocket fd .blocking with pendingConnect := s.pendingConnect - 1 }

/-- reconnMasterIphone creates the inserted master's task, on a cleared context. -/
def createInserted (s : State) (mem : Option Addr) (started : Bool) : State :=
  let s' := { s with insertion := .none }
  match mem with
  | none => s'
  | some a =>
      let cleared : Context := {
        index := 0
        mode := .masterMode
        socketFd := s.globals.insertedMasterSocketFd
        noDataCount := 0
        theResponsePkt := .zero
        thread := .none
      }
      match s.registry.reconnGetFreeClientIndex 0 with
      | none => s'.setContext a cleared
      | some (registry, index) =>
          let c := {
            cleared with
            index
            mode := .insertedMasterMode
            thread := if started then .starting else .none
          }
          { s'.setContext a c with registry, iphoneInserted := true }

/-- reconnMasterIphone when the iPhone is gone. -/
def masterIphoneExtracted (s : State) : State :=
  if s.iphoneInserted then { s with globals := s.globals.mqSend .masterExtracted } else s

-----------------------------------------------------------------------------------------
-- Remote monitor
-----------------------------------------------------------------------------------------

def connected : UInt8 := 1
def disconnected : UInt8 := 2

/-- One turn of the scan in remoteMonitorCleanup; none if it dereferences an entry that is
no context.
-/
def cleanupEntry (s : State) (i : Int) : Option State :=
  match s.registry.activeClientsList i with
  | .free => some s
  | .reserved => none
  | .registered a =>
      (s.contexts a).map fun c =>
        if c.mode = .remoteMode then (s.returnIndex c).deRegister c else s

/-- The calls in one turn of the scan. -/
def cleanupEntryActions (s : State) (i : Int) : List Action :=
  match s.registry.activeClientsList i with
  | .free | .reserved => []
  | .registered a =>
      match s.contexts a with
      | none => []
      | some c =>
          if c.mode = .remoteMode then
            .reconnReturnClientIndex c.index :: (s.returnIndex c).deRegisterActions c
          else []

/-- The calls of the scan, up to an entry that is no context. -/
def cleanupActions (s : State) : List Int → List Action
  | [] => []
  | i :: rest =>
      match s.cleanupEntry i with
      | none => []
      | some s' => s.cleanupEntryActions i ++ s'.cleanupActions rest

def remoteMonitorCleanup (s : State) : Option State :=
  (Registry.indices.foldlM cleanupEntry s).map fun s' =>
    let closed :=
      if s'.remote.webServerSocket ≠ -1 then s'.setSocket s'.remote.webServerSocket .closed
      else s'
    {
      closed with
      remote := {
        s'.remote with
        webServerSocket := -1
        remoteMonitorDone := true
        remoteMonitorActive := false
      }
    }

/-- The calls of remoteMonitorCleanup, which closes the web server's socket after the scan. -/
def remoteMonitorCleanupActions (s : State) : List Action :=
  s.cleanupActions Registry.indices
    ++ if s.remoteMonitorCleanup.isSome ∧ s.remote.webServerSocket ≠ -1 then
        [.shutdown s.remote.webServerSocket, .close s.remote.webServerSocket]
      else []

/-- remoteMonitorActivate(NO) -/
def remoteMonitorActivateNo (s : State) : Option State :=
  if s.remote.remoteMonitorActive then
    { s with globals := s.globals.mqSend (.rmStateChange disconnected) }.remoteMonitorCleanup
  else some s

def remoteMonitorActivateNoActions (s : State) : List Action :=
  if s.remote.remoteMonitorActive then s.remoteMonitorCleanupActions else []

/-- remoteMonitorTask up to its loop; without memory it deactivates the monitor and ends. -/
def remoteStart (s : State) (mem : Option Addr) : Option State :=
  let remote := { s.remote with created := s.remote.created - 1, aContextPtr := mem }
  match mem with
  | none => { s with remote }.remoteMonitorActivateNo
  | some a =>
      some (
        { s with remote := { remote with running := s.remote.running + 1 } }.setContext a {
          index := -1
          mode := .remoteMode
          socketFd := s.remote.webServerSocket
          noDataCount := 0
          theResponsePkt := .zero
          thread := .none
        })

/-- The remote monitor's context; none if aContextPtr is NULL or refers to a context that has
been freed, also when the memory is a client's by now.
-/
def remoteContext (s : State) : Option (Addr × Context) :=
  s.remote.aContextPtr.bind fun r =>
    (s.contexts r).bind fun c => if c.thread = .none then some (r, c) else none

/-- RM_SEND_DATA registers the remote client, if no client of type REMOTEMODE is. -/
def remoteSendData (s : State) : Option State :=
  s.remoteContext.bind fun (r, c) =>
    -- The value of REMOTEMODE is 3, which is no REGISTRATION_TYPE_e.
    (s.reconnClientsRegistered 3).bind fun registered =>
      if registered = 0 then
        match s.registry.reconnGetFreeClientIndex c.index with
        | none => s.remoteMonitorActivateNo
        | some (registry, index) =>
            let s' := { s with registry }.setContext r { c with index }
            match registry.reconnRegisterClientApp r index c.socketFd with
            | some registry => some { s' with registry }
            | none => s'.remoteMonitorActivateNo
      else some s

def remoteSendDataActions (s : State) : List Action :=
  match s.remoteContext, s.reconnClientsRegistered 3 with
  | some (r, c), some 0 =>
      match s.registry.reconnGetFreeClientIndex c.index with
      | none => s.remoteMonitorActivateNoActions
      | some (registry, index) =>
          .reconnRegisterClientApp index
            :: match registry.reconnRegisterClientApp r index c.socketFd with
              | some _ => []
              | none =>
                  ({ s with registry }.setContext r { c with index }).remoteMonitorActivateNoActions
  | _, _ => []

/-- RM_STOP_DATA deregisters the remote client, also at the index -1 of a context that has
none yet, which is outside the tables.
-/
def remoteStopData (s : State) : Option State :=
  s.remoteContext.bind fun (_, c) => if c.index < 0 then none else some (s.deRegister c)

def remoteStopDataActions (s : State) : List Action :=
  match s.remoteContext with
  | some (_, c) => s.deRegisterActions c
  | none => []

/-- remoteMonitorTask frees its context at its end, unless it never had one. Another remote
task may have freed it before.
-/
def remoteExit (s : State) : Option State :=
  let s' := { s with remote := { s.remote with running := s.remote.running - 1 } }
  if s.remote.aContextPtr = none then some s'
  else s.remoteContext.map fun (r, _) => s'.freeContext r

-----------------------------------------------------------------------------------------
-- Steps
-----------------------------------------------------------------------------------------

/-- recv() on a closed socket fails, and only a non-blocking socket has it return without
data.
-/
def canReceive (s : State) (c : Context) : Received → Bool
  | .failed => true
  | .wouldBlock => 0 ≤ c.socketFd && s.sockets c.socketFd = .nonBlocking
  | .closed | .packet _ => 0 ≤ c.socketFd && s.sockets c.socketFd ≠ .closed

/-- The kernel hands out descriptors and addresses that are not in use. -/
def enabled (s : State) : Event → Bool
  | .accept fd mem _ =>
      0 < fd && s.sockets fd = .closed
        && (mem.all fun mem => (s.contexts mem.address).isNone)
  | .start a => (s.contexts a).any fun c => c.thread = .starting
  | .iterate a received env =>
      ((s.contexts a).any fun c => c.thread = .looping && s.canReceive c received)
        && (env.webServerSocket < 0 || s.sockets env.webServerSocket = .closed)
  | .iphoneInserted | .iphoneExtracted => s.insertion = .none
  | .semTimedWaitFails => s.insertion = .waiting
  | .semTimedWait => s.insertion = .waiting && 0 < s.insertedMasterSemaphore
  | .connectTransmit fd _ =>
      s.insertion = .connecting && (fd < 0 || s.sockets fd = .closed)
  | .transmitAccept fd =>
      !s.transmitTaskEnded
        && (fd = -1 || (0 ≤ fd && s.sockets fd = .closed && 0 < s.pendingConnect))
  | .createInserted mem _ =>
      s.insertion = .creating && (mem.all fun a => (s.contexts a).isNone)
  | .meterPresence _ => true
  | .remoteStart mem => 0 < s.remote.created && (mem.all fun a => (s.contexts a).isNone)
  | .remoteConnected | .remoteSendData | .remoteStopData =>
      0 < s.remote.running && !s.remote.remoteMonitorDone
  | .remoteDeactivate => true
  | .remoteExit => 0 < s.remote.running && s.remote.remoteMonitorDone

/-- What an event does. A step that C leaves undefined halts the machine where it was. -/
def perform (s : State) : Event → State × Output
  | .accept fd mem started =>
      ((s.accept fd mem started).1, .of (s.accept fd mem started).2)
  | .start a =>
      match s.contexts a with
      | some c => ((s.prologue a c).1, .of (s.prologue a c).2)
      | none => (s, .of [])
  | .iterate a received env =>
      match s.contexts a with
      | some c => s.iterate env a c received
      | none => (s, .of [])
  | .iphoneInserted => (s.masterIphoneInserted, .of [])
  | .semTimedWaitFails => ({ s with insertion := .none }, .of [])
  | .semTimedWait =>
      (
        {
          s with
          insertedMasterSemaphore := s.insertedMasterSemaphore - 1
          insertion := .connecting
        },
        .of []
      )
  | .connectTransmit fd connected => (s.connectTransmit fd connected, .of [])
  | .transmitAccept fd => (s.transmitAccept fd, .of [])
  | .createInserted mem started => (s.createInserted mem started, .of [])
  | .iphoneExtracted => (s.masterIphoneExtracted, .of [])
  | .meterPresence present =>
      (
        {
          s with
          globals :=
            s.globals.mqSend (if present then .meterInserted else .meterExtracted)
        },
        .of []
      )
  | .remoteStart mem =>
      (
        (s.remoteStart mem).getD s.halt,
        .of (if mem = none then s.remoteMonitorActivateNoActions else [])
      )
  | .remoteConnected =>
      ({ s with globals := s.globals.mqSend (.rmStateChange connected) }, .of [])
  | .remoteSendData => (s.remoteSendData.getD s.halt, .of s.remoteSendDataActions)
  | .remoteStopData => (s.remoteStopData.getD s.halt, .of s.remoteStopDataActions)
  | .remoteDeactivate =>
      (s.remoteMonitorActivateNo.getD s.halt, .of s.remoteMonitorActivateNoActions)
  | .remoteExit => (s.remoteExit.getD s.halt, .of [])

/-- One step of the program, if the event can happen. Nothing follows a halt. -/
def step (s : State) (event : Event) : Option (State × Output) :=
  if s.halted = false ∧ s.enabled event = true then some (s.perform event) else none

end State

end Reconn.Client
