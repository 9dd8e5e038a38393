import Reconn.Client.Protocol
import Reconn.Client.Registry

/-! The state that the client tasks share: the globals of mastership, the client table, the
allocated contexts, the open sockets, and what reconnMasterIphone and the remote monitor
keep between their steps.
-/

namespace Reconn.Client

/-- Whether a reconnClientTask runs on a context, and how far it has come. -/
inductive Thread where
  | none
  | starting
  | looping
  deriving DecidableEq, Repr

/-- The fields of a CLIENTCONTEXT that outlive one turn of the task's loop. -/
structure Context where
  index : Int
  mode : Mode
  socketFd : Int
  noDataCount : Int
  theResponsePkt : ResponsePacket
  thread : Thread

/-- What the rest of the program can observe of a live client task. -/
structure Task where
  index : Int
  mode : Mode
  socketFd : Int
  deriving DecidableEq, Repr

/-- The client task that runs on a context, if any. -/
def Context.task (c : Context) : Option Task :=
  match c.thread with
  | .none => none
  | .starting | .looping => some ⟨c.index, c.mode, c.socketFd⟩

/-- Another mode of a context is another mode of its task, if it has one. -/
theorem Context.task_withMode (c : Context) (mode : Mode)
    : ({ c with mode } : Context).task = c.task.map fun t => { t with mode } := by
  obtain ⟨index, old, socketFd, noDataCount, theResponsePkt, thread⟩ := c
  cases thread <;> rfl

/-- A task that has the box: MASTERMODE or INSERTEDMASTERMODE. -/
def Task.Master (t : Task) : Prop := t.mode = .masterMode ∨ t.mode = .insertedMasterMode

instance (t : Task) : Decidable t.Master := inferInstanceAs (Decidable (_ ∨ _))

/-- The variables of clientApp.c that all client tasks share, with the messages that wait in
the queue masterClientMsgQid refers to.
-/
structure Globals where
  masterClientMsgQid : Int
  masterClientMsgQ : List ControlMessage
  masterClientSocketFd : Int
  insertedMasterSocketFd : Int
  theSlaveContextPtr : Option Addr
  deriving DecidableEq, Repr

namespace Globals

/-- The queue is created with mq_maxmsg == 5. -/
def masterClientMsgQMax : Nat := 5

/-- mq_send to the control queue if it is open; a full queue refuses the message. -/
def mqSend (g : Globals) (message : ControlMessage) : Globals :=
  if g.masterClientMsgQid ≠ -1 ∧ g.masterClientMsgQ.length < masterClientMsgQMax then
    { g with masterClientMsgQ := g.masterClientMsgQ ++ [message] }
  else g

/-- mq_close of the control queue, and no master any more. -/
def releaseMastership (g : Globals) : Globals :=
  { g with masterClientMsgQid := -1, masterClientMsgQ := [], masterClientSocketFd := -1 }

end Globals

/-- The state of a file descriptor of the kernel. -/
inductive SocketState where
  | closed
  | blocking
  | nonBlocking
  deriving DecidableEq, Repr

/-- How far an activation of reconnMasterIphone has come with an insertion. -/
inductive Insertion where
  | none
  /-- in sem_timedwait, after MASTER_INSERTED was sent -/
  | waiting
  | connecting
  | creating
  deriving DecidableEq, Repr

/-- The static variables of remoteMonitor.c, and how many of its tasks have been created but
not started, and started but not ended.
-/
structure RemoteMonitor where
  remoteMonitorActive : Bool
  remoteMonitorDone : Bool
  webServerSocket : Int
  aContextPtr : Option Addr
  created : Nat
  running : Nat

structure State where
  globals : Globals
  registry : Registry
  contexts : Addr → Option Context
  sockets : Int → SocketState
  insertedMasterSemaphore : Nat
  insertion : Insertion
  iphoneInserted : Bool
  /-- connections to insertedMasterTransmitTask that it has not accepted -/
  pendingConnect : Nat
  transmitTaskEnded : Bool
  remote : RemoteMonitor
  /-- the process has ended, or has done something that C leaves undefined -/
  halted : Bool

/-- The state after main has started the tasks. -/
def State.initial : State where
  globals := {
    masterClientMsgQid := -1
    masterClientMsgQ := []
    masterClientSocketFd := -1
    insertedMasterSocketFd := -1
    theSlaveContextPtr := none
  }
  registry := .initial
  contexts := fun _ => none
  sockets := fun _ => .closed
  insertedMasterSemaphore := 0
  insertion := .none
  iphoneInserted := false
  pendingConnect := 0
  transmitTaskEnded := false
  remote := {
    remoteMonitorActive := false
    remoteMonitorDone := false
    webServerSocket := -1
    aContextPtr := none
    created := 0
    running := 0
  }
  halted := false

namespace State

/-- The client task that runs on the context at an address, if any. -/
def task (s : State) (a : Addr) : Option Task := (s.contexts a).bind Context.task

def halt (s : State) : State := { s with halted := true }

def setContext (s : State) (a : Addr) (c : Context) : State :=
  { s with contexts := Function.update s.contexts a (some c) }

/-- free() of a context. -/
def freeContext (s : State) (a : Addr) : State :=
  { s with contexts := Function.update s.contexts a none }

def setSocket (s : State) (fd : Int) (state : SocketState) : State :=
  { s with sockets := Function.update s.sockets fd state }

/-- reconnDeRegisterClientApp with the socket it closes. -/
def deRegister (s : State) (c : Context) : State :=
  let s' := { s with registry := s.registry.reconnDeRegisterClientApp c.index }
  match s.registry.deRegisteredSocket c.index (c.mode = .remoteMode) with
  | some fd => s'.setSocket fd .closed
  | none => s'

/-- reconnReturnClientIndex -/
def returnIndex (s : State) (c : Context) : State :=
  { s with registry := s.registry.reconnReturnClientIndex c.index }

/-- What reconnDeRegisterClientApp does outside the tables. -/
def deRegisterActions (s : State) (c : Context) : List Action :=
  .reconnDeRegisterClientApp c.index
    :: ((s.registry.deRegisteredSocket c.index (c.mode = .remoteMode)).map Action.close).toList

end State

-----------------------------------------------------------------------------------------
-- What the updates leave alone
-----------------------------------------------------------------------------------------

namespace Globals

variable (g : Globals) (message : ControlMessage)

@[simp] theorem mqSend_masterClientMsgQid
    : (g.mqSend message).masterClientMsgQid = g.masterClientMsgQid := by
  unfold mqSend
  split <;> rfl

@[simp] theorem mqSend_masterClientSocketFd
    : (g.mqSend message).masterClientSocketFd = g.masterClientSocketFd := by
  unfold mqSend
  split <;> rfl

@[simp] theorem mqSend_insertedMasterSocketFd
    : (g.mqSend message).insertedMasterSocketFd = g.insertedMasterSocketFd := by
  unfold mqSend
  split <;> rfl

@[simp] theorem mqSend_theSlaveContextPtr
    : (g.mqSend message).theSlaveContextPtr = g.theSlaveContextPtr := by
  unfold mqSend
  split <;> rfl

/-- A message in the queue after a send was in it before or is the one sent, and then the
queue is open.
-/
theorem mem_mqSend {other : ControlMessage}
    (member : other ∈ (g.mqSend message).masterClientMsgQ)
    : other ∈ g.masterClientMsgQ ∨ (other = message ∧ g.masterClientMsgQid ≠ -1) := by
  unfold mqSend at member
  split_ifs at member with sent
  · rcases List.mem_append.mp member with old | new
    · exact .inl old
    · exact .inr ⟨List.mem_singleton.mp new, sent.1⟩
  · exact .inl member

end Globals

namespace State

variable (s : State)

@[simp] theorem halt_globals : s.halt.globals = s.globals := rfl
@[simp] theorem halt_registry : s.halt.registry = s.registry := rfl
@[simp] theorem halt_task : s.halt.task = s.task := rfl
@[simp] theorem halt_contexts : s.halt.contexts = s.contexts := rfl

@[simp] theorem setContext_globals (a : Addr) (c : Context)
    : (s.setContext a c).globals = s.globals := rfl
@[simp] theorem setContext_registry (a : Addr) (c : Context)
    : (s.setContext a c).registry = s.registry := rfl
@[simp] theorem freeContext_globals (a : Addr)
    : (s.freeContext a).globals = s.globals := rfl
@[simp] theorem freeContext_registry (a : Addr)
    : (s.freeContext a).registry = s.registry := rfl
@[simp] theorem setSocket_globals (fd : Int) (state : SocketState)
    : (s.setSocket fd state).globals = s.globals := rfl
@[simp] theorem setSocket_registry (fd : Int) (state : SocketState)
    : (s.setSocket fd state).registry = s.registry := rfl
@[simp] theorem setSocket_task (fd : Int) (state : SocketState)
    : (s.setSocket fd state).task = s.task := rfl
@[simp] theorem setSocket_contexts (fd : Int) (state : SocketState)
    : (s.setSocket fd state).contexts = s.contexts := rfl
@[simp] theorem returnIndex_globals (c : Context)
    : (s.returnIndex c).globals = s.globals := rfl
@[simp] theorem returnIndex_task (c : Context) : (s.returnIndex c).task = s.task := rfl
@[simp] theorem returnIndex_contexts (c : Context)
    : (s.returnIndex c).contexts = s.contexts := rfl
@[simp] theorem returnIndex_registry (c : Context)
    : (s.returnIndex c).registry = s.registry.reconnReturnClientIndex c.index := rfl

@[simp] theorem deRegister_globals (c : Context)
    : (s.deRegister c).globals = s.globals := by
  unfold deRegister
  split <;> rfl

@[simp] theorem deRegister_contexts (c : Context)
    : (s.deRegister c).contexts = s.contexts := by
  unfold deRegister
  split <;> rfl

@[simp] theorem deRegister_task (c : Context) : (s.deRegister c).task = s.task := by
  unfold deRegister
  split <;> rfl

@[simp] theorem deRegister_registry (c : Context)
    : (s.deRegister c).registry = s.registry.reconnDeRegisterClientApp c.index := by
  unfold deRegister
  split <;> rfl

/-- The tasks after a context has been written. -/
@[simp] theorem setContext_task (a : Addr) (c : Context)
    : (s.setContext a c).task = Function.update s.task a c.task := by
  funext b
  by_cases same : b = a
  · subst same
    simp [task, setContext]
  · simp [task, setContext, Function.update_of_ne same]

/-- The tasks after a context has been freed. -/
@[simp] theorem freeContext_task (a : Addr)
    : (s.freeContext a).task = Function.update s.task a none := by
  funext b
  by_cases same : b = a
  · subst same
    simp [task, freeContext]
  · simp [task, freeContext, Function.update_of_ne same]

end State

end Reconn.Client
