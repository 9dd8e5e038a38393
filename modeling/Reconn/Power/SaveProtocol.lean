import Reconn.Power.PowerButton

/-! The power daemon and the DMM task together. dmmSaveConfigTask of dmm.c connects to the
daemon and waits for its request; when the button is pressed, the daemon sends the request,
waits for the answer and turns the box off. The steps of the two and of the daemon's
powerDaemonSocketTask come in any order, the DMM task may be restarted with its service, and
connections may break.
-/

namespace Reconn.Power.SaveProtocol

open Upgrade (atoi)
open PowerDaemon (Reading Select powerButtonPressed)

/-- DMM_POWER_BUTTON_ENUMS -/
inductive Message where
  | saveDmmState
  | dmmSaveComplete
  deriving DecidableEq, Repr

/-- A connection of the two, with what is on its way in it. -/
structure Connection where
  toTask : List Message
  toDaemon : List Message
  taskOpen : Bool
  daemonOpen : Bool
  deriving DecidableEq, Repr

namespace Connection

/-- A connection that was not made. -/
def absent : Connection := ⟨[], [], false, false⟩

def made : Connection := ⟨[], [], true, true⟩

/-- What is sent to an end that is closed is lost. -/
def sendToTask (message : Message) (connection : Connection) : Connection :=
  if connection.taskOpen then { connection with toTask := connection.toTask ++ [message] }
  else connection

def sendToDaemon (message : Message) (connection : Connection) : Connection :=
  if connection.daemonOpen then { connection with toDaemon := connection.toDaemon ++ [message] }
  else connection

def taskReceives (connection : Connection) : Connection :=
  { connection with toTask := connection.toTask.tail }

def daemonReceives (connection : Connection) : Connection :=
  { connection with toDaemon := connection.toDaemon.tail }

/-- What an end has not received when it closes is lost. -/
def taskCloses (connection : Connection) : Connection :=
  { connection with taskOpen := false, toTask := [] }

def daemonCloses (connection : Connection) : Connection :=
  { connection with daemonOpen := false, toDaemon := [] }

end Connection

/-- dmmSocketFd of dmmSaveConfigTask: -1; a socket that is not connected yet; a connected one;
or the number of a socket that was closed, which another socket of the service may get.
-/
inductive TaskSocket where
  | none
  | fresh
  | connected (c : Nat)
  | closed
  deriving DecidableEq, Repr

inductive TaskPhase where
  /-- at the condition of the loop -/
  | loop
  /-- in recv() -/
  | recv
  /-- before dmmSaveConfig() -/
  | saving
  /-- before send() -/
  | replying
  | ended
  deriving DecidableEq, Repr

inductive DaemonPhase where
  | polling
  /-- before close(), after select() has found the connection closed -/
  | closing
  /-- before dmmSocketFd is set to -1 -/
  | clearing
  /-- before the send() of the request, with the descriptor for select() -/
  | sending (c : Nat)
  /-- in select() -/
  | selecting (c : Nat)
  /-- in recv(), with its descriptor -/
  | receiving (fd : Option Nat)
  | off
  | killed
  deriving DecidableEq, Repr

structure System where
  connections : List Connection
  /-- how many of them powerDaemonSocketTask has taken -/
  accepted : Nat
  initialPowerUp : Bool
  /-- dmmSocketFd of the daemon; none is -1 -/
  dmmSocketFd : Option Nat
  daemon : DaemonPhase
  taskSocket : TaskSocket
  task : TaskPhase
  deriving DecidableEq, Repr

/-- What a step of the DMM task meets. -/
structure TaskOutcomes where
  swUpgradeInProgress : Bool
  socketFails : Bool
  connectFails : Bool
  recvFails : Bool
  /-- the number of a closed socket is that of another one, which is not connected -/
  reused : Bool
  deriving DecidableEq, Repr

/-- Nothing fails. -/
def calm : TaskOutcomes := ⟨false, false, false, false, false⟩

inductive Accept where
  | returns
  | fails
  /-- accept() fails after it has taken a connection, which it closes -/
  | drops
  deriving DecidableEq, Repr

inductive Event where
  /-- accept() of powerDaemonSocketTask -/
  | accept (outcome : Accept)
  /-- a turn of the daemon's loop, up to the next close() or send() -/
  | turn (reading : Reading) (selectFails : Bool)
  | close
  | clear
  /-- send() raises a signal -/
  | send (kills : Bool)
  /-- select() after the request -/
  | select (outcome : Select)
  /-- recv() after the request; it fails if a signal ends it -/
  | recv (fails : Bool)
  | task (env : TaskOutcomes)
  /-- the service of the DMM task ends, and is started again -/
  | restart
  deriving DecidableEq, Repr

/-- What the two do about the configuration. -/
inductive Effect where
  | asked (c : Nat)
  | saved
  | replied
  | answered
  deriving DecidableEq, Repr

namespace System

def initial : System where
  connections := []
  accepted := 0
  initialPowerUp := true
  dmmSocketFd := none
  daemon := .polling
  taskSocket := .none
  task := .loop

def connection (s : System) (c : Nat) : Connection := s.connections.getD c .absent

def modify (s : System) (c : Nat) (change : Connection → Connection) : System :=
  { s with connections := s.connections.modify c change }

/-- Whether select() finds something to read: a message, or the end of the other side. -/
def readable (s : System) (c : Nat) : Bool :=
  !(s.connection c).toDaemon.isEmpty || !(s.connection c).taskOpen

/-- connect() on a socket that is not connected; it fails if the daemon does not listen. -/
def connect (s : System) (connectFails : Bool) : System :=
  if connectFails = true ∨ s.daemon = .killed then { s with taskSocket := .fresh }
  else
    {
      s with
      connections := s.connections ++ [.made]
      taskSocket := .connected s.connections.length
      task := .recv
    }

/-- The DMM task closes its connection. -/
def leave (s : System) (taskSocket : TaskSocket) : System :=
  match s.taskSocket with
  | .connected c =>
      { s.modify c Connection.taskCloses with taskSocket := taskSocket, task := .loop }
  | .none | .fresh | .closed => { s with taskSocket := taskSocket, task := .loop }

/-- A step of dmmSaveConfigTask; none if it is in a recv() that does not return. -/
def taskStep (s : System) (env : TaskOutcomes) : Option (System × List Effect) :=
  match s.task with
  | .loop =>
      if env.swUpgradeInProgress then some ({ s with task := .ended }, [])
      else
        match s.taskSocket with
        | .none =>
            if env.socketFails then some ({ s with task := .ended }, [])
            else some (s.connect env.connectFails, [])
        | .fresh => some (s.connect env.connectFails, [])
        -- connect() fails on a socket that is connected, and on one that was closed.
        | .connected _ => some (s, [])
        | .closed =>
            if env.reused = true ∧ env.connectFails = false ∧ s.daemon ≠ .killed then
              some (s.connect false, [])
            else some (s, [])
  | .recv =>
      match s.taskSocket with
      | .connected c =>
          -- A failure of recv() leaves the number of the closed socket in dmmSocketFd.
          if env.recvFails then some (s.leave .closed, [])
          else
            match (s.connection c).toTask with
            | .saveDmmState :: _ =>
                some ({ s.modify c Connection.taskReceives with task := .saving }, [])
            | .dmmSaveComplete :: _ =>
                some ({ s.modify c Connection.taskReceives with task := .loop }, [])
            | [] => if (s.connection c).daemonOpen then none else some (s.leave .none, [])
      | .none | .fresh | .closed => none
  | .saving => some ({ s with task := .replying }, [.saved])
  | .replying =>
      match s.taskSocket with
      | .connected c =>
          some (
            { s.modify c (Connection.sendToDaemon .dmmSaveComplete) with task := .loop },
            [.replied]
          )
      | .none | .fresh | .closed => none
  | .ended => none

/-- The button is not pressed: whatever there is to read is taken as the other side's end. -/
def poll (s : System) (selectFails : Bool) : System :=
  match s.dmmSocketFd with
  | none => s
  | some c =>
      if selectFails = false ∧ s.readable c = true then { s with daemon := .closing } else s

/-- A turn of the daemon's loop. -/
def turn (s : System) (reading : Reading) (selectFails : Bool) : System :=
  match reading with
  | .openFails | .eof => s
  | .value theButtonValue =>
      if s.initialPowerUp = true ∧ atoi [theButtonValue] = powerButtonPressed then s
      else
        let s := { s with initialPowerUp := false }
        if atoi [theButtonValue] = powerButtonPressed then
          match s.dmmSocketFd with
          | none => { s with daemon := .off }
          | some c => { s with daemon := .sending c }
        else s.poll selectFails

/-- The daemon closes the connection that is in dmmSocketFd now. -/
def close (s : System) : System :=
  match s.dmmSocketFd with
  | none => { s with daemon := .clearing }
  | some c => { s.modify c Connection.daemonCloses with daemon := .clearing }

/-- A signal ends the daemon, and all its connections. -/
def kill (s : System) : System :=
  {
    s with
    connections := s.connections.map Connection.daemonCloses
    accepted := s.connections.length
    dmmSocketFd := none
    daemon := .killed
  }

/-- send() of the request, on what is in dmmSocketFd now. It can only raise a signal if the
other side has closed the connection.
-/
def send (s : System) (c : Nat) (kills : Bool) : Option (System × List Effect) :=
  match s.dmmSocketFd with
  | none => some ({ s with daemon := .selecting c }, [])
  | some fd =>
      if kills then if (s.connection fd).taskOpen then none else some (s.kill, [])
      else
        some (
          { s.modify fd (Connection.sendToTask .saveDmmState) with daemon := .selecting c },
          [.asked fd]
        )

/-- select() after the request. Only if it fails, recv() is not called. -/
def select (s : System) (c : Nat) (outcome : Select) : Option System :=
  match outcome with
  | .fails => some { s with daemon := .off }
  | .timedOut => some { s with daemon := .receiving s.dmmSocketFd }
  | .ready => if s.readable c then some { s with daemon := .receiving s.dmmSocketFd } else none

/-- recv() after the request: it waits for a message or for the end of the other side. The box
is turned off also if it fails.
-/
def recv (s : System) (fd : Option Nat) (fails : Bool) : Option (System × List Effect) :=
  match fd with
  | none => some ({ s with daemon := .off }, [])
  | some c =>
      if fails then some ({ s with daemon := .off }, [])
      else
        match (s.connection c).toDaemon with
        | .dmmSaveComplete :: _ =>
            some ({ s.modify c Connection.daemonReceives with daemon := .off }, [.answered])
        | .saveDmmState :: _ =>
            some ({ s.modify c Connection.daemonReceives with daemon := .off }, [])
        | [] => if (s.connection c).taskOpen then none else some ({ s with daemon := .off }, [])

/-- powerDaemonSocketTask stores what accept() returns; what is in dmmSocketFd is not closed. -/
def accept (s : System) (outcome : Accept) : Option System :=
  match outcome with
  | .fails => some { s with dmmSocketFd := none }
  | .returns =>
      if s.accepted < s.connections.length then
        some { s with accepted := s.accepted + 1, dmmSocketFd := some s.accepted }
      else none
  | .drops =>
      if s.accepted < s.connections.length then
        some
          { s.modify s.accepted Connection.daemonCloses with
            accepted := s.accepted + 1, dmmSocketFd := none }
      else none

/-- A step of the system. Nothing happens when the box is off. -/
def step (s : System) (event : Event) : Option (System × List Effect) :=
  match s.daemon, event with
  | .off, _ => none
  | _, .task env => s.taskStep env
  | _, .restart => some (s.leave .none, [])
  | .killed, _ => none
  | _, .accept outcome => (s.accept outcome).map (·, [])
  | .polling, .turn reading selectFails => some (s.turn reading selectFails, [])
  | .closing, .close => some (s.close, [])
  | .clearing, .clear => some ({ s with dmmSocketFd := none, daemon := .polling }, [])
  | .sending c, .send kills => s.send c kills
  | .selecting c, .select outcome => (s.select c outcome).map (·, [])
  | .receiving fd, .recv fails => s.recv fd fails
  | _, _ => none

end System

-----------------------------------------------------------------------------------------
-- Connections
-----------------------------------------------------------------------------------------

namespace Connection

variable (message : Message) (connection : Connection)

@[simp] theorem sendToTask_toDaemon
    : (connection.sendToTask message).toDaemon = connection.toDaemon := by
  rw [sendToTask]
  split_ifs <;> rfl

@[simp] theorem sendToTask_taskOpen
    : (connection.sendToTask message).taskOpen = connection.taskOpen := by
  rw [sendToTask]
  split_ifs <;> rfl

@[simp] theorem sendToTask_daemonOpen
    : (connection.sendToTask message).daemonOpen = connection.daemonOpen := by
  rw [sendToTask]
  split_ifs <;> rfl

theorem sendToTask_toTask
    : (connection.sendToTask message).toTask
      = if connection.taskOpen then connection.toTask ++ [message] else connection.toTask := by
  rw [sendToTask, apply_ite Connection.toTask]

@[simp] theorem sendToDaemon_toTask
    : (connection.sendToDaemon message).toTask = connection.toTask := by
  rw [sendToDaemon]
  split_ifs <;> rfl

@[simp] theorem sendToDaemon_taskOpen
    : (connection.sendToDaemon message).taskOpen = connection.taskOpen := by
  rw [sendToDaemon]
  split_ifs <;> rfl

@[simp] theorem sendToDaemon_daemonOpen
    : (connection.sendToDaemon message).daemonOpen = connection.daemonOpen := by
  rw [sendToDaemon]
  split_ifs <;> rfl

theorem sendToDaemon_toDaemon
    : (connection.sendToDaemon message).toDaemon
      = if connection.daemonOpen then connection.toDaemon ++ [message]
        else connection.toDaemon := by
  rw [sendToDaemon, apply_ite Connection.toDaemon]

end Connection

namespace System

variable {s : System}

section Fields

variable (s : System) (c : Nat) (change : Connection → Connection)

@[simp] theorem modify_task : (s.modify c change).task = s.task := rfl

@[simp] theorem modify_taskSocket : (s.modify c change).taskSocket = s.taskSocket := rfl

@[simp] theorem modify_daemon : (s.modify c change).daemon = s.daemon := rfl

@[simp] theorem modify_dmmSocketFd : (s.modify c change).dmmSocketFd = s.dmmSocketFd := rfl

@[simp] theorem modify_accepted : (s.modify c change).accepted = s.accepted := rfl

@[simp] theorem modify_length
    : (s.modify c change).connections.length = s.connections.length :=
  List.length_modify ..

end Fields

/-- A change that leaves a connection absent is made of any connection. -/
theorem connection_modify (s : System) {change : Connection → Connection}
    (absent : change .absent = .absent) (c n : Nat)
    : (s.modify c change).connection n
      = if n = c then change (s.connection c) else s.connection n := by
  simp only [connection, modify, List.getD_eq_getElem?_getD, List.getElem?_modify]
  by_cases same : c = n
  · subst same
    cases s.connections[c]? with
    | none => simp [absent]
    | some => simp
  · simp [same, Ne.symm same]

/-- What a change keeps of every connection is what it was. -/
theorem modify_keeps {α : Type} (s : System) (field : Connection → α)
    (change : Connection → Connection)
    (keeps : ∀ connection, field (change connection) = field connection) (c n : Nat)
    : field ((s.modify c change).connection n) = field (s.connection n) := by
  simp only [connection, modify, List.getD_eq_getElem?_getD, List.getElem?_modify]
  by_cases same : c = n
  · subst same
    cases s.connections[c]? with
    | none => simp
    | some connection => simp [keeps]
  · simp [same]

theorem connection_append (s : System) (n : Nat)
    : ({ s with connections := s.connections ++ [.made] } : System).connection n
      = if n = s.connections.length then .made else s.connection n := by
  simp only [connection, List.getD_eq_getElem?_getD, List.getElem?_append]
  grind

theorem connection_of_length_le {n : Nat} (beyond : s.connections.length ≤ n)
    : s.connection n = .absent := by
  rw [connection, List.getD_eq_getElem?_getD, List.getElem?_eq_none beyond]
  rfl

theorem connection_map (s : System) (change : Connection → Connection)
    (absent : change .absent = .absent) (n : Nat)
    : (s.connections.map change).getD n .absent = change (s.connection n) := by
  simp only [connection, List.getD_eq_getElem?_getD, List.getElem?_map]
  cases s.connections[n]? with
  | none => simp [absent]
  | some => simp

section Leave

variable (s : System) (socket : TaskSocket)

@[simp] theorem leave_task : (s.leave socket).task = .loop := by
  rw [leave]
  cases s.taskSocket <;> rfl

@[simp] theorem leave_taskSocket : (s.leave socket).taskSocket = socket := by
  rw [leave]
  cases s.taskSocket <;> rfl

@[simp] theorem leave_daemon : (s.leave socket).daemon = s.daemon := by
  rw [leave]
  cases s.taskSocket <;> rfl

@[simp] theorem leave_dmmSocketFd : (s.leave socket).dmmSocketFd = s.dmmSocketFd := by
  rw [leave]
  cases s.taskSocket <;> rfl

@[simp] theorem leave_accepted : (s.leave socket).accepted = s.accepted := by
  rw [leave]
  cases s.taskSocket <;> rfl

@[simp] theorem leave_length
    : (s.leave socket).connections.length = s.connections.length := by
  rw [leave]
  cases s.taskSocket with
  | none | fresh | closed => rfl
  | connected c => exact List.length_modify ..

theorem leave_connection (n : Nat)
    : (s.leave socket).connection n
      = if s.taskSocket = .connected n then (s.connection n).taskCloses
        else s.connection n := by
  rw [leave]
  cases s.taskSocket with
  | none | fresh | closed => rfl
  | connected c =>
      refine (connection_modify s rfl c n).trans ?_
      by_cases same : n = c
      · rw [if_pos same, if_pos (by rw [same]), same]
      · rw [if_neg same, if_neg fun mine => same (TaskSocket.connected.inj mine).symm]

end Leave

end System

/-- What the daemon can do in a turn of its loop. -/
inductive TurnEnd (s : System) : DaemonPhase → Prop where
  | polls : TurnEnd s .polling
  | closes : TurnEnd s .closing
  | turnsOff (alone : s.dmmSocketFd = none) : TurnEnd s .off
  | sends {c : Nat} (fd : s.dmmSocketFd = some c) : TurnEnd s (.sending c)

theorem turn_cases {s : System} (polling : s.daemon = .polling) (reading : Reading)
    (selectFails : Bool)
    : ∃ initialPowerUp phase, TurnEnd s phase
      ∧ s.turn reading selectFails
        = { s with initialPowerUp := initialPowerUp, daemon := phase } := by
  have polls {s' : System} (same : s' = { s with initialPowerUp := s'.initialPowerUp })
      : ∃ initialPowerUp phase, TurnEnd s phase
        ∧ s' = { s with initialPowerUp := initialPowerUp, daemon := phase } :=
    ⟨_, .polling, .polls, same.trans (by rw [polling])⟩
  cases reading with
  | openFails | eof => exact polls rfl
  | value theButtonValue =>
      rw [System.turn]
      dsimp only
      split_ifs
      · exact polls rfl
      · split
        · exact ⟨_, .off, .turnsOff ‹_›, rfl⟩
        · exact ⟨_, .sending _, .sends ‹_›, rfl⟩
      · rw [System.poll]
        split
        · exact polls rfl
        · split_ifs
          · exact ⟨_, .closing, .closes, rfl⟩
          · exact polls rfl

/-- The button is pressed after the start. -/
theorem System.turn_pressed {s : System} {reading : Reading} {selectFails : Bool} {c : Nat}
    (started : s.initialPowerUp = false) (fd : s.dmmSocketFd = some c)
    (pressed : reading.pressed = true)
    : s.turn reading selectFails
      = { s with initialPowerUp := false, daemon := .sending c } := by
  cases reading with
  | openFails | eof => cases pressed
  | value theButtonValue =>
      have isPressed : atoi [theButtonValue] = powerButtonPressed := of_decide_eq_true pressed
      simp [System.turn, isPressed, started, fd]

/-- What can become of the send() of the request. -/
inductive SendStep (s : System) (c : Nat) : System → List Effect → Prop where
  | nobody (alone : s.dmmSocketFd = none) : SendStep s c { s with daemon := .selecting c } []
  | kills {d : Nat} (fd : s.dmmSocketFd = some d) (closed : (s.connection d).taskOpen = false)
      : SendStep s c s.kill []
  | asks {d : Nat} (fd : s.dmmSocketFd = some d)
      : SendStep s c
          { s.modify d (Connection.sendToTask .saveDmmState) with daemon := .selecting c }
          [.asked d]

theorem send_cases {s s' : System} {c : Nat} {kills : Bool} {output : List Effect}
    (taken : s.send c kills = some (s', output))
    : SendStep s c s' output := by
  rw [System.send] at taken
  split at taken
  · obtain ⟨rfl, rfl⟩ := Prod.mk.inj (Option.some.inj taken)
    exact .nobody ‹_›
  · split_ifs at taken
    · obtain ⟨rfl, rfl⟩ := Prod.mk.inj (Option.some.inj taken)
      exact .kills ‹_› (Bool.eq_false_of_not_eq_true ‹_›)
    · obtain ⟨rfl, rfl⟩ := Prod.mk.inj (Option.some.inj taken)
      exact .asks ‹_›

/-- What can become of select(). -/
theorem select_cases {s s' : System} {c : Nat} {outcome : Select}
    (taken : s.select c outcome = some s')
    : (outcome = .fails ∧ s' = { s with daemon := .off })
      ∨ s' = { s with daemon := .receiving s.dmmSocketFd } := by
  cases outcome with
  | fails => exact .inl ⟨rfl, (Option.some.inj taken).symm⟩
  | timedOut => exact .inr (Option.some.inj taken).symm
  | ready => exact .inr (Option.some.inj (Option.ite_none_right_eq_some.mp taken).2).symm

/-- What can become of the daemon's recv(). -/
inductive RecvStep (s : System) (fails : Bool) : Option Nat → System → List Effect → Prop where
  | nobody : RecvStep s fails none { s with daemon := .off } []
  | ended {c : Nat} (failed : fails = true) : RecvStep s fails (some c) { s with daemon := .off } []
  | closed {c : Nat} (closed : (s.connection c).taskOpen = false)
      : RecvStep s fails (some c) { s with daemon := .off } []
  | answer {c : Nat} {rest : List Message}
      (next : (s.connection c).toDaemon = .dmmSaveComplete :: rest)
      : RecvStep s fails (some c)
          { s.modify c Connection.daemonReceives with daemon := .off } [.answered]
  | invalid {c : Nat} {rest : List Message}
      (next : (s.connection c).toDaemon = .saveDmmState :: rest)
      : RecvStep s fails (some c) { s.modify c Connection.daemonReceives with daemon := .off } []

theorem recv_cases {s s' : System} {fd : Option Nat} {fails : Bool} {output : List Effect}
    (taken : s.recv fd fails = some (s', output))
    : RecvStep s fails fd s' output := by
  unfold System.recv at taken
  split at taken
  · obtain ⟨rfl, rfl⟩ := Prod.mk.inj (Option.some.inj taken)
    exact .nobody
  · split at taken
    · obtain ⟨rfl, rfl⟩ := Prod.mk.inj (Option.some.inj taken)
      exact .ended ‹_›
    · split at taken
      · obtain ⟨rfl, rfl⟩ := Prod.mk.inj (Option.some.inj taken)
        exact .answer ‹_›
      · obtain ⟨rfl, rfl⟩ := Prod.mk.inj (Option.some.inj taken)
        exact .invalid ‹_›
      · obtain ⟨closed, same⟩ := Option.ite_none_left_eq_some.mp taken
        obtain ⟨rfl, rfl⟩ := Prod.mk.inj (Option.some.inj same)
        exact .closed (Bool.eq_false_of_not_eq_true closed)

/-- What the DMM task can do in a step. -/
inductive TaskStep (s : System) (env : TaskOutcomes) : System → List Effect → Prop where
  | quits (loop : s.task = .loop) : TaskStep s env { s with task := .ended } []
  | connects (loop : s.task = .loop) (free : ∀ n, s.taskSocket ≠ .connected n)
      (reused : s.taskSocket = .closed → env.reused = true)
      : TaskStep s env (s.connect env.connectFails) []
  | repeats (loop : s.task = .loop) : TaskStep s env s []
  | recvFails (recv : s.task = .recv) (fails : env.recvFails = true)
      : TaskStep s env (s.leave .closed) []
  | request {c : Nat} {rest : List Message} (recv : s.task = .recv)
      (socket : s.taskSocket = .connected c)
      (next : (s.connection c).toTask = .saveDmmState :: rest)
      : TaskStep s env { s.modify c Connection.taskReceives with task := .saving } []
  | invalid {c : Nat} {rest : List Message} (recv : s.task = .recv)
      (socket : s.taskSocket = .connected c)
      (next : (s.connection c).toTask = .dmmSaveComplete :: rest)
      : TaskStep s env { s.modify c Connection.taskReceives with task := .loop } []
  | closes {c : Nat} (recv : s.task = .recv) (socket : s.taskSocket = .connected c)
      (closed : (s.connection c).daemonOpen = false)
      : TaskStep s env (s.leave .none) []
  | saves (saving : s.task = .saving) : TaskStep s env { s with task := .replying } [.saved]
  | replies {c : Nat} (replying : s.task = .replying) (socket : s.taskSocket = .connected c)
      : TaskStep s env
          { s.modify c (Connection.sendToDaemon .dmmSaveComplete) with task := .loop }
          [.replied]

theorem taskStep_cases {s s' : System} {env : TaskOutcomes} {output : List Effect}
    (taken : s.taskStep env = some (s', output))
    : TaskStep s env s' output := by
  have out {next : System} {effects : List Effect}
      (same : some (next, effects) = some (s', output)) (step : TaskStep s env next effects)
      : TaskStep s env s' output := by
    obtain ⟨rfl, rfl⟩ := Prod.mk.inj (Option.some.inj same)
    exact step
  unfold System.taskStep at taken
  split at taken
  · have loop : s.task = .loop := ‹_›
    split at taken
    · exact out taken (.quits loop)
    · split at taken
      · split at taken
        · exact out taken (.quits loop)
        · exact out taken (.connects loop (by simp [*]) (by simp [*]))
      · exact out taken (.connects loop (by simp [*]) (by simp [*]))
      · exact out taken (.repeats loop)
      · split at taken
        · rename_i socket again
          rw [← again.2.1] at taken
          exact out taken (.connects loop (by simp [socket]) fun _ => again.1)
        · exact out taken (.repeats loop)
  · have recv : s.task = .recv := ‹_›
    split at taken
    · split at taken
      · exact out taken (.recvFails recv ‹_›)
      · split at taken
        · exact out taken (.request recv ‹_› ‹_›)
        · exact out taken (.invalid recv ‹_› ‹_›)
        · split at taken
          · cases taken
          · exact out taken (.closes recv ‹_› (Bool.eq_false_of_not_eq_true ‹_›))
    all_goals cases taken
  · exact out taken (.saves ‹_›)
  · split at taken
    · exact out taken (.replies ‹_› ‹_›)
    all_goals cases taken
  · cases taken

/-- The steps that the system can take. -/
inductive Taken (s : System) : Event → System → List Effect → Prop where
  | task {env : TaskOutcomes} {s' : System} {output : List Effect} (on : s.daemon ≠ .off)
      (taken : s.taskStep env = some (s', output))
      : Taken s (.task env) s' output
  | restart (on : s.daemon ≠ .off) : Taken s .restart (s.leave .none) []
  | accept {outcome : Accept} {s' : System} (on : s.daemon ≠ .off) (alive : s.daemon ≠ .killed)
      (taken : s.accept outcome = some s')
      : Taken s (.accept outcome) s' []
  | turn (reading : Reading) (selectFails : Bool) (polling : s.daemon = .polling)
      : Taken s (.turn reading selectFails) (s.turn reading selectFails) []
  | close (closing : s.daemon = .closing) : Taken s .close s.close []
  | clear (clearing : s.daemon = .clearing)
      : Taken s .clear { s with dmmSocketFd := none, daemon := .polling } []
  | send {c : Nat} {kills : Bool} {s' : System} {output : List Effect}
      (sending : s.daemon = .sending c) (taken : s.send c kills = some (s', output))
      : Taken s (.send kills) s' output
  | select {c : Nat} {outcome : Select} {s' : System} (selecting : s.daemon = .selecting c)
      (taken : s.select c outcome = some s')
      : Taken s (.select outcome) s' []
  | recv {fd : Option Nat} {fails : Bool} {s' : System} {output : List Effect}
      (receiving : s.daemon = .receiving fd) (taken : s.recv fd fails = some (s', output))
      : Taken s (.recv fails) s' output

theorem step_iff {s s' : System} {event : Event} {output : List Effect}
    : s.step event = some (s', output) ↔ Taken s event s' output := by
  constructor
  · intro taken
    unfold System.step at taken
    split at taken
    · cases taken
    · exact .task ‹_› taken
    · obtain ⟨rfl, rfl⟩ := Prod.mk.inj (Option.some.inj taken)
      exact .restart ‹_›
    · cases taken
    · obtain ⟨next, accepts, same⟩ := Option.map_eq_some_iff.mp taken
      obtain ⟨rfl, rfl⟩ := Prod.mk.inj same
      exact .accept ‹_› ‹_› accepts
    · obtain ⟨rfl, rfl⟩ := Prod.mk.inj (Option.some.inj taken)
      exact .turn _ _ ‹_›
    · obtain ⟨rfl, rfl⟩ := Prod.mk.inj (Option.some.inj taken)
      exact .close ‹_›
    · obtain ⟨rfl, rfl⟩ := Prod.mk.inj (Option.some.inj taken)
      exact .clear ‹_›
    · exact .send ‹_› taken
    · obtain ⟨next, selects, same⟩ := Option.map_eq_some_iff.mp taken
      obtain ⟨rfl, rfl⟩ := Prod.mk.inj same
      exact .select ‹_› selects
    · exact .recv ‹_› taken
    · cases taken
  · intro taken
    cases taken with
    | task on taken | restart on => cases daemon : s.daemon <;> simp_all [System.step]
    | accept on alive taken => cases daemon : s.daemon <;> simp_all [System.step]
    | turn _ _ here | close here | clear here => simp [System.step, here]
    | send here taken | select here taken | recv here taken => simp [System.step, here, taken]

end Reconn.Power.SaveProtocol
