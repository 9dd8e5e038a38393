import Reconn.Library.TransitionRuns
import Reconn.Upgrade.Bundle

/-! The power button, by the loop of main in powerDaemon.c. The daemon waits until the button
is released after the power-up, and turns the box off when it is pressed then. It asks the DMM
task to save its state before, and waits for an answer even if there is none in time. The
socket of the DMM task is looked up anew for every call, and powerDaemonSocketTask may store
another one in between.
-/

namespace Reconn.Power.PowerDaemon

open TransitionRuns
open Upgrade (atoi)

def powerButtonPressed : Int := 1

/-- What comes of opening and reading the value file of the button. -/
inductive Reading where
  | openFails
  | eof
  | value (theButtonValue : UInt8)
  deriving DecidableEq, Repr

namespace Reading

/-- The value is a character, which is the first of a string in the memory of an int. -/
def pressed : Reading → Bool
  | .openFails | .eof => false
  | .value theButtonValue => atoi [theButtonValue] = powerButtonPressed

def notPressed : Reading → Bool
  | .openFails | .eof => false
  | .value theButtonValue => atoi [theButtonValue] ≠ powerButtonPressed

end Reading

/-- What select() returns: a negative value, zero, or more. -/
inductive Select where
  | fails
  | timedOut
  | ready
  deriving DecidableEq, Repr

/-- What happens in a turn of the loop. What accept() of powerDaemonSocketTask has returned
last, if it has, is whether there is a connection.
-/
structure Turn where
  /-- before the first look at dmmSocketFd -/
  accept : Option Bool
  /-- between that and FD_SET -/
  atFdSet : Option Bool
  atSend : Option Bool
  atSelect : Option Bool
  afterSelect : Option Bool
  reading : Reading
  /-- send() raises a signal, because the connection is broken -/
  sendKills : Bool
  /-- select() of the socket to the DMM task -/
  select : Select
  /-- a recv() that has nothing to read yet returns at some time -/
  replies : Bool
  deriving DecidableEq, Repr

/-- dmmSocketFd keeps its value from FD_SET to recv(). -/
def Turn.SameSocket (t : Turn) : Prop :=
  t.atSend = none ∧ t.atSelect = none ∧ t.afterSelect = none

instance (t : Turn) : Decidable t.SameSocket := inferInstanceAs (Decidable (_ ∧ _ ∧ _))

inductive Action where
  | send
  /-- recv(), whether on a connection, with what select() has returned before -/
  | recv (connected : Bool) (selected : Select)
  | closeDmmSocket
  | system (command : String)
  deriving DecidableEq, Repr

inductive Phase where
  | polling
  /-- in a recv() that does not return -/
  | receiving
  | killed
  /-- after FD_SET of a descriptor that is -1 -/
  | undefined
  | ended
  deriving DecidableEq, Repr

structure State where
  initialPowerUp : Bool
  /-- dmmSocketFd is not -1 -/
  dmmSocket : Bool
  phase : Phase
  deriving DecidableEq, Repr

/-- The commands that turn the box off. -/
def powerOff : List Action :=
  [
    .system "echo 0x1 > /sys/class/gpio/gpio156/value",
    .system "echo 0x8 > /proc/cpld/CPLD_Tx_DIR_setbit"
  ]

namespace State

def initial : State := ⟨true, false, .polling⟩

/-- powerDaemonSocketTask stores what accept() returns. -/
def accepts (s : State) (accept : Option Bool) : State :=
  { s with dmmSocket := accept.getD s.dmmSocket }

/-- What select() returns of a descriptor: none is below -1 + 1, so nothing is ready there. -/
def selected (s : State) (select : Select) : Select :=
  if s.dmmSocket = false ∧ select = .ready then .timedOut else select

/-- From send() on. Only a select() that fails keeps the daemon from calling recv(), which
returns at once without a connection, or if it is on the one that select() has found ready.
-/
def ask (s : State) (t : Turn) : State × List Action :=
  let s := s.accepts t.atSend
  if s.dmmSocket = true ∧ t.sendKills = true then ({ s with phase := .killed }, [.send])
  else
    let s := s.accepts t.atSelect
    let selected := s.selected t.select
    let s := s.accepts t.afterSelect
    if selected = .fails then ({ s with phase := .ended }, .send :: powerOff)
    else if s.dmmSocket = true ∧ t.replies = false ∧ ¬ (selected = .ready ∧ t.SameSocket) then
      ({ s with phase := .receiving }, [.send, .recv s.dmmSocket selected])
    else ({ s with phase := .ended }, .send :: .recv s.dmmSocket selected :: powerOff)

/-- The button is pressed. -/
def press (s : State) (t : Turn) : State × List Action :=
  if s.dmmSocket = false then ({ s with phase := .ended }, powerOff)
  else
    let s := s.accepts t.atFdSet
    if s.dmmSocket = false then ({ s with phase := .undefined }, []) else s.ask t

/-- The button is not pressed. Whatever comes from the DMM task is taken as its end. -/
def poll (s : State) (t : Turn) : State × List Action :=
  if s.dmmSocket = false then (s, [])
  else
    let s := s.accepts t.atFdSet
    if s.dmmSocket = false then ({ s with phase := .undefined }, [])
    else
      let s := s.accepts t.atSelect
      let selected := s.selected t.select
      let s := s.accepts t.afterSelect
      if selected = .ready then ({ s with dmmSocket := false }, [.closeDmmSocket])
      else (s, [])

/-- A turn of the loop. -/
def step (s : State) (t : Turn) : Option (State × List Action) :=
  if s.phase ≠ .polling then none
  else
    let s := s.accepts t.accept
    match t.reading with
    | .openFails | .eof => some (s, [])
    | .value theButtonValue =>
        if s.initialPowerUp = true ∧ atoi [theButtonValue] = powerButtonPressed then some (s, [])
        else
          let s := { s with initialPowerUp := false }
          if atoi [theButtonValue] = powerButtonPressed then some (s.press t)
          else some (s.poll t)

end State

/-- A reading that the button is not pressed is among these. -/
def Armed (past : List Reading) : Prop := ∃ reading ∈ past, reading.notPressed = true

/-- Among these is a reading that the button is pressed after one that it is not. -/
def Spent (past : List Reading) : Prop :=
  ∃ front reading, front ++ [reading] <+: past ∧ reading.pressed = true ∧ Armed front

/-- The first reading that the button is pressed after one that it is not. -/
def FirstPress (past : List Reading) (reading : Reading) : Prop :=
  reading.pressed = true ∧ Armed past ∧ ¬ Spent past

/-- The readings up to a turn. -/
def readBefore (past : List Reading) (t : Transition State Turn (List Action)) : List Reading :=
  past ++ [t.event.reading]

/-- Each of the commands is given in the turn of the first press and in no other, recv() is not
called on a connection when select() has timed out, and FD_SET has a descriptor.
-/
structure TurnsOff (past : List Reading) (t : Transition State Turn (List Action)) : Prop where
  commands : ∀ command ∈ powerOff, command ∈ t.output ↔ FirstPress past t.event.reading
  noWait : Action.recv true .timedOut ∉ t.output
  defined : t.after.phase ≠ .undefined

/-- What there is of the connection from send() on: it can be written to, and if there is still
one at recv() then select() has not timed out, and one that select() has not found ready comes
to be.
-/
structure Answers (s : State) (t : Turn) : Prop where
  writable : (s.accepts t.atSend).dmmSocket = true → t.sendKills = false
  inTime
    : (((s.accepts t.atSend).accepts t.atSelect).accepts t.afterSelect).dmmSocket = true
        → ((s.accepts t.atSend).accepts t.atSelect).selected t.select ≠ .timedOut
          ∧ (((s.accepts t.atSend).accepts t.atSelect).selected t.select = .ready
            → ¬ t.SameSocket → t.replies = true)

/-- If there is a connection to the DMM task then accept() does not fail before FD_SET, and it
answers.
-/
def Prompt (s : State) (t : Turn) : Prop :=
  s.dmmSocket = true → t.atFdSet ≠ some false ∧ Answers (s.accepts t.atFdSet) t

/-- The DMM task is prompt at the first press, and where the button is not pressed accept()
does not fail between the look at dmmSocketFd and FD_SET.
-/
structure PromptAtPress (past : List Reading) (t : Transition State Turn (List Action))
    : Prop where
  press : FirstPress past t.event.reading → Prompt (t.before.accepts t.event.accept) t.event
  poll
    : t.event.reading.notPressed = true
        → (t.before.accepts t.event.accept).dmmSocket = true → t.event.atFdSet ≠ some false

-----------------------------------------------------------------------------------------
-- Readings
-----------------------------------------------------------------------------------------

section Readings

variable {past : List Reading} {reading : Reading}

theorem armed_append : Armed (past ++ [reading]) ↔ Armed past ∨ reading.notPressed = true := by
  simp only [Armed, List.mem_append, List.mem_singleton, or_and_right, exists_or, exists_eq_left]

theorem Reading.not_pressed_of_notPressed (notPressed : reading.notPressed = true)
    : reading.pressed ≠ true := by
  cases reading with
  | openFails | eof => exact Bool.false_ne_true
  | value c =>
      have other : atoi [c] ≠ powerButtonPressed := of_decide_eq_true notPressed
      exact fun pressed => other (of_decide_eq_true pressed)

theorem spent_append
    : Spent (past ++ [reading]) ↔ Spent past ∨ (reading.pressed = true ∧ Armed past) := by
  constructor
  · rintro ⟨front, pressed, starts, isPressed, armed⟩
    rcases List.prefix_concat_iff.mp starts with same | starts
    · obtain ⟨rfl, rfl⟩ := List.append_singleton_inj.mp same
      exact .inr ⟨isPressed, armed⟩
    · exact .inl ⟨front, pressed, starts, isPressed, armed⟩
  · rintro (⟨front, pressed, starts, holds⟩ | ⟨isPressed, armed⟩)
    · exact ⟨front, pressed, starts.trans (List.prefix_append _ _), holds⟩
    · exact ⟨past, reading, List.prefix_rfl, isPressed, armed⟩

end Readings

-----------------------------------------------------------------------------------------
-- Turns
-----------------------------------------------------------------------------------------

namespace State

variable {s next : State} {t : Turn} {output : List Action}

/-- The turn finds the button pressed after the start-up is over. -/
def Fires (s : State) (t : Turn) : Prop :=
  s.initialPowerUp = false ∧ t.reading.pressed = true

theorem phase_of_step (taken : s.step t = some (next, output)) : s.phase = .polling :=
  not_not.mp (Option.ite_none_left_eq_some.mp taken).1

/-- A turn that finds the button pressed after the start-up asks the DMM task. -/
theorem step_fires (fires : s.Fires t) (taken : s.step t = some (next, output))
    : (s.accepts t.accept).press t = (next, output) := by
  obtain ⟨started, pressed⟩ := fires
  have same : { s.accepts t.accept with initialPowerUp := false } = s.accepts t.accept := by
    rw [← started]
    rfl
  obtain ⟨-, taken⟩ := Option.ite_none_left_eq_some.mp taken
  cases reading : t.reading with
  | openFails | eof =>
      rw [reading] at pressed
      exact Bool.noConfusion pressed
  | value c =>
      rw [reading] at pressed
      have isPressed : atoi [c] = powerButtonPressed := of_decide_eq_true pressed
      simp only [reading, isPressed, and_true, if_true] at taken
      rw [if_neg (by simp [accepts, started]), same] at taken
      exact Option.some.inj taken

theorem accepts_socket_iff {s : State} (connected : s.dmmSocket = true) (accept : Option Bool)
    : (s.accepts accept).dmmSocket = true ↔ accept ≠ some false := by
  cases accept with
  | none => simp [accepts, connected]
  | some connection => simp [accepts]

theorem poll_idle (s : State) (t : Turn)
    : (∀ action ∈ (s.poll t).2, action = .closeDmmSocket)
      ∧ (s.poll t).1.initialPowerUp = s.initialPowerUp := by
  unfold poll
  dsimp only
  split_ifs
  · exact ⟨by simp, rfl⟩
  · exact ⟨by simp, rfl⟩
  · exact ⟨by simp, rfl⟩
  · exact ⟨by simp, rfl⟩

/-- Polling has a descriptor for FD_SET exactly if accept() does not fail before it. -/
theorem poll_defined_iff {s : State} (polling : s.phase = .polling) (t : Turn)
    : (s.poll t).1.phase ≠ .undefined
      ↔ (s.dmmSocket = true → t.atFdSet ≠ some false) := by
  unfold poll
  cases connected : s.dmmSocket with
  | false => simp [polling]
  | true =>
      have socket := accepts_socket_iff connected t.atFdSet
      dsimp only
      rw [if_neg (by simp), ← socket]
      split_ifs with lost ready
      · simp [lost]
      · simp [accepts, polling] at lost ⊢
        simpa using lost
      · simp [accepts, polling] at lost ⊢
        simpa using lost

/-- Any other turn goes on polling, without a command and without a recv(), if it has a
descriptor for FD_SET; the start-up is over after it exactly if it was before, or the button is
not pressed.
-/
theorem step_idle (idle : ¬ s.Fires t) (taken : s.step t = some (next, output))
    : (∀ action ∈ output, action = .closeDmmSocket)
      ∧ (next.initialPowerUp = false
        ↔ s.initialPowerUp = false ∨ t.reading.notPressed = true)
      ∧ (next.phase ≠ .undefined
        ↔ (t.reading.notPressed = true → (s.accepts t.accept).dmmSocket = true
          → t.atFdSet ≠ some false)) := by
  have polling := phase_of_step taken
  obtain ⟨-, taken⟩ := Option.ite_none_left_eq_some.mp taken
  have defined : (s.accepts t.accept).phase ≠ .undefined := by simp [accepts, polling]
  cases reading : t.reading with
  | openFails | eof =>
      simp only [reading, Option.some.injEq, Prod.mk.injEq] at taken
      obtain ⟨rfl, rfl⟩ := taken
      exact ⟨List.forall_mem_nil _, (or_iff_left Bool.false_ne_true).symm,
        iff_of_true defined fun notPressed => Bool.noConfusion notPressed⟩
  | value c =>
      simp only [reading] at taken
      by_cases pressed : atoi [c] = powerButtonPressed
      · have before : s.initialPowerUp = true := by
          by_contra started
          refine idle ⟨Bool.eq_false_of_not_eq_true started, ?_⟩
          rw [reading]
          exact decide_eq_true pressed
        rw [if_pos ⟨before, pressed⟩] at taken
        obtain ⟨rfl, rfl⟩ := Prod.mk.inj (Option.some.inj taken)
        have other : (Reading.value c).notPressed ≠ true := by simp [Reading.notPressed, pressed]
        exact ⟨List.forall_mem_nil _, (or_iff_left other).symm,
          iff_of_true defined fun notPressed => absurd notPressed other⟩
      · have notPressed : (Reading.value c).notPressed = true := decide_eq_true pressed
        rw [if_neg fun both => pressed both.2, if_neg pressed] at taken
        have polled := poll_idle { s.accepts t.accept with initialPowerUp := false } t
        have kept := @poll_defined_iff { s.accepts t.accept with initialPowerUp := false }
          polling t
        rw [Option.some.inj taken] at polled kept
        exact ⟨polled.1, iff_of_true polled.2 (.inr notPressed),
          kept.trans (imp_iff_right notPressed).symm⟩

/-- Asking the DMM task ends the polling. -/
theorem ask_phase (s : State) (t : Turn)
    : (s.ask t).1.phase ≠ .polling ∧ (s.ask t).1.phase ≠ .undefined := by
  unfold ask
  dsimp only
  split_ifs <;> simp

/-- Asking the DMM task turns the box off without a wait exactly if it answers. -/
theorem ask_turnsOff_iff (s : State) (t : Turn)
    : ((∀ command ∈ powerOff, command ∈ (s.ask t).2)
        ∧ Action.recv true .timedOut ∉ (s.ask t).2)
      ↔ Answers s t := by
  have answers := (⟨fun a => ⟨a.writable, a.inTime⟩, fun a => ⟨a.1, a.2⟩⟩ : Answers s t ↔ _ ∧ _)
  rw [answers]
  unfold ask powerOff
  dsimp only
  generalize s.accepts t.atSend = sending
  generalize sending.accepts t.atSelect = selecting
  generalize selecting.selected t.select = selected
  generalize selecting.accepts t.afterSelect = receiving
  by_cases same : t.SameSocket
  · cases sending.dmmSocket <;> cases receiving.dmmSocket <;> cases t.sendKills <;>
      cases selected <;> cases t.replies <;> simp [same]
  · cases sending.dmmSocket <;> cases receiving.dmmSocket <;> cases t.sendKills <;>
      cases selected <;> cases t.replies <;> simp [same]

/-- Pressing ends the polling. -/
theorem press_phase (s : State) (t : Turn) : (s.press t).1.phase ≠ .polling := by
  unfold press
  dsimp only
  split_ifs
  · simp
  · simp
  · exact (ask_phase _ t).1

/-- The box is turned off without a wait exactly if the DMM task is prompt. -/
theorem press_turnsOff_iff (s : State) (t : Turn)
    : ((∀ command ∈ powerOff, command ∈ (s.press t).2)
        ∧ Action.recv true .timedOut ∉ (s.press t).2
        ∧ (s.press t).1.phase ≠ .undefined)
      ↔ Prompt s t := by
  unfold press Prompt
  cases connected : s.dmmSocket with
  | false => simp [powerOff]
  | true =>
      have socket := accepts_socket_iff connected t.atFdSet
      have asked := ask_turnsOff_iff (s.accepts t.atFdSet) t
      have defined := (ask_phase (s.accepts t.atFdSet) t).2
      dsimp only
      rw [if_neg (by simp), ← socket]
      split_ifs with lost
      · simp [lost]
      · rw [← asked]
        simp [defined, lost]

end State

/-- The start-up is over exactly if the button was not pressed at some reading, and the loop
does not go on after a first press.
-/
def Related (past : List Reading) (s : State) : Prop :=
  s.phase = .polling → (s.initialPowerUp = false ↔ Armed past) ∧ ¬ Spent past

/-- Where the loop goes on, a turn is one of the first press exactly if it finds the button
pressed after the start-up.
-/
theorem Related.firstPress_iff {past : List Reading} {s : State} {t : Turn}
    (related : Related past s) (polling : s.phase = .polling)
    : FirstPress past t.reading ↔ s.Fires t := by
  obtain ⟨started, unspent⟩ := related polling
  rw [FirstPress, State.Fires, started, and_iff_left unspent, and_comm]

/-- A turn keeps the meaning of initialPowerUp. -/
theorem Related.step {past : List Reading} {t : Transition State Turn (List Action)}
    (related : Related past t.before)
    (taken : t.before.step t.event = some (t.after, t.output))
    : Related (readBefore past t) t.after := by
  obtain ⟨started, unspent⟩ := related (State.phase_of_step taken)
  intro polling
  by_cases fires : t.before.Fires t.event
  · have pressed := State.press_phase (t.before.accepts t.event.accept) t.event
    rw [State.step_fires fires taken] at pressed
    exact absurd polling pressed
  · refine ⟨?_, ?_⟩
    · rw [readBefore, armed_append, ← started]
      exact (State.step_idle fires taken).2.1
    · rw [readBefore, spent_append, ← started]
      exact fun spent => spent.elim unspent fun first => fires ⟨first.2, first.1⟩

/-- A turn turns the box off as it should exactly if the DMM task is prompt at the first
press.
-/
theorem Related.turnsOff_iff_prompt {past : List Reading} {t : Transition State Turn (List Action)}
    (related : Related past t.before)
    (taken : t.before.step t.event = some (t.after, t.output))
    : TurnsOff past t ↔ PromptAtPress past t := by
  have first := related.firstPress_iff (t := t.event) (State.phase_of_step taken)
  by_cases fires : t.before.Fires t.event
  · have asked := State.press_turnsOff_iff (t.before.accepts t.event.accept) t.event
    rw [State.step_fires fires taken] at asked
    have pressed := first.mpr fires
    constructor
    · intro off
      refine ⟨fun _ => asked.mp ⟨fun command member => (off.commands command member).mpr pressed,
        off.noWait, off.defined⟩, fun notPressed => ?_⟩
      exact absurd fires.2 (Reading.not_pressed_of_notPressed notPressed)
    · intro prompt
      obtain ⟨commands, noWait, defined⟩ := asked.mpr (prompt.press pressed)
      exact ⟨fun command member => iff_of_true (commands command member) pressed, noWait,
        defined⟩
  · obtain ⟨silent, -, defined⟩ := State.step_idle fires taken
    have other : ¬ FirstPress past t.event.reading := mt first.mp fires
    constructor
    · exact fun off => ⟨fun pressed => absurd pressed other, defined.mp off.defined⟩
    · refine fun prompt => ⟨fun command member => iff_of_false (fun given => ?_) other, ?_,
        defined.mpr prompt.poll⟩
      · obtain rfl := silent command given
        exact absurd member (by decide)
      · exact fun waits => Action.noConfusion (silent _ waits)

/-- Over every run the box is turned off in the turn of the first press and in no other, and
without a wait, exactly if the DMM task is prompt at the first press.
-/
theorem turnsOff_iff {turns : List (Transition State Turn (List Action))} {finish : State}
    (run : Run State.step .initial turns finish)
    : Throughout readBefore TurnsOff [] turns ↔ Throughout readBefore PromptAtPress [] turns :=
  run.throughout_iff (fun _ _ => Related.step) (fun _ _ => Related.turnsOff_iff_prompt) []
    fun _ => ⟨by simp [State.initial, Armed], by simp [Spent, Armed]⟩

/-- A turn without a new connection and without an answer. -/
def alone (reading : Reading) : Turn where
  accept := none
  atFdSet := none
  atSend := none
  atSelect := none
  afterSelect := none
  reading
  sendKills := false
  select := .timedOut
  replies := false

/-- The DMM task connects while the button is released. -/
def connects : Turn := { alone (.value 48) with accept := some true }

/-- The button is pressed, and the DMM task answers. -/
def answered : Turn := { alone (.value 49) with select := .ready }

/-- The button is still pressed at the start, is released, and is pressed again. -/
def usual : List (Transition State Turn (List Action)) :=
  [
    ⟨.initial, alone (.value 49), [], .initial⟩,
    ⟨.initial, connects, [], ⟨false, true, .polling⟩⟩,
    ⟨
      ⟨false, true, .polling⟩, answered, .send :: .recv true .ready :: powerOff,
      ⟨false, true, .ended⟩
    ⟩
  ]

/-- The box is turned off after the DMM task has answered. -/
theorem turnsOff_answered : Throughout readBefore TurnsOff [] usual := by
  have run : Run State.step .initial usual ⟨false, true, .ended⟩ :=
    .cons (by decide +kernel) (.cons (by decide +kernel) (.cons (by decide +kernel) (.nil _)))
  refine (turnsOff_iff run).mpr ⟨⟨fun _ connected => Bool.noConfusion connected, ?_⟩,
    ⟨fun first => absurd first.1 (by decide +kernel), ?_⟩, ⟨fun _ _ => ?_, ?_⟩, trivial⟩
  · exact fun notPressed => absurd notPressed (by decide +kernel)
  · exact fun _ _ => nofun
  · exact ⟨nofun, fun _ => rfl, fun _ => ⟨by decide, fun _ other => absurd other (by decide)⟩⟩
  · exact fun notPressed => absurd notPressed (by decide +kernel)

/-- With a DMM task that does not answer the box is not turned off. -/
theorem turnsOff_silent
    : ¬ ∀ turns finish, Run State.step .initial turns finish
        → Throughout readBefore TurnsOff [] turns := by
  intro always
  have run : Run State.step .initial
      [
        ⟨.initial, connects, [], ⟨false, true, .polling⟩⟩,
        ⟨
          ⟨false, true, .polling⟩, alone (.value 49), [.send, .recv true .timedOut],
          ⟨false, true, .receiving⟩
        ⟩
      ]
      ⟨false, true, .receiving⟩ :=
    .cons (by decide +kernel) (.cons (by decide +kernel) (.nil _))
  exact (always _ _ run).2.1.noWait (by decide)

end Reconn.Power.PowerDaemon
