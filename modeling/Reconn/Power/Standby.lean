import Reconn.Client.Protocol
import Reconn.Library.Countdown
import Reconn.Library.TransitionRuns

/-! The standby counters of powerMgmt.c: reconnPwrMgmtTask drives them down once a minute
while no charger is attached, and powers down the equipment or the whole box at zero.
-/

namespace Reconn.Power

/-- NOT_ATTACHED and ATTACHED are the characters that the charger's GPIO file contains. -/
def notAttached : UInt8 := 0x30
def attached : UInt8 := 0x31

namespace Standby

open Client (GpioName GpioAction)
open Countdown TransitionRuns

def reconnPowerDownTime : Nat := 40
def reconnPowerConservationTime : Nat := 20

/-- PowerMgmtEqptType, and what else an argument of that type may be. -/
inductive PowerMgmtEqptType where
  | resetPowerMeterStbyCounter
  | resetDmmStbyCounter
  | resetGpsStbyCounter
  | resetSpectrumAnalyzerStbyCounter
  | resetSystemShutdownTime
  | invalid (value : Int)
  deriving DecidableEq, Repr

structure PowerMgmtEqptCounters where
  powerMeterCounter : Int
  dmmCounter : Int
  gpsCounter : Int
  spectrumAnalyzerCounter : Int
  reconnSystemCounter : Int
  deriving DecidableEq, Repr

namespace PowerMgmtEqptCounters

/-- The system counter's time, and the loop over the counters before it. -/
def full : PowerMgmtEqptCounters where
  powerMeterCounter := reconnPowerConservationTime
  dmmCounter := reconnPowerConservationTime
  gpsCounter := reconnPowerConservationTime
  spectrumAnalyzerCounter := reconnPowerConservationTime
  reconnSystemCounter := reconnPowerDownTime

/-- The three counters that a minute takes one off. -/
def decrement (counters : PowerMgmtEqptCounters) : PowerMgmtEqptCounters where
  powerMeterCounter := counters.powerMeterCounter
  dmmCounter := counters.dmmCounter - 1
  gpsCounter := counters.gpsCounter
  spectrumAnalyzerCounter := counters.spectrumAnalyzerCounter - 1
  reconnSystemCounter := counters.reconnSystemCounter - 1

/-- resetPowerStandbyCounter resets the system counter whatever its argument is. -/
def resetPowerStandbyCounter (counters : PowerMgmtEqptCounters) (theEqpt : PowerMgmtEqptType)
    : PowerMgmtEqptCounters :=
  let counters := match theEqpt with
    | .resetPowerMeterStbyCounter =>
        { counters with powerMeterCounter := reconnPowerConservationTime }
    | .resetDmmStbyCounter => { counters with dmmCounter := reconnPowerConservationTime }
    | .resetGpsStbyCounter => { counters with gpsCounter := reconnPowerConservationTime }
    | .resetSpectrumAnalyzerStbyCounter =>
        { counters with spectrumAnalyzerCounter := reconnPowerConservationTime }
    | .resetSystemShutdownTime | .invalid _ => counters
  { counters with reconnSystemCounter := reconnPowerDownTime }

end PowerMgmtEqptCounters

structure State where
  eqptStbyCounters : PowerMgmtEqptCounters
  countersReset : Bool

/-- reconnPwrMgmtTask before its first minute. -/
def State.started : State := ⟨.full, false⟩

inductive Action where
  | dmmPowerDown
  | reconnGpioAction (theGpio : GpioName) (theAction : GpioAction)
  | spectrumAnalyzerClose
  | system (command : String)
  deriving DecidableEq, Repr

inductive Event where
  /-- a minute of reconnPwrMgmtTask, with what gChargerState is then -/
  | minute (gChargerState : UInt8)
  | resetPowerStandbyCounter (theEqpt : PowerMgmtEqptType)
  deriving DecidableEq, Repr

def dmmConservation : List Action := [.dmmPowerDown]

def spectrumAnalyzerConservation : List Action :=
  [.reconnGpioAction .power18VGpio .disable, .spectrumAnalyzerClose]

def systemPowerDown : List Action :=
  [
    .system "echo 0x1 > /sys/class/gpio/gpio156/value",
    .system "echo 0x8 > /proc/cpld/CPLD_Tx_DIR_setbit"
  ]

/-- One turn of reconnPwrMgmtTask. A charger that stays attached resets the counters once. -/
def State.minute (s : State) (gChargerState : UInt8) : State × List Action :=
  if gChargerState = notAttached then
    let counters := s.eqptStbyCounters.decrement
    (
      ⟨counters, false⟩,
      (if counters.dmmCounter = 0 then dmmConservation else [])
        ++ (if counters.spectrumAnalyzerCounter = 0 then spectrumAnalyzerConservation else [])
        ++ (if counters.reconnSystemCounter = 0 then systemPowerDown else [])
    )
  else if s.countersReset = false then (⟨.full, true⟩, [])
  else (s, [])

def State.step (s : State) : Event → Option (State × List Action)
  | .minute gChargerState => some (s.minute gChargerState)
  | .resetPowerStandbyCounter theEqpt =>
      some
        ({ s with eqptStbyCounters := s.eqptStbyCounters.resetPowerStandbyCounter theEqpt }, [])

abbrev State.Runs := Run State.step

-----------------------------------------------------------------------------------------
-- The counters as countdowns
-----------------------------------------------------------------------------------------

/-- A counter that expires: its time, the resets that are its own, and what is done when it
has run down.
-/
structure Timer where
  counter : PowerMgmtEqptCounters → Int
  time : Nat
  own : PowerMgmtEqptType → Bool
  actions : List Action
  full : counter .full = time
  decrement : ∀ counters, counter counters.decrement = counter counters - 1
  reset
    : ∀ counters theEqpt, counter (counters.resetPowerStandbyCounter theEqpt)
        = if own theEqpt then (time : Int) else counter counters

def dmmTimer : Timer where
  counter := PowerMgmtEqptCounters.dmmCounter
  time := reconnPowerConservationTime
  own theEqpt := theEqpt = .resetDmmStbyCounter
  actions := dmmConservation
  full := rfl
  decrement _ := rfl
  reset _ theEqpt := by cases theEqpt <;> rfl

def spectrumAnalyzerTimer : Timer where
  counter := PowerMgmtEqptCounters.spectrumAnalyzerCounter
  time := reconnPowerConservationTime
  own theEqpt := theEqpt = .resetSpectrumAnalyzerStbyCounter
  actions := spectrumAnalyzerConservation
  full := rfl
  decrement _ := rfl
  reset _ theEqpt := by cases theEqpt <;> rfl

/-- Every reset is the system counter's. -/
def systemTimer : Timer where
  counter := PowerMgmtEqptCounters.reconnSystemCounter
  time := reconnPowerDownTime
  own _ := true
  actions := systemPowerDown
  full := rfl
  decrement _ := rfl
  reset _ theEqpt := by cases theEqpt <;> rfl

/-- The timers in the order in which a minute looks at them. -/
def timers : List Timer := [dmmTimer, spectrumAnalyzerTimer, systemTimer]

namespace Timer

variable (timer : Timer)

/-- A minute without a charger, for which the GPIO's file says '0', is a tick; a minute with one
restarts the timer, and so does a reset of its own.
-/
def signal : Event → Signal
  | .minute gChargerState => if gChargerState = 0x30 then .tick else .restart
  | .resetPowerStandbyCounter theEqpt => if timer.own theEqpt then .restart else .idle

/-- (timer.NthTick n past event) holds if the event is the n-th tick since the latest restart. -/
def NthTick (n : Nat) (past : List Event) (event : Event) : Prop :=
  timer.signal event = .tick ∧ ticksSince timer.signal (event :: past) = n

instance (n : Nat) (past : List Event) (event : Event) : Decidable (timer.NthTick n past event) :=
  inferInstanceAs (Decidable (_ ∧ _))

/-- The event is the tick that makes the timer's time full. -/
abbrev Due (past : List Event) (event : Event) : Prop := timer.NthTick timer.time past event

/-- The timer's counter is what the history leaves of its time, and full while the latch is
set, which is why the latch may suppress the resets of an attached charger.
-/
structure Follows (past : List Event) (s : State) : Prop where
  left : timer.counter s.eqptStbyCounters = remaining timer.signal timer.time past
  latched : s.countersReset = true → timer.counter s.eqptStbyCounters = timer.time

variable {timer} {past : List Event} {s s' : State} {event : Event} {output : List Action}

theorem Follows.started : timer.Follows [] .started :=
  ⟨timer.full.trans (remaining_nil _).symm, fun latched => by cases latched⟩

/-- Each event keeps the counter at what the history leaves. Witness: for a minute with a
charger the latch, under which nothing needs to be reset.
-/
theorem Follows.step (follows : timer.Follows past s)
    (taken : s.step event = some (s', output))
    : timer.Follows (event :: past) s' := by
  cases event with
  | minute gChargerState =>
      obtain rfl : (s.minute gChargerState).1 = s' := congrArg Prod.fst (Option.some.inj taken)
      unfold State.minute
      by_cases free : gChargerState = notAttached
      · have ticks : timer.signal (.minute gChargerState) = .tick := if_pos free
        rw [if_pos free]
        refine ⟨?_, fun latched => by cases latched⟩
        rw [remaining_tick _ _ ticks, ← follows.left]
        exact timer.decrement s.eqptStbyCounters
      · have restarts : timer.signal (.minute gChargerState) = .restart := if_neg free
        rw [if_neg free]
        split_ifs with latch
        · exact ⟨by rw [remaining_restart _ _ restarts]; exact timer.full, fun _ => timer.full⟩
        · have full := follows.latched (by simpa using latch)
          exact ⟨by rw [remaining_restart _ _ restarts]; exact full, fun _ => full⟩
  | resetPowerStandbyCounter theEqpt =>
      obtain ⟨rfl, -⟩ := Prod.mk.inj (Option.some.inj taken)
      have counter := timer.reset s.eqptStbyCounters theEqpt
      by_cases own : timer.own theEqpt = true
      · have restarts : timer.signal (.resetPowerStandbyCounter theEqpt) = .restart := if_pos own
        rw [if_pos own] at counter
        exact ⟨by rw [remaining_restart _ _ restarts]; exact counter, fun _ => counter⟩
      · have idle : timer.signal (.resetPowerStandbyCounter theEqpt) = .idle := if_neg own
        rw [if_neg own] at counter
        refine ⟨?_, fun latched => counter.trans (follows.latched latched)⟩
        rw [remaining_idle _ _ idle, ← follows.left]
        exact counter

/-- At a minute without a charger a timer is due exactly if its counter comes to zero. -/
theorem Follows.due_minute (follows : timer.Follows past s)
    : timer.Due past (.minute notAttached)
      ↔ timer.counter s.eqptStbyCounters.decrement = 0 := by
  have ticks : timer.signal (.minute notAttached) = .tick := rfl
  rw [timer.decrement, follows.left, ← remaining_tick _ _ ticks, remaining_eq_zero_iff]
  exact and_iff_right ticks

end Timer

/-- What the timers that an event makes due do, one after the other. -/
def dueActions (past : List Event) (event : Event) : List Action :=
  timers.flatMap fun timer => if timer.Due past event then timer.actions else []

/-- No timer is due at an event that is no tick. -/
theorem dueActions_eq_nil {past : List Event} {event : Event}
    (noTick : ∀ timer : Timer, timer.signal event ≠ .tick)
    : dueActions past event = [] :=
  List.flatMap_eq_nil_iff.mpr fun timer _ => if_neg fun due => noTick timer due.1

/-- An event does exactly what the due timers do, where every counter is what the history
leaves of its time.
-/
theorem step_dueActions {past : List Event} {s s' : State} {event : Event}
    {output : List Action} (follows : ∀ timer : Timer, timer.Follows past s)
    (taken : s.step event = some (s', output))
    : output = dueActions past event := by
  cases event with
  | minute gChargerState =>
      obtain rfl : (s.minute gChargerState).2 = output :=
        congrArg Prod.snd (Option.some.inj taken)
      unfold State.minute
      by_cases free : gChargerState = notAttached
      · subst free
        have dmm := (follows dmmTimer).due_minute
        have analyzer := (follows spectrumAnalyzerTimer).due_minute
        have system := (follows systemTimer).due_minute
        rw [if_pos rfl]
        simp only [dueActions, timers, List.flatMap_cons, List.flatMap_nil, dmm, analyzer,
          system, List.append_assoc, List.append_nil]
        rfl
      · have restarts (timer : Timer) : timer.signal (.minute gChargerState) = .restart :=
          if_neg free
        rw [dueActions_eq_nil fun timer => by simp [restarts timer], if_neg free]
        split_ifs <;> rfl
  | resetPowerStandbyCounter theEqpt =>
      obtain ⟨-, rfl⟩ := Prod.mk.inj (Option.some.inj taken)
      refine (dueActions_eq_nil fun timer => ?_).symm
      simp only [Timer.signal]
      split_ifs <;> simp

/-- In every run of minutes and resets the meter, the analyzer and the box are powered down at
exactly those minutes that are the twentieth, or the fortieth, without a charger since the latest
restart of their timer. Witness: every counter follows the history.
-/
theorem poweredDown_throughout {transitions : List (Transition State Event (List Action))}
    {finish : State} (run : State.Runs .started transitions finish)
    : Throughout (fun past t => t.event :: past)
        (fun past t =>
          t.output
            = (if dmmTimer.NthTick 20 past t.event then [.dmmPowerDown] else [])
              ++ (if spectrumAnalyzerTimer.NthTick 20 past t.event then
                [.reconnGpioAction .power18VGpio .disable, .spectrumAnalyzerClose] else [])
              ++ (if systemTimer.NthTick 40 past t.event then
                [
                  .system "echo 0x1 > /sys/class/gpio/gpio156/value",
                  .system "echo 0x8 > /proc/cpld/CPLD_Tx_DIR_setbit"
                ] else []))
        [] transitions := by
  let Related (past : List Event) (s : State) : Prop := ∀ timer : Timer, timer.Follows past s
  have start : Related [] .started := fun _ => Timer.Follows.started
  refine run.throughout (fun past t related taken => ?_) [] start
  have related : Related past t.before := related
  refine ⟨fun timer => (related timer).step taken, ?_⟩
  rw [step_dueActions related taken]
  simp only [dueActions, timers, List.flatMap_cons, List.flatMap_nil, List.append_nil,
    List.append_assoc]
  rfl

/-- The box is powered down in the fortieth minute. -/
theorem poweredDown_fortyMinutes
    : Throughout (fun past t => t.event :: past)
        (fun past t =>
          t.output
            = (if dmmTimer.NthTick 20 past t.event then [.dmmPowerDown] else [])
              ++ (if spectrumAnalyzerTimer.NthTick 20 past t.event then
                [.reconnGpioAction .power18VGpio .disable, .spectrumAnalyzerClose] else [])
              ++ (if systemTimer.NthTick 40 past t.event then
                [
                  .system "echo 0x1 > /sys/class/gpio/gpio156/value",
                  .system "echo 0x8 > /proc/cpld/CPLD_Tx_DIR_setbit"
                ] else []))
        [] (replay State.step .started (.replicate 40 (.minute 0x30))).1
      ∧ ((replay State.step .started (.replicate 40 (.minute 0x30))).1.map (·.output))[39]?
        = some
          [
            .system "echo 0x1 > /sys/class/gpio/gpio156/value",
            .system "echo 0x8 > /proc/cpld/CPLD_Tx_DIR_setbit"
          ] :=
  ⟨poweredDown_throughout (replay_run _ _), by decide +kernel⟩

end Standby

end Reconn.Power
