import Mathlib.Data.Int.Notation
import Mathlib.Data.List.Basic

/-! Countdowns that some events drive on and others restart. Whether a countdown expires is
read off the history of the events alone.
-/

namespace Countdown

/-- What an event means to a countdown. -/
inductive Signal where
  | tick
  | restart
  | idle
  deriving DecidableEq, Repr

variable {ε : Type*} (signal : ε → Signal)

/-- The number of ticks since the latest restart, or since the start if there was none; the
history lists the latest event first.
-/
def ticksSince (past : List ε) : Nat :=
  (past.takeWhile (signal · ≠ .restart)).countP (signal · = .tick)

/-- What a countdown from `full` has left after a history. -/
def remaining (full : Int) (past : List ε) : Int := full - ticksSince signal past

variable {signal} {event : ε} (full : Int) (past : List ε)

@[simp] theorem remaining_nil : remaining signal full [] = full := by
  simp [remaining, ticksSince]

theorem ticksSince_tick (ticks : signal event = .tick)
    : ticksSince signal (event :: past) = ticksSince signal past + 1 := by
  simp [ticksSince, ticks]

/-- A tick takes one off. -/
theorem remaining_tick (ticks : signal event = .tick)
    : remaining signal full (event :: past) = remaining signal full past - 1 := by
  rw [remaining, remaining, ticksSince_tick past ticks]
  omega

/-- A restart leaves everything. -/
theorem remaining_restart (restarts : signal event = .restart)
    : remaining signal full (event :: past) = full := by
  simp [remaining, ticksSince, restarts]

/-- An event that means nothing to the countdown changes nothing. -/
theorem remaining_idle (idle : signal event = .idle)
    : remaining signal full (event :: past) = remaining signal full past := by
  simp [remaining, ticksSince, idle]

/-- Nothing is left exactly after as many ticks as the countdown started from. -/
theorem remaining_eq_zero_iff {ticks : Nat}
    : remaining signal ticks past = 0 ↔ ticksSince signal past = ticks := by
  unfold remaining
  omega

end Countdown
