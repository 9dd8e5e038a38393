import Mathlib.Data.Int.Notation
import Mathlib.Data.List.Basic
import Mathlib.Order.Nat

/-! stopiphoned of libiphoned.c, which interrupts the daemon's processes until getpidof finds
none. It compares a time that it never advances with its limit of 10 seconds.
-/

namespace Reconn.Iphoned

inductive StopAction where
  /-- kill(pid, SIGINT) -/
  | kill (pid : Int)
  /-- usleep(10000) -/
  | usleep
  /-- system("killall -9 iphoned") -/
  | killall
  deriving DecidableEq, Repr

def usleepTime : Nat := 10000
def gracefulTime : Nat := 10000000

/-- The body of the loop up to its test of the time. -/
def interrupt (pid : Int) : List StopAction :=
  (if 0 < pid then [.kill pid] else []) ++ [.usleep]

/-- (stopiphoned fuel thetime getpidof) is what the loop does from a test of the pid on, for
what getpidof returns at its calls from there; none if it has not returned after that many
tests.
-/
def stopiphoned : Nat → Nat → (Nat → Int) → Option (List StopAction)
  | 0, _, _ => none
  | fuel + 1, thetime, getpidof =>
      let pid := getpidof 0
      if pid = 0 then some []
      else if gracefulTime < thetime then some (interrupt pid ++ [.killall])
      else
        (stopiphoned fuel thetime fun call => getpidof (call + 1)).map (interrupt pid ++ ·)

/-- The number of waits among the actions. -/
def waits (actions : List StopAction) : Nat := actions.count .usleep

/-- The waits have come to more than 10 seconds. -/
def UsedUp (waits : Nat) : Prop := gracefulTime < waits * usleepTime

/-- The call waits no longer than 10 seconds and then falls back to killall, and it does so
only then.
-/
structure InTime (actions : List StopAction) : Prop where
  soonEnough : ∀ earlier < waits actions, ¬ UsedUp earlier
  fallsBack : .killall ∈ actions ↔ UsedUp (waits actions)

/-- stopiphoned returns, and in time. -/
def EndsInTime (getpidof : Nat → Int) : Prop :=
  ∃ fuel actions, stopiphoned fuel 0 getpidof = some actions ∧ InTime actions

variable {fuel thetime : Nat} {getpidof : Nat → Int} {actions : List StopAction}

theorem waits_interrupt (pid : Int) (actions : List StopAction)
    : waits (interrupt pid ++ actions) = waits actions + 1 := by
  unfold interrupt waits
  split_ifs <;> simp

theorem killall_interrupt (pid : Int) (actions : List StopAction)
    : .killall ∈ interrupt pid ++ actions ↔ .killall ∈ actions := by
  unfold interrupt
  split_ifs <;> simp

/-- A call that returns has waited once for each pid before the first 0, and has not fallen
back to killall, by induction on the tests.
-/
theorem of_stopiphoned (graceful : thetime ≤ gracefulTime)
    (returns : stopiphoned fuel thetime getpidof = some actions)
    : getpidof (waits actions) = 0 ∧ .killall ∉ actions := by
  induction fuel generalizing getpidof actions with
  | zero => cases returns
  | succ fuel ih =>
      simp only [stopiphoned, if_neg (not_lt.mpr graceful)] at returns
      split_ifs at returns with gone
      · obtain rfl := Option.some.inj returns
        exact ⟨gone, List.not_mem_nil⟩
      · obtain ⟨later, returned, rfl⟩ := Option.map_eq_some_iff.mp returns
        obtain ⟨last, graceful⟩ := ih returned
        rw [waits_interrupt, killall_interrupt]
        exact ⟨last, graceful⟩

/-- The call returns when getpidof returns 0, after as many waits at most, by induction on the
calls before that.
-/
theorem stopiphoned_returns (graceful : thetime ≤ gracefulTime) {call : Nat}
    (gone : getpidof call = 0)
    : ∃ actions, stopiphoned (call + 1) thetime getpidof = some actions
      ∧ waits actions ≤ call := by
  induction call generalizing getpidof with
  | zero => exact ⟨[], by simp [stopiphoned, gone], le_rfl⟩
  | succ call ih =>
      rw [stopiphoned]
      by_cases now : getpidof 0 = 0
      · exact ⟨[], if_pos now, Nat.zero_le _⟩
      · obtain ⟨later, returned, fewer⟩ := @ih (fun call => getpidof (call + 1)) gone
        refine ⟨interrupt (getpidof 0) ++ later, ?_, ?_⟩
        · simp only [if_neg now, if_neg (not_lt.mpr graceful), returned, Option.map_some]
        · rw [waits_interrupt]
          exact Nat.succ_le_succ fewer

/-- Fewer waits are not used up either. -/
theorem not_usedUp_of_le {fewer more : Nat} (fits : ¬ UsedUp more) (le : fewer ≤ more)
    : ¬ UsedUp fewer :=
  fun used => fits (used.trans_le (Nat.mul_le_mul_right usleepTime le))

/-- stopiphoned ends in time exactly if getpidof returns 0 before the waits come to more than
10 seconds: it never falls back to killall.
-/
theorem stopiphoned_endsInTime_iff (getpidof : Nat → Int)
    : EndsInTime getpidof ↔ ∃ call, ¬ UsedUp call ∧ getpidof call = 0 := by
  have start : 0 ≤ gracefulTime := Nat.zero_le _
  constructor
  · rintro ⟨fuel, actions, returns, inTime⟩
    obtain ⟨gone, graceful⟩ := of_stopiphoned start returns
    exact ⟨waits actions, mt inTime.fallsBack.mpr graceful, gone⟩
  · rintro ⟨call, fits, gone⟩
    obtain ⟨actions, returns, fewer⟩ := stopiphoned_returns start gone
    have graceful := (of_stopiphoned start returns).2
    have fits' : ¬ UsedUp (waits actions) := not_usedUp_of_le fits fewer
    refine ⟨call + 1, actions, returns, ?_, iff_of_false graceful fits'⟩
    exact fun earlier before => not_usedUp_of_le fits' before.le

/-- A process that never disappears keeps stopiphoned from returning. -/
theorem stopiphoned_hangs : ¬ ∀ getpidof, EndsInTime getpidof := by
  intro ends
  obtain ⟨fuel, actions, returns, -⟩ := ends fun _ => 4711
  have gone := (of_stopiphoned (Nat.zero_le _) returns).1
  exact absurd gone (by decide)

end Reconn.Iphoned
