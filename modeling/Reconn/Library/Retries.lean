import Mathlib.Order.Basic

/-! Loops that try an operation until it succeeds, with a limited number of further attempts
after outcomes that ask for one.
-/

namespace Retries

/-- How such a loop ends: with a success, because no attempt is left, or with an outcome that
does not ask for a further attempt.
-/
inductive Ended where
  | succeeded
  | exhausted
  | refused
  deriving DecidableEq, Repr

/-- A loop that has ended: the number of attempts that it has left, and the last outcome. -/
structure Result (α : Type*) where
  ended : Ended
  left : Nat
  outcome : α

variable {α : Type*}

/-- (run good again retries outcomes) tries an operation with these outcomes, up to as many
further times.
-/
def run (good again : α → Bool) : Nat → (Nat → α) → Result α
  | 0, outcomes =>
      ⟨if good (outcomes 0) then .succeeded else .exhausted, 0, outcomes 0⟩
  | retries + 1, outcomes =>
      if good (outcomes 0) then ⟨.succeeded, retries + 1, outcomes 0⟩
      else if again (outcomes 0) then run good again retries fun i => outcomes (i + 1)
      else ⟨.refused, retries + 1, outcomes 0⟩

/-- The first success, after outcomes that all ask for a further attempt. -/
structure SucceedsAt (good again : α → Bool) (outcomes : Nat → α) (k : Nat) : Prop where
  success : good (outcomes k) = true
  failures : ∀ j < k, good (outcomes j) = false ∧ again (outcomes j) = true

variable {good again : α → Bool} {outcomes : Nat → α} {retries k : Nat}

/-- A loop with enough attempts comes to the first success, by induction on the failures
before it.
-/
theorem run_of_succeedsAt (succeeds : SucceedsAt good again outcomes k) (enough : k ≤ retries)
    : run good again retries outcomes = ⟨.succeeded, retries - k, outcomes k⟩ := by
  induction k generalizing retries outcomes with
  | zero =>
      cases retries with
      | zero => rw [run, if_pos succeeds.success]
      | succ retries => rw [run, if_pos succeeds.success, Nat.sub_zero]
  | succ k ih =>
      obtain ⟨fails, asks⟩ := succeeds.failures 0 k.succ_pos
      have later : SucceedsAt good again (fun i => outcomes (i + 1)) k :=
        ⟨succeeds.success, fun j before => succeeds.failures (j + 1) (Nat.succ_lt_succ before)⟩
      cases retries with
      | zero => exact absurd enough (Nat.not_succ_le_zero k)
      | succ retries =>
          rw [run, if_neg (by simp [fails]), if_pos asks,
            ih later (Nat.le_of_succ_le_succ enough), Nat.succ_sub_succ]

/-- A loop with attempts left ends at an outcome that does not ask for one. -/
theorem run_of_refused (fails : good (outcomes 0) = false) (refuses : again (outcomes 0) = false)
    : run good again (retries + 1) outcomes = ⟨.refused, retries + 1, outcomes 0⟩ := by
  rw [run, if_neg (by simp [fails]), if_neg (by simp [refuses])]

end Retries
