import Mathlib.Data.List.TakeWhile

/-! Terminated strings: the items of a buffer up to the first terminator. A string that is kept
in a buffer has no terminator of its own.
-/

namespace Terminated

variable {α : Type*} [DecidableEq α] {t : α} {buffer string : List α}

/-- What stands before the first terminator. -/
def upTo (t : α) (buffer : List α) : List α := buffer.takeWhile (· ≠ t)

theorem upTo_starts (t : α) (buffer : List α) : upTo t buffer <+: buffer :=
  List.takeWhile_prefix _

theorem not_mem_upTo (t : α) (buffer : List α) : t ∉ upTo t buffer := by
  intro member
  have other := List.mem_takeWhile_imp member
  exact absurd rfl (of_decide_eq_true other)

/-- A string is a list without a terminator. -/
theorem upTo_eq_self_iff : upTo t string = string ↔ t ∉ string := by
  refine ⟨fun same => same ▸ not_mem_upTo t string, fun terminated => ?_⟩
  refine List.takeWhile_eq_self_iff.mpr fun c member => ?_
  exact decide_eq_true (ne_of_mem_of_not_mem member terminated)

/-- A string in front of a terminator is read back. -/
theorem upTo_append (terminated : t ∉ string) (rest : List α)
    : upTo t (string ++ t :: rest) = string := by
  have inside : ∀ c ∈ string, decide (c ≠ t) = true := fun c member =>
    decide_eq_true (ne_of_mem_of_not_mem member terminated)
  rw [upTo, List.takeWhile_append_of_pos inside, List.takeWhile_cons_of_neg (by simp),
    List.append_nil]

/-- A buffer with a terminator is read alike whatever follows it. -/
theorem upTo_append_of_ne (stops : upTo t buffer ≠ buffer) (rest : List α)
    : upTo t (buffer ++ rest) = upTo t buffer := by
  unfold upTo at stops ⊢
  rw [List.takeWhile_append, if_neg]
  exact fun whole => stops ((List.takeWhile_prefix _).eq_of_length whole)

/-- Reading goes at least as far if more follows. -/
theorem length_upTo_le_append (t : α) (buffer rest : List α)
    : (upTo t buffer).length ≤ (upTo t (buffer ++ rest)).length := by
  unfold upTo
  rw [List.takeWhile_append]
  split_ifs with whole
  · rw [List.length_append]
    omega
  · exact le_rfl

/-- Terminators behind a buffer change nothing. -/
theorem upTo_append_replicate (t : α) (buffer : List α) (count : Nat)
    : upTo t (buffer ++ List.replicate count t) = upTo t buffer := by
  have none : upTo t (List.replicate count t) = [] := by
    cases count with
    | zero => rfl
    | succ count => exact List.takeWhile_cons_of_neg (by simp)
  unfold upTo at none ⊢
  rw [List.takeWhile_append, none, List.append_nil]
  split_ifs with whole
  · exact ((List.takeWhile_prefix _).eq_of_length whole).symm
  · rfl

/-- The string in front of any number of terminators. -/
theorem upTo_padded (terminated : t ∉ string) (count : Nat)
    : upTo t (string ++ List.replicate count t) = string :=
  (upTo_append_replicate t string count).trans (upTo_eq_self_iff.mpr terminated)

end Terminated
