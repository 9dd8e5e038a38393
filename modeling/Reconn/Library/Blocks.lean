import Mathlib.Data.List.Basic

/-! A stream that is cut into blocks of one size as its items arrive, with what is left of it
after the last full block.
-/

namespace Blocks

variable {α : Type*} {size : Nat} {items left : List α} {full : List (List α)}

/-- The items are full blocks of the size, and what is left is no block yet. -/
structure Cut (size : Nat) (items : List α) (full : List (List α)) (left : List α)
    : Prop where
  whole : full.flatten ++ left = items
  blocks : ∀ block ∈ full, block.length = size
  short : left.length < size

theorem cut_nil (pos : 0 < size) : Cut size ([] : List α) [] [] :=
  ⟨rfl, List.forall_mem_nil _, pos⟩

/-- An item that completes no block is left with the others. -/
theorem Cut.keeps (cut : Cut size items full left) (item : α)
    (short : left.length + 1 < size)
    : Cut size (items ++ [item]) full (left ++ [item]) := by
  refine ⟨?_, cut.blocks, ?_⟩
  · rw [← List.append_assoc, cut.whole]
  · rw [List.length_append]
    exact short

/-- An item that completes a block leaves nothing. -/
theorem Cut.fills (cut : Cut size items full left) (item : α)
    (fills : left.length + 1 = size)
    : Cut size (items ++ [item]) (full ++ [left ++ [item]]) [] := by
  refine ⟨?_, List.forall_mem_append.mpr ⟨cut.blocks, ?_⟩, ?_⟩
  · rw [List.append_nil, List.flatten_append, List.flatten_singleton, ← List.append_assoc,
      cut.whole]
  · rw [List.forall_mem_singleton, List.length_append]
    exact fills
  · rw [← fills]
    exact Nat.succ_pos _

/-- A cut without its first block. -/
theorem Cut.tail {block : List α} (cut : Cut size items (block :: full) left)
    : block.length = size ∧ items = block ++ (full.flatten ++ left)
      ∧ Cut size (full.flatten ++ left) full left := by
  obtain ⟨first, others⟩ := List.forall_mem_cons.mp cut.blocks
  refine ⟨first, ?_, rfl, others, cut.short⟩
  rw [← cut.whole, List.flatten_cons, List.append_assoc]

/-- There is one way to cut a stream, by induction on the blocks. -/
theorem Cut.eq (cut : Cut size items full left)
    : full
        = (List.range (items.length / size)).map (fun n => (items.drop (n * size)).take size)
      ∧ left = items.drop (items.length / size * size) := by
  induction full generalizing items with
  | nil =>
      obtain rfl : left = items := cut.whole
      simp [Nat.div_eq_of_lt cut.short]
  | cons block rest ih =>
      obtain ⟨first, rfl, later⟩ := cut.tail
      obtain ⟨blocks, remains⟩ := ih later
      have pos : 0 < size := Nat.lt_of_le_of_lt (Nat.zero_le _) cut.short
      have count
          : (block ++ (rest.flatten ++ left)).length / size
            = (rest.flatten ++ left).length / size + 1 := by
        rw [List.length_append, first, Nat.add_comm, Nat.add_div_right _ pos]
      have beyond (n : Nat)
          : (block ++ (rest.flatten ++ left)).drop ((n + 1) * size)
            = (rest.flatten ++ left).drop (n * size) := by
        rw [Nat.add_mul, Nat.one_mul, Nat.add_comm, ← List.drop_drop,
          List.drop_left' first]
      rw [count]
      refine ⟨?_, by rw [beyond, ← remains]⟩
      rw [List.range_succ_eq_map, List.map_cons, List.map_map]
      refine congrArg₂ List.cons ?_ (blocks.trans (List.map_congr_left fun n _ => ?_))
      · rw [Nat.zero_mul, List.drop_zero, List.take_left' first]
      · exact congrArg (List.take size) (beyond n).symm

end Blocks
