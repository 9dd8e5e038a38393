import Mathlib.InformationTheory.Coding.UniquelyDecodable

/-! Codes whose words tell their own length in a header of a fixed size. A reader of a stream
of such words knows where each of them ends.
-/

namespace SelfDelimiting

open InformationTheory

variable {α : Type*}

/-- Every word has a header of the given size, from which its length can be computed. -/
def TellsLength (words : Set (List α)) (header : Nat) (size : List α → Nat) : Prop :=
  ∀ word ∈ words, header ≤ word.length ∧ word.length = size (word.take header)

variable {words : Set (List α)} {header : Nat} {size : List α → Nat}

/-- Two words at the start of one stream are the same word. -/
theorem TellsLength.word_unique (tells : TellsLength words header size)
    {word other rest rest' : List α} (first : word ∈ words) (second : other ∈ words)
    (stream : word ++ rest = other ++ rest')
    : word = other ∧ rest = rest' := by
  obtain ⟨long, length⟩ := tells word first
  obtain ⟨long', length'⟩ := tells other second
  have headers : word.take header = other.take header := by
    rw [← List.take_append_of_le_length long, stream, List.take_append_of_le_length long']
  have lengths : word.length = other.length := by
    rw [length, length', headers]
  exact List.append_inj stream lengths

/-- Such a code can be read back from its streams, by induction on the words of one. -/
theorem TellsLength.uniquelyDecodable (tells : TellsLength words header size)
    (positive : 0 < header)
    : UniquelyDecodable words := by
  have nonempty (word : List α) (member : word ∈ words) : word ≠ [] := by
    rintro rfl
    have long := (tells [] member).1
    simp only [List.length_nil] at long
    omega
  intro first
  induction first with
  | nil =>
      intro second _ inSecond stream
      cases second with
      | nil => rfl
      | cons word rest =>
          have empty := (List.append_eq_nil_iff.mp stream.symm).1
          exact absurd empty (nonempty word (inSecond word (List.mem_cons_self ..)))
  | cons word rest ih =>
      intro second inFirst inSecond stream
      cases second with
      | nil =>
          have empty := (List.append_eq_nil_iff.mp stream).1
          exact absurd empty (nonempty word (inFirst word (List.mem_cons_self ..)))
      | cons other rest' =>
          obtain ⟨rfl, later⟩ := tells.word_unique (inFirst word (List.mem_cons_self ..))
            (inSecond other (List.mem_cons_self ..)) stream
          rw [ih rest' (fun w member => inFirst w (List.mem_cons_of_mem _ member))
            (fun w member => inSecond w (List.mem_cons_of_mem _ member)) later]

end SelfDelimiting
