import Mathlib.Data.List.Basic

/-! A text that is read line by line. A line ends after its terminator, and the last line may
end without one.
-/

namespace Lines

variable {α : Type*} {terminator : α} {line rest text : List α} {cut : List (List α)}

/-- Each line but the last ends with the terminator, which is nowhere else in a line. -/
inductive Cut (terminator : α) : List (List α) → Prop where
  | nil : Cut terminator []
  | last {line : List α} (some : line ≠ []) (plain : terminator ∉ line) : Cut terminator [line]
  | cons {line : List α} {more : List (List α)} (plain : terminator ∉ line)
      (rest : Cut terminator more)
      : Cut terminator ((line ++ [terminator]) :: more)

/-- A line holds its terminator at its end only. -/
theorem Cut.not_mem_dropLast (isCut : Cut terminator cut) (member : line ∈ cut)
    : terminator ∉ line.dropLast := by
  induction isCut with
  | nil => cases member
  | last _ plain =>
      obtain rfl := List.mem_singleton.mp member
      exact fun inside => plain (List.dropLast_subset _ inside)
  | cons plain _ ih =>
      rcases List.mem_cons.mp member with rfl | later
      · rwa [List.dropLast_concat]
      · exact ih later

/-- A cut text stays so where lines are replaced by lines that end with the terminator. -/
theorem Cut.map {f : List α → List α} (isCut : Cut terminator cut)
    (keeps : ∀ line ∈ cut,
      f line = line ∨ ∃ plain, terminator ∉ plain ∧ f line = plain ++ [terminator])
    : Cut terminator (cut.map f) := by
  induction isCut with
  | nil => exact .nil
  | @last line some plain =>
      rw [List.map_singleton]
      rcases keeps line List.mem_cons_self with same | ⟨other, without, replaced⟩
      · rw [same]
        exact .last some plain
      · rw [replaced]
        exact .cons without .nil
  | @cons line more plain _ ih =>
      obtain ⟨here, later⟩ := List.forall_mem_cons.mp keeps
      rw [List.map_cons]
      rcases here with same | ⟨other, without, replaced⟩
      · rw [same]
        exact .cons plain (ih later)
      · rw [replaced]
        exact .cons without (ih later)

variable [DecidableEq α]

/-- The lines of a text, each with its terminator. -/
def lines (terminator : α) : List α → List (List α)
  | [] => []
  | c :: text =>
      if c = terminator then [c] :: lines terminator text
      else
        match lines terminator text with
        | [] => [[c]]
        | line :: more => (c :: line) :: more

theorem lines_cons_of_ne {c : α} (other : c ≠ terminator)
    : lines terminator (c :: text)
      = match lines terminator text with
        | [] => [[c]]
        | line :: more => (c :: line) :: more :=
  if_neg other

/-- The terminator ends the first line. -/
theorem lines_terminated (plain : terminator ∉ line)
    : lines terminator (line ++ terminator :: rest)
      = (line ++ [terminator]) :: lines terminator rest := by
  induction line with
  | nil => exact if_pos rfl
  | cons c line ih =>
      have other : c ≠ terminator := (List.ne_of_not_mem_cons plain).symm
      rw [List.cons_append, lines_cons_of_ne other, ih (List.not_mem_of_not_mem_cons plain)]
      rfl

/-- A text without a terminator is one line. -/
theorem lines_unterminated (some : line ≠ []) (plain : terminator ∉ line)
    : lines terminator line = [line] := by
  induction line with
  | nil => exact absurd rfl some
  | cons c line ih =>
      have other : c ≠ terminator := (List.ne_of_not_mem_cons plain).symm
      rw [lines_cons_of_ne other]
      cases line with
      | nil => rfl
      | cons d line => rw [ih (List.cons_ne_nil d line) (List.not_mem_of_not_mem_cons plain)]

/-- A text is cut into its lines. -/
theorem cut_lines (terminator : α) (text : List α) : Cut terminator (lines terminator text) := by
  induction text with
  | nil => exact .nil
  | cons c text ih =>
      by_cases ends : c = terminator
      · subst ends
        rw [lines, if_pos rfl]
        exact @Cut.cons α c [] _ List.not_mem_nil ih
      · rw [lines_cons_of_ne ends]
        have plain {line : List α} (others : terminator ∉ line) : terminator ∉ c :: line :=
          List.not_mem_cons_of_ne_of_not_mem (Ne.symm ends) others
        generalize lines terminator text = cut at ih ⊢
        cases ih with
        | nil => exact .last (List.cons_ne_nil c []) (plain List.not_mem_nil)
        | last _ others => exact .last (List.cons_ne_nil c _) (plain others)
        | cons others rest => exact .cons (plain others) rest

/-- The lines make up the text. -/
theorem flatten_lines (terminator : α) (text : List α)
    : (lines terminator text).flatten = text := by
  induction text with
  | nil => rfl
  | cons c text ih =>
      rw [lines]
      split_ifs
      · rw [List.flatten_cons, ih]
        rfl
      · cases first : lines terminator text with
        | nil =>
            rw [first] at ih
            rw [← ih]
            rfl
        | cons line more =>
            rw [first] at ih
            rw [← ih]
            rfl

/-- What a line holds is in the text. -/
theorem mem_of_mem_lines {c : α} (member : line ∈ lines terminator text) (inside : c ∈ line)
    : c ∈ text := by
  rw [← flatten_lines terminator text]
  exact List.mem_flatten.mpr ⟨line, member, inside⟩

/-- There is one way to cut a text. -/
theorem Cut.lines_flatten (isCut : Cut terminator cut) : lines terminator cut.flatten = cut := by
  induction isCut with
  | nil => rfl
  | last some plain =>
      rw [List.flatten_singleton]
      exact lines_unterminated some plain
  | @cons line more plain _ ih =>
      rw [List.flatten_cons, List.append_assoc, List.singleton_append, lines_terminated plain,
        ih]

end Lines
