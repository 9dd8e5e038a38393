import Mathlib.Data.Nat.Digits.Lemmas

/-! Numbers as ASCII text in decimal. A text is read up to its first byte that is no digit.
-/

namespace DecimalText

/-- The byte of a digit. -/
def digit (d : Nat) : UInt8 := UInt8.ofNat (48 + d)

def isDigit (c : UInt8) : Bool := 48 ≤ c && c ≤ 57

/-- The number that follows after one more digit. -/
def shift (n : Nat) (c : UInt8) : Nat := n * 10 + (c.toNat - 48)

/-- The decimal text of a number; zero has one digit. -/
def text (n : Nat) : List UInt8 :=
  if n = 0 then [digit 0] else (Nat.digits 10 n).reverse.map digit

/-- The number that a text begins with, zero if it begins with no digit. -/
def value (text : List UInt8) : Nat := (text.takeWhile isDigit).foldl shift 0

theorem toNat_digit {d : Nat} (small : d < 10) : (digit d).toNat - 48 = d := by
  rw [digit, UInt8.toNat_ofNat']
  omega

theorem isDigit_digit {d : Nat} (small : d < 10) : isDigit (digit d) = true := by
  have bytes : ∀ d < 10, isDigit (digit d) = true := by decide
  exact bytes d small

theorem isDigit_of_mem_text {n : Nat} {c : UInt8} (member : c ∈ text n)
    : isDigit c = true := by
  unfold text at member
  split_ifs at member
  · obtain rfl := List.mem_singleton.mp member
    rfl
  · obtain ⟨d, inside, rfl⟩ := List.mem_map.mp member
    exact isDigit_digit (Nat.digits_lt_base (by decide) (List.mem_reverse.mp inside))

/-- Digits from the highest on are folded to the number they denote. -/
theorem foldl_shift {digits : List Nat} (small : ∀ d ∈ digits, d < 10)
    : (digits.reverse.map digit).foldl shift 0 = Nat.ofDigits 10 digits := by
  induction digits with
  | nil => rfl
  | cons d rest ih =>
      obtain ⟨first, others⟩ := List.forall_mem_cons.mp small
      rw [List.reverse_cons, List.map_append, List.foldl_append, ih others,
        Nat.ofDigits_cons]
      simp only [List.map_cons, List.map_nil, List.foldl_cons, List.foldl_nil, shift,
        toNat_digit first]
      omega

/-- A number's text is read as that number, whatever follows that is no digit. -/
theorem value_text_append (n : Nat) {rest : List UInt8}
    (stops : ∀ c ∈ rest.head?, isDigit c = false)
    : value (text n ++ rest) = n := by
  have all : (text n ++ rest).takeWhile isDigit = text n := by
    rw [List.takeWhile_append_of_pos fun c member => isDigit_of_mem_text member]
    cases rest with
    | nil => simp
    | cons c rest => simp [stops c rfl]
  rw [value, all, text]
  split_ifs with zero
  · exact zero.symm
  · rw [foldl_shift fun d member => Nat.digits_lt_base (by decide) member,
      Nat.ofDigits_digits]

/-- A number below a power of ten has at most as many digits as its exponent. -/
theorem length_text_le {n k : Nat} (small : n < 10 ^ k) (some : 0 < k)
    : (text n).length ≤ k := by
  unfold text
  split_ifs
  · exact some
  · rw [List.length_map, List.length_reverse]
    exact (Nat.digits_length_le_iff (by decide) n).mpr small

/-- A text begins with a digit, so with no blank and no sign. -/
theorem exists_text_eq_cons (n : Nat) : ∃ c rest, text n = c :: rest ∧ isDigit c = true := by
  cases shape : text n with
  | nil =>
      have digits : value (text n ++ []) = n := value_text_append n nofun
      by_cases zero : n = 0
      · subst zero
        cases shape
      · rw [shape] at digits
        exact absurd digits.symm zero
  | cons c rest =>
      exact ⟨c, rest, rfl, isDigit_of_mem_text (shape ▸ List.mem_cons_self)⟩

end DecimalText
