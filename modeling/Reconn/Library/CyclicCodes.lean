import Mathlib.Algebra.CharP.Two
import Mathlib.Algebra.Field.ZMod
import Mathlib.Algebra.Polynomial.Div
import Mathlib.Data.List.GetD
import Mathlib.Data.ZMod.Basic
import Mathlib.GroupTheory.OrderOfElement
import Mathlib.RingTheory.AdjoinRoot

/-! Cyclic redundancy checks. Bits are the coefficients of a polynomial over the field of two
elements, the first bit the highest one, and the check of a message is its remainder modulo a
generator `X ^ w + tail`. It is computed by a shift register of `w` bits, a bit at a time or
with a table. What the generator divides is what the check does not see.
-/

namespace CyclicCodes

open Polynomial

/-- The coefficient that a bit is. -/
def coefficient (bit : Bool) : ZMod 2 := if bit then 1 else 0

theorem coefficient_xor (a b : Bool)
    : coefficient (a ^^ b) = coefficient a + coefficient b := by
  cases a <;> cases b <;> decide

theorem coefficient_injective : Function.Injective coefficient := by decide

theorem coefficient_ne_zero {bit : Bool} : coefficient bit ≠ 0 ↔ bit = true := by
  cases bit <;> decide

/-- The polynomial of a row of bits. -/
noncomputable def poly : List Bool → (ZMod 2)[X]
  | [] => 0
  | bit :: rest => C (coefficient bit) * X ^ rest.length + poly rest

theorem poly_append (bits more : List Bool)
    : poly (bits ++ more) = poly bits * X ^ more.length + poly more := by
  induction bits with
  | nil => simp [poly]
  | cons bit rest ih =>
      rw [List.cons_append, poly, ih, poly, List.length_append]
      ring

/-- Bits that are compared one by one differ where the sum of their polynomials does not
vanish.
-/
theorem poly_zipWith_xor {bits other : List Bool} (same : bits.length = other.length)
    : poly (List.zipWith xor bits other) = poly bits + poly other := by
  induction bits generalizing other with
  | nil =>
      cases other with
      | nil => simp [poly]
      | cons => cases same
  | cons bit rest ih =>
      cases other with
      | nil => cases same
      | cons bit' rest' =>
          have shorter : rest.length = rest'.length := Nat.succ.inj same
          rw [List.zipWith_cons_cons, poly, ih shorter, poly, poly, coefficient_xor, C_add,
            List.length_zipWith, shorter, Nat.min_self]
          ring

/-- The coefficient of a power is the bit at that place from the end. -/
theorem coeff_poly (bits : List Bool) (i : Nat)
    : (poly bits).coeff i = coefficient (bits.reverse.getD i false) := by
  induction bits with
  | nil => simp [poly, coefficient]
  | cons bit rest ih =>
      rw [poly, coeff_add, coeff_C_mul, coeff_X_pow, ih, List.reverse_cons]
      rcases lt_trichotomy i rest.length with below | rfl | above
      · rw [List.getD_append _ _ _ _ (by simpa using below), if_neg below.ne]
        simp
      · rw [List.getD_append_right _ _ _ _ (by simp), if_pos rfl,
          List.getD_eq_default _ _ (by simp)]
        simp [coefficient]
      · rw [List.getD_eq_default _ _ (by simpa using above.le),
          List.getD_eq_default _ _ (by simpa using above), if_neg above.ne']
        simp

theorem degree_poly_lt (bits : List Bool) : (poly bits).degree < bits.length := by
  rw [degree_lt_iff_coeff_zero]
  intro i beyond
  rw [coeff_poly, List.getD_eq_default _ _ (by simpa using beyond)]
  rfl

/-- The bits that are set, counted, are the terms of the polynomial. -/
theorem card_support_poly (bits : List Bool)
    : (poly bits).support.card = bits.count true := by
  induction bits with
  | nil => simp [poly]
  | cons bit rest ih =>
      cases bit with
      | false => simpa [poly, coefficient] using ih
      | true =>
          have lower : (poly rest).degree < rest.length := degree_poly_lt rest
          have absent : rest.length ∉ (poly rest).support := by
            rw [notMem_support_iff]
            exact coeff_eq_zero_of_degree_lt lower
          have whole : (poly (true :: rest)).support = insert rest.length (poly rest).support := by
            ext i
            rw [Finset.mem_insert, mem_support_iff, mem_support_iff, poly, coeff_add, coeff_C_mul,
              coeff_X_pow]
            by_cases top : i = rest.length
            · rw [top, coeff_eq_zero_of_degree_lt lower]
              simp [coefficient]
            · simp [top]
          rw [whole, Finset.card_insert_of_notMem absent, ih, List.count_cons_self]

theorem eval_one_poly (bits : List Bool) : (poly bits).eval 1 = (bits.count true : ZMod 2) := by
  induction bits with
  | nil => simp [poly]
  | cons bit rest ih =>
      cases bit <;> simp [poly, coefficient, ih, add_comm]

-----------------------------------------------------------------------------------------
-- Words
-----------------------------------------------------------------------------------------

/-- The bits of a word, the highest one first. -/
def bitsOf {w : Nat} (v : BitVec w) : List Bool := ((List.range w).map v.getLsbD).reverse

@[simp] theorem length_bitsOf {w : Nat} (v : BitVec w) : (bitsOf v).length = w := by
  simp [bitsOf]

/-- The bits of two words that are joined. -/
theorem bitsOf_append {w k : Nat} (high : BitVec w) (low : BitVec k)
    : bitsOf (high ++ low) = bitsOf high ++ bitsOf low := by
  have places : List.range (w + k) = List.range k ++ (List.range w).map (k + ·) := by
    rw [Nat.add_comm, List.range_add]
  rw [bitsOf, bitsOf, bitsOf, ← List.reverse_append, places, List.map_append, List.map_map]
  congr 2
  · refine List.map_congr_left fun i below => ?_
    rw [BitVec.getLsbD_append, if_pos (List.mem_range.mp below)]
  · refine List.map_congr_left fun i _ => ?_
    simp [BitVec.getLsbD_append]

/-- The polynomial of a word. -/
noncomputable def word {w : Nat} (v : BitVec w) : (ZMod 2)[X] := poly (bitsOf v)

variable {w k : Nat}

theorem coeff_word (v : BitVec w) (i : Nat) : (word v).coeff i = coefficient (v.getLsbD i) := by
  rw [word, coeff_poly, bitsOf, List.reverse_reverse]
  by_cases inside : i < w
  · simp [inside]
  · rw [List.getD_eq_default _ _ (by simpa using inside), BitVec.getLsbD_of_ge v i (by omega)]

theorem degree_word_lt (v : BitVec w) : (word v).degree < w := by
  have lower := degree_poly_lt (bitsOf v)
  rwa [length_bitsOf] at lower

theorem word_injective : Function.Injective (word (w := w)) := by
  intro v u same
  refine BitVec.eq_of_getLsbD_eq fun i _ => coefficient_injective ?_
  rw [← coeff_word, same, coeff_word]

@[simp] theorem word_zero : word (0 : BitVec w) = 0 := by
  ext i
  simp [coeff_word, coefficient]

@[simp] theorem word_xor (v u : BitVec w) : word (v ^^^ u) = word v + word u := by
  ext i
  rw [coeff_word, BitVec.getLsbD_xor, coefficient_xor, coeff_add, coeff_word, coeff_word]

/-- A narrow word at the top of a wide one. -/
theorem word_atTop (v : BitVec k) (narrow : k ≤ w)
    : word (v.setWidth w <<< (w - k)) = X ^ (w - k) * word v := by
  ext i
  rw [coeff_word, coeff_X_pow_mul', coeff_word, BitVec.getLsbD_shiftLeft, BitVec.getLsbD_setWidth]
  by_cases inside : i < w
  · by_cases high : w - k ≤ i
    · have place : i - (w - k) < w := by omega
      simp [inside, high, Nat.not_lt.mpr high, place]
    · simp [inside, high, Nat.lt_of_not_le high, coefficient]
  · rw [BitVec.getLsbD_of_ge v _ (by omega)]
    simp [inside, coefficient]

/-- The top of a word, and what a shift leaves of it. -/
theorem word_shiftLeft (v : BitVec w) (narrow : k ≤ w)
    : word (v <<< k) + X ^ w * word ((v >>> (w - k)).setWidth k) = X ^ k * word v := by
  ext i
  rw [coeff_add, coeff_word, coeff_X_pow_mul', coeff_X_pow_mul', coeff_word, coeff_word,
    BitVec.getLsbD_shiftLeft, BitVec.getLsbD_setWidth, BitVec.getLsbD_ushiftRight]
  by_cases inside : i < w
  · by_cases low : k ≤ i
    · simp [inside, Nat.not_le.mpr inside, low, Nat.not_lt.mpr low]
    · simp [Nat.not_le.mpr inside, low, Nat.lt_of_not_le low, coefficient]
  · have wide : w ≤ i := Nat.not_lt.mp inside
    by_cases top : i - w < k
    · have place : w - k + (i - w) = i - k := by omega
      simp [wide, narrow.trans wide, top, place, coefficient]
    · rw [BitVec.getLsbD_of_ge v (i - k) (by omega)]
      simp [wide, narrow.trans wide, top, coefficient]

-----------------------------------------------------------------------------------------
-- The shift register
-----------------------------------------------------------------------------------------

/-- One bit of the division by `X ^ w + tail`. -/
def divide (tail r : BitVec w) : BitVec w := if r.msb then (r <<< 1) ^^^ tail else r <<< 1

/-- A symbol of `k` bits is brought into the register and divided bit by bit. -/
def absorb (tail r : BitVec w) (symbol : BitVec k) : BitVec w :=
  (divide tail)^[k] (r ^^^ (symbol.setWidth w <<< (w - k)))

/-- What a table contains for a symbol. -/
def entry (tail : BitVec w) (symbol : BitVec k) : BitVec w :=
  (divide tail)^[k] (symbol.setWidth w <<< (w - k))

/-- A symbol is brought into the register with one look into the table. -/
def absorbByTable (tail r : BitVec w) (symbol : BitVec k) : BitVec w :=
  entry tail (symbol ^^^ (r >>> (w - k)).setWidth k) ^^^ (r <<< k)

/-- The bits of a message. -/
def bitsOfMessage (message : List (BitVec k)) : List Bool := message.flatMap bitsOf

@[simp] theorem length_bitsOfMessage (message : List (BitVec k))
    : (bitsOfMessage message).length = message.length * k := by
  simp [bitsOfMessage, List.length_flatMap]

/-- What the register divides by. -/
noncomputable def generator (tail : BitVec w) : (ZMod 2)[X] := X ^ w + word tail

theorem generator_monic (tail : BitVec w) : (generator tail).Monic :=
  monic_X_pow_add (degree_word_lt tail)

theorem degree_generator (tail : BitVec w) : (generator tail).degree = w := by
  have lower : (word tail).degree < (X ^ w : (ZMod 2)[X]).degree := by
    rw [degree_X_pow]
    exact degree_word_lt tail
  rw [generator, degree_add_eq_left_of_degree_lt lower, degree_X_pow]

/-- What a polynomial is modulo the generator. -/
noncomputable def residue (tail : BitVec w) : (ZMod 2)[X] →+* AdjoinRoot (generator tail) :=
  AdjoinRoot.mk (generator tail)

theorem residue_eq_iff {tail : BitVec w} {p q : (ZMod 2)[X]}
    : residue tail p = residue tail q ↔ generator tail ∣ p + q := by
  rw [residue, AdjoinRoot.mk_eq_mk, CharTwo.sub_eq_add]

/-- A register is known by its residue. -/
theorem residue_word_injective (tail : BitVec w) {v u : BitVec w}
    (same : residue tail (word v) = residue tail (word u))
    : v = u := by
  rw [residue_eq_iff, ← word_xor] at same
  have vanishes : word (v ^^^ u) = 0 :=
    eq_zero_of_dvd_of_degree_lt same (by rw [degree_generator]; exact degree_word_lt _)
  exact BitVec.xor_eq_zero_iff.mp (word_injective (vanishes.trans word_zero.symm))

section Register

variable (positive : 0 < w)

include positive

/-- One bit of the division takes off the generator if the highest bit is set. -/
theorem word_divide (tail r : BitVec w)
    : word (divide tail r) + C (coefficient r.msb) * generator tail = X * word r := by
  have shifted := word_shiftLeft r positive
  have top : word ((r >>> (w - 1)).setWidth 1) = C (coefficient r.msb) := by
    ext i
    rw [coeff_word, BitVec.getLsbD_setWidth, BitVec.getLsbD_ushiftRight, coeff_C,
      BitVec.msb_eq_getLsbD_last]
    cases i <;> simp [coefficient]
  rw [top, pow_one] at shifted
  rw [← shifted, divide]
  cases r.msb with
  | false => simp [coefficient]
  | true =>
      have twice : word tail + word tail = 0 := CharTwo.add_self_eq_zero _
      rw [if_pos rfl, word_xor, generator]
      simp only [coefficient, if_true, C_1, one_mul]
      linear_combination twice

theorem residue_divide (tail r : BitVec w)
    : residue tail (word (divide tail r)) = residue tail (X * word r) := by
  rw [← word_divide positive tail r, map_add, map_mul]
  simp [residue]

theorem residue_iterate (tail r : BitVec w) (n : Nat)
    : residue tail (word ((divide tail)^[n] r)) = residue tail (X ^ n * word r) := by
  induction n with
  | zero => simp
  | succ n ih =>
      rw [Function.iterate_succ_apply', residue_divide positive, map_mul, ih, ← map_mul,
        ← mul_assoc, ← pow_succ']

variable (narrow : k ≤ w)

include narrow

/-- What a symbol does to the register. -/
theorem residue_absorb (tail r : BitVec w) (symbol : BitVec k)
    : residue tail (word (absorb tail r symbol))
      = residue tail (X ^ k * word r + X ^ w * word symbol) := by
  rw [absorb, residue_iterate positive, word_xor, word_atTop symbol narrow, mul_add, ← mul_assoc,
    ← pow_add, Nat.add_sub_cancel' narrow]

/-- The table does the same. -/
theorem absorbByTable_eq (tail r : BitVec w) (symbol : BitVec k)
    : absorbByTable tail r symbol = absorb tail r symbol := by
  refine residue_word_injective tail ?_
  rw [residue_absorb positive narrow, absorbByTable, word_xor, map_add, entry,
    residue_iterate positive, word_atTop _ narrow, word_xor, ← map_add, ← word_shiftLeft r narrow,
    ← mul_assoc, ← pow_add, Nat.add_sub_cancel' narrow]
  congr 1
  ring

/-- What a message leaves in the register. -/
theorem residue_foldl (tail : BitVec w) (message : List (BitVec k)) (start : BitVec w)
    : residue tail (word (message.foldl (absorb tail) start))
      = residue tail
        (X ^ (message.length * k) * word start + X ^ w * poly (bitsOfMessage message)) := by
  induction message generalizing start with
  | nil => simp [bitsOfMessage, poly]
  | cons symbol rest ih =>
      have bits : bitsOfMessage (symbol :: rest) = bitsOf symbol ++ bitsOfMessage rest := rfl
      have first := residue_absorb positive narrow tail start symbol
      rw [List.foldl_cons, ih, map_add, map_mul, first, ← map_mul, ← map_add, bits, poly_append,
        length_bitsOfMessage, ← word, List.length_cons, Nat.succ_mul, pow_add]
      congr 1
      ring

/-- The check of a message is the remainder of the message behind its start. -/
theorem word_foldl (tail : BitVec w) (message : List (BitVec k)) (start : BitVec w)
    : word (message.foldl (absorb tail) start)
      = (X ^ (message.length * k) * word start + X ^ w * poly (bitsOfMessage message))
        %ₘ generator tail := by
  have divides := residue_eq_iff.mp (residue_foldl positive narrow tail message start)
  rw [← CharTwo.sub_eq_add] at divides
  rw [← modByMonic_eq_of_dvd_sub (generator_monic tail) divides, eq_comm,
    modByMonic_eq_self_iff (generator_monic tail), degree_generator]
  exact degree_word_lt _

/-- Two messages of one length have the same checks only if the generator divides what they
and their checks differ in.
-/
theorem generator_dvd_errors {tail start check check' : BitVec w}
    {message message' : List (BitVec k)} (same : message.length = message'.length)
    (checked : message.foldl (absorb tail) start = check)
    (checked' : message'.foldl (absorb tail) start = check')
    : generator tail
      ∣ poly (List.zipWith xor (bitsOfMessage message ++ bitsOf check)
        (bitsOfMessage message' ++ bitsOf check')) := by
  have first := residue_foldl positive narrow tail message start
  have second := residue_foldl positive narrow tail message' start
  rw [checked, residue_eq_iff] at first
  rw [checked', residue_eq_iff, ← same] at second
  rw [poly_zipWith_xor (by simp [same]), poly_append, poly_append, length_bitsOf, length_bitsOf,
    ← word, ← word]
  have twice : X ^ (message.length * k) * word start + X ^ (message.length * k) * word start = 0 :=
    CharTwo.add_self_eq_zero _
  have difference := dvd_add first second
  convert difference using 1
  linear_combination -twice

/-- Two messages of one length whose difference the generator divides have the same checks. -/
theorem foldl_eq_of_dvd {tail start : BitVec w} {message message' : List (BitVec k)}
    (same : message.length = message'.length)
    (dvd : generator tail
      ∣ poly (List.zipWith xor (bitsOfMessage message) (bitsOfMessage message')))
    : message.foldl (absorb tail) start = message'.foldl (absorb tail) start := by
  rw [poly_zipWith_xor (by simp [same]), ← residue_eq_iff] at dvd
  refine residue_word_injective tail ?_
  rw [residue_foldl positive narrow, residue_foldl positive narrow, same, map_add,
    map_mul (residue tail) (X ^ w), dvd, ← map_mul, ← map_add]

end Register

-----------------------------------------------------------------------------------------
-- What a generator does not divide
-----------------------------------------------------------------------------------------

/-- The product of two words modulo the generator. -/
def times (tail u v : BitVec w) : BitVec w :=
  (bitsOf u).foldl (fun r bit => if bit then divide tail r ^^^ v else divide tail r) 0

/-- A power of `X` modulo the generator, with `fuel` halvings of the exponent. -/
def power (tail : BitVec w) : Nat → Nat → BitVec w
  | 0, _ => 1
  | fuel + 1, n =>
      let half := power tail fuel (n / 2)
      let square := times tail half half
      if n % 2 = 1 then divide tail square else square

/-- Words that differ in no bit are the same. -/
theorem eq_of_count_xor_eq_zero {v u : BitVec w}
    (clean : (List.zipWith xor (bitsOf v) (bitsOf u)).count true = 0)
    : v = u := by
  rw [← card_support_poly, card_support_eq_zero, poly_zipWith_xor (by simp)] at clean
  exact word_injective (CharTwo.add_eq_zero.mp clean)

/-- The set bits lie together in `n` bits. -/
def Burst (n : Nat) (bits : List Bool) : Prop :=
  ∃ start, ∀ i, bits.getD i false = true → start ≤ i ∧ i < start + n

/-- The generator of a code that is worth its bits: it has a constant term and an even number
of terms, and `X` has the given order modulo it.
-/
structure Generates (tail : BitVec w) (order : Nat) : Prop where
  positive : 0 < w
  constant : tail.getLsbD 0 = true
  even : Even (1 + (bitsOf tail).count true)
  order : orderOf (AdjoinRoot.root (generator tail)) = order

theorem residue_times (positive : 0 < w) (tail u v : BitVec w)
    : residue tail (word (times tail u v)) = residue tail (word u * word v) := by
  have general (bits : List Bool) (r : BitVec w)
      : residue tail (word (bits.foldl
          (fun r bit => if bit then divide tail r ^^^ v else divide tail r) r))
        = residue tail (X ^ bits.length * word r + poly bits * word v) := by
    induction bits generalizing r with
    | nil => simp [poly]
    | cons bit rest ih =>
        have next : residue tail (word (if bit then divide tail r ^^^ v else divide tail r))
            = residue tail (X * word r + C (coefficient bit) * word v) := by
          cases bit with
          | false => simpa [coefficient] using residue_divide positive tail r
          | true => simp [coefficient, residue_divide positive tail r]
        rw [List.foldl_cons, ih, map_add, map_mul, next, ← map_mul, ← map_add, poly,
          List.length_cons]
        congr 1
        ring
  rw [times, general, word_zero, mul_zero, zero_add, ← word]

theorem word_one (positive : 0 < w) : word (1 : BitVec w) = 1 := by
  ext i
  rw [coeff_word, coeff_one, show (1 : BitVec w) = 1#w from rfl, BitVec.getLsbD_one]
  cases i <;> simp [coefficient, positive]

theorem residue_power (positive : 0 < w) (tail : BitVec w) {fuel n : Nat} (enough : n < 2 ^ fuel)
    : residue tail (word (power tail fuel n)) = residue tail (X ^ n) := by
  induction fuel generalizing n with
  | zero =>
      obtain rfl : n = 0 := by simpa using enough
      rw [power, word_one positive, pow_zero]
  | succ fuel ih =>
      have half := ih (n := n / 2) (by rw [Nat.pow_succ] at enough; omega)
      have square : residue tail
            (word (times tail (power tail fuel (n / 2)) (power tail fuel (n / 2))))
          = residue tail (X ^ (2 * (n / 2))) := by
        rw [residue_times positive, map_mul, half, ← map_mul, ← pow_add, two_mul]
      rw [power]
      split_ifs with odd
      · rw [residue_divide positive, map_mul, square, ← map_mul, ← pow_succ']
        congr 2
        omega
      · rw [square]
        congr 2
        omega

/-- A power of `X` is one modulo the generator if it is computed so. -/
theorem root_pow_eq_one_iff (positive : 0 < w) (tail : BitVec w) {fuel n : Nat}
    (enough : n < 2 ^ fuel)
    : AdjoinRoot.root (generator tail) ^ n = 1 ↔ power tail fuel n = 1 := by
  have computed := residue_power positive tail enough
  have root : residue tail (X ^ n) = AdjoinRoot.root (generator tail) ^ n := by simp [residue]
  rw [root] at computed
  rw [← computed]
  constructor
  · intro one
    refine residue_word_injective tail ?_
    rw [one, word_one positive, map_one]
  · intro one
    rw [one, word_one positive, map_one]

theorem Burst.left {n : Nat} {bits more : List Bool} (burst : Burst n (bits ++ more))
    : Burst n bits := by
  obtain ⟨start, together⟩ := burst
  refine ⟨start, fun i set => together i ?_⟩
  have inside : i < bits.length := by
    by_contra beyond
    rw [List.getD_eq_default _ _ (Nat.not_lt.mp beyond)] at set
    cases set
  rw [List.getD_append _ _ _ _ inside, set]

theorem Burst.right {n : Nat} {bits more : List Bool} (burst : Burst n (bits ++ more))
    : Burst n more := by
  obtain ⟨start, together⟩ := burst
  refine ⟨start - bits.length, fun i set => ?_⟩
  have whole : (bits ++ more).getD (bits.length + i) false = true := by
    rw [List.getD_append_right _ _ _ _ (Nat.le_add_right ..), Nat.add_sub_cancel_left, set]
  have := together _ whole
  omega

/-- What has no set bit. -/
theorem getD_of_count_eq_zero {bits : List Bool} (clean : bits.count true = 0) (i : Nat)
    : bits.getD i false = false := by
  by_cases inside : i < bits.length
  · rw [List.getD_eq_getElem _ _ inside]
    by_contra set
    rw [Bool.not_eq_false] at set
    exact List.count_eq_zero.mp clean (set ▸ List.getElem_mem inside)
  · exact List.getD_eq_default _ _ (Nat.not_lt.mp inside)

theorem Burst.append_clean {n : Nat} {bits more : List Bool} (burst : Burst n bits)
    (clean : more.count true = 0)
    : Burst n (bits ++ more) := by
  obtain ⟨start, together⟩ := burst
  refine ⟨start, fun i set => together i ?_⟩
  by_cases inside : i < bits.length
  · rwa [List.getD_append _ _ _ _ inside] at set
  · rw [List.getD_append_right _ _ _ _ (Nat.not_lt.mp inside), getD_of_count_eq_zero clean] at set
    cases set

theorem Burst.clean_append {n : Nat} {bits more : List Bool} (burst : Burst n more)
    (clean : bits.count true = 0)
    : Burst n (bits ++ more) := by
  obtain ⟨start, together⟩ := burst
  refine ⟨bits.length + start, fun i set => ?_⟩
  by_cases inside : i < bits.length
  · rw [List.getD_append _ _ _ _ inside, getD_of_count_eq_zero clean] at set
    cases set
  · rw [List.getD_append_right _ _ _ _ (Nat.not_lt.mp inside)] at set
    have := together _ set
    omega

namespace Generates

variable {tail : BitVec w} {order : Nat} (generates : Generates tail order)

include generates

theorem coeff_zero_generator : (generator tail).coeff 0 = 1 := by
  have positive := generates.positive
  have low : (word tail).coeff 0 = 1 := by
    rw [coeff_word, generates.constant]
    rfl
  rw [generator, coeff_add, low, coeff_X_pow, if_neg (by omega), zero_add]

theorem eval_one_generator : (generator tail).eval 1 = 0 := by
  have terms : (generator tail).eval 1 = ((1 + (bitsOf tail).count true : Nat) : ZMod 2) := by
    rw [generator, eval_add, eval_pow, eval_X, one_pow, word, eval_one_poly, Nat.cast_add,
      Nat.cast_one]
  rw [terms, ZMod.natCast_eq_zero_iff]
  exact generates.even.two_dvd

/-- A power of `X` can be taken off from what the generator divides. -/
theorem dvd_of_dvd_mul_X_pow {p : (ZMod 2)[X]} {n : Nat} (dvd : generator tail ∣ p * X ^ n)
    : generator tail ∣ p := by
  have rest : X ∣ generator tail - 1 := by
    rw [X_dvd_iff, coeff_sub, generates.coeff_zero_generator, coeff_one_zero, sub_self]
  obtain ⟨q, split⟩ := rest
  have coprime : IsCoprime (generator tail) X := ⟨1, -q, by linear_combination split⟩
  exact (coprime.pow_right (n := n)).dvd_of_dvd_mul_right dvd

/-- The generator divides no odd number of powers. -/
theorem even_of_dvd {bits : List Bool} (dvd : generator tail ∣ poly bits)
    : Even (bits.count true) := by
  obtain ⟨q, product⟩ := dvd
  have vanishes : ((bits.count true : Nat) : ZMod 2) = 0 := by
    rw [← eval_one_poly, product, eval_mul, generates.eval_one_generator, zero_mul]
  exact even_iff_two_dvd.mpr ((ZMod.natCast_eq_zero_iff _ _).mp vanishes)

/-- The generator divides no two powers that are nearer than the order of `X`. -/
theorem not_dvd_pair {bits : List Bool} (two : bits.count true = 2) (short : bits.length ≤ order)
    : ¬ generator tail ∣ poly bits := by
  intro dvd
  rw [← card_support_poly] at two
  obtain ⟨i, j, apart, support⟩ := Finset.card_eq_two.mp two
  wlog less : i < j generalizing i j
  · exact this j i apart.symm (support.trans (Finset.pair_comm i j)) (by omega)
  have member : j ∈ (poly bits).support := by rw [support]; simp
  have inside : j < bits.length := by
    have below := (le_degree_of_mem_supp j member).trans_lt (degree_poly_lt bits)
    exact_mod_cast below
  have pair : poly bits = (1 + X ^ (j - i)) * X ^ i := by
    have ones {n : Nat} (there : n ∈ (poly bits).support) : (poly bits).coeff n = 1 := by
      rw [mem_support_iff, coeff_poly, coefficient_ne_zero] at there
      rw [coeff_poly, there]
      rfl
    rw [(poly bits).as_sum_support_C_mul_X_pow, support, Finset.sum_pair apart,
      ones (by rw [support]; simp), ones member, C_1, one_mul, one_mul, add_mul, one_mul, ← pow_add,
      Nat.sub_add_cancel less.le]
  rw [pair] at dvd
  have root : residue tail (X ^ (j - i)) = residue tail 1 := by
    rw [residue_eq_iff, add_comm]
    exact generates.dvd_of_dvd_mul_X_pow dvd
  have one : AdjoinRoot.root (generator tail) ^ (j - i) = 1 := by
    simpa [residue] using root
  have multiple := orderOf_dvd_of_pow_eq_one one
  rw [generates.order] at multiple
  have := Nat.le_of_dvd (by omega) multiple
  omega

/-- Up to three wrong bits are seen if the code word is no longer than the order of `X`. -/
theorem not_dvd_few {bits : List Bool} (wrong : bits.count true ≠ 0)
    (few : bits.count true ≤ 3) (short : bits.length ≤ order)
    : ¬ generator tail ∣ poly bits := by
  intro dvd
  obtain ⟨half, twice⟩ := generates.even_of_dvd dvd
  exact generates.not_dvd_pair (by omega) short dvd

/-- Wrong bits that lie together in as many bits as the register has are seen, however long
the code word is.
-/
theorem not_dvd_burst {bits : List Bool} (wrong : bits.count true ≠ 0) (burst : Burst w bits)
    : ¬ generator tail ∣ poly bits := by
  obtain ⟨start, together⟩ := burst
  have place {i : Nat} (set : (poly bits).coeff i ≠ 0)
      : i < bits.length ∧ start ≤ bits.length - 1 - i ∧ bits.length - 1 - i < start + w := by
    rw [coeff_poly, coefficient_ne_zero] at set
    have inside : i < bits.length := by
      by_contra beyond
      rw [List.getD_eq_default _ _ (by simpa using beyond)] at set
      cases set
    rw [List.getD_reverse _ inside] at set
    exact ⟨inside, together _ set⟩
  have low : X ^ (bits.length - (start + w)) ∣ poly bits := by
    rw [X_pow_dvd_iff]
    intro i below
    by_contra set
    have := place set
    omega
  obtain ⟨q, split⟩ := low
  intro dvd
  rw [split, mul_comm] at dvd
  have zero : q = 0 := by
    refine eq_zero_of_dvd_of_degree_lt (generates.dvd_of_dvd_mul_X_pow dvd) ?_
    rw [degree_generator, degree_lt_iff_coeff_zero]
    intro i beyond
    by_contra set
    have shifted : (poly bits).coeff (i + (bits.length - (start + w))) = q.coeff i := by
      rw [split, mul_comm, coeff_mul_X_pow]
    have := place (shifted ▸ set)
    omega
  rw [zero, mul_zero, ← card_support_eq_zero, card_support_poly] at split
  exact wrong split

end Generates

end CyclicCodes
