import Mathlib.Tactic.NormNum.Prime
import Reconn.Analyzer.RecvPacket
import Reconn.Library.CyclicCodes

/-! The checksums of the analyzer's packets. crc.c computes them in two ways, bit by bit and
with the table of crcInit; both give the remainder modulo `X ^ 16 + X ^ 12 + X ^ 5 + 1`, and
what that polynomial does not divide is seen.
-/

namespace Reconn.Analyzer

open CyclicCodes Polynomial

/-- crcSlow -/
def crcSlow (message : List UInt8) : UInt16 :=
  message.foldl
    (fun remainder byte => divideBit^[8] (remainder ^^^ (byte.toUInt16 <<< (8 : UInt16))))
    initialRemainder

/-- The polynomial of crc.h, below its highest power. -/
def tail : BitVec 16 := polynomial.toBitVec

/-- A message as words of eight bits. -/
def symbols (message : List UInt8) : List (BitVec 8) := message.map UInt8.toBitVec

@[simp] theorem length_symbols (message : List UInt8) : (symbols message).length = message.length :=
  List.length_map ..

/-- The bits of a message, as they go over the line. -/
def messageBits (message : List UInt8) : List Bool := bitsOfMessage (symbols message)

@[simp] theorem length_messageBits (message : List UInt8)
    : (messageBits message).length = message.length * 8 := by
  simp [messageBits]

theorem toBitVec_divideBit (remainder : UInt16)
    : (divideBit remainder).toBitVec = divide tail remainder.toBitVec := by
  have top : remainder &&& 0x8000 ≠ 0 ↔ remainder.toBitVec.msb = true := by
    have mask : (0x8000 : UInt16).toBitVec = BitVec.twoPow 16 15 := by decide
    rw [ne_eq, ← UInt16.toBitVec_inj, UInt16.toBitVec_and, mask, BitVec.and_twoPow,
      BitVec.msb_eq_getLsbD_last]
    cases remainder.toBitVec.getLsbD 15 <;> decide
  rw [divideBit, divide]
  by_cases set : remainder &&& 0x8000 ≠ 0
  · rw [if_pos set, if_pos (top.mp set)]
    rfl
  · rw [if_neg set, if_neg fun high => set (top.mpr high)]
    rfl

theorem toBitVec_divideBits (n : Nat) (remainder : UInt16)
    : (divideBit^[n] remainder).toBitVec = (divide tail)^[n] remainder.toBitVec := by
  induction n generalizing remainder with
  | zero => rfl
  | succ n ih =>
      rw [Function.iterate_succ_apply, ih, toBitVec_divideBit, Function.iterate_succ_apply]

/-- One byte of crcSlow brings a symbol into the register. -/
theorem toBitVec_crcSlow (message : List UInt8)
    : (crcSlow message).toBitVec
      = (symbols message).foldl (absorb tail) initialRemainder.toBitVec := by
  rw [crcSlow, symbols, List.foldl_map]
  refine (List.foldl_hom UInt16.toBitVec fun remainder byte => ?_).symm
  rw [toBitVec_divideBits]
  rfl

/-- One byte of crcFast does the same with one look into the table. -/
theorem toBitVec_crcFast (message : List UInt8)
    : (crcFast message).toBitVec
      = (symbols message).foldl (absorb tail) initialRemainder.toBitVec := by
  rw [crcFast, symbols, List.foldl_map]
  refine (List.foldl_hom UInt16.toBitVec fun remainder byte => ?_).symm
  rw [← absorbByTable_eq (by decide) (by decide), absorbByTable, entry, UInt16.toBitVec_xor,
    crcTable, toBitVec_divideBits]
  rfl

/-- The generator of the checksums. -/
theorem generator_tail : generator tail = X ^ 16 + X ^ 12 + X ^ 5 + 1 := by
  have bits : bitsOf tail
      = [false, false, false, true, false, false, false, false, false, false, true, false, false,
        false, false, true] := by
    decide
  rw [generator, CyclicCodes.word, bits]
  simp [poly, coefficient]
  ring

theorem poly_replicate_false (n : Nat) : poly (List.replicate n false) = 0 := by
  rw [← card_support_eq_zero, card_support_poly]
  simp [List.count_replicate]

/-- The two computations agree, and both give the remainder of the message that is followed
by sixteen zeros and has its first sixteen bits inverted.
-/
theorem crc_remainder (message : List UInt8)
    : crcFast message = crcSlow message
      ∧ CyclicCodes.word (crcFast message).toBitVec
        = poly (List.zipWith xor
            (messageBits message ++ List.replicate 16 false)
            (List.replicate 16 true ++ List.replicate (message.length * 8) false))
          %ₘ (X ^ 16 + X ^ 12 + X ^ 5 + 1) := by
  have agree : crcFast message = crcSlow message := by
    rw [← UInt16.toBitVec_inj, toBitVec_crcFast, toBitVec_crcSlow]
  refine ⟨agree, ?_⟩
  have start : CyclicCodes.word initialRemainder.toBitVec = poly (List.replicate 16 true) := by
    rw [CyclicCodes.word, show bitsOf initialRemainder.toBitVec = List.replicate 16 true by decide]
  have inverted : poly (List.zipWith xor
        (messageBits message ++ List.replicate 16 false)
        (List.replicate 16 true ++ List.replicate (message.length * 8) false))
      = X ^ (message.length * 8) * poly (List.replicate 16 true)
        + X ^ 16 * poly (messageBits message) := by
    have lengths : (messageBits message ++ List.replicate 16 false).length
        = (List.replicate 16 true ++ List.replicate (message.length * 8) false).length := by
      rw [List.length_append, List.length_append, length_messageBits, List.length_replicate,
        List.length_replicate, List.length_replicate, Nat.add_comm]
    rw [poly_zipWith_xor lengths, poly_append, poly_append, poly_replicate_false,
      poly_replicate_false, List.length_replicate, List.length_replicate]
    ring
  rw [toBitVec_crcFast, word_foldl (by decide) (by decide), generator_tail, length_symbols, start,
    inverted, messageBits]

-----------------------------------------------------------------------------------------
-- What the checksum sees
-----------------------------------------------------------------------------------------

/-- The polynomial has a constant term and an even number of terms, and `X` has the order
32767 modulo it.
-/
theorem generates_tail : Generates tail 32767 where
  positive := by decide
  constant := by decide
  even := by decide
  order := by
    have computed {n : Nat} (small : n < 2 ^ 15)
        : AdjoinRoot.root (generator tail) ^ n = 1 ↔ power tail 15 n = 1 :=
      root_pow_eq_one_iff (by decide) tail small
    refine orderOf_eq_of_pow_and_pow_div_prime (by decide) ?_ ?_
    · rw [computed (by decide)]
      decide +kernel
    · intro p prime divides
      have factors : 32767 = 7 * 31 * 151 := by decide
      rw [factors, prime.dvd_mul, prime.dvd_mul] at divides
      rcases divides with (seven | thirtyOne) | large
      · obtain rfl := (Nat.prime_dvd_prime_iff_eq prime (by norm_num)).mp seven
        rw [ne_eq, computed (by decide)]
        decide +kernel
      · obtain rfl := (Nat.prime_dvd_prime_iff_eq prime (by norm_num)).mp thirtyOne
        rw [ne_eq, computed (by decide)]
        decide +kernel
      · obtain rfl := (Nat.prime_dvd_prime_iff_eq prime (by norm_num)).mp large
        rw [ne_eq, computed (by decide)]
        decide +kernel

end Reconn.Analyzer
