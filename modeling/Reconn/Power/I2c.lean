import Mathlib.Order.Basic
import Reconn.Library.Retries

/-! The registers of an i2c device, as reconn_i2c_read_reg and reconn_i2c_write_reg of
reconn_i2c.c access them: both retry calls that fail.
-/

namespace Reconn.Power

open Retries (SucceedsAt run_of_succeedsAt run_of_refused)

def reconnI2cRetryCount : Nat := 10

/-- What a call of write() or read() returns, and the errno after it, which no call makes
negative.
-/
structure I2cOutcome where
  ret : Int32
  errno : Nat
  deriving DecidableEq, Repr

namespace I2cOutcome

/-- ret == (int) count -/
def transfers (count : UInt32) (o : I2cOutcome) : Bool := o.ret = count.toInt32

/-- ret == -1 -/
def fails (o : I2cOutcome) : Bool := o.ret = -1

/-- errno == -1 -/
def errnoIsMinusOne (o : I2cOutcome) : Bool := (o.errno : Int) = -1

end I2cOutcome

/-- What reconn_i2c_read_reg returns, and how often it has called read(). -/
structure RegisterRead where
  ret : Int32
  reads : Nat
  deriving DecidableEq, Repr

/-- reconn_i2c_read_reg: the loop that writes the register's address tests what write() has
returned, the one that reads the register tests errno.
-/
def reconnI2cReadReg (writes reads : Nat → I2cOutcome) (count : UInt32) : RegisterRead :=
  let address := Retries.run (I2cOutcome.transfers 1) I2cOutcome.fails reconnI2cRetryCount writes
  match address.ended with
  | .exhausted | .refused => ⟨address.outcome.ret, 0⟩
  | .succeeded =>
      if address.left = 0 then ⟨address.outcome.ret, 0⟩
      else
        let data :=
          Retries.run (I2cOutcome.transfers count) I2cOutcome.errnoIsMinusOne reconnI2cRetryCount
            reads
        ⟨data.outcome.ret, reconnI2cRetryCount - data.left + 1⟩

/-- reconn_i2c_write_reg, with whether malloc() succeeds: the address of the register is
written in front of the data.
-/
def reconnI2cWriteReg (allocates : Bool) (writes : Nat → I2cOutcome) (count : UInt32) : Int32 :=
  if allocates = false then -1
  else
    let both := count + 1
    let written :=
      Retries.run (I2cOutcome.transfers both) I2cOutcome.fails reconnI2cRetryCount writes
    match written.ended with
    | .succeeded => written.outcome.ret - 1
    | .exhausted | .refused => written.outcome.ret

/-- The calls transfer so many bytes at one of them, and all before it return -1. -/
structure TransfersAt (outcomes : Nat → I2cOutcome) (count : Nat) (k : Nat) : Prop where
  bytes : (outcomes k).ret.toInt = count
  failures : ∀ j < k, (outcomes j).ret = -1

/-- The register was read, and the number of its bytes is returned. -/
structure RegisterRead.Returns (r : RegisterRead) (count : UInt32) : Prop where
  performed : r.reads ≠ 0
  bytes : r.ret.toInt = count.toNat

/-- A number of bytes, as an int. -/
theorem ret_eq_of_toInt {ret : Int32} {count : UInt32} (bytes : ret.toInt = count.toNat)
    : ret = count.toInt32 := by
  have unsigned : ret.toUInt32.toNat = ret.toBitVec.toNat := rfl
  have signed : ret.toInt = ret.toBitVec.toInt := rfl
  rw [BitVec.toInt_eq_toNat_cond] at signed
  have same : count = ret.toUInt32 := by
    apply UInt32.toNat_inj.mp
    split_ifs at signed <;> omega
  rw [same, Int32.toInt32_toUInt32]

theorem ret_ne_minusOne {ret : Int32} {count : Nat} (bytes : ret.toInt = count) : ret ≠ -1 := by
  rintro rfl
  have negative : (-1 : Int32).toInt = -1 := by decide
  omega

theorem I2cOutcome.errnoIsMinusOne_eq_false (o : I2cOutcome) : o.errnoIsMinusOne = false :=
  decide_eq_false (by omega)

/-- The first transfer, as the loops that test what the call returns look for it. -/
theorem TransfersAt.succeedsAt {outcomes : Nat → I2cOutcome} {count : UInt32} {k : Nat}
    (transfers : TransfersAt outcomes count.toNat k)
    : SucceedsAt (I2cOutcome.transfers count) I2cOutcome.fails outcomes k := by
  have same := ret_eq_of_toInt transfers.bytes
  refine ⟨decide_eq_true same, fun j before => ⟨?_, decide_eq_true (transfers.failures j before)⟩⟩
  refine decide_eq_false fun other => ret_ne_minusOne transfers.bytes ?_
  rw [same, ← other, transfers.failures j before]

/-- Where the register's address is written at one of the attempts, and the register is read
at one of them, reconn_i2c_read_reg reads it exactly if the address is written before the last
attempt, and the register is read at the first.
-/
theorem reconnI2cReadReg_returns_iff {writes reads : Nat → I2cOutcome} {count : UInt32}
    {k m : Nat} (written : TransfersAt writes 1 k) (withinWrites : k ≤ reconnI2cRetryCount)
    (read : TransfersAt reads count.toNat m) (withinReads : m ≤ reconnI2cRetryCount)
    : (reconnI2cReadReg writes reads count).Returns count
      ↔ k < reconnI2cRetryCount ∧ m = 0 := by
  have address := run_of_succeedsAt (@TransfersAt.succeedsAt writes 1 k written) withinWrites
  unfold reconnI2cReadReg
  rw [address]
  dsimp only
  by_cases last : reconnI2cRetryCount - k = 0
  · rw [if_pos last]
    exact iff_of_false (fun returns => returns.performed rfl) (by omega)
  · rw [if_neg last, and_iff_right (by omega)]
    cases m with
    | zero =>
        have first : SucceedsAt (I2cOutcome.transfers count) I2cOutcome.errnoIsMinusOne reads 0 :=
          ⟨read.succeedsAt.success, by omega⟩
        have data := run_of_succeedsAt first withinReads
        rw [data]
        exact iff_of_true ⟨by simp, read.bytes⟩ rfl
    | succ m =>
        -- errno is never -1, so the first read that fails is the last one.
        have first := read.failures 0 m.succ_pos
        have refuses := I2cOutcome.errnoIsMinusOne_eq_false (reads 0)
        have data := @run_of_refused _ _ _ reads 9
          (read.succeedsAt.failures 0 m.succ_pos).1 refuses
        unfold reconnI2cRetryCount
        rw [data]
        refine iff_of_false (fun returns => ret_ne_minusOne returns.bytes first) (by omega)

/-- The address is written at the fourth attempt, and the register is read at the first. -/
theorem reconnI2cReadReg_returns_fourth
    : (reconnI2cReadReg (fun i => if i = 3 then ⟨1, 5⟩ else ⟨-1, 5⟩) (fun _ => ⟨2, 5⟩) 2).Returns
        2 := by
  refine (reconnI2cReadReg_returns_iff (k := 3) (m := 0) ⟨by decide, ?_⟩ (by decide)
    ⟨by decide, by omega⟩ (by decide)).mpr ⟨by decide, rfl⟩
  intro j before
  rw [if_neg (by omega)]

/-- A read that fails once is not retried. -/
theorem reconnI2cReadReg_once
    : ¬ ∀ (writes reads : Nat → I2cOutcome) (count : UInt32) (k m : Nat),
        TransfersAt writes 1 k → k ≤ reconnI2cRetryCount
          → TransfersAt reads count.toNat m → m ≤ reconnI2cRetryCount
          → (reconnI2cReadReg writes reads count).Returns count := by
  intro returns
  have read : TransfersAt (fun i => if i = 0 then ⟨-1, 5⟩ else ⟨2, 5⟩) (2 : UInt32).toNat 1 := by
    refine ⟨by decide, fun j before => ?_⟩
    obtain rfl : j = 0 := by omega
    rfl
  have bytes := (returns (fun _ => ⟨1, 0⟩) _ 2 0 1 ⟨by decide, by omega⟩ (by decide) read
    (by decide)).bytes
  exact absurd bytes (by decide)

/-- The sibling retries as it should: where the data are written at one of the attempts,
reconn_i2c_write_reg returns their number.
-/
theorem reconnI2cWriteReg_returns {writes : Nat → I2cOutcome} {count : UInt32} {k : Nat}
    (written : TransfersAt writes (count.toNat + 1) k) (within : k ≤ reconnI2cRetryCount)
    : (reconnI2cWriteReg true writes count).toInt = count.toNat := by
  have int32 := (writes k).ret.toInt_lt
  have bytes := written.bytes
  have both : (count + 1).toNat = count.toNat + 1 := by
    rw [UInt32.toNat_add]
    have one : (1 : UInt32).toNat = 1 := rfl
    omega
  rw [← both] at written
  unfold reconnI2cWriteReg
  rw [if_neg (by decide)]
  dsimp only
  rw [run_of_succeedsAt written.succeedsAt within]
  have one : (1 : Int32).toInt = 1 := rfl
  dsimp only
  rw [Int32.toInt_sub, one, bytes, Int.bmod_eq_of_le] <;> omega

end Reconn.Power
