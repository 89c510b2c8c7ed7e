import Mathlib.Data.Nat.Bitwise
import Mathlib.Tactic.Ring

/-!
# Numbers as strings of bits

The lowest bits of a number, the highest of them first, and the number that such bits are.
Bits of a number are those of its quotient by a power of two, and then those of its remainder.
-/

namespace BitStrings

/-- The lowest `width` bits of a number. -/
def bitsOf : Nat → Nat → List Bool
  | 0, _ => []
  | width + 1, number => number.testBit width :: bitsOf width number

def numberOf (bits : List Bool) : Nat := bits.foldl (fun number bit => 2 * number + bit.toNat) 0

variable {width number : Nat}

@[simp] theorem length_bitsOf (width number : Nat) : (bitsOf width number).length = width := by
  induction width with
  | zero => rfl
  | succ width ih => rw [bitsOf, List.length_cons, ih]

/-- Only the lowest bits count. -/
theorem bitsOf_congr {other : Nat}
    (same : ∀ index < width, number.testBit index = other.testBit index) :
    bitsOf width number = bitsOf width other := by
  induction width with
  | zero => rfl
  | succ width ih =>
    rw [bitsOf, bitsOf, same width (Nat.lt_succ_self width),
      ih fun index below => same index (Nat.lt_succ_of_lt below)]

/-- The bits above the lowest and the lowest. -/
theorem bitsOf_add (high low number : Nat) :
    bitsOf (high + low) number = bitsOf high (number >>> low) ++ bitsOf low number := by
  induction high with
  | zero => rw [Nat.zero_add, bitsOf, List.nil_append]
  | succ high ih =>
    rw [Nat.succ_add, bitsOf, bitsOf, ih, Nat.testBit_shiftRight, Nat.add_comm low high]
    rfl

theorem foldl_bits (bits : List Bool) (start : Nat) :
    bits.foldl (fun number bit => 2 * number + bit.toNat) start =
      start * 2 ^ bits.length + numberOf bits := by
  induction bits generalizing start with
  | nil => simp [numberOf]
  | cons bit rest ih =>
    rw [numberOf, List.foldl_cons, List.foldl_cons, ih, ih (2 * 0 + bit.toNat), List.length_cons,
      Nat.pow_succ]
    ring

theorem numberOf_cons (bit : Bool) (rest : List Bool) :
    numberOf (bit :: rest) = bit.toNat * 2 ^ rest.length + numberOf rest := by
  rw [numberOf, List.foldl_cons, foldl_bits, Nat.mul_zero, Nat.zero_add]

theorem numberOf_lt (bits : List Bool) : numberOf bits < 2 ^ bits.length := by
  induction bits with
  | nil => exact Nat.one_pos
  | cons bit rest ih =>
    rw [numberOf_cons, List.length_cons, Nat.pow_succ]
    cases bit
    · rw [Bool.toNat_false, Nat.zero_mul]
      omega
    · rw [Bool.toNat_true, Nat.one_mul]
      omega

theorem numberOf_bitsOf (width number : Nat) :
    numberOf (bitsOf width number) = number % 2 ^ width := by
  induction width with
  | zero =>
    rw [Nat.pow_zero, Nat.mod_one]
    rfl
  | succ width ih =>
    rw [bitsOf, numberOf_cons, length_bitsOf, ih, Nat.mod_pow_succ, Nat.toNat_testBit]
    ring

theorem bitsOf_numberOf (bits : List Bool) : bitsOf bits.length (numberOf bits) = bits := by
  induction bits with
  | nil => rfl
  | cons bit rest ih =>
    have tested (index : Nat) : (numberOf (bit :: rest)).testBit index =
        if index < rest.length then (numberOf rest).testBit index
        else bit.toNat.testBit (index - rest.length) := by
      rw [numberOf_cons, Nat.mul_comm]
      exact Nat.testBit_two_pow_mul_add bit.toNat (numberOf_lt rest) index
    rw [List.length_cons, bitsOf, tested, if_neg (Nat.lt_irrefl _), Nat.sub_self]
    congr 1
    · cases bit <;> rfl
    · refine (bitsOf_congr fun index inside => ?_).trans ih
      rw [tested, if_pos inside]

/-- What is shifted into a word stands behind the bits of the word that stay inside it. -/
theorem bitsOf_shiftLeft_or {size : Nat} (word : BitVec size) (shift : Nat) {low : Nat}
    (small : low < 2 ^ shift) (inside : width + shift ≤ size) :
    bitsOf (width + shift) (word <<< shift ||| BitVec.ofNat size low).toNat =
      bitsOf width word.toNat ++ bitsOf shift low := by
  rw [bitsOf_add]
  congr 1
  · refine bitsOf_congr fun index below => ?_
    have high : low.testBit (shift + index) = false :=
      Nat.testBit_lt_two_pow (small.trans_le (Nat.pow_le_pow_right Nat.two_pos (by omega)))
    rw [Nat.testBit_shiftRight, BitVec.testBit_toNat, BitVec.testBit_toNat, BitVec.getLsbD_or,
      BitVec.getLsbD_shiftLeft, BitVec.getLsbD_ofNat, high, Nat.add_sub_cancel_left]
    have fits : shift + index < size := by omega
    have above : ¬ shift + index < shift := by omega
    simp [fits, above]
  · refine bitsOf_congr fun index below => ?_
    have fits : index < size := by omega
    rw [BitVec.testBit_toNat, BitVec.getLsbD_or, BitVec.getLsbD_shiftLeft, BitVec.getLsbD_ofNat]
    simp [fits, below]

theorem bitsOf_zero (width : Nat) : bitsOf width 0 = List.replicate width false := by
  induction width with
  | zero => rfl
  | succ width ih => rw [bitsOf, Nat.zero_testBit, ih, List.replicate_succ]

end BitStrings
