/-
Numbers of a fixed width as bytes, the lowest byte first.
-/

import Mathlib.Algebra.Group.Nat.Defs

namespace LittleEndian

def bytes {width : Nat} : Nat → BitVec width → List UInt8
  | 0, _ => []
  | count + 1, value => UInt8.ofBitVec (value.setWidth 8) :: bytes count (value >>> 8)

def value (width : Nat) : List UInt8 → BitVec width
  | [] => 0
  | byte :: rest => byte.toBitVec.setWidth width ||| value width rest <<< 8

@[simp] theorem length_bytes {width : Nat} (count : Nat) (number : BitVec width) :
    (bytes count number).length = count := by
  induction count generalizing number with
  | zero => rfl
  | succ count ih => rw [bytes, List.length_cons, ih]

theorem value_bytes_bit {width : Nat} (count : Nat) (number : BitVec width) (bit : Nat) :
    (value width (bytes count number)).getLsbD bit =
      (decide (bit < 8 * count) && number.getLsbD bit) := by
  induction count generalizing number bit with
  | zero =>
      rw [Nat.mul_zero, decide_eq_false (Nat.not_lt_zero bit), Bool.false_and]
      exact BitVec.getLsbD_zero
  | succ count ih =>
      rw [bytes, value, BitVec.getLsbD_or, BitVec.getLsbD_shiftLeft, ih,
        BitVec.getLsbD_setWidth, BitVec.getLsbD_setWidth, BitVec.getLsbD_ushiftRight]
      by_cases inside : bit < width
      · by_cases low : bit < 8
        · have below : bit < 8 * (count + 1) := by omega
          rw [decide_eq_true low, decide_eq_true inside, decide_eq_true below]
          simp only [Bool.true_and, Bool.not_true, Bool.and_false, Bool.false_and, Bool.or_false]
        · have split : 8 + (bit - 8) = bit := by omega
          have moved : decide (bit - 8 < 8 * count) = decide (bit < 8 * (count + 1)) := by
            rw [decide_eq_decide]
            omega
          rw [decide_eq_false low, decide_eq_true inside, split, moved]
          simp only [Bool.true_and, Bool.not_false, Bool.and_false, Bool.false_and, Bool.false_or]
      · have outside : number.getLsbD bit = false := BitVec.getLsbD_of_ge number bit (by omega)
        rw [decide_eq_false inside, outside]
        simp only [Bool.false_and, Bool.and_false, Bool.or_false]

theorem value_bytes_of_lt {width count : Nat} {number : BitVec width}
    (small : number.toNat < 2 ^ (8 * count)) : value width (bytes count number) = number := by
  apply BitVec.eq_of_getLsbD_eq
  intro bit inside
  rw [value_bytes_bit]
  by_cases below : bit < 8 * count
  · rw [decide_eq_true below, Bool.true_and]
  · have high : number.toNat < 2 ^ bit :=
      Nat.lt_of_lt_of_le small (Nat.pow_le_pow_right (by omega) (by omega))
    rw [decide_eq_false below, Bool.false_and]
    exact (Nat.testBit_lt_two_pow high).symm

theorem value_bytes {width count : Nat} (enough : width ≤ 8 * count) (number : BitVec width) :
    value width (bytes count number) = number :=
  value_bytes_of_lt
    (Nat.lt_of_lt_of_le number.isLt (Nat.pow_le_pow_right (by omega) enough))

end LittleEndian
