/-
Serial numbers of a fixed width.

A counter of `width` bits wraps, and `follows` compares two of its values
around the wrap.  Of two different values exactly one follows the other.  The
distance from one value to another is the signed number of steps that the
comparison suggests: it leads from the one to the other, and it is never more
than half of the range.
-/

import Mathlib.Algebra.Group.Int.Defs
import Mathlib.Algebra.Group.Nat.Defs

namespace SerialNumber

variable {width : Nat} {first second : BitVec width}

def reach (width : Nat) : Nat := (2 ^ width - 1) / 2

def follows (first second : BitVec width) : Bool :=
  decide (second < first) && decide ((first - second).toNat ≤ reach width) ||
    decide (first < second) && decide (reach width < (second - first).toNat)

theorem follows_of_gt (greater : second < first) :
    follows first second = decide ((first - second).toNat ≤ reach width) := by
  have notLess : ¬first < second := by
    rw [BitVec.lt_def] at greater ⊢
    omega
  rw [follows, decide_eq_true greater, decide_eq_false notLess, Bool.true_and, Bool.false_and,
    Bool.or_false]

theorem follows_of_lt (less : first < second) :
    follows first second = decide (reach width < (second - first).toNat) := by
  have notGreater : ¬second < first := by
    rw [BitVec.lt_def] at less ⊢
    omega
  rw [follows, decide_eq_true less, decide_eq_false notGreater, Bool.true_and, Bool.false_and,
    Bool.false_or]

theorem not_follows_self (value : BitVec width) : follows value value = false := by
  have notLess : ¬value < value := by
    rw [BitVec.lt_def]
    omega
  rw [follows, decide_eq_false notLess, Bool.false_and, Bool.false_and, Bool.false_or]

theorem lt_or_gt_of_ne (different : first ≠ second) : first < second ∨ second < first := by
  rw [BitVec.lt_def, BitVec.lt_def]
  exact Nat.lt_or_gt_of_ne (fun same => different (BitVec.eq_of_toNat_eq same))

theorem ne_of_follows (after : follows first second = true) : first ≠ second := by
  rintro rfl
  rw [not_follows_self] at after
  cases after

/-- Small values are compared as numbers. -/
theorem follows_of_small (firstSmall : first.toNat ≤ reach width)
    (secondSmall : second.toNat ≤ reach width) :
    follows first second = decide (second.toNat < first.toNat) := by
  by_cases same : first = second
  · rw [same, not_follows_self, decide_eq_false (Nat.lt_irrefl _)]
  · rcases lt_or_gt_of_ne same with less | greater
    · have short := BitVec.toNat_sub_of_le (BitVec.le_of_lt less)
      have inOrder := BitVec.lt_def.mp less
      rw [follows_of_lt less, decide_eq_false (by omega), decide_eq_false (by omega)]
    · have short := BitVec.toNat_sub_of_le (BitVec.le_of_lt greater)
      have inOrder := BitVec.lt_def.mp greater
      rw [follows_of_gt greater, decide_eq_true (by omega), decide_eq_true (by omega)]

/-- The steps from the second value to the first. -/
def distance (first second : BitVec width) : Int :=
  if follows first second then ((first - second).toNat : Int)
  else -((second - first).toNat : Int)

theorem distance_of_follows (after : follows first second = true) :
    distance first second = ((first - second).toNat : Int) := by
  rw [distance, if_pos after]

theorem distance_of_not_follows (notAfter : follows first second = false) :
    distance first second = -((second - first).toNat : Int) := by
  rw [distance, notAfter, if_neg Bool.false_ne_true]

theorem distance_pos_iff : 0 < distance first second ↔ follows first second = true := by
  constructor
  · intro positive
    cases after : follows first second with
    | true => rfl
    | false =>
        rw [distance_of_not_follows after] at positive
        omega
  · intro after
    rw [distance_of_follows after]
    have different := ne_of_follows after
    have bound := second.isLt
    rcases lt_or_gt_of_ne different with less | greater
    · rw [BitVec.toNat_sub_of_lt less]
      omega
    · rw [BitVec.toNat_sub_of_le (BitVec.le_of_lt greater)]
      have inOrder := BitVec.lt_def.mp greater
      omega

theorem add_distance (first second : BitVec width) :
    second + BitVec.ofInt width (distance first second) = first := by
  cases after : follows first second with
  | true =>
      rw [distance_of_follows after, BitVec.ofInt_natCast, BitVec.ofNat_toNat,
        BitVec.setWidth_eq, BitVec.add_comm, BitVec.sub_add_cancel]
  | false =>
      rw [distance_of_not_follows after, BitVec.ofInt_neg, BitVec.ofInt_natCast,
        BitVec.ofNat_toNat, BitVec.setWidth_eq]
      grind

theorem distance_bound (first second : BitVec width) :
    2 * (distance first second).natAbs ≤ 2 ^ width := by
  have positive := Nat.two_pow_pos width
  by_cases same : first = second
  · subst same
    rw [distance_of_not_follows (not_follows_self first), BitVec.sub_self]
    simp
  · have middle : reach width = (2 ^ width - 1) / 2 := rfl
    cases after : follows first second with
    | true =>
        rw [distance_of_follows after, Int.natAbs_natCast]
        rcases lt_or_gt_of_ne same with less | greater
        · rw [follows_of_lt less, decide_eq_true_eq] at after
          have inOrder := BitVec.lt_def.mp less
          rw [BitVec.toNat_sub_of_le (BitVec.le_of_lt less)] at after
          rw [BitVec.toNat_sub_of_lt less]
          omega
        · rw [follows_of_gt greater, decide_eq_true_eq] at after
          omega
    | false =>
        rw [distance_of_not_follows after, Int.natAbs_neg, Int.natAbs_natCast]
        rcases lt_or_gt_of_ne same with less | greater
        · rw [follows_of_lt less, decide_eq_false_iff_not] at after
          omega
        · rw [follows_of_gt greater, decide_eq_false_iff_not] at after
          have inOrder := BitVec.lt_def.mp greater
          rw [BitVec.toNat_sub_of_le (BitVec.le_of_lt greater)] at after
          rw [BitVec.toNat_sub_of_lt greater]
          omega

end SerialNumber
