/-
The first match in an order that is not fixed.

A search that goes through a collection in any order and stops at the first
match can stop at every match, and at nothing else.  What is computed from the
match is determined exactly when all matches have the same answer.
-/

import Mathlib.Data.List.Basic

namespace Enumeration

variable {Item Answer : Type} {items order : List Item} {admits : Item → Bool}

theorem exists_first {item : Item} (member : item ∈ items) (admitted : admits item = true) :
    ∃ order : List Item, order.Perm items ∧ order.find? admits = some item := by
  obtain ⟨before, after, shape⟩ := List.append_of_mem member
  refine ⟨item :: (before ++ after), ?_, List.find?_cons_of_pos admitted⟩
  rw [shape]
  exact List.perm_middle.symm

theorem mem_of_first {item : Item} (permuted : order.Perm items)
    (found : order.find? admits = some item) : item ∈ items ∧ admits item = true :=
  ⟨permuted.mem_iff.mp (List.mem_of_find?_eq_some found), List.find?_some found⟩

theorem first_eq_none_iff (permuted : order.Perm items) :
    order.find? admits = none ↔ ∀ item ∈ items, admits item = false := by
  rw [List.find?_eq_none]
  constructor
  · intro missing item member
    exact Bool.eq_false_iff.mpr (missing item (permuted.mem_iff.mpr member))
  · intro missing item member
    exact Bool.eq_false_iff.mp (missing item (permuted.mem_iff.mp member))

/-- The answer is the same in all orders exactly when all matches agree on it. -/
theorem answers_agree_iff {answer : Item → Option Answer} :
    (∀ first second : List Item, first.Perm items → second.Perm items →
        (first.find? admits).bind answer = (second.find? admits).bind answer) ↔
      ∀ item other, item ∈ items → admits item = true → other ∈ items → admits other = true →
        answer item = answer other := by
  constructor
  · intro agree item other member admitted otherMember otherAdmitted
    obtain ⟨first, firstPerm, firstFound⟩ := exists_first member admitted
    obtain ⟨second, secondPerm, secondFound⟩ := exists_first otherMember otherAdmitted
    have same := agree first second firstPerm secondPerm
    rw [firstFound, secondFound, Option.bind_some, Option.bind_some] at same
    exact same
  · intro agree first second firstPerm secondPerm
    cases firstFound : first.find? admits with
    | none =>
        have missing := (first_eq_none_iff firstPerm).mp firstFound
        rw [(first_eq_none_iff secondPerm).mpr missing]
    | some item =>
        cases secondFound : second.find? admits with
        | none =>
            have missing := (first_eq_none_iff secondPerm).mp secondFound
            rw [(first_eq_none_iff firstPerm).mpr missing] at firstFound
            cases firstFound
        | some other =>
            obtain ⟨member, admitted⟩ := mem_of_first firstPerm firstFound
            obtain ⟨otherMember, otherAdmitted⟩ := mem_of_first secondPerm secondFound
            exact agree item other member admitted otherMember otherAdmitted

end Enumeration
