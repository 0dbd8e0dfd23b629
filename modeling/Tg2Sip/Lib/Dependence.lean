/-
What a loader takes from where.

A loader fills fields from contents that are stored under keys.  It is keyed
when each field is computed from what a single key holds.  Two runs whose
contents agree outside of one key then differ in the fields of that key only,
and whether they differ in more than one field is seen from what the key holds.
-/

import Mathlib.Logic.Function.Basic

namespace Dependence

variable {Key Stored Field Result : Type}

/-- The contents are the same under every other key. -/
def AgreeExcept (key : Key) (first second : Key → Stored) : Prop :=
  ∀ other, other ≠ key → first other = second other

/-- Each field is what it would be if every key held what its own key holds. -/
structure Keyed (load : (Key → Stored) → Field → Result) (keyOf : Field → Key) : Prop where
  loads : ∀ contents field, load contents field = load (fun _ => contents (keyOf field)) field

/-- Some change under the key alone changes the field. -/
def Influences (load : (Key → Stored) → Field → Result) (key : Key) (field : Field) : Prop :=
  ∃ first second, AgreeExcept key first second ∧ load first field ≠ load second field

theorem agreeExcept_update [DecidableEq Key] (contents : Key → Stored) (key : Key)
    (first second : Stored) :
    AgreeExcept key (Function.update contents key first) (Function.update contents key second) := by
  intro other different
  rw [Function.update_of_ne different, Function.update_of_ne different]

section OneKeyEach

variable {load : (Key → Stored) → Field → Result} {keyOf : Field → Key} {key : Key}
  {first second : Key → Stored} {field : Field}

theorem Keyed.key_of_changed (keyed : Keyed load keyOf) (agree : AgreeExcept key first second)
    (changed : load first field ≠ load second field) : keyOf field = key := by
  by_contra different
  apply changed
  rw [keyed.loads first, keyed.loads second, agree _ different]

theorem Keyed.changed_iff (keyed : Keyed load keyOf) (agree : AgreeExcept key first second) :
    load first field ≠ load second field ↔
      keyOf field = key ∧
        load (fun _ => first key) field ≠ load (fun _ => second key) field := by
  constructor
  · intro changed
    have same := keyed.key_of_changed agree changed
    rw [keyed.loads first, keyed.loads second, same] at changed
    exact ⟨same, changed⟩
  · intro telling
    obtain ⟨same, changed⟩ := telling
    rw [keyed.loads first, keyed.loads second, same]
    exact changed

theorem Keyed.influences_iff [DecidableEq Key] (keyed : Keyed load keyOf)
    (contents : Key → Stored) :
    Influences load key field ↔
      keyOf field = key ∧ ∃ one two, load (fun _ => one) field ≠ load (fun _ => two) field := by
  constructor
  · intro influences
    obtain ⟨first, second, agree, changed⟩ := influences
    obtain ⟨same, telling⟩ := (keyed.changed_iff agree).mp changed
    exact ⟨same, _, _, telling⟩
  · intro telling
    obtain ⟨same, one, two, changed⟩ := telling
    have agree := agreeExcept_update contents key one two
    have differs : load (Function.update contents key one) field ≠
        load (Function.update contents key two) field := by
      apply (keyed.changed_iff agree).mpr
      rw [Function.update_self, Function.update_self]
      exact ⟨same, changed⟩
    exact ⟨_, _, agree, differs⟩

end OneKeyEach

end Dependence
