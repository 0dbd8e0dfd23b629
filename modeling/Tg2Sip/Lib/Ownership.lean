/-
Slots that own items.

A fixed set of items is handed out to slots.  An item is used exactly when one
slot holds it.  When there are no more slots than items, an empty slot can
always be given an item.
-/

import Mathlib.Data.Fintype.Card

namespace Ownership

variable {Slot Item : Type}

/-- The used items are the ones that are held, each by one slot. -/
structure Owned (used : Item → Prop) (holds : Slot → Option Item) : Prop where
  inUse : ∀ slot item, holds slot = some item → used item
  held : ∀ item, used item → ∃ slot, holds slot = some item
  once : ∀ first second item, holds first = some item → holds second = some item →
    first = second

variable {used : Item → Prop} {holds : Slot → Option Item}

theorem Owned.none : Owned (fun _ : Item => False) (fun _ : Slot => Option.none) where
  inUse _ _ impossible := by cases impossible
  held _ impossible := impossible.elim
  once _ _ _ impossible := by cases impossible

section Update

variable [DecidableEq Slot] {slot : Slot} {item : Item}

theorem Owned.release (owned : Owned used holds) (holding : holds slot = some item) :
    Owned (fun other => used other ∧ other ≠ item) (Function.update holds slot Option.none) := by
  have elsewhere : ∀ other rest, Function.update holds slot Option.none other = some rest →
      other ≠ slot ∧ holds other = some rest := by
    intro other rest held
    by_cases same : other = slot
    · rw [same, Function.update_self] at held
      cases held
    · rw [Function.update_of_ne same] at held
      exact ⟨same, held⟩
  constructor
  · intro other rest held
    obtain ⟨different, before⟩ := elsewhere other rest held
    refine ⟨owned.inUse other rest before, ?_⟩
    rintro rfl
    exact different (owned.once other slot rest before holding)
  · intro rest stillUsed
    obtain ⟨other, before⟩ := owned.held rest stillUsed.1
    refine ⟨other, ?_⟩
    rw [Function.update_of_ne]
    · exact before
    · rintro rfl
      rw [holding] at before
      exact stillUsed.2 (Option.some.inj before).symm
  · intro first second rest held held'
    exact owned.once first second rest (elsewhere first rest held).2 (elsewhere second rest held').2

theorem Owned.take (owned : Owned used holds) (vacant : holds slot = Option.none)
    (free : ¬used item) :
    Owned (fun other => used other ∨ other = item) (Function.update holds slot (some item)) := by
  have cases : ∀ other rest, Function.update holds slot (some item) other = some rest →
      other = slot ∧ rest = item ∨ other ≠ slot ∧ holds other = some rest := by
    intro other rest held
    by_cases same : other = slot
    · rw [same, Function.update_self] at held
      exact .inl ⟨same, (Option.some.inj held).symm⟩
    · rw [Function.update_of_ne same] at held
      exact .inr ⟨same, held⟩
  constructor
  · intro other rest held
    rcases cases other rest held with ⟨_, same⟩ | ⟨_, before⟩
    · exact .inr same
    · exact .inl (owned.inUse other rest before)
  · intro rest nowUsed
    rcases nowUsed with before | rfl
    · obtain ⟨other, held⟩ := owned.held rest before
      refine ⟨other, ?_⟩
      rw [Function.update_of_ne]
      · exact held
      · rintro rfl
        rw [vacant] at held
        cases held
    · exact ⟨slot, Function.update_self ..⟩
  · intro first second rest held held'
    rcases cases first rest held with ⟨atFirst, same⟩ | ⟨_, before⟩
    · rcases cases second rest held' with ⟨atSecond, _⟩ | ⟨_, before'⟩
      · rw [atFirst, atSecond]
      · rw [same] at before'
        exact absurd (owned.inUse second item before') free
    · rcases cases second rest held' with ⟨_, same⟩ | ⟨_, before'⟩
      · rw [same] at before
        exact absurd (owned.inUse first item before) free
      · exact owned.once first second rest before before'

end Update

theorem Owned.exists_free [Fintype Slot] [Fintype Item] (owned : Owned used holds)
    (enough : Fintype.card Slot ≤ Fintype.card Item) {slot : Slot}
    (vacant : holds slot = Option.none) : ∃ item, ¬used item := by
  by_contra allUsed
  have everyUsed : ∀ item, used item := fun item => not_not.mp (not_exists.mp allUsed item)
  choose owner owns using fun item => owned.held item (everyUsed item)
  have injective : Function.Injective owner := by
    intro first second same
    have firstOwned := owns first
    rw [same, owns second] at firstOwned
    exact (Option.some.inj firstOwned).symm
  have missed : slot ∉ Set.range owner := by
    rintro ⟨item, rfl⟩
    rw [owns item] at vacant
    cases vacant
  have fewer := Fintype.card_lt_of_injective_of_notMem owner injective missed
  omega

end Ownership
