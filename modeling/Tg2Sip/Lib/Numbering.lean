/-
Numbers taken from a counter.

A counter is advanced before each use, modulo its size, and the use may fail
or lie behind other steps.  While the counter is never started anew behind a
use and never wraps, the numbers that are used increase.
-/

import Mathlib.Data.List.Pairwise

namespace Numbering

/-- The counter, if there is one, and the number that is about to be used. -/
structure State where
  counter : Option Nat
  pending : Option Nat

inductive Event where
  | keep
  | start
  | advance
  | use
  | lose
  | drop
  deriving DecidableEq, Repr

/-- What an event does, with the numbers that it uses. -/
inductive Step (size : Nat) : State → Event → List Nat → State → Prop where
  | keep {state : State} : Step size state .keep [] state
  | start {state : State} : Step size state .start [] { state with counter := some 1 }
  | advance {number : Nat} :
      Step size ⟨some number, none⟩ .advance []
        ⟨some ((number + 1) % size), some ((number + 1) % size)⟩
  | use {counter : Option Nat} {number : Nat} :
      Step size ⟨counter, some number⟩ .use [number] ⟨counter, none⟩
  | lose {counter : Option Nat} {number : Nat} :
      Step size ⟨counter, some number⟩ .lose [] ⟨counter, none⟩
  | drop {counter : Option Nat} : Step size ⟨counter, none⟩ .drop [] ⟨none, none⟩

/-- The used numbers increase from above 1, up to the counter, and a number
that is about to be used lies above the used ones. -/
structure Ordered (used : List Nat) (state : State) : Prop where
  increasing : used.Pairwise (· < ·)
  above : ∀ number ∈ used, 1 < number
  counted : ∀ number, state.counter = some number → 1 ≤ number ∧ ∀ earlier ∈ used, earlier ≤ number
  waiting : ∀ number, state.pending = some number → 1 < number ∧
    (∀ earlier ∈ used, earlier < number) ∧
    ∀ counter, state.counter = some counter → number ≤ counter

theorem ordered_initial : Ordered [] ⟨none, none⟩ :=
  ⟨List.Pairwise.nil, nofun, nofun, nofun⟩

/-- The event starts no counter behind a use and wraps none. -/
def Admitted (size : Nat) (used : List Nat) (state : State) (event : Event) : Prop :=
  (event = .start → used = [] ∧ state.pending = none) ∧
    (event = .advance → ∀ number, state.counter = some number → number + 1 < size)

theorem Step.ordered {size : Nat} {state target : State} {event : Event}
    {used numbers : List Nat} (step : Step size state event numbers target)
    (ordered : Ordered used state) (admitted : Admitted size used state event) :
    Ordered (used ++ numbers) target := by
  cases step with
  | keep =>
      rw [List.append_nil]
      exact ordered
  | start =>
      obtain ⟨rfl, idle⟩ := admitted.1 rfl
      refine ⟨List.Pairwise.nil, nofun, ?_, ?_⟩
      · intro number same
        cases same
        exact ⟨Nat.le_refl 1, nofun⟩
      · intro number waits
        rw [idle] at waits
        cases waits
  | @advance number =>
      have room := admitted.2 rfl number rfl
      obtain ⟨positive, reached⟩ := ordered.counted number rfl
      rw [Nat.mod_eq_of_lt room, List.append_nil]
      refine ⟨ordered.increasing, ordered.above, ?_, ?_⟩
      · intro counter same
        cases same
        refine ⟨by omega, fun earlier member => ?_⟩
        have below := reached earlier member
        omega
      · intro waiting same
        cases same
        refine ⟨by omega, fun earlier member => ?_, ?_⟩
        · have below := reached earlier member
          omega
        · rintro counter ⟨rfl⟩
          exact Nat.le_refl _
  | @use counter number =>
      obtain ⟨large, fresh, bounded⟩ := ordered.waiting number rfl
      refine ⟨?_, ?_, ?_, nofun⟩
      · rw [List.pairwise_append]
        refine ⟨ordered.increasing, List.pairwise_singleton _ _, ?_⟩
        intro earlier member other last
        obtain rfl := List.mem_singleton.mp last
        exact fresh earlier member
      · rw [List.forall_mem_append, List.forall_mem_singleton]
        exact ⟨ordered.above, large⟩
      · intro current same
        obtain ⟨positive, reached⟩ := ordered.counted current same
        refine ⟨positive, ?_⟩
        rw [List.forall_mem_append, List.forall_mem_singleton]
        exact ⟨reached, bounded current same⟩
  | lose =>
      rw [List.append_nil]
      exact ⟨ordered.increasing, ordered.above, ordered.counted, nofun⟩
  | drop =>
      rw [List.append_nil]
      exact ⟨ordered.increasing, ordered.above, nofun, nofun⟩

end Numbering
