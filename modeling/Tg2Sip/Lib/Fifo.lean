/-
Queues that a machine keeps.

A transition takes items from the front of a queue and puts items behind it.
`Conserved` says so of every step; a run then hands out exactly what was put
in, in that order, and nothing twice.  A poll takes something from every
nonempty queue, so the number of polls bounds how long an item waits.
-/

import Tg2Sip.Lib.Run

namespace LabelledMachine

/-- What a queue holds in a state, and what a transition puts in and takes out. -/
structure Queue (State Label Output Item : Type) where
  held : State → List Item
  arrivals : Transition State Label Output → List Item
  departures : Transition State Label Output → List Item

variable {State Label Output Item : Type}

def Queue.Conserved (queue : Queue State Label Output Item) (step : Step State Label Output) :
    Prop :=
  ∀ source label output target, step source label = some (output, target) →
    queue.held source ++ queue.arrivals ⟨source, label, output, target⟩ =
      queue.departures ⟨source, label, output, target⟩ ++ queue.held target

def Queue.PolledBy (queue : Queue State Label Output Item) (step : Step State Label Output)
    (polls : Transition State Label Output → Bool) : Prop :=
  ∀ source label output target, step source label = some (output, target) →
    polls ⟨source, label, output, target⟩ = true → queue.held source ≠ [] →
    queue.departures ⟨source, label, output, target⟩ ≠ []

variable {queue : Queue State Label Output Item} {step : Step State Label Output}
  {polls : Transition State Label Output → Bool} {initial state : State}
  {taken : List (Transition State Label Output)}

/-- What was there and what came is what went and what is there. -/
theorem Run.conserved (conserved : queue.Conserved step) (run : Run step initial taken state) :
    queue.held initial ++ taken.flatMap queue.arrivals =
      taken.flatMap queue.departures ++ queue.held state := by
  induction run with
  | nil => rw [List.flatMap_nil, List.flatMap_nil, List.append_nil, List.nil_append]
  | @snoc taken source target label output earlier stepped ih =>
      have last := conserved source label output target stepped
      rw [List.flatMap_append, List.flatMap_append, List.flatMap_singleton,
        List.flatMap_singleton, ← List.append_assoc, ih, List.append_assoc, last,
        List.append_assoc]

theorem Run.departed (conserved : queue.Conserved step) (polled : queue.PolledBy step polls)
    (run : Run step initial taken state) :
    taken.countP polls ≤ (taken.flatMap queue.departures).length ∨
      (queue.held initial).length ≤ (taken.flatMap queue.departures).length := by
  induction run with
  | nil =>
      left
      exact Nat.le_refl 0
  | @snoc taken source target label output earlier stepped ih =>
      have balance := congrArg List.length (earlier.conserved conserved)
      rw [List.length_append, List.length_append] at balance
      rw [List.flatMap_append, List.flatMap_singleton, List.length_append, List.countP_append,
        List.countP_singleton]
      by_cases dry : queue.held source = []
      · right
        rw [dry, List.length_nil] at balance
        omega
      · split
        · rename_i polling
          have some := polled source label output target stepped polling dry
          have positive := List.length_pos_iff.mpr some
          omega
        · omega

/-- An item leaves as soon as there were more polls than items before it. -/
theorem Run.served (conserved : queue.Conserved step) (polled : queue.PolledBy step polls)
    (run : Run step initial taken state) {position : Nat} {item : Item}
    (waiting : (queue.held initial)[position]? = some item)
    (enough : position < taken.countP polls) :
    (taken.flatMap queue.departures)[position]? = some item := by
  obtain ⟨inside, _⟩ := List.getElem?_eq_some_iff.mp waiting
  have reached : position < (taken.flatMap queue.departures).length := by
    rcases run.departed conserved polled with all | dry
    · omega
    · omega
  calc (taken.flatMap queue.departures)[position]?
      = (taken.flatMap queue.departures ++ queue.held state)[position]? :=
        (List.getElem?_append_left reached).symm
    _ = (queue.held initial ++ taken.flatMap queue.arrivals)[position]? := by
        rw [run.conserved conserved]
    _ = some item := by rw [List.getElem?_append_left inside, waiting]

end LabelledMachine
