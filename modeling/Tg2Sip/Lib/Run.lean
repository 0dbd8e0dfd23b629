/-
Finite runs of a partial labelled machine.

A machine answers a label with an output list and a successor state, or with
nothing when the step does not return.  A run keeps every transition it took,
so that a property of a whole run may refer to the states, the labels and the
outputs of its earlier transitions.  Every invariant of a machine is proved
through `Run.invariant`; a concrete run is obtained by evaluating `replay`.
-/

import Mathlib.Logic.Function.Basic

namespace LabelledMachine

structure Transition (State Label Output : Type) where
  source : State
  label : Label
  output : List Output
  target : State

/-- `none` stands for a step that does not return. -/
abbrev Step (State Label Output : Type) := State → Label → Option (List Output × State)

variable {State Label Output : Type}

inductive Run (step : Step State Label Output) (initial : State) :
    List (Transition State Label Output) → State → Prop where
  | nil : Run step initial [] initial
  | snoc {taken : List (Transition State Label Output)} {source target : State}
      {label : Label} {output : List Output} :
      Run step initial taken source →
      step source label = some (output, target) →
      Run step initial (taken ++ [⟨source, label, output, target⟩]) target

def history (taken : List (Transition State Label Output)) : List Output :=
  taken.flatMap Transition.output

@[simp] theorem history_nil : history ([] : List (Transition State Label Output)) = [] := rfl

@[simp] theorem history_append (first second : List (Transition State Label Output)) :
    history (first ++ second) = history first ++ history second := by
  simp only [history, List.flatMap_append]

@[simp] theorem history_cons (transition : Transition State Label Output)
    (rest : List (Transition State Label Output)) :
    history (transition :: rest) = transition.output ++ history rest := by
  simp only [history, List.flatMap_cons]

variable {step : Step State Label Output} {initial : State}

/-- A property of the transitions taken so far and of the state they reach
holds of every run whose transitions are all admitted, when it holds at the
start and every admitted transition of a run keeps it. -/
theorem Run.invariant {admitted : Transition State Label Output → Prop}
    {property : List (Transition State Label Output) → State → Prop}
    (atStart : property [] initial)
    (kept : ∀ taken source label output target,
      Run step initial taken source → property taken source →
      step source label = some (output, target) →
      admitted ⟨source, label, output, target⟩ →
      property (taken ++ [⟨source, label, output, target⟩]) target)
    {taken : List (Transition State Label Output)} {state : State}
    (run : Run step initial taken state)
    (allAdmitted : ∀ transition ∈ taken, admitted transition) :
    property taken state := by
  induction run with
  | nil => exact atStart
  | @snoc taken source target label output earlier stepped ih =>
      have earlierAdmitted : ∀ transition ∈ taken, admitted transition := by
        intro transition member
        exact allAdmitted transition (List.mem_append_left _ member)
      have lastAdmitted : admitted ⟨source, label, output, target⟩ :=
        allAdmitted _ (List.mem_append_right _ (List.mem_singleton.mpr rfl))
      exact kept taken source label output target earlier (ih earlierAdmitted)
        stepped lastAdmitted

def AdmittedAlong (admitted : List (Transition State Label Output) →
    Transition State Label Output → Prop) (taken : List (Transition State Label Output)) : Prop :=
  ∀ before transition after, taken = before ++ transition :: after → admitted before transition

theorem AdmittedAlong.earlier {admitted : List (Transition State Label Output) →
      Transition State Label Output → Prop}
    {taken later : List (Transition State Label Output)}
    (allAdmitted : AdmittedAlong admitted (taken ++ later)) : AdmittedAlong admitted taken := by
  intro before transition after shape
  apply allAdmitted before transition (after ++ later)
  rw [shape, List.append_assoc, List.cons_append]

/-- The rule for an admission that depends on what was done before. -/
theorem Run.invariantAlong {admitted : List (Transition State Label Output) →
      Transition State Label Output → Prop}
    {property : List (Transition State Label Output) → State → Prop}
    (atStart : property [] initial)
    (kept : ∀ taken source label output target,
      Run step initial taken source → property taken source →
      step source label = some (output, target) →
      admitted taken ⟨source, label, output, target⟩ →
      property (taken ++ [⟨source, label, output, target⟩]) target)
    {taken : List (Transition State Label Output)} {state : State}
    (run : Run step initial taken state) (allAdmitted : AdmittedAlong admitted taken) :
    property taken state := by
  induction run with
  | nil => exact atStart
  | @snoc taken source target label output earlier stepped ih =>
      exact kept taken source label output target earlier (ih allAdmitted.earlier) stepped
        (allAdmitted taken _ [] rfl)

theorem Run.stateInvariant {admitted : Transition State Label Output → Prop}
    {property : State → Prop} (atStart : property initial)
    (kept : ∀ source label output target, property source →
      step source label = some (output, target) →
      admitted ⟨source, label, output, target⟩ → property target)
    {taken : List (Transition State Label Output)} {state : State}
    (run : Run step initial taken state)
    (allAdmitted : ∀ transition ∈ taken, admitted transition) : property state := by
  have carried : (fun _ => property) taken state := by
    apply Run.invariant atStart _ run allAdmitted
    intro _taken source label output target _run held stepped allowed
    exact kept source label output target held stepped allowed
  exact carried

theorem Run.keeps {property : State → Prop}
    (kept : ∀ source label output target, step source label = some (output, target) →
      property source → property target)
    {taken : List (Transition State Label Output)} {state : State}
    (run : Run step initial taken state) (held : property initial) : property state := by
  induction run with
  | nil => exact held
  | snoc earlier stepped ih => exact kept _ _ _ _ stepped ih

/-- The transitions before a given one lead to its source, where it was taken. -/
theorem Run.at_split {before after : List (Transition State Label Output)}
    {transition : Transition State Label Output} {state : State}
    (run : Run step initial (before ++ transition :: after) state) :
    Run step initial before transition.source ∧
      step transition.source transition.label =
        some (transition.output, transition.target) := by
  generalize shape : before ++ transition :: after = taken at run
  induction run generalizing after with
  | nil => cases List.append_ne_nil_of_right_ne_nil before (List.cons_ne_nil _ _) shape
  | @snoc taken source target label output earlier stepped ih =>
      rcases List.eq_nil_or_concat after with rfl | ⟨rest, last, rfl⟩
      · obtain ⟨rfl, same⟩ := List.append_inj' shape rfl
        cases same
        exact ⟨earlier, stepped⟩
      · rw [List.concat_eq_append, ← List.cons_append, ← List.append_assoc] at shape
        exact ih (List.append_inj' shape rfl).1

theorem Run.append {first second : List (Transition State Label Output)} {middle state : State}
    (reached : Run step initial first middle) (run : Run step middle second state) :
    Run step initial (first ++ second) state := by
  induction run with
  | nil =>
      rw [List.append_nil]
      exact reached
  | @snoc taken source target label output earlier stepped ih =>
      rw [← List.append_assoc]
      exact ih.snoc stepped

/-- The transitions behind a given one are a run from its target. -/
theorem Run.behind {before after : List (Transition State Label Output)}
    {transition : Transition State Label Output} {state : State}
    (run : Run step initial (before ++ transition :: after) state) :
    Run step transition.target after state := by
  generalize shape : before ++ transition :: after = taken at run
  induction run generalizing after with
  | nil => cases List.append_ne_nil_of_right_ne_nil before (List.cons_ne_nil _ _) shape
  | @snoc taken source target label output earlier stepped ih =>
      rcases List.eq_nil_or_concat after with rfl | ⟨rest, last, rfl⟩
      · obtain ⟨rfl, same⟩ := List.append_inj' shape rfl
        cases same
        exact Run.nil
      · rw [List.concat_eq_append, ← List.cons_append, ← List.append_assoc] at shape
        obtain ⟨earlierShape, same⟩ := List.append_inj' shape rfl
        cases same
        rw [List.concat_eq_append]
        exact (ih earlierShape).snoc stepped

/-- Every transition of a run was taken from a state that an initial part of
the same run reaches. -/
theorem Run.split {taken : List (Transition State Label Output)} {state : State}
    (run : Run step initial taken state)
    {transition : Transition State Label Output} (member : transition ∈ taken) :
    ∃ before after, taken = before ++ transition :: after ∧
      Run step initial before transition.source ∧
      step transition.source transition.label =
        some (transition.output, transition.target) := by
  obtain ⟨before, after, rfl⟩ := List.append_of_mem member
  exact ⟨before, after, rfl, run.at_split⟩

theorem Run.stable {property : State → Prop}
    (kept : ∀ source label output target, step source label = some (output, target) →
      property source → property target)
    {before after : List (Transition State Label Output)}
    {transition : Transition State Label Output} {state : State}
    (run : Run step initial (before ++ transition :: after) state)
    (held : property transition.target) :
    (∀ later ∈ transition :: after, property later.target) ∧ property state := by
  generalize shape : before ++ transition :: after = taken at run
  induction run generalizing after with
  | nil => cases List.append_ne_nil_of_right_ne_nil before (List.cons_ne_nil _ _) shape
  | @snoc taken source target label output earlier stepped ih =>
      rcases List.eq_nil_or_concat after with rfl | ⟨rest, last, rfl⟩
      · obtain ⟨rfl, same⟩ := List.append_inj' shape rfl
        cases same
        exact ⟨List.forall_mem_singleton.mpr held, held⟩
      · rw [List.concat_eq_append, ← List.cons_append, ← List.append_assoc] at shape
        obtain ⟨earlierShape, same⟩ := List.append_inj' shape rfl
        cases same
        obtain ⟨laterHeld, sourceHeld⟩ := ih earlierShape
        have targetHeld := kept _ _ _ _ stepped sourceHeld
        rw [List.concat_eq_append, ← List.cons_append, List.forall_mem_append,
          List.forall_mem_singleton]
        exact ⟨⟨laterHeld, targetHeld⟩, targetHeld⟩

/-- A run of a machine that is a run of another one when its states are
observed: each step of the first is a step of the second with the same output. -/
theorem Run.project {Observed Seen : Type} {observed : Step Observed Seen Output}
    (observe : State → Observed)
    (simulated : ∀ source label output target, step source label = some (output, target) →
      ∃ seen, observed (observe source) seen = some (output, observe target))
    {taken : List (Transition State Label Output)} {state : State}
    (run : Run step initial taken state) :
    ∃ shown, Run observed (observe initial) shown (observe state) ∧
      shown.map Transition.output = taken.map Transition.output := by
  induction run with
  | nil => exact ⟨[], Run.nil, rfl⟩
  | @snoc taken source target label output earlier stepped ih =>
      obtain ⟨shown, reached, same⟩ := ih
      obtain ⟨seen, fired⟩ := simulated source label output target stepped
      refine ⟨shown ++ [⟨observe source, seen, output, observe target⟩], reached.snoc fired, ?_⟩
      rw [List.map_append, List.map_append, same]
      rfl

theorem history_of_outputs {Observed Seen : Type}
    {taken : List (Transition State Label Output)}
    {shown : List (Transition Observed Seen Output)}
    (same : shown.map Transition.output = taken.map Transition.output) :
    history shown = history taken := by
  unfold history
  rw [List.flatMap_def, List.flatMap_def, same]

def Transition.image {Observed Seen : Type} (observe : State → Observed)
    (seen : Transition State Label Output → Seen) (transition : Transition State Label Output) :
    Transition Observed Seen Output :=
  ⟨observe transition.source, seen transition, transition.output, observe transition.target⟩

theorem Run.image {Observed Seen : Type} {observed : Step Observed Seen Output}
    (observe : State → Observed) (seen : Transition State Label Output → Seen)
    (simulated : ∀ source label output target, step source label = some (output, target) →
      observed (observe source) (seen ⟨source, label, output, target⟩) =
        some (output, observe target))
    {taken : List (Transition State Label Output)} {state : State}
    (run : Run step initial taken state) :
    Run observed (observe initial) (taken.map (Transition.image observe seen))
      (observe state) := by
  induction run with
  | nil => exact Run.nil
  | @snoc taken source target label output earlier stepped ih =>
      rw [List.map_append, List.map_singleton]
      exact ih.snoc (simulated source label output target stepped)

theorem history_image {Observed Seen : Type} (observe : State → Observed)
    (seen : Transition State Label Output → Seen)
    (taken : List (Transition State Label Output)) :
    history (taken.map (Transition.image observe seen)) = history taken := by
  unfold history
  rw [List.flatMap_map]
  rfl

/-- Forward simulation: each step of the first machine is a step of the second
from any related state to a related state, and what the first outputs is what
the second does, seen through a function. -/
theorem Run.simulated {Other Seen Report : Type} {other : Step Other Seen Report}
    {start : Other} {related : State → Other → Prop} {shown : Report → Output}
    {admitted : Transition State Label Output → Prop} (atStart : related initial start)
    (simulates : ∀ source label output target abstract, related source abstract →
      step source label = some (output, target) → admitted ⟨source, label, output, target⟩ →
      ∃ seen report next, other abstract seen = some (report, next) ∧
        output = report.map shown ∧ related target next)
    {taken : List (Transition State Label Output)} {state : State}
    (run : Run step initial taken state)
    (allAdmitted : ∀ transition ∈ taken, admitted transition) :
    ∃ followed last, Run other start followed last ∧
      history taken = (history followed).map shown ∧ related state last := by
  induction run with
  | nil => exact ⟨[], start, Run.nil, rfl, atStart⟩
  | @snoc taken source target label output earlier stepped ih =>
      obtain ⟨followed, abstract, reached, same, held⟩ :=
        ih (fun transition member => allAdmitted transition (List.mem_append_left _ member))
      obtain ⟨seen, report, next, fired, outputs, kept⟩ :=
        simulates source label output target abstract held stepped
          (allAdmitted _ (List.mem_append_right _ (List.mem_singleton.mpr rfl)))
      refine ⟨followed ++ [⟨abstract, seen, report, next⟩], next, reached.snoc fired, ?_, kept⟩
      rw [history_append, history_append, List.map_append, same, history_cons, history_cons,
        history_nil, history_nil, List.append_nil, List.append_nil]
      exact congrArg _ outputs

/-- Evaluate a list of labels, keeping the transitions. -/
def replay (step : Step State Label Output) :
    State → List Label → Option (List (Transition State Label Output) × State)
  | state, [] => some ([], state)
  | state, label :: rest =>
      match step state label with
      | none => none
      | some (output, target) =>
          match replay step target rest with
          | none => none
          | some (taken, last) => some (⟨state, label, output, target⟩ :: taken, last)

private theorem Run.extend {taken : List (Transition State Label Output)} {middle : State}
    (run : Run step initial taken middle) (labels : List Label)
    {later : List (Transition State Label Output)} {state : State}
    (replayed : replay step middle labels = some (later, state)) :
    Run step initial (taken ++ later) state := by
  induction labels generalizing taken middle later with
  | nil =>
      simp only [replay, Option.some.injEq, Prod.mk.injEq] at replayed
      obtain ⟨rfl, rfl⟩ := replayed
      rw [List.append_nil]
      exact run
  | cons label rest ih =>
      simp only [replay] at replayed
      cases fired : step middle label with
      | none => simp only [fired, reduceCtorEq] at replayed
      | some answer =>
          obtain ⟨output, target⟩ := answer
          simp only [fired] at replayed
          cases tail : replay step target rest with
          | none => simp only [tail, reduceCtorEq] at replayed
          | some result =>
              obtain ⟨tailTaken, last⟩ := result
              simp only [tail, Option.some.injEq, Prod.mk.injEq] at replayed
              obtain ⟨rfl, rfl⟩ := replayed
              have continued := ih (run.snoc fired) tail
              rw [List.append_assoc] at continued
              exact continued

theorem Run.of_replay {labels : List Label}
    {taken : List (Transition State Label Output)} {state : State}
    (replayed : replay step initial labels = some (taken, state)) :
    Run step initial taken state :=
  Run.extend Run.nil labels replayed

theorem Run.of_replay_map {Seen : Type} {labels : List Label}
    {summary : List (Transition State Label Output) × State → Seen} {seen : Seen}
    (replayed : (replay step initial labels).map summary = some seen) :
    ∃ taken state, Run step initial taken state ∧ summary (taken, state) = seen := by
  obtain ⟨⟨taken, state⟩, reached, same⟩ := Option.map_eq_some_iff.mp replayed
  exact ⟨taken, state, Run.of_replay reached, same⟩

theorem replay_forall (property : Transition State Label Output → Prop)
    [DecidablePred property] {labels : List Label} {first last : State}
    {taken : List (Transition State Label Output)}
    (replayed : replay step first labels = some (taken, last))
    (held : (replay step first labels).all (fun found => found.1.all (fun transition =>
      decide (property transition))) = true) :
    ∀ transition ∈ taken, property transition := by
  rw [replayed] at held
  simpa using held

section CheckAlong

variable (admitted : List (Transition State Label Output) →
    Transition State Label Output → Prop)
  [∀ before transition, Decidable (admitted before transition)]

/-- Evaluate an admission along the transitions, behind the given ones. -/
def checkAlong (before : List (Transition State Label Output)) :
    List (Transition State Label Output) → Bool
  | [] => true
  | transition :: rest =>
      decide (admitted before transition) && checkAlong (before ++ [transition]) rest

theorem admitted_of_checkAlong {before taken : List (Transition State Label Output)}
    (checked : checkAlong admitted before taken = true)
    {earlier after : List (Transition State Label Output)}
    {transition : Transition State Label Output} (shape : taken = earlier ++ transition :: after) :
    admitted (before ++ earlier) transition := by
  induction taken generalizing before earlier with
  | nil => cases List.append_ne_nil_of_right_ne_nil earlier (List.cons_ne_nil _ _) shape.symm
  | cons first rest ih =>
      rw [checkAlong, Bool.and_eq_true, decide_eq_true_eq] at checked
      cases earlier with
      | nil =>
          cases shape
          rw [List.append_nil]
          exact checked.1
      | cons head tail =>
          obtain ⟨rfl, restShape⟩ := List.cons.inj shape
          have later := ih checked.2 restShape
          rw [List.append_assoc] at later
          exact later

theorem replay_admittedAlong {labels : List Label} {first last : State}
    {taken : List (Transition State Label Output)}
    (replayed : replay step first labels = some (taken, last))
    (held : (replay step first labels).all (fun found => checkAlong admitted [] found.1) = true) :
    AdmittedAlong admitted taken := by
  rw [replayed] at held
  intro before transition after shape
  exact admitted_of_checkAlong admitted held shape

end CheckAlong

theorem replay_labels {labels : List Label} {first last : State}
    {taken : List (Transition State Label Output)}
    (replayed : replay step first labels = some (taken, last)) :
    taken.map Transition.label = labels := by
  induction labels generalizing first taken last with
  | nil =>
      cases replayed
      rfl
  | cons label rest ih =>
      simp only [replay] at replayed
      cases fired : step first label with
      | none => simp only [fired, reduceCtorEq] at replayed
      | some answer =>
          obtain ⟨output, target⟩ := answer
          simp only [fired] at replayed
          cases tail : replay step target rest with
          | none => simp only [tail, reduceCtorEq] at replayed
          | some result =>
              obtain ⟨tailTaken, final⟩ := result
              simp only [tail, Option.some.injEq, Prod.mk.injEq] at replayed
              obtain ⟨rfl, rfl⟩ := replayed
              rw [List.map_cons, ih tail]

theorem replay_forall_labels (property : Label → Prop) {labels : List Label} {first : State}
    {taken : List (Transition State Label Output)} {last : State}
    (replayed : replay step first labels = some (taken, last))
    (held : ∀ label ∈ labels, property label) :
    ∀ transition ∈ taken, property transition.label := by
  intro transition member
  apply held
  rw [← replay_labels replayed]
  exact List.mem_map_of_mem member

end LabelledMachine
