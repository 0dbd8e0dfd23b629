/-
Exceptions over a state that survives the throw.

`EStateM` keeps the state in both outcomes, which is how a thrown exception
leaves behind what the program did before it.  The lemmas evaluate a handler
and invert a sequence; every action of the development is evaluated with them.
-/

import Mathlib.Logic.Function.Basic

namespace Exceptions

variable {Fault State Value Other : Type}

theorem run_tryCatch (body : EStateM Fault State Value)
    (handler : Fault → EStateM Fault State Value) (state : State) :
    (tryCatch body handler).run state =
      match body.run state with
      | .ok value after => .ok value after
      | .error fault after => (handler fault).run after := by
  change (EStateM.tryCatch body handler) state = _
  unfold EStateM.tryCatch EStateM.run
  cases body state with
  | ok value after => rfl
  | error fault after => rfl

@[simp] theorem run_throw_any (fault : Fault) (state : State) :
    (throw fault : EStateM Fault State Value).run state = .error fault state := rfl

theorem bind_ok {first : EStateM Fault State Value}
    {second : Value → EStateM Fault State Other} {state last : State} {value : Other}
    (returned : (first >>= second).run state = .ok value last) :
    ∃ middle between, first.run state = .ok middle between ∧
      (second middle).run between = .ok value last := by
  rw [EStateM.run_bind] at returned
  cases begun : first.run state with
  | ok middle between =>
      rw [begun] at returned
      exact ⟨middle, between, rfl, returned⟩
  | error fault between =>
      rw [begun] at returned
      cases returned

/-- The exception that leaves the action, or nothing when it returns. -/
def fault (action : EStateM Fault State Value) (state : State) : Option Fault :=
  match action.run state with
  | .ok _ _ => none
  | .error thrown _ => some thrown

theorem fault_eq_none_iff {action : EStateM Fault State Value} {state : State} :
    fault action state = none ↔ ∃ value last, action.run state = .ok value last := by
  unfold fault
  constructor
  · intro quiet
    cases ran : action.run state with
    | ok value last => exact ⟨value, last, rfl⟩
    | error thrown last => simp only [ran, reduceCtorEq] at quiet
  · intro returned
    obtain ⟨value, last, ran⟩ := returned
    rw [ran]

theorem fault_of_error {action : EStateM Fault State Value} {state last : State}
    {thrown : Fault} (ran : action.run state = .error thrown last) :
    fault action state = some thrown := by
  unfold fault
  rw [ran]

theorem fault_of_ok {action : EStateM Fault State Value} {state last : State} {value : Value}
    (ran : action.run state = .ok value last) : fault action state = none := by
  unfold fault
  rw [ran]

theorem fault_bind_of_ok {first : EStateM Fault State Value}
    {second : Value → EStateM Fault State Other} {state between : State} {value : Value}
    (ran : first.run state = .ok value between) :
    fault (first >>= second) state = fault (second value) between := by
  unfold fault
  rw [EStateM.run_bind, ran]

theorem fault_bind_of_total {first : EStateM Fault State Value}
    {second : Value → EStateM Fault State Other} {state : State}
    (total : ∀ value between, fault (second value) between = none) :
    fault (first >>= second) state = fault first state := by
  cases ran : first.run state with
  | ok value between => rw [fault_bind_of_ok ran, total, fault_of_ok ran]
  | error thrown between =>
      unfold fault
      rw [EStateM.run_bind, ran]

def mapState (change : State → State) :
    EStateM.Result Fault State Value → EStateM.Result Fault State Value
  | .ok value last => .ok value (change last)
  | .error thrown last => .error thrown (change last)

/-- Results that look alike still do so behind a value that is returned. -/
theorem mapState_bind_pure {change : State → State} {first : EStateM Fault State Value}
    {one other : State}
    (alike : mapState change (first.run one) = mapState change (first.run other))
    (value : Other) :
    mapState change ((first >>= fun _ => (pure value : EStateM Fault State Other)).run one) =
      mapState change ((first >>= fun _ => pure value).run other) := by
  rw [EStateM.run_bind, EStateM.run_bind]
  cases left : first.run one <;> cases right : first.run other <;> rw [left, right] at alike
  · exact congrArg (EStateM.Result.ok value) (EStateM.Result.ok.inj alike).2
  · cases alike
  · cases alike
  · obtain ⟨same, last⟩ := EStateM.Result.error.inj alike
    subst same
    exact congrArg (EStateM.Result.error _) last

/-- Changing the state before the action or behind it makes no difference. -/
def Equivariant (change : State → State) (action : EStateM Fault State Value) : Prop :=
  ∀ state, action.run (change state) = mapState change (action.run state)

theorem Equivariant.pure (change : State → State) (value : Value) :
    Equivariant change (Pure.pure value : EStateM Fault State Value) := fun _ => rfl

theorem Equivariant.throw (change : State → State) (thrown : Fault) :
    Equivariant change (throw thrown : EStateM Fault State Value) := fun _ => rfl

theorem Equivariant.bind {change : State → State} {first : EStateM Fault State Value}
    {second : Value → EStateM Fault State Other} (firstCommutes : Equivariant change first)
    (secondCommutes : ∀ value, Equivariant change (second value)) :
    Equivariant change (first >>= second) := by
  intro state
  rw [EStateM.run_bind, EStateM.run_bind, firstCommutes state]
  cases first.run state with
  | ok value middle => exact secondCommutes value middle
  | error thrown middle => rfl

end Exceptions
