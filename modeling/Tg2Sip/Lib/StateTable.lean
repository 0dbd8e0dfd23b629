/-
Two-level transition tables.

A row fires on an event when its source pattern matches the current state and
its guard accepts the event; it then runs its action and enters its target,
whose entry action runs last.  The rows of the nested machine are tried before
the rows of the enclosing one, each table from top to bottom, and an event
that no row accepts changes nothing.
-/

import Mathlib.Logic.Function.Basic

namespace StateTable

structure Row (State Event : Type) (Action : Type → Type) where
  source : State → Bool
  accept : Event → Option (Action Unit)
  target : State

structure Machine (State Event : Type) (Action : Type → Type) where
  nested : List (Row State Event Action)
  enclosing : List (Row State Event Action)
  onEntry : State → Action Unit

variable {State Event : Type} {Action : Type → Type}

def Row.fire (row : Row State Event Action) (state : State) (event : Event) :
    Option (State × Action Unit) :=
  if row.source state then (row.accept event).map (fun action => (row.target, action))
  else none

/-- The first row that fires, with the nested machine's rows first. -/
def Machine.select (machine : Machine State Event Action) (state : State) (event : Event) :
    Option (State × Action Unit) :=
  (machine.nested ++ machine.enclosing).findSome? (fun row => row.fire state event)

theorem findSome_fire_cons (row : Row State Event Action) (rows : List (Row State Event Action))
    (state : State) (event : Event) :
    (row :: rows).findSome? (fun other => other.fire state event) =
      (row.fire state event).or (rows.findSome? (fun other => other.fire state event)) := by
  rw [List.findSome?_cons]
  cases row.fire state event with
  | none => rfl
  | some fired => rfl

def Machine.processEvent [Monad Action] (machine : Machine State Event Action)
    (state : State) (event : Event) : Action State :=
  match machine.select state event with
  | none => pure state
  | some (target, action) => do
      action
      machine.onEntry target
      pure target

theorem Machine.processEvent_of_select_none [Monad Action]
    {machine : Machine State Event Action} {state : State} {event : Event}
    (ignored : machine.select state event = none) :
    machine.processEvent state event = pure state := by
  unfold Machine.processEvent
  rw [ignored]

theorem Machine.processEvent_of_select_some [Monad Action]
    {machine : Machine State Event Action} {state target : State} {event : Event}
    {action : Action Unit} (fired : machine.select state event = some (target, action)) :
    machine.processEvent state event =
      (do action; machine.onEntry target; pure target) := by
  unfold Machine.processEvent
  rw [fired]

end StateTable
