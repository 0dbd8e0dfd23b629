/-
The life of a `Context`.

What becomes of a `Context` depends on the map of the calls, on the internal
events that wait and on the event that the loop works on.  `Life` has these
parts only, and `Life.Step` the ways in which they change; every step of the
gateway is one of them.
-/

import Mathlib.Data.List.AList
import Tg2Sip.Go.Steps
import Tg2Sip.Lib.FiniteMap

namespace Tg2Sip.Go

/-- The order in which the states of a call follow each other. -/
def CallState.rank : CallState → Nat
  | .incoming => 0
  | .outgoing => 0
  | .waitMedia => 1
  | .waitDTMF => 2
  | .cleanup => 3

/-- What the loop does with a `Context`; `closing` is the end of `Start`. -/
inductive Phase where
  | idle
  | holding (event : InternalEvent)
  | applying (ref : Ref) (event : InternalEvent)
  | cleaning (ref : Ref) (key : String)
  | deleting (key : String)
  | closing (refs : List Ref)
  deriving DecidableEq, Repr

structure Life where
  calls : FiniteMap.Map String Ref
  contexts : List Context
  waiting : List InternalEvent
  phase : Phase

def Life.at (life : Life) (phase : Phase) : Life := { life with phase := phase }

def Life.register (life : Life) (ctx : Context) : Life :=
  { life with
    calls := FiniteMap.insert life.calls ctx.id life.contexts.length
    contexts := life.contexts ++ [ctx] }

def Life.enqueue (life : Life) (event : InternalEvent) : Life :=
  { life with waiting := life.waiting ++ [event] }

def Life.write (life : Life) (ref : Ref) (state : CallState) : Life :=
  { life with
    contexts := life.contexts.modify ref (fun ctx => { ctx with state := state }) }

def Life.erase (life : Life) (key : String) : Life :=
  { life with calls := FiniteMap.erase life.calls key }

/-- A step, with the event that it queues and the `Context` whose `cleanUp`
it ends. -/
inductive Life.Step (life : Life) : Option InternalEvent → Option Ref → Life → Prop where
  | stay : Life.Step life none none life
  | register {ctx : Context} : ctx.state.rank = 0 → Life.Step life none none (life.register ctx)
  | queue {event : InternalEvent} : Life.Step life (some event) none (life.enqueue event)
  | receive {event : InternalEvent} {rest : List InternalEvent} : life.phase = .idle →
      life.waiting = event :: rest →
      Life.Step life none none (Life.at { life with waiting := rest } (.holding event))
  | meet {event : InternalEvent} {ref : Ref} : life.phase = .holding event →
      life.calls event.ctxID = some ref →
      Life.Step life none none (life.at (.applying ref event))
  | miss {event : InternalEvent} : life.phase = .holding event →
      life.calls event.ctxID = none → Life.Step life none none (life.at .idle)
  | apply {ref : Ref} {event : InternalEvent} : life.phase = .applying ref event →
      Life.Step life none none
        ((life.write ref event.typ.state).at
          (if event.typ = .cleanup then .cleaning ref event.ctxID else .idle))
  | clean {ref : Ref} {key : String} : life.phase = .cleaning ref key →
      Life.Step life none (some ref) (life.at (.deleting key))
  | delete {key : String} : life.phase = .deleting key →
      Life.Step life none none ((life.erase key).at .idle)
  | shut {refs : List Ref} : life.phase = .idle →
      (∀ ref ∈ refs, ∃ key, life.calls key = some ref) →
      Life.Step life none none (life.at (.closing refs))
  | close {ref : Ref} {rest : List Ref} : life.phase = .closing (ref :: rest) →
      Life.Step life none (some ref) (life.at (.closing rest))

def After.phase (ref : Ref) : After → Phase
  | .delete key => .cleaning ref key
  | .shutdown rest => .closing (ref :: rest)

def Loop.phase : Loop → Phase
  | .lookingUp event => .holding event
  | .advancing ref event => .applying ref event
  | .cleaning ref after => after.phase ref
  | .sendingBye ref _ after => after.phase ref
  | .forgetting ref _ after => after.phase ref
  | .discarding ref after => after.phase ref
  | .deleting key => .deleting key
  | .stopped => .closing []
  | _ => .idle

def Gateway.life (gateway : Gateway) : Life :=
  { calls := fun key => gateway.calls.lookup key
    contexts := gateway.contexts
    waiting := gateway.internalEvents.buffer
    phase := gateway.loop.phase }

def Stage.queues (request : Request) : Stage → Option InternalEvent
  | .sendingInternal => some request.internalEvent
  | _ => none

def Loop.queues : Loop → Option InternalEvent
  | .sendingInternal call _ => some ⟨call.key, .outgoing⟩
  | _ => none

def Loop.cleaned : Loop → Option Ref
  | .discarding ref _ => some ref
  | _ => none

def Gateway.queued (gateway : Gateway) : Label → Option InternalEvent
  | .handler index _ =>
      gateway.handlers[index]?.bind (fun handler => handler.stage.queues handler.request)
  | .loop _ => gateway.loop.queues
  | _ => none

def Gateway.cleaned (gateway : Gateway) : Label → Option Ref
  | .loop _ => gateway.loop.cleaned
  | _ => none

theorem lookup_insert_eq (calls : AList (fun _ : String => Ref)) (key : String) (ref : Ref) :
    (fun other => (calls.insert key ref).lookup other) =
      FiniteMap.insert (fun other => calls.lookup other) key ref := by
  funext other
  by_cases same : other = key
  · rw [same, AList.lookup_insert, FiniteMap.insert_self]
  · rw [AList.lookup_insert_ne same, FiniteMap.insert_of_ne _ _ same]

theorem lookup_erase_eq (calls : AList (fun _ : String => Ref)) (key : String) :
    (fun other => (calls.erase key).lookup other) =
      FiniteMap.erase (fun other => calls.lookup other) key := by
  funext other
  by_cases same : other = key
  · rw [same, AList.lookup_erase, FiniteMap.erase_self]
  · rw [AList.lookup_erase_ne same, FiniteMap.erase_of_ne _ same]

theorem register_life {gateway : Gateway} {key : String} {ctx : Context} (named : ctx.id = key)
    (early : ctx.state.rank = 0) :
    gateway.life.Step none none (gateway.register key ctx).life := by
  subst named
  have same : (gateway.register ctx.id ctx).life = gateway.life.register ctx := by
    unfold Gateway.life Gateway.register Life.register
    dsimp only
    rw [lookup_insert_eq]
  rw [same]
  exact .register early

theorem Handled.life {gateway target : Gateway} {answers : Answers} {request : Request}
    {stage after : Stage} {output : List Output}
    (handled : Handled gateway answers ⟨request, stage⟩ output after target) :
    gateway.life.Step (stage.queues request) none target.life := by
  cases handled with
  | alone blockUntil spoken early =>
      cases stage with
      | sendingInternal => cases early
      | _ => exact .stay
  | registered position unlocked =>
      dsimp only at position
      subst position
      exact register_life rfl rfl
  | sentEvent position =>
      dsimp only at position
      subst position
      exact .stay
  | sentInternal position sends =>
      dsimp only at position
      subst position
      unfold Gateway.life
      dsimp only
      rw [Channel.send_buffer sends]
      exact .queue
  | tracked position =>
      dsimp only at position
      subst position
      exact .stay

theorem life_at (gateway : Gateway) (loop : Loop) :
    (gateway.at loop).life = gateway.life.at loop.phase := rfl

theorem After.shutdown_phase (rest : List Ref) :
    (After.shutdown rest).next.phase = .closing rest := by
  cases rest <;> rfl

theorem stays_at {gateway : Gateway} {loop next : Loop} (position : gateway.loop = loop)
    (same : next.phase = loop.phase) : gateway.life.Step none none (gateway.at next).life := by
  rw [life_at, same, ← position]
  exact .stay

theorem Advanced.life {gateway target : Gateway} {answers : Answers} {loop : Loop}
    {output : List Output} (position : gateway.loop = loop)
    (advanced : Advanced gateway answers loop output target) :
    gateway.life.Step loop.queues loop.cleaned target.life := by
  have phase : gateway.life.phase = loop.phase := congrArg Loop.phase position
  cases advanced with
  | @registered call user =>
      have same : Phase.idle = (gateway.register call.key (call.context user)).life.phase :=
        phase.symm
      change gateway.life.Step none none
        ((gateway.register call.key (call.context user)).life.at .idle)
      rw [same]
      exact register_life rfl rfl
  | @sentInternal call user sent sends =>
      have same : ({ gateway with internalEvents := sent }.at (.dialling call user)).life =
          gateway.life.enqueue ⟨call.key, .outgoing⟩ := by
        have idle : gateway.loop.phase = .idle := phase
        unfold Gateway.life Gateway.at Life.enqueue
        dsimp only
        rw [Channel.send_buffer sends, idle]
        exact rfl
      rw [same]
      exact .queue
  | met found => exact .meet phase found
  | missed missing => exact .miss phase missing
  | @moved ref event =>
      have next : Loop.phase
          (if event.typ = .cleanup then .cleaning ref (.delete event.ctxID) else .select) =
            if event.typ = .cleanup then .cleaning ref event.ctxID else .idle := by
        split <;> rfl
      rw [life_at, next]
      exact .apply phase
  | @discarded ref after ctx found =>
      cases after with
      | delete key => exact .clean phase
      | shutdown rest =>
          rw [life_at, After.shutdown_phase]
          exact .close phase
  | @deleted key =>
      rw [life_at]
      unfold Gateway.life
      dsimp only
      rw [lookup_erase_eq]
      exact .delete phase
  | _ => exact stays_at position rfl

theorem begin_phase (update : Update) : update.begin.phase = .idle := by
  unfold Update.begin
  split
  · split
    · exact rfl
    · split <;> rfl
  · split <;> rfl
  · exact rfl

/-- Every step of the gateway is a step of the life of its contexts. -/
theorem Stepped.life {gateway target : Gateway} {label : Label} {output : List Output}
    (stepped : Stepped gateway label output target) :
    gateway.life.Step (gateway.queued label) (gateway.cleaned label) target.life := by
  cases stepped with
  | request => exact .stay
  | @handler index answers handler output stage target found handled =>
      have queued : gateway.queued (.handler index answers) =
          handler.stage.queues handler.request := by
        unfold Gateway.queued
        dsimp only
        rw [found, Option.bind_some]
      rw [queued]
      exact handled.life
  | @update update waiting => exact stays_at waiting (begin_phase update)
  | receiveEvent waiting receives => exact .stay
  | @receiveInternal event rest waiting receives =>
      exact .receive (congrArg Loop.phase waiting) (Channel.receive_buffer receives)
  | @cancel order waiting enumerated =>
      rw [life_at, After.shutdown_phase]
      apply Life.Step.shut (congrArg Loop.phase waiting)
      intro ref member
      obtain ⟨key, _, found⟩ := List.mem_filterMap.mp member
      exact ⟨key, found⟩
  | loop advanced => exact advanced.life rfl
  | @response callID tag =>
      obtain ⟨sessions, same⟩ := tagRemote_eq gateway callID tag
      rw [same]
      exact .stay

end Tg2Sip.Go
