/-
`Gateway::start`: the main loop and its three queues.

The TDLib thread forwards two kinds of updates into `tg_events_`, the threads
of pjsip fill `sip_events_`, and the actions of the state machines fill
`internal_events_`, which is a field of the gateway.  A round of the loop pops
at most one event from each queue, in the order internal, Telegram, SIP, and
`e_flag` is only looked at between two rounds.  Every other thread may act
between two pops.
-/

import Mathlib.Data.List.Basic
import Tg2Sip.Cpp.AllOrNothing
import Tg2Sip.Cpp.Exchange
import Tg2Sip.Lib.Fifo

namespace Tg2Sip.Cpp

/-- What TDLib hands to `tg::Client::process_update`. -/
inductive Update where
  | authorizationState
  | connectionState (ready : Bool)
  | updateCall (call : Call)
  | updateNewMessage (message : Message)
  | other (id : Int)

/-- The updates that `process_update` puts into the queue. -/
def Update.isForwarded : Update → Bool
  | .updateCall _ => true
  | .updateNewMessage _ => true
  | _ => false

/-- The switch of the main loop over `object->get_id()`. -/
def Update.event? : Update → Option Event
  | .updateCall call => some (.updateCall call)
  | .updateNewMessage message => some (.updateNewMessage message)
  | _ => none

def Event.isSip : Event → Bool
  | .incomingCall _ _ => true
  | .callStateUpdate _ _ => true
  | .callMediaStateUpdate _ _ => true
  | _ => false

/-- What the main thread does next. -/
inductive Phase where
  | testFlag
  | popInternal
  | popTelegram
  | popSip
  | left
  deriving DecidableEq, Repr

structure MainLoop where
  gateway : Gateway
  tgEvents : List Update
  sipEvents : List Event
  eFlag : Bool
  phase : Phase

inductive LoopLabel where
  | update (update : Update)
  | sipEvent (event : Event)
  | pjsip (client : SipClient)
  | signal
  | turn (env : Env)

def MainLoop.advance (loop : MainLoop) (label : Label) (next : Phase) :
    Option (List Logged × MainLoop) :=
  match loop.gateway.step label with
  | none => none
  | some (output, target) => some (output, { loop with gateway := target, phase := next })

def MainLoop.turn (loop : MainLoop) (env : Env) : Option (List Logged × MainLoop) :=
  match loop.phase with
  | .testFlag => some ([], { loop with phase := if loop.eFlag then .left else .popInternal })
  | .popInternal => loop.advance (.popInternal env) .popTelegram
  | .popTelegram =>
      match loop.tgEvents with
      | [] => some ([], { loop with phase := .popSip })
      | update :: rest =>
          match update.event? with
          | none => some ([], { loop with tgEvents := rest, phase := .popSip })
          | some event => { loop with tgEvents := rest }.advance (.dispatch env event) .popSip
  | .popSip =>
      match loop.sipEvents with
      | [] => some ([], { loop with phase := .testFlag })
      | event :: rest =>
          { loop with sipEvents := rest }.advance (.dispatch env event) .testFlag
  | .left => none

def MainLoop.step : LabelledMachine.Step MainLoop LoopLabel Logged := fun loop label =>
  match label with
  | .update update =>
      some ([], if update.isForwarded then { loop with tgEvents := loop.tgEvents ++ [update] }
        else loop)
  | .sipEvent event =>
      if event.isSip then some ([], { loop with sipEvents := loop.sipEvents ++ [event] })
      else none
  | .pjsip client => some ([], { loop with gateway := { loop.gateway with sip := client } })
  | .signal => some ([], { loop with eFlag := true })
  | .turn env => loop.turn env

/-- The loop behind `load_cache`, with what was queued before it. -/
def MainLoop.initial (gateway : Gateway) (tgEvents : List Update) (sipEvents : List Event) :
    MainLoop :=
  { gateway := gateway
    tgEvents := tgEvents
    sipEvents := sipEvents
    eFlag := false
    phase := .testFlag }

abbrev LoopTransition := LabelledMachine.Transition MainLoop LoopLabel Logged

abbrev LoopRun (initial : MainLoop) := LabelledMachine.Run MainLoop.step initial

def LoopLabel.isTurn : LoopLabel → Bool
  | .turn _ => true
  | _ => false

def turnsAt (phase : Phase) (transition : LoopTransition) : Bool :=
  transition.label.isTurn && decide (transition.source.phase = phase)

/-- The label that the gateway takes; a step that is none of its own leaves it alone. -/
def gatewayLabel (transition : LoopTransition) : Label :=
  let idle : Label := .pjsip transition.source.gateway.sip
  match transition.label with
  | .pjsip client => .pjsip client
  | .turn env =>
      match transition.source.phase with
      | .popInternal => .popInternal env
      | .popTelegram =>
          match transition.source.tgEvents.head?.bind Update.event? with
          | some event => .dispatch env event
          | none => idle
      | .popSip =>
          match transition.source.sipEvents.head? with
          | some event => .dispatch env event
          | none => idle
      | _ => idle
  | _ => idle

def shown (transition : LoopTransition) : Transition :=
  transition.image MainLoop.gateway gatewayLabel

theorem advance_some {loop target : MainLoop} {label : Label} {next : Phase}
    {output : List Logged} (fired : loop.advance label next = some (output, target)) :
    loop.gateway.step label = some (output, target.gateway) ∧
      target = { loop with gateway := target.gateway, phase := next } := by
  unfold MainLoop.advance at fired
  split at fired
  · cases fired
  · rename_i effects last stepped
    cases fired
    exact ⟨stepped, rfl⟩

inductive Turned (loop : MainLoop) (env : Env) : List Logged → MainLoop → Prop where
  | tested : loop.phase = .testFlag →
      Turned loop env [] { loop with phase := if loop.eFlag then .left else .popInternal }
  | internal {output : List Logged} {target : Gateway} : loop.phase = .popInternal →
      loop.gateway.step (.popInternal env) = some (output, target) →
      Turned loop env output { loop with gateway := target, phase := .popTelegram }
  | noTelegram : loop.phase = .popTelegram → loop.tgEvents = [] →
      Turned loop env [] { loop with phase := .popSip }
  | skipped {update : Update} {rest : List Update} : loop.phase = .popTelegram →
      loop.tgEvents = update :: rest → update.event? = none →
      Turned loop env [] { loop with tgEvents := rest, phase := .popSip }
  | telegram {update : Update} {rest : List Update} {event : Event} {output : List Logged}
      {target : Gateway} : loop.phase = .popTelegram → loop.tgEvents = update :: rest →
      update.event? = some event →
      loop.gateway.step (.dispatch env event) = some (output, target) →
      Turned loop env output
        { loop with gateway := target, tgEvents := rest, phase := .popSip }
  | noSip : loop.phase = .popSip → loop.sipEvents = [] →
      Turned loop env [] { loop with phase := .testFlag }
  | sip {event : Event} {rest : List Event} {output : List Logged} {target : Gateway} :
      loop.phase = .popSip → loop.sipEvents = event :: rest →
      loop.gateway.step (.dispatch env event) = some (output, target) →
      Turned loop env output
        { loop with gateway := target, sipEvents := rest, phase := .testFlag }

theorem turn_turned {loop target : MainLoop} {env : Env} {output : List Logged}
    (fired : loop.turn env = some (output, target)) : Turned loop env output target := by
  unfold MainLoop.turn at fired
  split at fired
  · rename_i phase
    cases fired
    exact .tested phase
  · rename_i phase
    obtain ⟨stepped, shape⟩ := advance_some fired
    rw [shape]
    exact .internal phase stepped
  · rename_i phase
    split at fired
    · rename_i empty
      cases fired
      exact .noTelegram phase empty
    · rename_i update rest queue
      split at fired
      · rename_i other
        cases fired
        exact .skipped phase queue other
      · rename_i event known
        obtain ⟨stepped, shape⟩ := advance_some fired
        rw [shape]
        exact .telegram phase queue known stepped
  · rename_i phase
    split at fired
    · rename_i empty
      cases fired
      exact .noSip phase empty
    · rename_i event rest queue
      obtain ⟨stepped, shape⟩ := advance_some fired
      rw [shape]
      exact .sip phase queue stepped
  · cases fired

/-- A step of the loop is a step of the gateway. -/
theorem loop_simulated (source : MainLoop) (label : LoopLabel) (output : List Logged)
    (target : MainLoop) (fired : source.step label = some (output, target)) :
    source.gateway.step (gatewayLabel ⟨source, label, output, target⟩) =
      some (output, target.gateway) := by
  cases label with
  | update update =>
      cases fired
      unfold gatewayLabel
      split <;> rfl
  | sipEvent event =>
      simp only [MainLoop.step] at fired
      split at fired
      · cases fired
        rfl
      · cases fired
  | pjsip client =>
      cases fired
      rfl
  | signal =>
      cases fired
      rfl
  | turn env =>
      cases turn_turned fired with
      | tested phase =>
          simp only [gatewayLabel, phase]
          rfl
      | internal phase stepped =>
          simp only [gatewayLabel, phase]
          exact stepped
      | noTelegram phase empty =>
          simp only [gatewayLabel, phase, empty, List.head?_nil, Option.bind_none]
          rfl
      | skipped phase queue other =>
          simp only [gatewayLabel, phase, queue, List.head?_cons, Option.bind_some, other]
          rfl
      | telegram phase queue known stepped =>
          simp only [gatewayLabel, phase, queue, List.head?_cons, Option.bind_some, known]
          exact stepped
      | noSip phase empty =>
          simp only [gatewayLabel, phase, empty, List.head?_nil]
          rfl
      | sip phase queue stepped =>
          simp only [gatewayLabel, phase, queue, List.head?_cons]
          exact stepped

/-! ### The three queues -/

open LabelledMachine (Queue history)

def telegramQueue : Queue MainLoop LoopLabel Logged Update where
  held := MainLoop.tgEvents
  arrivals transition :=
    match transition.label with
    | .update update => if update.isForwarded then [update] else []
    | _ => []
  departures transition :=
    if turnsAt .popTelegram transition then transition.source.tgEvents.take 1 else []

def sipQueue : Queue MainLoop LoopLabel Logged Event where
  held := MainLoop.sipEvents
  arrivals transition :=
    match transition.label with
    | .sipEvent event => [event]
    | _ => []
  departures transition :=
    if turnsAt .popSip transition then transition.source.sipEvents.take 1 else []

/-- `internal_events_`; an error arrives behind everything that was not popped. -/
def internalQueue : Queue MainLoop LoopLabel Logged InternalError where
  held loop := loop.gateway.internalEvents
  arrivals transition :=
    transition.target.gateway.internalEvents.drop
      (if turnsAt .popInternal transition then
        transition.source.gateway.internalEvents.length - 1
      else transition.source.gateway.internalEvents.length)
  departures transition :=
    if turnsAt .popInternal transition then transition.source.gateway.internalEvents.take 1
    else []

theorem turnsAt_other {label : LoopLabel} (other : label.isTurn = false) (phase : Phase)
    (source : MainLoop) (output : List Logged) (target : MainLoop) :
    turnsAt phase ⟨source, label, output, target⟩ = false := by
  rw [turnsAt, other, Bool.false_and]

theorem turnsAt_turn (phase : Phase) (source : MainLoop) (env : Env) (output : List Logged)
    (target : MainLoop) :
    turnsAt phase ⟨source, .turn env, output, target⟩ = decide (source.phase = phase) := by
  rw [turnsAt, LoopLabel.isTurn, Bool.true_and]

theorem telegram_conserved : telegramQueue.Conserved MainLoop.step := by
  intro source label output target fired
  cases label with
  | update update =>
      cases fired
      simp only [telegramQueue, turnsAt, LoopLabel.isTurn, Bool.false_and, Bool.false_eq_true,
        if_false, List.nil_append]
      split
      · rfl
      · exact List.append_nil _
  | sipEvent event =>
      simp only [MainLoop.step] at fired
      split at fired
      · cases fired
        exact List.append_nil _
      · cases fired
  | pjsip client =>
      cases fired
      exact List.append_nil _
  | signal =>
      cases fired
      exact List.append_nil _
  | turn env =>
      simp only [telegramQueue, turnsAt_turn, List.append_nil, decide_eq_true_eq]
      cases turn_turned fired with
      | tested phase => simp only [phase, reduceCtorEq, if_false, List.nil_append]
      | internal phase stepped => simp only [phase, reduceCtorEq, if_false, List.nil_append]
      | noTelegram phase empty => simp only [phase, if_true, empty, List.take_nil, List.append_nil]
      | skipped phase queue other =>
          rw [if_pos phase, queue]
          rfl
      | telegram phase queue known stepped =>
          rw [if_pos phase, queue]
          rfl
      | noSip phase empty => simp only [phase, reduceCtorEq, if_false, List.nil_append]
      | sip phase queue stepped => simp only [phase, reduceCtorEq, if_false, List.nil_append]

theorem sip_conserved : sipQueue.Conserved MainLoop.step := by
  intro source label output target fired
  cases label with
  | update update =>
      cases fired
      simp only [sipQueue, turnsAt, LoopLabel.isTurn, Bool.false_and, Bool.false_eq_true,
        if_false, List.nil_append, List.append_nil]
      split <;> rfl
  | sipEvent event =>
      simp only [MainLoop.step] at fired
      split at fired
      · cases fired
        rfl
      · cases fired
  | pjsip client =>
      cases fired
      exact List.append_nil _
  | signal =>
      cases fired
      exact List.append_nil _
  | turn env =>
      simp only [sipQueue, turnsAt_turn, List.append_nil, decide_eq_true_eq]
      cases turn_turned fired with
      | tested phase => simp only [phase, reduceCtorEq, if_false, List.nil_append]
      | internal phase stepped => simp only [phase, reduceCtorEq, if_false, List.nil_append]
      | noTelegram phase empty => simp only [phase, reduceCtorEq, if_false, List.nil_append]
      | skipped phase queue other => simp only [phase, reduceCtorEq, if_false, List.nil_append]
      | telegram phase queue known stepped =>
          simp only [phase, reduceCtorEq, if_false, List.nil_append]
      | noSip phase empty => simp only [phase, if_true, empty, List.take_nil, List.append_nil]
      | sip phase queue stepped =>
          rw [if_pos phase, queue]
          rfl

/-! ### What an event queues -/

theorem Life.errors_length {env : Env} {world : World} {state : SmState} {event : Event}
    {change : Change} (life : Life env world state event change) : change.errors.length ≤ 1 := by
  have failure : ∀ fault : Option Fault, (failureErrors fault).length ≤ 1 := by
    intro fault
    cases fault with
    | none => exact Nat.zero_le 1
    | some fault => exact Nat.le_refl 1
  cases life with
  | dialled => exact Nat.zero_le 1
  | undialled => exact Nat.le_refl 1
  | accepted parsed => exact failure _
  | badExtension bad => exact Nat.le_refl 1
  | answeredTg =>
      rw [World.moved, List.length_map]
      cases env.acceptCall.error? with
      | none => exact Nat.zero_le 1
      | some error => exact Nat.le_refl 1
  | readyTg ready => exact failure _
  | dialledTg traced =>
      rcases traced.outcome with ⟨userId, callId, member, stored, quiet⟩ | ⟨none, prm, queued⟩
      · rw [quiet]
        exact Nat.zero_le 1
      · rw [queued]
        exact Nat.le_refl 1
  | readySip ready => exact failure _
  | bridgedSip created => exact failure _
  | dtmf waiting digits found => exact Nat.zero_le 1
  | ignored unselected => exact Nat.zero_le 1
  | removed removal => exact Nat.zero_le 1

theorem Life.errors_of_internal {env : Env} {world : World} {state : SmState}
    {error : InternalError} {change : Change}
    (life : Life env world state (.internalError error) change) : change.errors = [] := by
  cases life with
  | ignored unselected => rfl
  | removed removal => rfl

/-- The queue is what was left in it and at most one error, under the id of a
context whose machine handled an event that was no error itself. -/
def RaisedBehind (left : List InternalError) (output : List Logged)
    (queue : List InternalError) : Prop :=
  ∃ errors : List InternalError, errors.length ≤ 1 ∧ queue = left ++ errors ∧
    ∀ error ∈ errors, ∃ event, (error.ctxId, Effect.handled event) ∈ output ∧
      ∀ earlier, event ≠ .internalError earlier

theorem RaisedBehind.quiet (queue : List InternalError) (output : List Logged) :
    RaisedBehind queue output queue := by
  refine ⟨[], Nat.zero_le 1, (List.append_nil queue).symm, ?_⟩
  intro error member
  cases member

theorem Life.raised {gateway base : Gateway} {env : Env} {event : Event} {change : Change}
    {before after : List Bridge} {bridge : Bridge} {announced : List Effect}
    (placed : Placed gateway env event before bridge after announced base)
    (life : Life env (base.world bridge.ctx) bridge.state event change) (marks : List Effect)
    (bridges : List Bridge) :
    RaisedBehind gateway.internalEvents
      (tagged bridge.ctx.id (stageEffects announced event change.effects marks))
      (base.settle bridge.ctx.id change bridges).internalEvents := by
  refine ⟨change.errors.map (InternalError.mk bridge.ctx.id), ?_, ?_, ?_⟩
  · rw [List.length_map]
    exact life.errors_length
  · rw [← placed.internalEvents_eq]
    rfl
  · intro error member
    obtain ⟨prm, queued, rfl⟩ := List.mem_map.mp member
    refine ⟨event, ?_, ?_⟩
    · apply List.mem_map_of_mem
      exact List.mem_append_right _ List.mem_cons_self
    · intro earlier same
      subst same
      rw [life.errors_of_internal] at queued
      cases queued

theorem Processed.raised {gateway target : Gateway} {env : Env} {event : Event}
    {effects : List Logged} (processed : Processed gateway env event effects target) :
    RaisedBehind gateway.internalEvents effects target.internalEvents := by
  cases processed with
  | unrouted closed unknown => exact RaisedBehind.quiet _ _
  | kept placed life stays => exact life.raised placed [] _
  | removed placed life closed => exact life.raised placed [.deleted] _

theorem dispatch_raised {gateway target : Gateway} {env : Env} {event : Event}
    {output : List Logged} (stepped : gateway.step (.dispatch env event) = some (output, target)) :
    RaisedBehind gateway.internalEvents output target.internalEvents := by
  cases step_stepped stepped with
  | event offered processed =>
      cases offered with
      | dispatch => exact processed.raised

theorem popInternal_raised {gateway target : Gateway} {env : Env} {output : List Logged}
    (stepped : gateway.step (.popInternal env) = some (output, target)) :
    RaisedBehind (gateway.internalEvents.drop 1) output target.internalEvents := by
  cases step_stepped stepped with
  | idle empty =>
      rw [empty]
      exact RaisedBehind.quiet _ _
  | event offered processed =>
      cases offered with
      | popInternal queue =>
          rw [queue]
          exact processed.raised

def leftInternal (transition : LoopTransition) : List InternalError :=
  if turnsAt .popInternal transition then transition.source.gateway.internalEvents.drop 1
  else transition.source.gateway.internalEvents

theorem loop_raised {source target : MainLoop} {label : LoopLabel} {output : List Logged}
    (fired : source.step label = some (output, target)) :
    RaisedBehind (leftInternal ⟨source, label, output, target⟩) output
      target.gateway.internalEvents := by
  cases label with
  | update update =>
      cases fired
      simp only [leftInternal, turnsAt, LoopLabel.isTurn, Bool.false_and, Bool.false_eq_true,
        if_false]
      split <;> exact RaisedBehind.quiet _ _
  | sipEvent event =>
      simp only [MainLoop.step] at fired
      split at fired
      · cases fired
        exact RaisedBehind.quiet _ _
      · cases fired
  | pjsip client =>
      cases fired
      exact RaisedBehind.quiet _ _
  | signal =>
      cases fired
      exact RaisedBehind.quiet _ _
  | turn env =>
      rw [leftInternal, turnsAt_turn]
      cases turn_turned fired with
      | tested phase =>
          simp only [phase, reduceCtorEq, decide_false, Bool.false_eq_true, if_false]
          exact RaisedBehind.quiet _ _
      | internal phase stepped =>
          simp only [phase, decide_true, if_true]
          exact popInternal_raised stepped
      | noTelegram phase empty =>
          simp only [phase, reduceCtorEq, decide_false, Bool.false_eq_true, if_false]
          exact RaisedBehind.quiet _ _
      | skipped phase queue other =>
          simp only [phase, reduceCtorEq, decide_false, Bool.false_eq_true, if_false]
          exact RaisedBehind.quiet _ _
      | telegram phase queue known stepped =>
          simp only [phase, reduceCtorEq, decide_false, Bool.false_eq_true, if_false]
          exact dispatch_raised stepped
      | noSip phase empty =>
          simp only [phase, reduceCtorEq, decide_false, Bool.false_eq_true, if_false]
          exact RaisedBehind.quiet _ _
      | sip phase queue stepped =>
          simp only [phase, reduceCtorEq, decide_false, Bool.false_eq_true, if_false]
          exact dispatch_raised stepped

theorem take_append_leftInternal (transition : LoopTransition) :
    internalQueue.departures transition ++ leftInternal transition =
      transition.source.gateway.internalEvents := by
  unfold leftInternal internalQueue
  dsimp only
  split
  · exact List.take_append_drop 1 _
  · rfl

theorem internalQueue_arrivals {transition : LoopTransition} {errors : List InternalError}
    (shape : transition.target.gateway.internalEvents = leftInternal transition ++ errors) :
    internalQueue.arrivals transition = errors := by
  have long : (leftInternal transition).length =
      if turnsAt .popInternal transition then
        transition.source.gateway.internalEvents.length - 1
      else transition.source.gateway.internalEvents.length := by
    unfold leftInternal
    split
    · rw [List.length_drop]
    · rfl
  have dropped := @List.drop_left _ (leftInternal transition) errors
  rw [long, ← shape] at dropped
  exact dropped

theorem internal_conserved : internalQueue.Conserved MainLoop.step := by
  intro source label output target fired
  obtain ⟨errors, few, shape, named⟩ := loop_raised fired
  rw [internalQueue_arrivals shape]
  have front := take_append_leftInternal ⟨source, label, output, target⟩
  calc source.gateway.internalEvents ++ errors
      = internalQueue.departures ⟨source, label, output, target⟩ ++
          leftInternal ⟨source, label, output, target⟩ ++ errors := by rw [front]
    _ = internalQueue.departures ⟨source, label, output, target⟩ ++
          target.gateway.internalEvents := by rw [shape, List.append_assoc]

def Label.event? : Label → Option Event
  | .dispatch _ event => some event
  | _ => none

def dispatchedAt (phase : Phase) (transition : LoopTransition) : List Event :=
  if turnsAt phase transition then (gatewayLabel transition).event?.toList else []

def LoopLabel.update? : LoopLabel → Option Update
  | .update received => some received
  | _ => none

def LoopLabel.sipEvent? : LoopLabel → Option Event
  | .sipEvent queued => some queued
  | _ => none

theorem dispatchedAt_telegram (transition : LoopTransition) :
    (telegramQueue.departures transition).filterMap Update.event? =
      dispatchedAt .popTelegram transition := by
  obtain ⟨source, label, output, target⟩ := transition
  cases label with
  | turn env =>
      simp only [telegramQueue, dispatchedAt, turnsAt_turn, decide_eq_true_eq]
      split
      · rename_i phase
        simp only [gatewayLabel, phase]
        cases source.tgEvents with
        | nil => rfl
        | cons update rest =>
            rw [List.head?_cons, Option.bind_some]
            cases known : update.event? with
            | none => simp [known, Label.event?]
            | some event => simp [known, Label.event?]
      · rfl
  | _ => rfl

theorem dispatchedAt_sip (transition : LoopTransition) :
    sipQueue.departures transition = dispatchedAt .popSip transition := by
  obtain ⟨source, label, output, target⟩ := transition
  cases label with
  | turn env =>
      simp only [sipQueue, dispatchedAt, turnsAt_turn, decide_eq_true_eq]
      split
      · rename_i phase
        simp only [gatewayLabel, phase]
        cases source.sipEvents with
        | nil => rfl
        | cons event rest => rfl
      · rfl
  | _ => rfl

theorem received_telegram (transition : LoopTransition) :
    (telegramQueue.arrivals transition).filterMap Update.event? =
      (transition.label.update?.bind Update.event?).toList := by
  obtain ⟨source, label, output, target⟩ := transition
  cases label with
  | update update => cases update <;> rfl
  | _ => rfl

theorem received_sip (transition : LoopTransition) :
    sipQueue.arrivals transition = transition.label.sipEvent?.toList := by
  obtain ⟨source, label, output, target⟩ := transition
  cases label <;> rfl

/-- A run of the loop is a run of the gateway inside, which is given the calls
and messages that TDLib reported and the events of pjsip, each once and in the
order of its queue. -/
structure Delivers (start : MainLoop) (taken : List LoopTransition) (state : MainLoop) :
    Prop where
  simulated : Run start.gateway (taken.map shown) state.gateway
  effects : history (taken.map shown) = history taken
  telegram : start.tgEvents.filterMap Update.event? ++
      taken.filterMap (fun transition => transition.label.update?.bind Update.event?) =
    taken.flatMap (dispatchedAt .popTelegram) ++ state.tgEvents.filterMap Update.event?
  sip : start.sipEvents ++ taken.filterMap (fun transition => transition.label.sipEvent?) =
    taken.flatMap (dispatchedAt .popSip) ++ state.sipEvents

theorem loop_delivers {start state : MainLoop} {taken : List LoopTransition}
    (run : LoopRun start taken state) : Delivers start taken state := by
  constructor
  · exact run.image MainLoop.gateway gatewayLabel loop_simulated
  · exact LabelledMachine.history_image MainLoop.gateway gatewayLabel taken
  · have whole := congrArg (List.filterMap Update.event?) (run.conserved telegram_conserved)
    rw [List.filterMap_append, List.filterMap_append, List.filterMap_flatMap,
      List.filterMap_flatMap, funext received_telegram, funext dispatchedAt_telegram] at whole
    rw [List.filterMap_eq_flatMap_toList _ taken]
    exact whole
  · have whole := run.conserved sip_conserved
    rw [funext received_sip, funext dispatchedAt_sip] at whole
    rw [List.filterMap_eq_flatMap_toList]
    exact whole

/-- Every error that a machine queues is popped once, in the order in which
they were queued; one step queues at most one, under the id of a context that
handled an event in that step. -/
theorem internal_errors_are_popped_once {start state : MainLoop} {taken : List LoopTransition}
    (run : LoopRun start taken state) :
    start.gateway.internalEvents ++ taken.flatMap internalQueue.arrivals =
        taken.flatMap internalQueue.departures ++ state.gateway.internalEvents ∧
      ∀ transition ∈ taken, (internalQueue.arrivals transition).length ≤ 1 ∧
        ∀ error ∈ internalQueue.arrivals transition,
          ∃ event, (error.ctxId, Effect.handled event) ∈ transition.output ∧
            ∀ earlier, event ≠ .internalError earlier := by
  refine ⟨run.conserved internal_conserved, ?_⟩
  intro transition member
  obtain ⟨before, after, shape, reached, fired⟩ := run.split member
  obtain ⟨errors, few, queue, named⟩ := loop_raised fired
  rw [internalQueue_arrivals queue]
  exact ⟨few, named⟩

def MainLoop.sample : MainLoop := MainLoop.initial Gateway.sample [] []

def LoopLabel.failing : List LoopLabel :=
  .sipEvent (.incomingCall 5 "!!") :: List.replicate 4 (.turn Env.sample)

theorem loop_delivers_failing :
    ∃ taken state, Delivers MainLoop.sample taken state ∧
      state.gateway.internalEvents.length = 1 := by
  have replayed : LabelledMachine.replay MainLoop.step MainLoop.sample LoopLabel.failing =
    some (_, _) := rfl
  exact ⟨_, _, loop_delivers (LabelledMachine.Run.of_replay replayed), rfl⟩

theorem failing_error_is_popped_once :
    ∃ (taken : List LoopTransition) (state : MainLoop),
      taken.flatMap internalQueue.arrivals =
        taken.flatMap internalQueue.departures ++ state.gateway.internalEvents ∧
      state.gateway.internalEvents.length = 1 := by
  have replayed : LabelledMachine.replay MainLoop.step MainLoop.sample LoopLabel.failing =
    some (_, _) := rfl
  exact ⟨_, _,
    (internal_errors_are_popped_once (LabelledMachine.Run.of_replay replayed)).1, rfl⟩

end Tg2Sip.Cpp
