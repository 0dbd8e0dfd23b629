/-
What becomes of a SIP request.

Every request has a handler of its own, and a handler takes one course from
its first stage.  A request with a transaction is answered exactly once, at the
end of its handler, and an ACK never; a request within a dialog queues its two
events exactly once.  The channels keep the order of what is sent, so that the
loop receives each event once and in turn.
-/

import Tg2Sip.Go.Course
import Tg2Sip.Go.LifeCycle
import Tg2Sip.Lib.Fifo

namespace Tg2Sip.Go

variable {request : Request} {stage middle next last : Stage} {step : HandlerStep}
  {steps later : List HandlerStep}

theorem Course.append (course : Course request stage steps middle)
    (rest : Course request middle later last) : Course request stage (steps ++ later) last := by
  induction course with
  | nil => exact rest
  | cons takes _ ih => exact .cons takes (ih rest)

theorem Stepped.handlers_length {gateway target : Gateway} {label : Label} {output : List Output}
    (stepped : Stepped gateway label output target) :
    gateway.handlers.length ≤ target.handlers.length := by
  cases stepped with
  | request =>
      rw [List.length_append]
      exact Nat.le_add_right _ _
  | handler found handled =>
      dsimp only
      rw [List.length_set]
      exact Nat.le_of_eq (congrArg List.length handled.handlers_eq.symm)
  | loop advanced => exact Nat.le_of_eq (congrArg List.length advanced.handlers_eq.symm)
  | @response callID tag =>
      obtain ⟨sessions, same⟩ := tagRemote_eq gateway callID tag
      exact Nat.le_of_eq (by rw [same])
  | _ => exact Nat.le_refl _

theorem ownSteps_unborn {initial gateway : Gateway} {taken : List Transition}
    (run : Run initial taken gateway) {index : Nat}
    (unborn : gateway.handlers.length ≤ index) : ownSteps index taken = [] := by
  induction run with
  | nil => rfl
  | @snoc taken source target label output earlier fired ih =>
      have before := Nat.le_trans (step_stepped fired).handlers_length unborn
      have missing := List.getElem?_eq_none before
      have other : ∀ answers, label ≠ .handler index answers := by
        rintro answers rfl
        obtain ⟨handler, stage, moved, found, _⟩ := handler_fired fired
        rw [missing] at found
        cases found
      unfold ownSteps
      rw [List.filterMap_append, List.filterMap_cons_none (handlerStep_of_other other),
        List.filterMap_nil, List.append_nil]
      exact ih before

theorem Stepped.born {gateway target : Gateway} {label : Label} {output : List Output}
    (stepped : Stepped gateway label output target) {index : Nat} {handler : Handler}
    (missing : gateway.handlers[index]? = none) (found : target.handlers[index]? = some handler) :
    handler.stage = handler.request.start ∧ ∀ answers, label ≠ .handler index answers := by
  have none : gateway.handlers.length ≤ index := List.getElem?_eq_none_iff.mp missing
  have grown := (List.getElem?_eq_some_iff.mp found).1
  cases stepped with
  | request =>
      rw [List.getElem?_append_right none] at found
      rw [List.length_append, List.length_singleton] at grown
      have last : index - gateway.handlers.length = 0 := by omega
      rw [last] at found
      cases found
      refine ⟨rfl, ?_⟩
      intro answers same
      cases same
  | handler existing handled =>
      dsimp only at grown
      rw [List.length_set, handled.handlers_eq] at grown
      exact absurd grown (Nat.not_lt.mpr none)
  | loop advanced =>
      rw [advanced.handlers_eq] at grown
      exact absurd grown (Nat.not_lt.mpr none)
  | @response callID tag =>
      obtain ⟨sessions, same⟩ := tagRemote_eq gateway callID tag
      rw [same] at grown
      exact absurd grown (Nat.not_lt.mpr none)
  | _ => exact absurd grown (Nat.not_lt.mpr none)

theorem handler_course {extraWait peerFlood : Int} {taken : List Transition} {gateway : Gateway}
    (run : Run (Gateway.initial extraWait peerFlood) taken gateway) {index : Nat}
    {handler : Handler} (found : gateway.handlers[index]? = some handler) :
    Course handler.request handler.request.start (ownSteps index taken) handler.stage := by
  induction run generalizing handler with
  | nil => cases found
  | @snoc taken source target label output earlier fired ih =>
      cases before : source.handlers[index]? with
      | none =>
          obtain ⟨starts, other⟩ := (step_stepped fired).born before found
          have unborn := ownSteps_unborn earlier (List.getElem?_eq_none_iff.mp before)
          unfold ownSteps at unborn ⊢
          rw [List.filterMap_append, unborn,
            List.filterMap_cons_none (handlerStep_of_other other), starts]
          exact .nil
      | some old =>
          have step : Run source [⟨source, label, output, target⟩] target :=
            LabelledMachine.Run.snoc LabelledMachine.Run.nil fired
          obtain ⟨now, foundAgain, rest⟩ := run_course step (show source.handlers[index]? =
            some ⟨old.request, old.stage⟩ from before)
          obtain rfl := Option.some.inj (found.symm.trans foundAgain)
          have course := (ih before).append rest
          unfold ownSteps at course ⊢
          rw [List.filterMap_append]
          exact course

def Request.owed (request : Request) : Nat :=
  if request.hasTx = true ∧ request.method ≠ .ack then 1 else 0

/-- An ACK never comes to an answer. -/
def Request.mayAnswer (request : Request) : Stage → Prop
  | .sendingEvent => True
  | .sendingInternal => True
  | .done => True
  | _ => request.method ≠ .ack

structure Answering (request : Request) (steps : List HandlerStep) (stage : Stage) : Prop where
  allowed : request.mayAnswer stage
  answered : (responses steps).length = if stage = .done then request.owed else 0

theorem start_answering (request : Request) : Answering request [] request.start where
  allowed := by
    unfold Request.start
    cases method : request.method with
    | invite =>
        change request.method ≠ .ack
        rw [method]
        decide
    | _ => trivial
  answered := by
    unfold Request.start
    cases request.method <;> rfl

theorem HandlerStep.Takes.mayAnswer (takes : step.Takes request stage next)
    (allowed : request.mayAnswer stage) : request.mayAnswer next := by
  by_cases ack : request.method = .ack
  · cases stage with
    | sendingEvent =>
        obtain rfl := takes.follows rfl
        trivial
    | sendingInternal =>
        obtain rfl := takes.follows rfl
        unfold Request.afterSends
        rw [ack]
        trivial
    | done =>
        obtain ⟨_, moved, handlers, handles, _⟩ := takes
        cases handles
    | _ => exact absurd ack allowed
  · unfold Request.mayAnswer
    split
    · trivial
    · trivial
    · trivial
    · exact ack

theorem onError_ne_done (gateway : Gateway) (error : TgError) {otherwise : Stage}
    (goesOn : otherwise ≠ .done) : gateway.onError error otherwise ≠ .done := by
  unfold Gateway.onError
  split
  · exact nofun
  · exact goesOn

/-- A handler ends with its answer, or is the one of an ACK. -/
theorem HandlerStep.Takes.ends (takes : step.Takes request stage .done)
    (allowed : request.mayAnswer stage) :
    (∃ status reason, stage = .responding status reason) ∨ request.method = .ack := by
  have goes := takes.goes
  cases stage with
  | responding status reason => exact .inl ⟨status, reason, rfl⟩
  | sendingInternal =>
      have same := takes.follows rfl
      unfold Request.afterSends at same
      cases method : request.method with
      | ack => exact .inr rfl
      | _ =>
          rw [method] at same
          cases same
  | unblocking | registering | sendingEvent | tracking =>
      have same := takes.follows rfl
      cases same
  | checking =>
      rcases takes.checked with same | ⟨reason, same⟩
      · cases same
      · cases same
  | parsing | resolving =>
      unfold Gateway.handle at goes
      dsimp only at goes
      split at goes
      · exact absurd (Option.some.inj goes) (onError_ne_done _ _ nofun)
      · cases goes
      · cases goes
  | creating userID =>
      unfold Gateway.handle at goes
      dsimp only at goes
      split at goes
      · exact absurd (Option.some.inj goes) (onError_ne_done _ _ nofun)
      · cases goes
  | blocking wait => cases goes
  | done => cases goes

theorem Answering.after (answering : Answering request steps stage)
    (takes : step.Takes request stage next) : Answering request (steps ++ [step]) next where
  allowed := takes.mayAnswer answering.allowed
  answered := by
    have unfinished : stage ≠ .done := by
      rintro rfl
      obtain ⟨_, moved, handlers, handles, _⟩ := takes
      cases handles
    have before := answering.answered
    rw [if_neg unfinished] at before
    unfold responses at before ⊢
    rw [List.flatMap_append, List.flatMap_singleton, List.length_append, before, Nat.zero_add]
    cases responding : stage.responds with
    | true =>
        cases stage with
        | responding status reason =>
            have mayAnswer : request.method ≠ .ack := answering.allowed
            obtain ⟨told, rfl⟩ := takes.told
            rw [told, if_pos rfl]
            unfold Request.told Request.owed
            cases transaction : request.hasTx with
            | true =>
                rw [if_pos rfl, if_pos ⟨rfl, mayAnswer⟩]
                rfl
            | false =>
                rw [if_neg Bool.false_ne_true, if_neg (fun both => Bool.false_ne_true both.1)]
                rfl
        | _ => cases responding
    | false =>
        rw [takes.quietly responding, List.length_nil]
        by_cases ended : next = .done
        · subst ended
          have ack : request.method = .ack := by
            rcases takes.ends answering.allowed with ⟨status, reason, rfl⟩ | ack
            · cases responding
            · exact ack
          rw [if_pos rfl]
          unfold Request.owed
          rw [if_neg (fun both => both.2 ack)]
        · rw [if_neg ended]

theorem Answering.along (course : Course request middle later last)
    (answering : Answering request steps middle) :
    Answering request (steps ++ later) last := by
  induction course generalizing steps with
  | nil =>
      rw [List.append_nil]
      exact answering
  | cons takes _ ih =>
      have next := ih (answering.after takes)
      rw [List.append_assoc] at next
      exact next

/-- Every request with a transaction is answered exactly once, by the last step
of its handler, and an ACK is not answered at all. -/
theorem requests_are_answered_once {extraWait peerFlood : Int} {taken : List Transition}
    {gateway : Gateway} (run : Run (Gateway.initial extraWait peerFlood) taken gateway)
    {index : Nat} {handler : Handler} (found : gateway.handlers[index]? = some handler) :
    (responses (ownSteps index taken)).length =
      if handler.stage = .done then
        if handler.request.hasTx = true ∧ handler.request.method ≠ .ack then 1 else 0
      else 0 := by
  have answering := Answering.along (handler_course run found) (start_answering handler.request)
  exact answering.answered

def plainBye : Request := { method := .bye, callID := "a" }

def byeHandled : List Label :=
  [.request plainBye, .handler 0 {}, .handler 0 {}, .handler 0 {}, .receiveInternal]

theorem bye_is_answered :
    ∃ taken gateway, Run (Gateway.initial 0 0) taken gateway ∧
      (responses (ownSteps 0 taken)).length = 1 := by
  have replayed : (LabelledMachine.replay Gateway.step (Gateway.initial 0 0) byeHandled).map
      (fun reached => reached.2.handlers) = some [⟨plainBye, .done⟩] := rfl
  obtain ⟨taken, gateway, run, handlers⟩ := LabelledMachine.Run.of_replay_map replayed
  have found : gateway.handlers[0]? = some ⟨plainBye, .done⟩ := by
    dsimp only at handlers
    rw [handlers]
    rfl
  exact ⟨taken, gateway, run, requests_are_answered_once run found⟩

/-! ### Two events -/

def Stage.announces (request : Request) : Stage → Option GatewayEvent
  | .sendingEvent => some request.event
  | _ => none

def Loop.announces : Loop → Option GatewayEvent
  | .sendingEvent call _ => some (.callState call.key "outgoing")
  | _ => none

def Gateway.announced (gateway : Gateway) : Label → Option GatewayEvent
  | .handler index _ =>
      gateway.handlers[index]?.bind (fun handler => handler.stage.announces handler.request)
  | .loop _ => gateway.loop.announces
  | _ => none

def eventQueue : LabelledMachine.Queue Gateway Label Output GatewayEvent where
  held gateway := gateway.events.buffer
  arrivals transition := (transition.source.announced transition.label).toList
  departures transition :=
    match transition.label with
    | .receiveEvent => transition.source.events.buffer.take 1
    | _ => []

def internalQueue : LabelledMachine.Queue Gateway Label Output InternalEvent where
  held gateway := gateway.internalEvents.buffer
  arrivals transition := (transition.source.queued transition.label).toList
  departures transition :=
    match transition.label with
    | .receiveInternal => transition.source.internalEvents.buffer.take 1
    | _ => []

theorem Stage.queues_of_early {stage : Stage} (early : stage.isLate = false)
    (request : Request) : stage.queues request = none ∧ stage.announces request = none := by
  cases stage with
  | sendingEvent | sendingInternal | tracking => cases early
  | _ => exact ⟨rfl, rfl⟩

theorem Handled.buffers {gateway target : Gateway} {answers : Answers} {handler : Handler}
    {output : List Output} {after : Stage}
    (handled : Handled gateway answers handler output after target) :
    target.events.buffer =
        gateway.events.buffer ++ (handler.stage.announces handler.request).toList ∧
      target.internalEvents.buffer =
        gateway.internalEvents.buffer ++ (handler.stage.queues handler.request).toList := by
  cases handled with
  | alone blockUntil spoken early late =>
      obtain ⟨quiet, silent⟩ := Stage.queues_of_early early handler.request
      rw [quiet, silent]
      exact ⟨(List.append_nil _).symm, (List.append_nil _).symm⟩
  | registered position | tracked position =>
      rw [position]
      exact ⟨(List.append_nil _).symm, (List.append_nil _).symm⟩
  | sentEvent position sends =>
      rw [position]
      exact ⟨Channel.send_buffer sends, (List.append_nil _).symm⟩
  | sentInternal position sends =>
      rw [position]
      exact ⟨(List.append_nil _).symm, Channel.send_buffer sends⟩

theorem Advanced.buffers {gateway target : Gateway} {answers : Answers} {loop : Loop}
    {output : List Output} (advanced : Advanced gateway answers loop output target) :
    target.events.buffer = gateway.events.buffer ++ loop.announces.toList ∧
      target.internalEvents.buffer = gateway.internalEvents.buffer ++ loop.queues.toList := by
  cases advanced with
  | sentEvent sends => exact ⟨Channel.send_buffer sends, (List.append_nil _).symm⟩
  | sentInternal sends => exact ⟨(List.append_nil _).symm, Channel.send_buffer sends⟩
  | _ => exact ⟨(List.append_nil _).symm, (List.append_nil _).symm⟩

theorem Stepped.buffers {gateway target : Gateway} {label : Label} {output : List Output}
    (stepped : Stepped gateway label output target) (noEvent : label ≠ .receiveEvent)
    (noInternal : label ≠ .receiveInternal) :
    target.events.buffer = gateway.events.buffer ++ (gateway.announced label).toList ∧
      target.internalEvents.buffer =
        gateway.internalEvents.buffer ++ (gateway.queued label).toList := by
  cases stepped with
  | @handler index answers handler output stage target found handled =>
      unfold Gateway.announced Gateway.queued
      dsimp only
      rw [found, Option.bind_some, Option.bind_some]
      exact handled.buffers
  | receiveEvent => exact absurd rfl noEvent
  | receiveInternal => exact absurd rfl noInternal
  | loop advanced => exact advanced.buffers
  | @response callID tag =>
      obtain ⟨sessions, same⟩ := tagRemote_eq gateway callID tag
      rw [same]
      exact ⟨(List.append_nil _).symm, (List.append_nil _).symm⟩
  | _ => exact ⟨(List.append_nil _).symm, (List.append_nil _).symm⟩

theorem eventQueue_conserved : eventQueue.Conserved Gateway.step := by
  intro source label output target fired
  have stepped := step_stepped fired
  unfold eventQueue
  dsimp only
  cases label with
  | receiveEvent =>
      cases stepped with
      | receiveEvent waiting receives =>
          rw [Channel.receive_buffer receives]
          exact List.append_nil _
  | receiveInternal =>
      cases stepped with
      | receiveInternal waiting receives => exact List.append_nil _
  | _ => exact (stepped.buffers nofun nofun).1.symm

theorem internalQueue_conserved : internalQueue.Conserved Gateway.step := by
  intro source label output target fired
  have stepped := step_stepped fired
  unfold internalQueue
  dsimp only
  cases label with
  | receiveEvent =>
      cases stepped with
      | receiveEvent waiting receives => exact List.append_nil _
  | receiveInternal =>
      cases stepped with
      | receiveInternal waiting receives =>
          rw [Channel.receive_buffer receives]
          exact List.append_nil _
  | _ => exact (stepped.buffers nofun nofun).2.symm

def announcements (request : Request) (steps : List HandlerStep) : List GatewayEvent :=
  steps.filterMap (fun step => step.stage.announces request)

def queuedEvents (request : Request) (steps : List HandlerStep) : List InternalEvent :=
  steps.filterMap (fun step => step.stage.queues request)

theorem HandlerStep.Takes.sends (takes : step.Takes request stage next) :
    announcements request (step :: steps) =
        (stage.announces request).toList ++ announcements request steps ∧
      queuedEvents request (step :: steps) =
        (stage.queues request).toList ++ queuedEvents request steps := by
  unfold announcements queuedEvents
  rw [List.filterMap_cons, List.filterMap_cons, takes.1]
  constructor
  · cases stage.announces request with
    | none => rfl
    | some event => rfl
  · cases stage.queues request with
    | none => rfl
    | some event => rfl

/-- A handler that is about to answer, or has ended, sends nothing more. -/
theorem Course.ends_quietly (course : Course request stage steps last)
    (ending : stage = .done ∨ stage.responds = true) :
    (announcements request steps = [] ∧ queuedEvents request steps = []) ∧
      last.isLate = false := by
  cases course with
  | nil =>
      refine ⟨⟨rfl, rfl⟩, ?_⟩
      rcases ending with rfl | responding
      · rfl
      · cases stage with
        | responding => rfl
        | _ => cases responding
  | @cons _ next _ step rest takes later =>
      cases stage with
      | responding status reason =>
          obtain ⟨_, rfl⟩ := takes.told
          obtain rfl := later.of_done
          have ended : last = .done := by
            cases later
            rfl
          rw [takes.sends.1, takes.sends.2, ended]
          exact ⟨⟨rfl, rfl⟩, rfl⟩
      | done =>
          obtain ⟨_, moved, handlers, handles, _⟩ := takes
          cases handles
      | _ => rcases ending with ended | ended <;> cases ended

/-- A request within a dialog sends its two events, and in this order. -/
theorem Course.sends (within : request.method ≠ .invite)
    (course : Course request .sendingEvent steps last) :
    announcements request steps = (if last = .sendingEvent then [] else [request.event]) ∧
      queuedEvents request steps = (if last.isLate then [] else [request.internalEvent]) := by
  cases course with
  | nil => exact ⟨rfl, rfl⟩
  | cons announcing course =>
      obtain rfl := announcing.follows rfl
      rw [announcing.sends.1, announcing.sends.2]
      cases course with
      | nil => exact ⟨rfl, rfl⟩
      | cons queueing course =>
          obtain rfl := queueing.follows rfl
          have ending : request.afterSends = .done ∨ request.afterSends.responds = true := by
            unfold Request.afterSends
            cases method : request.method with
            | invite => exact absurd method within
            | ack => exact .inl rfl
            | _ => exact .inr rfl
          obtain ⟨⟨announced, queued⟩, ended⟩ := course.ends_quietly ending
          have notFirst : last ≠ .sendingEvent := by
            rintro rfl
            cases ended
          rw [queueing.sends.1, queueing.sends.2, announced, queued, if_neg notFirst, ended]
          exact ⟨rfl, rfl⟩

theorem start_within (within : request.method ≠ .invite) : request.start = .sendingEvent := by
  unfold Request.start
  cases method : request.method with
  | invite => exact absurd method within
  | _ => rfl

/-- The loop receives what was sent on the two channels, in the order in which
it was sent, and every request within a dialog sends each of its two events
exactly once. -/
theorem requests_are_delivered_in_order {extraWait peerFlood : Int} {taken : List Transition}
    {gateway : Gateway} (run : Run (Gateway.initial extraWait peerFlood) taken gateway) :
    (taken.flatMap eventQueue.arrivals =
        taken.flatMap eventQueue.departures ++ gateway.events.buffer ∧
      taken.flatMap internalQueue.arrivals =
        taken.flatMap internalQueue.departures ++ gateway.internalEvents.buffer) ∧
      ∀ index handler, gateway.handlers[index]? = some handler →
        handler.request.method ≠ .invite →
        announcements handler.request (ownSteps index taken) =
            (if handler.stage = .sendingEvent then [] else [handler.request.event]) ∧
          queuedEvents handler.request (ownSteps index taken) =
            (if handler.stage.isLate then [] else [handler.request.internalEvent]) := by
  refine ⟨⟨run.conserved eventQueue_conserved, run.conserved internalQueue_conserved⟩, ?_⟩
  intro index handler found within
  have course := handler_course run found
  rw [start_within within] at course
  exact course.sends within

theorem bye_is_delivered :
    ∃ taken gateway, Run (Gateway.initial 0 0) taken gateway ∧
      queuedEvents plainBye (ownSteps 0 taken) = [⟨"a", .cleanup⟩] ∧
      taken.flatMap internalQueue.arrivals = taken.flatMap internalQueue.departures := by
  have replayed : (LabelledMachine.replay Gateway.step (Gateway.initial 0 0) byeHandled).map
      (fun reached => (reached.2.handlers, reached.2.internalEvents.buffer)) =
        some ([⟨plainBye, .done⟩], []) := rfl
  obtain ⟨taken, gateway, run, summary⟩ := LabelledMachine.Run.of_replay_map replayed
  obtain ⟨handlers, empty⟩ := Prod.mk.inj summary
  have found : gateway.handlers[0]? = some ⟨plainBye, .done⟩ := by
    rw [handlers]
    rfl
  have delivered := requests_are_delivered_in_order run
  have inOrder := delivered.1.2
  rw [empty, List.append_nil] at inOrder
  exact ⟨taken, gateway, run, (delivered.2 0 _ found nofun).2, inOrder⟩

end Tg2Sip.Go
