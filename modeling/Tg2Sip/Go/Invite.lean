/-
All or nothing.

An INVITE whose user is found and whose Telegram call is created leaves a
`Context`, a session and an event behind, and any other one leaves nothing but
a response.  A `createTelegramCall` that fails without a flood error is only
logged, and the call is registered as if it had been created.
-/

import Tg2Sip.Go.Course

namespace Tg2Sip.Go

variable {request : Request} {stage next : Stage} {step : HandlerStep}
  {steps : List HandlerStep} {userID : Int} {result : Except TgError Int}

/-- The headers or the extension led to the user, and the call was created. -/
def Succeeded (userID : Int) (steps : List HandlerStep) : Prop :=
  (∃ step ∈ steps, step.resolves = some userID) ∧
    ∃ step ∈ steps, ∃ id, step.creates = some (.ok id)

structure HandlerStep.AddsContext (request : Request) (userID : Int) (step : HandlerStep) :
    Prop where
  unknown : step.source.calls.lookup request.callID = none
  calls : step.target.calls =
    step.source.calls.insert request.callID step.source.contexts.length
  contexts : step.target.contexts = step.source.contexts ++ [request.context userID]

structure HandlerStep.AddsSession (request : Request) (step : HandlerStep) : Prop where
  unknown : step.source.sessions.lookup request.callID = none
  sessions : step.target.sessions = step.source.sessions.insert request.callID request.session

def HandlerStep.QueuesIncoming (request : Request) (step : HandlerStep) : Prop :=
  step.target.internalEvents.buffer =
    step.source.internalEvents.buffer ++ [⟨request.callID, .incoming⟩]

/-- One step does it, and every other one keeps the part. -/
def Once (part : Part) (does : HandlerStep → Prop) (steps : List HandlerStep) : Prop :=
  ∃ before step after, steps = before ++ step :: after ∧ does step ∧
    ∀ other ∈ before ++ after, other.Keeps part

theorem HandlerStep.Takes.registers (takes : step.Takes request (.registering userID) next) :
    step.target.calls = step.source.calls.insert request.callID step.source.contexts.length ∧
      step.target.contexts = step.source.contexts ++ [request.context userID] := by
  obtain ⟨_, moved, handlers, handles, same⟩ := takes
  unfold Gateway.handle at handles
  dsimp only at handles
  split at handles
  · cases handles
  · obtain ⟨_, rest⟩ := Prod.mk.inj (Option.some.inj handles)
    obtain ⟨_, rfl⟩ := Prod.mk.inj rest
    rw [same]
    exact ⟨rfl, rfl⟩

theorem HandlerStep.Takes.tracks (takes : step.Takes request .tracking next) :
    step.target.sessions = step.source.sessions.insert request.callID request.session := by
  obtain ⟨_, moved, handlers, handles, same⟩ := takes
  obtain ⟨_, rest⟩ := Prod.mk.inj (Option.some.inj handles)
  obtain ⟨_, rfl⟩ := Prod.mk.inj rest
  rw [same]

theorem HandlerStep.Takes.queues (invite : request.method = .invite)
    (takes : step.Takes request .sendingInternal next) : step.QueuesIncoming request := by
  obtain ⟨_, moved, handlers, handles, same⟩ := takes
  have incoming : request.internalEvent = ⟨request.callID, .incoming⟩ := by
    unfold Request.internalEvent
    rw [invite]
  unfold Gateway.handle at handles
  dsimp only at handles
  split at handles
  · cases handles
  · rename_i sent sends
    obtain ⟨_, rest⟩ := Prod.mk.inj (Option.some.inj handles)
    obtain ⟨_, rfl⟩ := Prod.mk.inj rest
    rw [incoming] at sends
    unfold HandlerStep.QueuesIncoming
    rw [same]
    exact Channel.send_buffer sends

theorem HandlerStep.AddsContext.changes (adds : step.AddsContext request userID) :
    ¬step.Keeps .calls := by
  intro kept
  have length := congrArg List.length (adds.contexts.symm.trans kept.2)
  rw [List.length_append, List.length_singleton] at length
  omega

theorem HandlerStep.AddsSession.changes (adds : step.AddsSession request) :
    ¬step.Keeps .sessions := by
  intro kept
  have found : (step.source.sessions.insert request.callID request.session).lookup
      request.callID = some request.session := AList.lookup_insert step.source.sessions
  have same : step.target.sessions = step.source.sessions := kept
  rw [← adds.sessions, same, adds.unknown] at found
  cases found

def Part.writer (userID : Int) : Part → Stage
  | .calls => .registering userID
  | .sessions => .tracking
  | .events => .sendingEvent
  | .internalEvents => .sendingInternal

structure HandlerStep.Beside (part : Part) (step : HandlerStep) : Prop where
  untouching : step.stage.touches ≠ some part
  keeps : step.Keeps part

theorem HandlerStep.Takes.beside (takes : step.Takes request stage next) {part : Part}
    (untouching : stage.touches ≠ some part) : step.Beside part where
  untouching := by
    rw [takes.1]
    exact untouching
  keeps := takes.keeps untouching

theorem HandlerStep.Quiet.beside (quiet : step.Quiet) (part : Part) : step.Beside part where
  untouching := by
    rw [quiet.untouching]
    exact nofun
  keeps := quiet.keeps part

theorem forall_mem_four {Item : Type} {property : Item → Prop} {first second third fourth : Item}
    (isFirst : property first) (isSecond : property second) (isThird : property third)
    (isFourth : property fourth) : ∀ item ∈ [first, second, third, fourth], property item := by
  intro item member
  simp only [List.mem_cons, List.not_mem_nil, or_false] at member
  rcases member with rfl | rfl | rfl | rfl
  · exact isFirst
  · exact isSecond
  · exact isThird
  · exact isFourth

theorem Registration.once (registration : Registration request userID steps) (part : Part) :
    ∃ before step after next, steps = before ++ step :: after ∧
      step.Takes request (part.writer userID) next ∧
      ∀ other ∈ before ++ after, other.Beside part := by
  cases registration with
  | @mk register event internal track respond registering sendingEvent sendingInternal tracking
      responding =>
      cases part with
      | calls =>
          refine ⟨[], register, [event, internal, track, respond], _, rfl, registering, ?_⟩
          exact forall_mem_four (sendingEvent.beside nofun) (sendingInternal.beside nofun)
            (tracking.beside nofun) (responding.beside nofun)
      | events =>
          refine ⟨[register], event, [internal, track, respond], _, rfl, sendingEvent, ?_⟩
          exact forall_mem_four (registering.beside nofun) (sendingInternal.beside nofun)
            (tracking.beside nofun) (responding.beside nofun)
      | internalEvents =>
          refine ⟨[register, event], internal, [track, respond], _, rfl, sendingInternal, ?_⟩
          exact forall_mem_four (registering.beside nofun) (sendingEvent.beside nofun)
            (tracking.beside nofun) (responding.beside nofun)
      | sessions =>
          refine ⟨[register, event, internal], track, [respond], _, rfl, tracking, ?_⟩
          exact forall_mem_four (registering.beside nofun) (sendingEvent.beside nofun)
            (sendingInternal.beside nofun) (responding.beside nofun)

theorem Registered.once {resolved : List Int}
    (registered : Registered request userID resolved result steps) (part : Part) :
    ∃ before step after next, steps = before ++ step :: after ∧
      step.Takes request (part.writer userID) next ∧
      ∀ other ∈ before ++ after, other.Beside part := by
  obtain ⟨early, late, rfl, quiet, registration⟩ := registered.shape
  obtain ⟨before, step, after, next, rfl, takes, beside⟩ := registration.once part
  refine ⟨early ++ before, step, after, next, (List.append_assoc _ _ _).symm, takes, ?_⟩
  intro other member
  rw [List.append_assoc] at member
  rcases List.mem_append.mp member with isEarly | isLate
  · exact (quiet other isEarly).beside part
  · exact beside other isLate

theorem Registered.does {resolved : List Int} {part : Part} {does : HandlerStep → Prop}
    (registered : Registered request userID resolved result steps)
    (changes : ∀ step, does step → ¬step.Keeps part) (once : Once part does steps)
    (member : step ∈ steps) (touches : step.stage.touches = some part) : does step := by
  obtain ⟨before, only, after, next, rfl, takes, beside⟩ := registered.once part
  have isOnly : ∀ other ∈ before ++ only :: after, ¬other.Beside part → other = only := by
    intro other present changed
    rcases List.mem_append.mp present with earlier | later
    · exact absurd (beside other (List.mem_append_left _ earlier)) changed
    · rcases List.mem_cons.mp later with same | last
      · exact same
      · exact absurd (beside other (List.mem_append_right _ last)) changed
  obtain ⟨first, doer, rest, shape, done, _⟩ := once
  have doerMember : doer ∈ before ++ only :: after := by
    rw [shape]
    exact List.mem_append_right _ List.mem_cons_self
  rw [isOnly step member (fun same => same.untouching touches)]
  rw [← isOnly doer doerMember (fun same => changes doer done same.keeps)]
  exact done

theorem mem_creates (member : step ∈ steps) (creates : step.creates = some result) :
    result ∈ steps.filterMap HandlerStep.creates :=
  List.mem_filterMap.mpr ⟨step, member, creates⟩

theorem Succeeded.created (succeeded : Succeeded userID steps) :
    ∃ id, .ok id ∈ steps.filterMap HandlerStep.creates := by
  obtain ⟨_, step, member, id, creates⟩ := succeeded
  exact ⟨id, mem_creates member creates⟩

theorem Registered.succeeded {id : Int}
    (registered : Registered request userID [userID] (.ok id) steps) :
    Succeeded userID steps := by
  constructor
  · have resolved : userID ∈ steps.filterMap HandlerStep.resolves := by
      rw [registered.resolves]
      exact List.mem_singleton_self userID
    exact List.mem_filterMap.mp resolved
  · have created : (.ok id : Except TgError Int) ∈ steps.filterMap HandlerStep.creates := by
      rw [registered.creates]
      exact List.mem_singleton_self _
    obtain ⟨step, member, creates⟩ := List.mem_filterMap.mp created
    exact ⟨step, member, id, creates⟩

theorem Registered.told {resolved : List Int}
    (registered : Registered request userID resolved result steps) :
    responses steps = request.told statusTrying := by
  obtain ⟨early, late, rfl, quiet, registration⟩ := registered.shape
  have silent : early.flatMap HandlerStep.responses = [] := by
    rw [List.flatMap_eq_nil_iff]
    exact fun step member => (quiet step member).silent
  unfold responses
  rw [List.flatMap_append, silent, List.nil_append]
  exact registration.facts.2.2

end Tg2Sip.Go
