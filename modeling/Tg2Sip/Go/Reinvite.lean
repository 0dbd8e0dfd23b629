/-
A repeated INVITE.

Nothing in `handleInvite` asks whether the Call-ID is already a key of
`g.calls`.  An INVITE within a dialog is spared a second Telegram call, and the
call its `Context` and its session, exactly when it is turned away before a
user is found for it.
-/

import Tg2Sip.Go.Course

namespace Tg2Sip.Go

variable {request : Request} {stage next last : Stage} {step : HandlerStep}
  {steps : List HandlerStep} {userID : Int}

/-- The steps start no call and leave alone what is kept under the Call-ID,
now and when the loop gets to the events that they queue. -/
structure Undisturbed (request : Request) (steps : List HandlerStep) : Prop where
  uncreated : ∀ step ∈ steps, ∀ callID userID result,
    Output.createCall callID userID result ∉ step.output
  inPlace : ∀ step ∈ steps,
    step.target.calls.lookup request.callID = step.source.calls.lookup request.callID
  context : ∀ step ∈ steps,
    step.target.lookup request.callID = step.source.lookup request.callID
  session : ∀ step ∈ steps,
    step.target.sessions.lookup request.callID = step.source.sessions.lookup request.callID
  unqueued : ∀ step ∈ steps, step.target.internalEvents = step.source.internalEvents

/-- A run from a reachable state that carries an INVITE through whose Call-ID
is already a key of `g.calls`. -/
structure RepeatedInvite (request : Request) (index : Nat) (source state : Gateway)
    (taken : List Transition) : Prop where
  reachable : ∃ extraWait peerFlood earlier,
    Run (Gateway.initial extraWait peerFlood) earlier source
  invite : request.method = .invite
  known : (source.calls.lookup request.callID).isSome
  starts : source.handlers[index]? = some ⟨request, .checking⟩
  run : Run source taken state
  ends : state.handlers[index]? = some ⟨request, .done⟩

def Stage.isUserless : Stage → Bool
  | .checking => true
  | .parsing => true
  | .resolving => true
  | .blocking _ => true
  | .responding _ _ => true
  | .done => true
  | _ => false

theorem onError_isUserless (gateway : Gateway) (error : TgError) :
    (gateway.onError error internalError).isUserless = true := by
  unfold Gateway.onError
  split <;> rfl

theorem HandlerStep.Takes.isUserless (takes : step.Takes request stage next)
    (userless : stage.isUserless = true) (unresolved : step.resolves = none) :
    next.isUserless = true := by
  have goes := takes.goes
  unfold Gateway.handle at goes
  dsimp only at goes
  cases stage with
  | checking =>
      rcases takes.checked with same | ⟨reason, same⟩
      · rw [same]
        exact rfl
      · rw [same]
        exact rfl
  | parsing | resolving =>
      cases takes.searches rfl with
      | failed => exact onError_isUserless _ _
      | missed => exact rfl
      | found resolves =>
          rw [unresolved] at resolves
          cases resolves
  | blocking wait =>
      cases goes
      exact rfl
  | responding status reason =>
      cases goes
      exact rfl
  | done => cases goes
  | _ => cases userless

theorem HandlerStep.Takes.creates_output (takes : step.Takes request (.creating userID) next) :
    Output.createCall request.callID userID step.answers.createCall ∈ step.output := by
  obtain ⟨_, moved, handlers, handles, _⟩ := takes
  obtain ⟨said, _⟩ := Prod.mk.inj (Option.some.inj handles)
  rw [← said]
  exact List.mem_singleton_self _

theorem Handled.userless_output {gateway target : Gateway} {answers : Answers}
    {handler : Handler} {output : List Output} {after : Stage}
    (handled : Handled gateway answers handler output after target)
    (userless : handler.stage.isUserless = true) (callID : String)
    (result : Except TgError Int) : Output.createCall callID userID result ∉ output := by
  intro member
  cases handled with
  | alone _ spoken =>
      cases spoken with
      | nothing => cases member
      | created position =>
          rw [position] at userless
          cases userless
      | responded => cases List.mem_singleton.mp member
  | registered position | sentEvent position | sentInternal position | tracked position =>
      rw [position] at userless
      cases userless

theorem isUserless_touches (userless : stage.isUserless = true) : stage.touches = none := by
  cases stage with
  | registering | sendingEvent | sendingInternal | tracking => cases userless
  | _ => exact rfl

theorem Course.userless (course : Course request stage steps last)
    (userless : stage.isUserless = true) (unresolved : ∀ step ∈ steps, step.resolves = none) :
    ∀ step ∈ steps, ∃ stage next, step.Takes request stage next ∧ stage.isUserless = true := by
  induction course with
  | nil =>
      intro step member
      cases member
  | @cons stage next last step rest takes later ih =>
      obtain ⟨here, there⟩ := List.forall_mem_cons.mp unresolved
      intro other member
      rcases List.mem_cons.mp member with rfl | inRest
      · exact ⟨stage, next, takes, userless⟩
      · exact ih (takes.isUserless userless here) there other inRest

theorem Course.undisturbed (course : Course request stage steps last)
    (userless : stage.isUserless = true) (unresolved : ∀ step ∈ steps, step.resolves = none) :
    Undisturbed request steps := by
  have turnedAway := course.userless userless unresolved
  have keeps : ∀ step ∈ steps, ∀ part, step.Keeps part := by
    intro step member part
    obtain ⟨stage, next, takes, needsNone⟩ := turnedAway step member
    apply takes.keeps
    rw [isUserless_touches needsNone]
    exact nofun
  constructor
  · intro step member callID userID result
    obtain ⟨stage, next, ⟨_, moved, handlers, handles, _⟩, needsNone⟩ := turnedAway step member
    exact (handle_handled handles).userless_output needsNone callID result
  · intro step member
    rw [(keeps step member .calls).1]
  · intro step member
    obtain ⟨calls, contexts⟩ := keeps step member .calls
    unfold Gateway.lookup
    rw [calls, contexts]
  · intro step member
    have same : step.target.sessions = step.source.sessions := keeps step member .sessions
    rw [same]
  · intro step member
    exact keeps step member .internalEvents

theorem HandlerStep.Takes.resolved (takes : step.Takes request stage next)
    (resolves : step.resolves = some userID) : next = .creating userID := by
  have looks : ∃ unfound, stage.unfound = some unfound := by
    unfold HandlerStep.resolves at resolves
    rw [takes.1] at resolves
    cases stage with
    | parsing | resolving => exact ⟨_, rfl⟩
    | _ => cases resolves
  obtain ⟨unfound, looks⟩ := looks
  cases takes.searches looks with
  | failed unresolved | missed unresolved =>
      rw [resolves] at unresolved
      cases unresolved
  | found again =>
      rw [resolves] at again
      cases again
      exact rfl

theorem Course.creates_resolved (course : Course request stage steps .done)
    (member : step ∈ steps) (resolves : step.resolves = some userID) :
    ∃ creating ∈ steps, ∃ result,
      Output.createCall request.callID userID result ∈ creating.output := by
  generalize ended : Stage.done = last at course
  induction course with
  | nil => cases member
  | @cons stage next last first rest takes later ih =>
      obtain rfl := ended
      rcases List.mem_cons.mp member with rfl | inRest
      · obtain rfl := takes.resolved resolves
        obtain ⟨creating, tail, after, rfl, creates, _⟩ := later.head nofun
        refine ⟨creating, ?_, _, creates.creates_output⟩
        exact List.mem_cons_of_mem _ List.mem_cons_self
      · obtain ⟨creating, present, result, created⟩ := ih inRest rfl
        exact ⟨creating, List.mem_cons_of_mem _ present, result, created⟩

/-- A repeated INVITE disturbs nothing exactly when no user is found for it. -/
theorem repeated_invite_undisturbed_iff {index : Nat} {source state : Gateway}
    {taken : List Transition} (repeated : RepeatedInvite request index source state taken) :
    Undisturbed request (ownSteps index taken) ↔
      ∀ step ∈ ownSteps index taken, step.resolves = none := by
  obtain ⟨now, found, course⟩ := run_course repeated.run repeated.starts
  rw [repeated.ends] at found
  cases found
  constructor
  · intro undisturbed step member
    apply Option.eq_none_iff_forall_ne_some.mpr
    intro userID resolves
    obtain ⟨creating, present, result, created⟩ := course.creates_resolved member resolves
    exact undisturbed.uncreated creating present _ userID result created
  · exact course.undisturbed rfl

def sampleReinvite : Request := { method := .invite, callID := "a" }

/-- An INVITE, its ACK and an INFO of the peer, up to a call that waits for
digits, and the same INVITE once more. -/
def sampleHeld : List Label :=
  [Label.request sampleReinvite, .handler 0 {}, .handler 0 { parse := .ok (some 11) },
    .handler 0 { createCall := .ok 9 }] ++ List.replicate 6 (.handler 0 {}) ++
    [.receiveInternal, .loop {}, .loop {}, .request { method := .info, callID := "a" },
      .handler 1 {}, .handler 1 {}, .receiveInternal, .loop {}, .loop {},
      .request sampleReinvite]

def Gateway.held : Gateway :=
  match LabelledMachine.replay Gateway.step (Gateway.initial 0 0) sampleHeld with
  | some (_, state) => state
  | none => Gateway.initial 0 0

theorem held_reachable : ∃ taken, Run (Gateway.initial 0 0) taken Gateway.held := by
  have replayed : LabelledMachine.replay Gateway.step (Gateway.initial 0 0) sampleHeld =
      some (_, Gateway.held) := rfl
  exact ⟨_, LabelledMachine.Run.of_replay replayed⟩

theorem unresolved_of_all (checked : steps.all (fun step => step.resolves.isNone) = true) :
    ∀ step ∈ steps, step.resolves = none := by
  rw [List.all_eq_true] at checked
  intro step member
  exact Option.isNone_iff_eq_none.mp (checked step member)

/-- The same extension leads to nobody any more. -/
theorem repeated_invite_undisturbed_when_unknown :
    ∃ state taken, RepeatedInvite sampleReinvite 2 Gateway.held state taken ∧
      Undisturbed sampleReinvite (ownSteps 2 taken) := by
  have replayed : LabelledMachine.replay Gateway.step Gateway.held
      (List.replicate 4 (Label.handler 2 {})) = some (_, _) := rfl
  have repeated : RepeatedInvite sampleReinvite 2 Gateway.held _ _ :=
    ⟨⟨0, 0, held_reachable⟩, rfl, rfl, rfl, LabelledMachine.Run.of_replay replayed, rfl⟩
  refine ⟨_, _, repeated, (repeated_invite_undisturbed_iff repeated).mpr ?_⟩
  exact unresolved_of_all rfl

/-- The user is found again. -/
theorem repeated_invite_calls_again :
    ¬∀ request index source state taken, RepeatedInvite request index source state taken →
      Undisturbed request (ownSteps index taken) := by
  intro always
  have replayed : LabelledMachine.replay Gateway.step Gateway.held
      ([Label.handler 2 {}, .handler 2 { parse := .ok (some 11) },
        .handler 2 { createCall := .ok 10 }] ++ List.replicate 6 (Label.handler 2 {})) =
        some (_, _) := rfl
  have repeated : RepeatedInvite sampleReinvite 2 Gateway.held _ _ :=
    ⟨⟨0, 0, held_reachable⟩, rfl, rfl, rfl, LabelledMachine.Run.of_replay replayed, rfl⟩
  have uncreated := (always _ _ _ _ _ repeated).uncreated
  apply uncreated _ (List.mem_cons_of_mem _ (List.mem_cons_of_mem _ List.mem_cons_self)) "a" 11
    (.ok 10)
  exact List.mem_singleton_self _

end Tg2Sip.Go
