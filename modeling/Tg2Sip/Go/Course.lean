/-
One SIP handler among the other goroutines.

Anything may happen between two steps of a handler, so that what a handler
does is what its own steps do.  A `Course` is a handler from one stage to a
later one, with the state behind each step left to the others.  An INVITE that
ends was refused, or has registered its call.
-/

import Tg2Sip.Go.Steps

namespace Tg2Sip.Go

structure HandlerStep where
  stage : Stage
  answers : Answers
  source : Gateway
  output : List Output
  target : Gateway

/-- What the handlers share with the loop and with the SIP client. -/
inductive Part where
  | calls
  | sessions
  | events
  | internalEvents
  deriving DecidableEq, Repr

def Gateway.Kept (source target : Gateway) : Part → Prop
  | .calls => target.calls = source.calls ∧ target.contexts = source.contexts
  | .sessions => target.sessions = source.sessions
  | .events => target.events = source.events
  | .internalEvents => target.internalEvents = source.internalEvents

def HandlerStep.Keeps (step : HandlerStep) (part : Part) : Prop :=
  step.source.Kept step.target part

def Output.status? : Output → Option Nat
  | .respond _ status _ => some status
  | _ => none

def HandlerStep.responses (step : HandlerStep) : List Nat := step.output.filterMap Output.status?

def HandlerStep.resolves (step : HandlerStep) : Option Int :=
  match step.stage, step.answers.parse, step.answers.resolve with
  | .parsing, .ok (some userID), _ => some userID
  | .resolving, _, .ok (some userID) => some userID
  | _, _, _ => none

def HandlerStep.creates (step : HandlerStep) : Option (Except TgError Int) :=
  match step.stage with
  | .creating _ => some step.answers.createCall
  | _ => none

/-- The handler of the request goes from the first stage to the second one. -/
def HandlerStep.Takes (request : Request) (stage next : Stage) (step : HandlerStep) : Prop :=
  step.stage = stage ∧ ∃ moved handlers,
    step.source.handle step.answers ⟨request, stage⟩ = some (step.output, next, moved) ∧
      step.target = { moved with handlers := handlers }

inductive Course (request : Request) : Stage → List HandlerStep → Stage → Prop where
  | nil {stage : Stage} : Course request stage [] stage
  | cons {stage next last : Stage} {step : HandlerStep} {rest : List HandlerStep} :
      step.Takes request stage next → Course request next rest last →
      Course request stage (step :: rest) last

def HandlerStep.of (index : Nat) (transition : Transition) : Option HandlerStep :=
  match transition with
  | ⟨source, .handler moving answers, output, target⟩ =>
      if moving = index then
        source.handlers[index]?.map (fun handler =>
          ⟨handler.stage, answers, source, output, target⟩)
      else none
  | _ => none

def ownSteps (index : Nat) (taken : List Transition) : List HandlerStep :=
  taken.filterMap (HandlerStep.of index)

variable {request : Request} {stage next last : Stage} {step : HandlerStep}
  {steps rest : List HandlerStep}

theorem Course.snoc (course : Course request stage steps next)
    (takes : step.Takes request next last) : Course request stage (steps ++ [step]) last := by
  induction course with
  | nil => exact .cons takes .nil
  | cons first _ ih => exact .cons first (ih takes)

theorem handlerStep_of_own {index : Nat} {answers : Answers} {source target : Gateway}
    {output : List Output} {handler : Handler}
    (found : source.handlers[index]? = some handler) :
    HandlerStep.of index ⟨source, .handler index answers, output, target⟩ =
      some ⟨handler.stage, answers, source, output, target⟩ := by
  unfold HandlerStep.of
  dsimp only
  rw [if_pos rfl, found, Option.map_some]

theorem handlerStep_of_other {index : Nat} {source target : Gateway} {label : Label}
    {output : List Output} (other : ∀ answers, label ≠ .handler index answers) :
    HandlerStep.of index ⟨source, label, output, target⟩ = none := by
  cases label with
  | handler moving answers =>
      have different : moving ≠ index := by
        intro same
        apply other answers
        rw [same]
      exact if_neg different
  | _ => exact rfl

/-- A run moves a handler along one course. -/
theorem run_course {initial state : Gateway} {taken : List Transition}
    (run : Run initial taken state) {index : Nat}
    (starts : initial.handlers[index]? = some ⟨request, stage⟩) :
    ∃ now, state.handlers[index]? = some ⟨request, now⟩ ∧
      Course request stage (ownSteps index taken) now := by
  induction run with
  | nil => exact ⟨stage, starts, .nil⟩
  | @snoc taken source target label output earlier fired ih =>
      obtain ⟨now, found, course⟩ := ih
      unfold ownSteps at course ⊢
      rw [List.filterMap_append]
      by_cases own : ∃ answers, label = .handler index answers
      · obtain ⟨answers, rfl⟩ := own
        obtain ⟨handler, after, moved, foundAgain, handles, rfl⟩ := handler_fired fired
        obtain rfl := Option.some.inj (found.symm.trans foundAgain)
        have inside : index < moved.handlers.length := by
          rw [(handle_handled handles).handlers_eq]
          exact (List.getElem?_eq_some_iff.mp found).1
        refine ⟨after, List.getElem?_set_self inside, ?_⟩
        rw [List.filterMap_cons_some (handlerStep_of_own found), List.filterMap_nil]
        exact course.snoc ⟨rfl, moved, _, handles, rfl⟩
      · have other : ∀ answers, label ≠ .handler index answers := not_exists.mp own
        refine ⟨now, (step_stepped fired).handler_kept found other, ?_⟩
        rw [List.filterMap_cons_none (handlerStep_of_other other), List.filterMap_nil,
          List.append_nil]
        exact course

def Stage.touches : Stage → Option Part
  | .registering _ => some .calls
  | .sendingEvent => some .events
  | .sendingInternal => some .internalEvents
  | .tracking => some .sessions
  | _ => none

def Stage.responds : Stage → Bool
  | .responding _ _ => true
  | _ => false

theorem Handled.kept {gateway target : Gateway} {answers : Answers} {handler : Handler}
    {output : List Output} {after : Stage}
    (handled : Handled gateway answers handler output after target) {part : Part}
    (untouched : handler.stage.touches ≠ some part) : gateway.Kept target part := by
  cases handled with
  | alone =>
      cases part with
      | calls => exact ⟨rfl, rfl⟩
      | _ => exact rfl
  | registered position =>
      rw [position] at untouched
      cases part with
      | calls => exact absurd rfl untouched
      | _ => exact rfl
  | sentEvent position =>
      rw [position] at untouched
      cases part with
      | calls => exact ⟨rfl, rfl⟩
      | events => exact absurd rfl untouched
      | _ => exact rfl
  | sentInternal position =>
      rw [position] at untouched
      cases part with
      | calls => exact ⟨rfl, rfl⟩
      | internalEvents => exact absurd rfl untouched
      | _ => exact rfl
  | tracked position =>
      rw [position] at untouched
      cases part with
      | calls => exact ⟨rfl, rfl⟩
      | sessions => exact absurd rfl untouched
      | _ => exact rfl

theorem HandlerStep.Takes.keeps (takes : step.Takes request stage next) {part : Part}
    (untouched : stage.touches ≠ some part) : step.Keeps part := by
  obtain ⟨_, moved, handlers, handles, same⟩ := takes
  have kept := (handle_handled handles).kept untouched
  unfold HandlerStep.Keeps
  rw [same]
  cases part <;> exact kept

/-- Only the last step of a handler responds. -/
theorem handle_silent {gateway moved : Gateway} {answers : Answers} {output : List Output}
    (handles : gateway.handle answers ⟨request, stage⟩ = some (output, next, moved))
    (unanswered : stage.responds = false) : output.filterMap Output.status? = [] := by
  unfold Gateway.handle at handles
  dsimp only at handles
  cases stage with
  | responding status reason => cases unanswered
  | done => cases handles
  | parsing | resolving =>
      dsimp only at handles
      split at handles <;> (cases handles; rfl)
  | sendingEvent | sendingInternal | registering =>
      dsimp only at handles
      split at handles <;> cases handles
      rfl
  | _ =>
      cases handles
      rfl

theorem HandlerStep.Takes.quietly (takes : step.Takes request stage next)
    (unanswered : stage.responds = false) : step.responses = [] := by
  obtain ⟨_, moved, handlers, handles, _⟩ := takes
  exact handle_silent handles unanswered

/-- A step that nobody but the handler notices, `createTelegramCall` apart. -/
structure HandlerStep.Quiet (step : HandlerStep) : Prop where
  untouching : step.stage.touches = none
  keeps : ∀ part, step.Keeps part
  silent : step.responses = []

theorem HandlerStep.Takes.quiet (takes : step.Takes request stage next)
    (untouching : stage.touches = none) (unanswered : stage.responds = false) : step.Quiet where
  untouching := by rw [takes.1, untouching]
  keeps := by
    intro part
    apply takes.keeps
    rw [untouching]
    exact nofun
  silent := takes.quietly unanswered

/-! ### A handler ends -/

def Stage.left : Stage → Nat
  | .checking => 10
  | .parsing => 9
  | .resolving => 8
  | .creating _ => 7
  | .blocking _ => 6
  | .unblocking _ => 6
  | .registering _ => 5
  | .sendingEvent => 4
  | .sendingInternal => 3
  | .tracking => 2
  | .responding _ _ => 1
  | .done => 0

theorem onError_left_lt {gateway : Gateway} {error : TgError} {otherwise : Stage} {bound : Nat}
    (blocking : 6 < bound) (less : otherwise.left < bound) :
    (gateway.onError error otherwise).left < bound := by
  unfold Gateway.onError
  split
  · exact blocking
  · exact less

theorem HandlerStep.Takes.goes (takes : step.Takes request stage next) :
    (step.source.handle step.answers ⟨request, stage⟩).map (fun taken => taken.2.1) =
      some next := by
  obtain ⟨_, moved, handlers, handles, _⟩ := takes
  rw [handles, Option.map_some]

/-- The check lets the handler in, or has it answer with 503. -/
theorem HandlerStep.Takes.checked (takes : step.Takes request .checking next) :
    next = .parsing ∨ ∃ reason, next = .responding statusServiceUnavailable reason := by
  have checked : (step.source.checkBlock step.answers.now).1 = next := Option.some.inj takes.goes
  rcases checkBlock_cases step.source step.answers.now with ⟨same, _⟩ | ⟨deadline, _, _, same⟩
  · rw [same] at checked
    exact .inl checked.symm
  · rw [same] at checked
    exact .inr ⟨_, checked.symm⟩

theorem HandlerStep.Takes.left_lt (takes : step.Takes request stage next) :
    next.left < stage.left := by
  have goes := takes.goes
  unfold Gateway.handle at goes
  dsimp only at goes
  cases stage with
  | checking =>
      rcases takes.checked with same | ⟨reason, same⟩
      · rw [same]
        simp only [Stage.left, Nat.reduceLT]
      · rw [same]
        simp only [Stage.left, Nat.reduceLT]
  | parsing | resolving =>
      dsimp only at goes
      split at goes
      · obtain rfl := Option.some.inj goes
        exact onError_left_lt (by decide) (by decide)
      · cases goes
        simp only [Stage.left, Nat.reduceLT]
      · cases goes
        simp only [Stage.left, Nat.reduceLT]
  | creating userID =>
      cases answer : step.answers.createCall with
      | error error =>
          rw [answer] at goes
          obtain rfl := Option.some.inj goes
          exact onError_left_lt (Nat.lt_add_one 6) (Nat.lt_add_one_of_lt (Nat.lt_add_one 5))
      | ok id =>
          rw [answer] at goes
          cases goes
          simp only [Stage.left, Nat.reduceLT]
  | registering | sendingEvent =>
      dsimp only at goes
      split at goes
      · cases goes
      · cases goes
        simp only [Stage.left, Nat.reduceLT]
  | sendingInternal =>
      dsimp only at goes
      split at goes
      · cases goes
      · cases goes
        unfold Request.afterSends
        cases request.method <;> simp only [Stage.left, Nat.reduceLT]
  | done => cases goes
  | _ =>
      cases goes
      simp only [Stage.left, Nat.reduceLT]

def Stage.unfound : Stage → Option Stage
  | .parsing => some .resolving
  | .resolving => some (.responding statusNotFound "Not Found")
  | _ => none

inductive HandlerStep.Searches (step : HandlerStep) (unfound : Stage) : Stage → Prop where
  | failed {error : TgError} : step.resolves = none →
      HandlerStep.Searches step unfound (step.source.onError error internalError)
  | missed : step.resolves = none → HandlerStep.Searches step unfound unfound
  | found {userID : Int} : step.resolves = some userID →
      HandlerStep.Searches step unfound (.creating userID)

theorem HandlerStep.Takes.searches (takes : step.Takes request stage next) {unfound : Stage}
    (looks : stage.unfound = some unfound) : step.Searches unfound next := by
  have goes := takes.goes
  have position := takes.1
  unfold Gateway.handle at goes
  cases stage with
  | parsing | resolving =>
      cases looks
      dsimp only at goes
      split at goes
      · rename_i error answer
        obtain rfl := Option.some.inj goes
        exact .failed (by rw [HandlerStep.resolves, position, answer])
      · rename_i answer
        obtain rfl := Option.some.inj goes
        exact .missed (by rw [HandlerStep.resolves, position, answer])
      · rename_i userID answer
        obtain rfl := Option.some.inj goes
        exact .found (by rw [HandlerStep.resolves, position, answer])
  | _ => cases looks

theorem Course.length_le (course : Course request stage steps last) :
    steps.length + last.left ≤ stage.left := by
  induction course with
  | nil => exact Nat.le_of_eq (Nat.zero_add _)
  | cons takes _ ih =>
      have later := takes.left_lt
      rw [List.length_cons]
      omega

/-- A handler waits for the mutex, for a free slot, and for nothing else. -/
theorem handle_eq_none_iff {gateway : Gateway} {answers : Answers} {handler : Handler} :
    gateway.handle answers handler = none ↔
      match handler.stage with
      | .registering _ => gateway.loop.locks = true
      | .sendingEvent => gateway.events.free = 0
      | .sendingInternal => gateway.internalEvents.free = 0
      | .done => True
      | _ => False := by
  unfold Gateway.handle
  cases handler.stage with
  | parsing | resolving =>
      dsimp only
      split <;> simp only [reduceCtorEq]
  | registering userID =>
      dsimp only
      split
      · exact iff_of_true rfl ‹_›
      · exact iff_of_false nofun ‹_›
  | sendingEvent =>
      dsimp only
      have full : gateway.events.send handler.request.event = none ↔ gateway.events.free = 0 :=
        Channel.send_eq_none_iff
      rw [← full]
      split
      · exact iff_of_true rfl ‹_›
      · rename_i sent sends
        rw [sends]
        simp only [reduceCtorEq]
  | sendingInternal =>
      dsimp only
      have full : gateway.internalEvents.send handler.request.internalEvent = none ↔
          gateway.internalEvents.free = 0 := Channel.send_eq_none_iff
      rw [← full]
      split
      · exact iff_of_true rfl ‹_›
      · rename_i sent sends
        rw [sends]
        simp only [reduceCtorEq]
  | done => simp only
  | _ => simp only [reduceCtorEq]

theorem Course.head (course : Course request stage steps .done) (unfinished : stage ≠ .done) :
    ∃ step rest next, steps = step :: rest ∧ step.Takes request stage next ∧
      Course request next rest .done := by
  cases course with
  | nil => exact absurd rfl unfinished
  | cons takes later => exact ⟨_, _, _, rfl, takes, later⟩

theorem Course.of_done (course : Course request .done steps last) : steps = [] := by
  cases course with
  | nil => rfl
  | cons takes later =>
      obtain ⟨_, moved, handlers, handles, _⟩ := takes
      cases handles

/-! ### An INVITE that ends -/

def responses (steps : List HandlerStep) : List Nat := steps.flatMap HandlerStep.responses

def Request.told (request : Request) (status : Nat) : List Nat :=
  if request.hasTx then [status] else []

structure Refused (request : Request) (steps : List HandlerStep) : Prop where
  untouching : ∀ step ∈ steps, step.stage.touches = none
  keeps : ∀ step ∈ steps, ∀ part, step.Keeps part
  answered : ∃ status, 400 ≤ status ∧ responses steps = request.told status
  created : ∀ result ∈ steps.filterMap HandlerStep.creates, ∃ error flood,
    result = .error error ∧ parseFloodError error = some flood

/-- The last five steps of an INVITE whose call is registered. -/
inductive Registration (request : Request) (userID : Int) : List HandlerStep → Prop where
  | mk {register event internal track respond : HandlerStep} :
      register.Takes request (.registering userID) .sendingEvent →
      event.Takes request .sendingEvent .sendingInternal →
      internal.Takes request .sendingInternal .tracking →
      track.Takes request .tracking (.responding statusTrying "Trying") →
      respond.Takes request (.responding statusTrying "Trying") .done →
      Registration request userID [register, event, internal, track, respond]

/-- The call of the user is registered behind a `createTelegramCall` whose
result did not stop the handler. -/
structure Registered (request : Request) (userID : Int) (resolved : List Int)
    (result : Except TgError Int) (steps : List HandlerStep) : Prop where
  shape : ∃ early late, steps = early ++ late ∧ (∀ step ∈ early, step.Quiet) ∧
    Registration request userID late
  resolves : steps.filterMap HandlerStep.resolves = resolved
  creates : steps.filterMap HandlerStep.creates = [result]
  unflooded : ∀ error, result = .error error → parseFloodError error = none

variable {userID : Int} {resolved : List Int} {result : Except TgError Int}

theorem HandlerStep.Takes.creates_none (takes : step.Takes request stage next)
    (uncreating : ∀ userID, stage ≠ .creating userID) : step.creates = none := by
  unfold HandlerStep.creates
  rw [takes.1]
  split
  · rename_i userID
    exact absurd rfl (uncreating userID)
  · exact rfl

theorem HandlerStep.Takes.resolves_none (takes : step.Takes request stage next)
    (unparsing : stage ≠ .parsing) (unresolving : stage ≠ .resolving) :
    step.resolves = none := by
  unfold HandlerStep.resolves
  rw [takes.1]
  split
  · exact absurd rfl unparsing
  · exact absurd rfl unresolving
  · exact rfl

theorem Refused.cons (refused : Refused request rest) (quiet : step.Quiet)
    (created : ∀ result, step.creates = some result → ∃ error flood,
      result = .error error ∧ parseFloodError error = some flood) :
    Refused request (step :: rest) where
  untouching := List.forall_mem_cons.mpr ⟨quiet.untouching, refused.untouching⟩
  keeps := List.forall_mem_cons.mpr ⟨quiet.keeps, refused.keeps⟩
  answered := by
    obtain ⟨status, large, told⟩ := refused.answered
    refine ⟨status, large, ?_⟩
    unfold responses at told ⊢
    rw [List.flatMap_cons, quiet.silent, List.nil_append, told]
  created := by
    intro result member
    cases creates : step.creates with
    | none =>
        rw [List.filterMap_cons_none creates] at member
        exact refused.created result member
    | some first =>
        rw [List.filterMap_cons_some creates, List.mem_cons] at member
        rcases member with rfl | later
        · exact created result creates
        · exact refused.created result later

theorem Refused.after (refused : Refused request rest) (quiet : step.Quiet)
    (uncreating : step.creates = none) : Refused request (step :: rest) := by
  apply refused.cons quiet
  intro result creates
  rw [uncreating] at creates
  cases creates

theorem Registered.after (registered : Registered request userID resolved result rest)
    (quiet : step.Quiet) (uncreating : step.creates = none) :
    Registered request userID (step.resolves.toList ++ resolved) result (step :: rest) where
  shape := by
    obtain ⟨early, late, rfl, earlyQuiet, registration⟩ := registered.shape
    exact ⟨step :: early, late, rfl, List.forall_mem_cons.mpr ⟨quiet, earlyQuiet⟩, registration⟩
  resolves := by
    have later := registered.resolves
    cases resolves : step.resolves with
    | none =>
        rw [List.filterMap_cons_none resolves]
        exact later
    | some userID =>
        rw [List.filterMap_cons_some resolves, later]
        exact rfl
  creates := by
    rw [List.filterMap_cons_none uncreating]
    exact registered.creates
  unflooded := registered.unflooded

theorem HandlerStep.Takes.told {status : Nat} {reason : String}
    (takes : step.Takes request (.responding status reason) next) :
    step.responses = request.told status ∧ next = .done := by
  obtain ⟨_, moved, handlers, handles, _⟩ := takes
  obtain ⟨said, same⟩ := Prod.mk.inj (Option.some.inj handles)
  unfold HandlerStep.responses Request.told
  rw [← said]
  constructor
  · split <;> rfl
  · exact (Prod.mk.inj same).1.symm

theorem Course.responds {status : Nat} {reason : String}
    (course : Course request (.responding status reason) steps .done) :
    ∃ step, steps = [step] ∧ step.Takes request (.responding status reason) .done := by
  obtain ⟨step, rest, next, rfl, takes, later⟩ := course.head (by nofun)
  obtain rfl := takes.told.2
  obtain rfl := later.of_done
  exact ⟨step, rfl, takes⟩

theorem Course.refuses {status : Nat} {reason : String} (large : 400 ≤ status)
    (course : Course request (.responding status reason) steps .done) :
    Refused request steps := by
  obtain ⟨step, rfl, takes⟩ := course.responds
  have untouching : step.stage.touches = none := by
    rw [takes.1]
    exact rfl
  constructor
  · exact List.forall_mem_singleton.mpr untouching
  · exact List.forall_mem_singleton.mpr (fun part => takes.keeps nofun)
  · exact ⟨status, large, by rw [responses, List.flatMap_singleton, takes.told.1]⟩
  · rw [List.filterMap_cons_none (takes.creates_none nofun)]
    exact nofun

theorem Course.blocks {wait : Int} (course : Course request (.blocking wait) steps .done) :
    Refused request steps := by
  obtain ⟨step, rest, next, rfl, takes, later⟩ := course.head nofun
  obtain rfl := Option.some.inj takes.goes
  have refused : Refused request rest := later.refuses (by decide)
  exact refused.after (takes.quiet rfl rfl) (takes.creates_none nofun)

theorem Course.fails {gateway : Gateway} {error : TgError}
    (course : Course request (gateway.onError error internalError) steps .done) :
    Refused request steps := by
  unfold Gateway.onError at course
  split at course
  · exact course.blocks
  · exact course.refuses (by decide)

def Request.follow (request : Request) : Stage → Option Stage
  | .unblocking userID => some (.registering userID)
  | .registering _ => some .sendingEvent
  | .sendingEvent => some .sendingInternal
  | .sendingInternal => some request.afterSends
  | .tracking => some (.responding statusTrying "Trying")
  | _ => none

theorem HandlerStep.Takes.follows (takes : step.Takes request stage next) {after : Stage}
    (fixed : request.follow stage = some after) : next = after := by
  have goes := takes.goes
  unfold Gateway.handle at goes
  cases stage with
  | unblocking | tracking =>
      cases fixed
      exact (Option.some.inj goes).symm
  | registering | sendingEvent | sendingInternal =>
      cases fixed
      dsimp only at goes
      split at goes
      · cases goes
      · exact (Option.some.inj goes).symm
  | _ => cases fixed

theorem Course.registers (invite : request.method = .invite)
    (course : Course request (.registering userID) steps .done) :
    Registration request userID steps := by
  have tracks : request.afterSends = .tracking := by rw [Request.afterSends, invite]
  obtain ⟨register, rest, next, rfl, registering, course⟩ := course.head nofun
  obtain rfl := registering.follows rfl
  obtain ⟨event, rest, next, rfl, sendingEvent, course⟩ := course.head nofun
  obtain rfl := sendingEvent.follows rfl
  obtain ⟨internal, rest, next, rfl, sendingInternal, course⟩ := course.head nofun
  obtain rfl := sendingInternal.follows rfl
  rw [tracks] at sendingInternal course
  obtain ⟨track, rest, next, rfl, tracking, course⟩ := course.head nofun
  obtain rfl := tracking.follows rfl
  obtain ⟨respond, rfl, responding⟩ := course.responds
  exact .mk registering sendingEvent sendingInternal tracking responding

theorem Registration.facts (registration : Registration request userID steps) :
    steps.filterMap HandlerStep.resolves = [] ∧ steps.filterMap HandlerStep.creates = [] ∧
      responses steps = request.told statusTrying := by
  cases registration with
  | mk registering sendingEvent sendingInternal tracking responding =>
      refine ⟨?_, ?_, ?_⟩
      · rw [List.filterMap_cons_none (registering.resolves_none nofun nofun),
          List.filterMap_cons_none (sendingEvent.resolves_none nofun nofun),
          List.filterMap_cons_none (sendingInternal.resolves_none nofun nofun),
          List.filterMap_cons_none (tracking.resolves_none nofun nofun),
          List.filterMap_cons_none (responding.resolves_none nofun nofun), List.filterMap_nil]
      · rw [List.filterMap_cons_none (registering.creates_none nofun),
          List.filterMap_cons_none (sendingEvent.creates_none nofun),
          List.filterMap_cons_none (sendingInternal.creates_none nofun),
          List.filterMap_cons_none (tracking.creates_none nofun),
          List.filterMap_cons_none (responding.creates_none nofun), List.filterMap_nil]
      · unfold responses
        simp only [List.flatMap_cons, List.flatMap_nil, registering.quietly rfl,
          sendingEvent.quietly rfl, sendingInternal.quietly rfl, tracking.quietly rfl,
          responding.told.1, List.nil_append, List.append_nil]

theorem Course.creates (invite : request.method = .invite)
    (course : Course request (.creating userID) steps .done) :
    Refused request steps ∨ ∃ result, Registered request userID [] result steps := by
  obtain ⟨step, rest, next, rfl, creating, course⟩ := course.head nofun
  have quiet := creating.quiet rfl rfl
  have unresolving := creating.resolves_none nofun nofun
  have creates : step.creates = some step.answers.createCall := by
    unfold HandlerStep.creates
    rw [creating.1]
  have goes := Option.some.inj creating.goes
  dsimp only at goes
  cases result : step.answers.createCall with
  | error error =>
      rw [result] at goes creates
      change step.source.onError error (.registering userID) = next at goes
      unfold Gateway.onError at goes
      cases matched : parseFloodError error with
      | some flood =>
          rw [matched] at goes
          obtain rfl := goes
          refine .inl (course.blocks.cons quiet ?_)
          intro other again
          rw [creates] at again
          cases again
          exact ⟨error, flood, rfl, matched⟩
      | none =>
          rw [matched] at goes
          obtain rfl := goes
          have registration := course.registers invite
          obtain ⟨noResolve, noCreate, _⟩ := registration.facts
          refine .inr ⟨.error error, ?_, ?_, ?_, ?_⟩
          · exact ⟨[step], rest, rfl, List.forall_mem_singleton.mpr quiet, registration⟩
          · rw [List.filterMap_cons_none unresolving, noResolve]
          · rw [List.filterMap_cons_some creates, noCreate]
          · intro _ same
            cases same
            exact matched
  | ok id =>
      rw [result] at goes creates
      obtain rfl := goes
      obtain ⟨unblock, rest, next, rfl, unblocking, course⟩ := course.head nofun
      obtain rfl := unblocking.follows rfl
      have registration := course.registers invite
      obtain ⟨noResolve, noCreate, _⟩ := registration.facts
      refine .inr ⟨.ok id, ?_, ?_, ?_, nofun⟩
      · refine ⟨[step, unblock], rest, rfl, ?_, registration⟩
        exact List.forall_mem_cons.mpr
          ⟨quiet, List.forall_mem_singleton.mpr (unblocking.quiet rfl rfl)⟩
      · rw [List.filterMap_cons_none unresolving,
          List.filterMap_cons_none (unblocking.resolves_none nofun nofun), noResolve]
      · rw [List.filterMap_cons_some creates,
          List.filterMap_cons_none (unblocking.creates_none nofun), noCreate]

/-- Refused, or registered for the one user that was resolved. -/
def Settled (request : Request) (steps : List HandlerStep) : Prop :=
  Refused request steps ∨
    ∃ userID result, Registered request userID [userID] result steps

theorem Settled.after (settled : Settled request rest) (quiet : step.Quiet)
    (uncreating : step.creates = none) (unresolving : step.resolves = none) :
    Settled request (step :: rest) := by
  rcases settled with refused | ⟨userID, result, registered⟩
  · exact .inl (refused.after quiet uncreating)
  · have later := registered.after quiet uncreating
    rw [unresolving] at later
    exact .inr ⟨userID, result, later⟩

theorem Course.settles_creating (invite : request.method = .invite)
    (course : Course request (.creating userID) rest .done) (quiet : step.Quiet)
    (uncreating : step.creates = none) (resolving : step.resolves = some userID) :
    Settled request (step :: rest) := by
  rcases course.creates invite with refused | ⟨result, registered⟩
  · exact .inl (refused.after quiet uncreating)
  · have later := registered.after quiet uncreating
    rw [resolving] at later
    exact .inr ⟨userID, result, later⟩

theorem Course.settles_resolving (invite : request.method = .invite)
    (course : Course request .resolving steps .done) : Settled request steps := by
  obtain ⟨step, rest, next, rfl, resolving, course⟩ := course.head nofun
  have quiet := resolving.quiet rfl rfl
  have uncreating := resolving.creates_none nofun
  cases resolving.searches rfl with
  | failed => exact .inl (course.fails.after quiet uncreating)
  | missed => exact .inl ((course.refuses (by decide)).after quiet uncreating)
  | found resolves => exact course.settles_creating invite quiet uncreating resolves

theorem Course.settles_parsing (invite : request.method = .invite)
    (course : Course request .parsing steps .done) : Settled request steps := by
  obtain ⟨step, rest, next, rfl, parsing, course⟩ := course.head nofun
  have quiet := parsing.quiet rfl rfl
  have uncreating := parsing.creates_none nofun
  cases parsing.searches rfl with
  | failed => exact .inl (course.fails.after quiet uncreating)
  | missed unresolving =>
      exact (course.settles_resolving invite).after quiet uncreating unresolving
  | found resolves => exact course.settles_creating invite quiet uncreating resolves

theorem Course.settles (invite : request.method = .invite)
    (course : Course request .checking steps .done) : Settled request steps := by
  obtain ⟨step, rest, next, rfl, checking, course⟩ := course.head nofun
  have quiet := checking.quiet rfl rfl
  have uncreating := checking.creates_none nofun
  rcases checking.checked with same | ⟨reason, same⟩
  · subst same
    exact (course.settles_parsing invite).after quiet uncreating
      (checking.resolves_none nofun nofun)
  · subst same
    exact .inl ((course.refuses (by decide)).after quiet uncreating)

end Tg2Sip.Go
