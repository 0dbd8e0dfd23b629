/-
The order in which a call is set up.

Each direction has a script.  The state of a live bridge determines how much
of its script has been performed, every row that moves on performs the next
part, and the rows that end a call perform none of it.  The requests that must
not be repeated are tied to the actions of the script, so that their order and
their number follow from it.
-/

import Tg2Sip.Cpp.Release

namespace Tg2Sip.Cpp

def ActionName.isSetup : ActionName → Bool
  | .cleanTgId => false
  | .cleanSipId => false
  | .cleanUp => false
  | .setHangupPrm => false
  | _ => true

def Effect.setup? : Effect → Option ActionName
  | .action name => if name.isSetup then some name else none
  | _ => none

def setupActions (log : List Effect) : List ActionName := log.filterMap Effect.setup?

def tgScript : List ActionName :=
  [.storeTgId, .storeTgUserId, .dialSip, .answerTg, .createTgVoip, .bridgeAudio]

def sipScript : List ActionName :=
  [.storeSipId, .acceptIncomingSip, .dialTg, .storeTgUserId, .createTgVoip, .answerSip,
    .bridgeAudio]

/-- The part of the script behind a bridge in the given state. -/
def SmState.progress : SmState → List ActionName
  | .init => []
  | .fromTg .sipWaitMedia => tgScript.take 3
  | .fromTg .waitTg => tgScript.take 4
  | .fromTg .waitDtmf => tgScript
  | .fromSip .sipWaitConfirm => sipScript.take 2
  | .fromSip .waitTg => sipScript.take 3
  | .fromSip .sipWaitMedia => sipScript.take 6
  | .fromSip .waitDtmf => sipScript
  | .x => []

/-- The action that an effect may occur in only once: accepting and creating
the Telegram call, answering the SIP call, starting the controller and
bridging the audio. -/
def Effect.performer? : Effect → Option ActionName
  | .query (.acceptCall _ _) _ => some .answerTg
  | .query (.createCall _ _ _) _ => some .dialTg
  | .sip (.answer _ prm) _ _ => if prm.statusCode = scOk then some .answerSip else none
  | .controllerStart => some .createTgVoip
  | .sip (.bridgeAudio _) _ _ => some .bridgeAudio
  | _ => none

def performed (log : List Effect) : List ActionName := log.filterMap Effect.performer?

theorem setupActions_append (first second : List Effect) :
    setupActions (first ++ second) = setupActions first ++ setupActions second :=
  List.filterMap_append

theorem performed_append (first second : List Effect) :
    performed (first ++ second) = performed first ++ performed second :=
  List.filterMap_append

theorem setupActions_stage {announced effects marks : List Effect} {event : Event}
    (begun : announced = [] ∨ announced = [.created])
    (marked : marks = [] ∨ marks = [.deleted]) :
    setupActions (stageEffects announced event effects marks) = setupActions effects :=
  filterMap_stage Effect.setup? rfl rfl rfl begun marked

theorem performed_stage {announced effects marks : List Effect} {event : Event}
    (begun : announced = [] ∨ announced = [.created])
    (marked : marks = [] ∨ marks = [.deleted]) :
    performed (stageEffects announced event effects marks) = performed effects :=
  filterMap_stage Effect.performer? rfl rfl rfl begun marked

theorem setupActions_failureLog (failed : Bool) : setupActions (failureLog failed) = [] :=
  filterMap_failureLog Effect.setup? rfl failed

theorem performed_failureLog (failed : Bool) : performed (failureLog failed) = [] :=
  filterMap_failureLog Effect.performer? rfl failed

theorem closingEffects_unscripted (env : Env) (client : SipClient) (ctx : Context) :
    setupActions (closingEffects env client ctx) = [] ∧
      performed (closingEffects env client ctx) = [] := by
  rw [setupActions, performed, filterMap_closingEffects Effect.setup? rfl rfl,
    filterMap_closingEffects Effect.performer? rfl rfl]
  simp [Effect.setup?, Effect.performer?]

theorem DialTrace.unscripted {env : Env} {ctx : Context} {cache cacheAfter : Cache}
    {block blockAfter : Int} {effects : List Effect} {tg : Option Int}
    {errors : List CallOpParam}
    (traced : DialTrace env ctx cache block effects tg errors cacheAfter blockAfter) :
    setupActions effects = [] ∧
      (performed effects = [] ∨ performed effects = [.dialTg]) := by
  cases traced with
  | blocked early => exact ⟨rfl, .inl rfl⟩
  | unresolved free missing =>
      cases missing <;> exact ⟨rfl, .inl rfl⟩
  | dialled free resolved created =>
      cases resolved <;> cases created <;> exact ⟨rfl, .inr rfl⟩

/-- A live bridge performs the next part of its script, or digits. -/
theorem Life.progress {env : Env} {world : World} {state : SmState} {event : Event}
    {change : Change} (life : Life env world state event change) (live : change.state ≠ .x) :
    state.progress ++ setupActions change.effects = change.state.progress ∧
        state.waitsDtmf = false ∨
      change.state = state ∧ (setupActions change.effects = [] ∨
        setupActions change.effects = [.dialDtmf] ∧ state.waitsDtmf = true) := by
  cases life with
  | dialled incoming pending uri answered dialled => exact .inl ⟨rfl, rfl⟩
  | undialled incoming pending uri answered failed => exact .inl ⟨rfl, rfl⟩
  | accepted extension => exact .inl ⟨rfl, rfl⟩
  | badExtension extension => exact .inl ⟨rfl, rfl⟩
  | answeredTg =>
      refine .inl ⟨?_, rfl⟩
      rw [World.moved]
      simp only [setupActions_append, setupActions_failureLog]
      rfl
  | readyTg reached => exact .inl ⟨rfl, rfl⟩
  | dialledTg traced =>
      refine .inl ⟨?_, rfl⟩
      change _ ++ (.dialTg :: setupActions _) = _
      rw [traced.unscripted.1]
      rfl
  | readySip reached => exact .inl ⟨rfl, rfl⟩
  | bridgedSip present => exact .inl ⟨rfl, rfl⟩
  | dtmf final digits found =>
      refine .inr ⟨rfl, .inr ⟨?_, ?_⟩⟩
      · rw [World.moved]
        simp only [setupActions_append, setupActions_failureLog]
        rfl
      · rcases final with rfl | rfl <;> rfl
  | ignored unselected => exact .inr ⟨rfl, .inl rfl⟩
  | removed removal => exact absurd rfl live

theorem Life.performed_sublist {env : Env} {world : World} {state : SmState} {event : Event}
    {change : Change} (life : Life env world state event change) :
    (performed change.effects).Sublist (setupActions change.effects) := by
  cases life with
  | @dialled call user id incoming pending uri answered dialled =>
      exact List.nil_sublist _
  | undialled incoming pending uri answered failed => exact List.nil_sublist _
  | accepted extension => exact List.nil_sublist _
  | badExtension extension => exact List.nil_sublist _
  | answeredTg =>
      rw [World.moved]
      simp only [setupActions_append, setupActions_failureLog, performed_append,
        performed_failureLog]
      exact List.Sublist.refl [ActionName.answerTg]
  | readyTg reached => exact List.Sublist.refl [ActionName.createTgVoip, .bridgeAudio]
  | @dialledTg id effects tg errors cache block traced =>
      change List.Sublist (performed effects) (ActionName.dialTg :: setupActions effects)
      obtain ⟨noAction, unasked | asked⟩ := traced.unscripted
      · rw [unasked]
        exact List.nil_sublist _
      · rw [asked, noAction]
  | readySip reached =>
      exact List.sublist_cons_self ActionName.storeTgUserId [.createTgVoip, .answerSip]
  | bridgedSip present => exact List.Sublist.refl [ActionName.bridgeAudio]
  | dtmf final digits found =>
      rw [World.moved]
      simp only [performed_append, performed_failureLog]
      exact List.nil_sublist _
  | ignored unselected => exact List.nil_sublist _
  | removed removal =>
      have unscripted := closingEffects_unscripted env world.sip
      rw [World.closed, World.moved]
      simp only [performed_append, (unscripted _).2, List.append_nil]
      cases removal <;> exact List.nil_sublist _

/-! ### A whole life -/

def openedBy : List (List Effect) → Option Event
  | (.created :: .handled event :: _) :: _ => some event
  | _ => none

/-- The composite state that each kind of event leads to. -/
def SmState.cameFrom : SmState → Event → Bool
  | .fromTg _, .updateCall _ => true
  | .fromSip _, .incomingCall _ _ => true
  | _, _ => false

structure OnScript (stages : List (List Effect)) (state : SmState) : Prop where
  actions : ∃ digits, setupActions stages.flatten =
      state.progress ++ List.replicate digits ActionName.dialDtmf ∧
    (state.waitsDtmf = false → digits = 0)
  origin : ∃ event, openedBy stages = some event ∧ state.cameFrom event = true

theorem openedBy_append {stages more : List (List Effect)} {event : Event}
    (opened : openedBy stages = some event) : openedBy (stages ++ more) = some event := by
  unfold openedBy at opened
  split at opened
  · cases opened
    rfl
  · cases opened

theorem Life.cameFrom {env : Env} {world : World} {state : SmState} {event : Event}
    {change : Change} (life : Life env world state event change) (live : change.state ≠ .x)
    {origin : Event} (came : state.cameFrom origin = true) :
    change.state.cameFrom origin = true := by
  cases life with
  | dialled incoming pending uri answered dialled => cases came
  | undialled incoming pending uri answered failed => cases came
  | accepted extension => cases came
  | badExtension extension => cases came
  | removed removal => exact absurd rfl live
  | dtmf final digits found => exact came
  | ignored unselected => exact came
  | _ => cases origin <;> first
      | rfl
      | cases came

theorem Life.opened_cameFrom {env : Env} {world : World} {event : Event} {change : Change}
    (life : Life env world .init event change) (live : change.state ≠ .x)
    (opens : event.opens = true) : change.state.cameFrom event = true := by
  cases life with
  | dialled incoming pending uri answered dialled => rfl
  | undialled incoming pending uri answered failed => rfl
  | accepted extension => rfl
  | badExtension extension => rfl
  | dtmf final digits found => rcases final with wrong | wrong <;> cases wrong
  | ignored unselected =>
      rw [select_init] at unselected
      exact absurd unselected (initRow_of_opens env opens)
  | removed removal => exact absurd rfl live

theorem Biography.onScript {ctxId : String} {stages : List (List Effect)} {state : SmState}
    {ctx : Context} (biography : Biography ctxId stages state ctx) (live : state ≠ .x) :
    OnScript stages state := by
  induction biography with
  | @opened env world event change fresh opens life =>
      rw [removalMark, if_neg live]
      refine ⟨?_, event, rfl, life.opened_cameFrom live opens⟩
      rw [List.flatten_singleton, setupActions_stage (.inr rfl) (.inl rfl)]
      rcases life.progress live with ⟨moved, _⟩ | ⟨same, none | ⟨_, wrong⟩⟩
      · refine ⟨0, ?_, fun _ => rfl⟩
        rw [List.replicate_zero, List.append_nil]
        exact moved
      · refine ⟨0, ?_, fun _ => rfl⟩
        rw [none, same]
        rfl
      · cases wrong
  | @continued stages state env world event change earlier running owner life ih =>
      obtain ⟨⟨digits, performedSoFar, bound⟩, origin, opened, came⟩ := ih running
      rw [removalMark, if_neg live]
      refine ⟨?_, origin, openedBy_append opened, life.cameFrom live came⟩
      rw [List.flatten_append, List.flatten_singleton, setupActions_append,
        setupActions_stage (.inl rfl) (.inl rfl), performedSoFar]
      rcases life.progress live with ⟨moved, notWaiting⟩ | ⟨same, none | ⟨dialled, waiting⟩⟩
      · refine ⟨0, ?_, fun _ => rfl⟩
        rw [bound notWaiting, List.replicate_zero, List.append_nil, List.append_nil]
        exact moved
      · refine ⟨digits, ?_, ?_⟩
        · rw [none, same, List.append_nil]
        · rw [same]
          exact bound
      · refine ⟨digits + 1, ?_, ?_⟩
        · rw [dialled, same, List.append_assoc, ← List.replicate_succ']
        · rw [same, waiting]
          intro wrong
          cases wrong

/-- The setup actions of a call that was started by the given event. -/
def FollowsScript (event : Event) (actions : List ActionName) : Prop :=
  match event with
  | .updateCall _ => ∃ digits, actions <+: tgScript ++ List.replicate digits ActionName.dialDtmf
  | .incomingCall _ _ =>
      ∃ digits, actions <+: sipScript ++ List.replicate digits ActionName.dialDtmf
  | _ => actions = []

theorem progress_prefix {state : SmState} {event : Event} {digits : Nat}
    (came : state.cameFrom event = true) (bound : state.waitsDtmf = false → digits = 0) :
    FollowsScript event (state.progress ++ List.replicate digits ActionName.dialDtmf) := by
  have started : ∀ {script : List ActionName} (count : Nat), digits = 0 →
      ∃ more, script.take count ++ List.replicate digits ActionName.dialDtmf <+:
        script ++ List.replicate more ActionName.dialDtmf := by
    rintro script count rfl
    exact ⟨0, by simpa using List.take_prefix count script⟩
  cases state with
  | init => cases came
  | x => cases came
  | fromTg state =>
      cases event <;> try cases came
      cases state with
      | sipWaitMedia => exact started 3 (bound rfl)
      | waitTg => exact started 4 (bound rfl)
      | waitDtmf => exact ⟨digits, List.prefix_refl _⟩
  | fromSip state =>
      cases event <;> try cases came
      cases state with
      | sipWaitConfirm => exact started 2 (bound rfl)
      | waitTg => exact started 3 (bound rfl)
      | sipWaitMedia => exact started 6 (bound rfl)
      | waitDtmf => exact ⟨digits, List.prefix_refl _⟩

theorem Removal.follows {env : Env} {ctx closing : Context} {event : Event} {row : List Effect}
    (removal : Removal env ctx .init event closing row) :
    FollowsScript event (setupActions row) := by
  cases removal with
  | noCallback incoming pending uri => exact ⟨0, List.take_prefix 1 tgScript⟩
  | unknownCall notPending => exact ⟨0, List.nil_prefix⟩
  | unknownState => rfl
  | unknownMedia => rfl
  | ended composite closed => cases composite
  | disconnected composite => cases composite
  | failed composite => cases composite

theorem Removal.unscripted {env : Env} {ctx closing : Context} {state : SmState}
    {event origin : Event} {row : List Effect}
    (removal : Removal env ctx state event closing row) (came : state.cameFrom origin = true) :
    setupActions row = [] := by
  cases removal with
  | noCallback incoming pending uri => cases came
  | _ => rfl

theorem setupActions_closed {env : Env} {world : World} {closing : Context}
    {row announced : List Effect} {event : Event}
    (begun : announced = [] ∨ announced = [.created]) :
    setupActions (stageEffects announced event (World.closed env world closing row).effects
      [.deleted]) = setupActions row := by
  rw [setupActions_stage begun (.inr rfl)]
  change setupActions (row ++ closingEffects env world.sip closing) = setupActions row
  rw [setupActions_append, (closingEffects_unscripted _ _ _).1, List.append_nil]

/-- Alive or not, the bridge has followed the script of the event it was created for. -/
theorem Biography.follows {ctxId : String} {stages : List (List Effect)} {state : SmState}
    {ctx : Context} (biography : Biography ctxId stages state ctx) :
    ∃ event, openedBy stages = some event ∧
      FollowsScript event (setupActions stages.flatten) := by
  by_cases closed : state = .x
  · cases biography with
    | @opened env world event change fresh opens life =>
        obtain ⟨closing, row, removal, rfl⟩ := life.closed nofun closed
        refine ⟨event, rfl, ?_⟩
        rw [List.flatten_singleton]
        change FollowsScript event (setupActions (stageEffects [.created] event _ [.deleted]))
        rw [setupActions_closed (.inr rfl)]
        exact removal.follows
    | @continued stages state env world event change earlier running owner life =>
        obtain ⟨closing, row, removal, rfl⟩ := life.closed running closed
        obtain ⟨⟨digits, performedSoFar, bound⟩, origin, opened, came⟩ :=
          earlier.onScript running
        refine ⟨origin, openedBy_append opened, ?_⟩
        rw [List.flatten_append, List.flatten_singleton, setupActions_append]
        change FollowsScript origin (_ ++ setupActions (stageEffects [] event _ [.deleted]))
        rw [setupActions_closed (.inl rfl), removal.unscripted came, List.append_nil,
          performedSoFar]
        exact progress_prefix came bound
  · obtain ⟨⟨digits, performedSoFar, bound⟩, origin, opened, came⟩ := biography.onScript closed
    refine ⟨origin, opened, ?_⟩
    rw [performedSoFar]
    exact progress_prefix came bound

theorem removalMark_cases (state : SmState) :
    removalMark state = [] ∨ removalMark state = [.deleted] := by
  unfold removalMark
  split
  · exact .inr rfl
  · exact .inl rfl

theorem Biography.performed_sublist {ctxId : String} {stages : List (List Effect)}
    {state : SmState} {ctx : Context} (biography : Biography ctxId stages state ctx) :
    (performed stages.flatten).Sublist (setupActions stages.flatten) := by
  induction biography with
  | @opened env world event change fresh opens life =>
      rw [List.flatten_singleton, performed_stage (.inr rfl) (removalMark_cases _),
        setupActions_stage (.inr rfl) (removalMark_cases _)]
      exact life.performed_sublist
  | @continued stages state env world event change earlier running owner life ih =>
      rw [List.flatten_append, List.flatten_singleton, performed_append, setupActions_append,
        performed_stage (.inl rfl) (removalMark_cases _),
        setupActions_stage (.inl rfl) (removalMark_cases _)]
      exact ih.append life.performed_sublist

theorem performer_ne_dialDtmf (effect : Effect) : effect.performer? ≠ some .dialDtmf := by
  intro read
  unfold Effect.performer? at read
  split at read
  · cases read
  · cases read
  · split at read <;> cases read
  · cases read
  · cases read
  · cases read

theorem nodup_of_follows {event : Event} {actions once : List ActionName}
    (follows : FollowsScript event actions) (part : once.Sublist actions)
    (noDigits : .dialDtmf ∉ once) : once.Nodup := by
  have dropDigits : ∀ {script : List ActionName} (digits : Nat), script.Nodup →
      .dialDtmf ∉ script → actions <+: script ++ List.replicate digits ActionName.dialDtmf →
      once.Nodup := by
    intro script digits distinct absent started
    have whole := part.trans started.sublist
    have kept := whole.filter (fun name => name != .dialDtmf)
    rw [List.filter_append, List.filter_eq_self.mpr, List.filter_eq_self.mpr,
      List.filter_eq_nil_iff.mpr, List.append_nil] at kept
    · exact distinct.sublist kept
    · intro name member
      rw [List.eq_of_mem_replicate member]
      decide
    · intro name member
      exact bne_iff_ne.mpr (fun same => absent (same ▸ member))
    · intro name member
      exact bne_iff_ne.mpr (fun same => noDigits (same ▸ member))
  cases event with
  | updateCall call =>
      obtain ⟨digits, started⟩ := follows
      exact dropDigits digits (by decide) (by decide) started
  | incomingCall id ext =>
      obtain ⟨digits, started⟩ := follows
      exact dropDigits digits (by decide) (by decide) started
  | _ =>
      rw [show actions = [] from follows, List.sublist_nil] at part
      rw [part]
      exact List.nodup_nil

theorem Biography.performed_nodup {ctxId : String} {stages : List (List Effect)}
    {state : SmState} {ctx : Context} (biography : Biography ctxId stages state ctx) :
    (performed stages.flatten).Nodup := by
  obtain ⟨event, _, follows⟩ := biography.follows
  apply nodup_of_follows follows biography.performed_sublist
  intro member
  obtain ⟨effect, _, read⟩ := List.mem_filterMap.mp member
  exact performer_ne_dialDtmf effect read

theorem Biography.nothing_after_deleted {ctxId : String} {before after : List (List Effect)}
    {stage : List Effect} {state : SmState} {ctx : Context}
    (biography : Biography ctxId (before ++ stage :: after) state ctx)
    (deleted : .deleted ∈ stage) : after = [] := by
  have inFlatten : ∀ {stages : List (List Effect)}, stage ∈ stages →
      .deleted ∈ stages.flatten :=
    fun member => List.mem_flatten.mpr ⟨stage, member, deleted⟩
  by_cases closed : state = .x
  · subst closed
    obtain ⟨farewell⟩ := biography.farewell
    rcases List.eq_nil_or_concat after with none | ⟨rest, last, rfl⟩
    · exact none
    · have split : before ++ stage :: rest.concat last = (before ++ stage :: rest) ++ [last] := by
        rw [List.concat_eq_append, List.append_assoc, List.cons_append]
      obtain ⟨sameEarlier, _⟩ := List.append_inj' (split.symm.trans farewell.shape) rfl
      have earlier : stage ∈ farewell.earlier := by
        rw [← sameEarlier]
        exact List.mem_append_right _ List.mem_cons_self
      exact absurd rfl (farewell.ledger.unreleased .deleted (inFlatten earlier)).2
  · have member : stage ∈ before ++ stage :: after :=
      List.mem_append_right _ List.mem_cons_self
    exact absurd rfl ((biography.ledger closed).unreleased .deleted (inFlatten member)).2

/-! ### What each request waits for -/

def MediaFor (ctxId : String) (transition : Transition) : Prop :=
  ∃ env id, transition.label = .dispatch env (.callMediaStateUpdate id true) ∧
    ∃ bridge ∈ transition.source.bridges, bridge.ctx.id = ctxId ∧ bridge.ctx.sipCallId = id

def ReadyFor (ctxId : String) (transition : Transition) : Prop :=
  ∃ env call, transition.label = .dispatch env (.updateCall call) ∧
    call.state.ready?.isSome = true ∧
    ∃ bridge ∈ transition.source.bridges, bridge.ctx.id = ctxId ∧ bridge.ctx.tgCallId = call.id

def Event.isMedia (event : Event) : Prop := ∃ id, event = .callMediaStateUpdate id true

def Event.isReady (event : Event) : Prop :=
  ∃ call, event = .updateCall call ∧ call.state.ready?.isSome = true

/-- The state and the event in which something is performed. -/
def Cause (state : SmState) (event : Event) : ActionName → Prop
  | .answerTg => state = .fromTg .sipWaitMedia ∧ event.isMedia
  | .answerSip => state = .fromSip .waitTg ∧ event.isReady
  | .bridgeAudio =>
      state = .fromTg .waitTg ∧ event.isReady ∨ state = .fromSip .sipWaitMedia ∧ event.isMedia
  | _ => True

theorem Life.cause {env : Env} {world : World} {state : SmState} {event : Event}
    {change : Change} (life : Life env world state event change) :
    ∀ name ∈ performed change.effects, Cause state event name := by
  have ready : ∀ {call : Call} {payload : CallReady}, call.state.ready? = some payload →
      Event.isReady (.updateCall call) := by
    intro call payload reached
    exact ⟨call, rfl, by rw [reached]; rfl⟩
  cases life with
  | answeredTg =>
      rw [World.moved]
      simp only [performed_append, performed_failureLog, List.append_nil]
      intro name member
      obtain rfl := List.mem_singleton.mp member
      exact ⟨rfl, _, rfl⟩
  | readyTg reached =>
      intro name member
      rcases List.mem_cons.mp member with rfl | later
      · trivial
      · obtain rfl := List.mem_singleton.mp later
        exact .inl ⟨rfl, ready reached⟩
  | @dialledTg id effects tg errors cache block traced =>
      intro name member
      change name ∈ performed effects at member
      rcases traced.unscripted.2 with none | only
      · rw [none] at member
        cases member
      · rw [only] at member
        obtain rfl := List.mem_singleton.mp member
        trivial
  | readySip reached =>
      intro name member
      rcases List.mem_cons.mp member with rfl | later
      · trivial
      · obtain rfl := List.mem_singleton.mp later
        exact ⟨rfl, ready reached⟩
  | bridgedSip present =>
      intro name member
      obtain rfl := List.mem_singleton.mp member
      exact .inr ⟨rfl, _, rfl⟩
  | dtmf final digits found =>
      rw [World.moved]
      simp only [performed_append, performed_failureLog]
      exact List.forall_mem_nil _
  | removed removal =>
      have unscripted := closingEffects_unscripted env world.sip
      rw [World.closed, World.moved]
      simp only [performed_append, (unscripted _).2, List.append_nil]
      cases removal <;> exact List.forall_mem_nil _
  | _ => exact List.forall_mem_nil _

theorem Processed.source_of {gateway target : Gateway} {env : Env} {event : Event}
    {output : List Logged} (processed : Processed gateway env event output target)
    {ctxId : String} {effect : Effect} {name : ActionName} (logged : (ctxId, effect) ∈ output)
    (performs : effect.performer? = some name) :
    ∃ bridge, gateway.Receives env event bridge ∧ bridge.ctx.id = ctxId ∧
      Cause bridge.state event name := by
  have inside : ∀ {announced effects marks : List Effect},
      (announced = [] ∨ announced = [.created]) → (marks = [] ∨ marks = [.deleted]) →
      effect ∈ stageEffects announced event effects marks → name ∈ performed effects := by
    intro announced effects marks begun marked member
    rcases mem_stageEffects begun marked member with rfl | rfl | rfl | found
    · cases performs
    · cases performs
    · cases performs
    · exact List.mem_filterMap.mpr ⟨effect, found, performs⟩
  cases processed with
  | unrouted silent foreign => cases logged
  | @kept before after bridge announced base change placed life stays =>
      obtain ⟨same, member⟩ := mem_tagged.mp logged
      exact ⟨bridge, placed.receives, same.symm,
        life.cause name (inside placed.announces (.inl rfl) member)⟩
  | @removed before after bridge announced base change placed life closed =>
      obtain ⟨same, member⟩ := mem_tagged.mp logged
      exact ⟨bridge, placed.receives, same.symm,
        life.cause name (inside placed.announces (.inr rfl) member)⟩

theorem MediaFor.of_receives {gateway base target : Gateway} {label : Label} {env : Env}
    {event : Event} {output : List Logged} {bridge : Bridge}
    (offered : Offers gateway label env event base)
    (received : base.Receives env event bridge) (notNew : bridge.state ≠ .init)
    (media : event.isMedia) : MediaFor bridge.ctx.id ⟨gateway, label, output, target⟩ := by
  obtain ⟨id, rfl⟩ := media
  cases offered
  rcases received with ⟨member, owner⟩ | ⟨rfl, _⟩
  · exact ⟨env, id, rfl, bridge, member, rfl, eq_of_beq owner⟩
  · exact absurd rfl notNew

theorem ReadyFor.of_receives {gateway base target : Gateway} {label : Label} {env : Env}
    {event : Event} {output : List Logged} {bridge : Bridge}
    (offered : Offers gateway label env event base)
    (received : base.Receives env event bridge) (notNew : bridge.state ≠ .init)
    (ready : event.isReady) : ReadyFor bridge.ctx.id ⟨gateway, label, output, target⟩ := by
  obtain ⟨call, rfl, reached⟩ := ready
  cases offered
  rcases received with ⟨member, owner⟩ | ⟨rfl, _⟩
  · exact ⟨env, call, rfl, reached, bridge, member, rfl, eq_of_beq owner⟩
  · exact absurd rfl notNew

/-- What a bridge that is about to connect the audio has heard before. -/
structure Heard (taken : List Transition) (bridge : Bridge) : Prop where
  media : bridge.state = .fromTg .waitTg → ∃ media ∈ taken, MediaFor bridge.ctx.id media
  ready : bridge.state = .fromSip .sipWaitMedia → ∃ ready ∈ taken, ReadyFor bridge.ctx.id ready

theorem Heard.more {taken : List Transition} {bridge : Bridge} (heard : Heard taken bridge)
    (transition : Transition) : Heard (taken ++ [transition]) bridge := by
  constructor
  · intro waiting
    obtain ⟨media, member, isFor⟩ := heard.media waiting
    exact ⟨media, List.mem_append_left _ member, isFor⟩
  · intro waiting
    obtain ⟨ready, member, isFor⟩ := heard.ready waiting
    exact ⟨ready, List.mem_append_left _ member, isFor⟩

theorem Life.hears {env : Env} {world : World} {state : SmState} {event : Event}
    {change : Change} (life : Life env world state event change) :
    (change.state = .fromTg .waitTg →
        state = .fromTg .sipWaitMedia ∧ event.isMedia ∨ state = .fromTg .waitTg) ∧
      (change.state = .fromSip .sipWaitMedia →
        state = .fromSip .waitTg ∧ event.isReady ∨ state = .fromSip .sipWaitMedia) := by
  cases life with
  | answeredTg => exact ⟨fun _ => .inl ⟨rfl, _, rfl⟩, nofun⟩
  | readySip reached => exact ⟨nofun, fun _ => .inl ⟨rfl, _, rfl, by rw [reached]; rfl⟩⟩
  | dtmf final digits found => exact ⟨fun same => .inr same, fun same => .inr same⟩
  | ignored unselected => exact ⟨fun same => .inr same, fun same => .inr same⟩
  | _ => exact ⟨nofun, nofun⟩

theorem Heard.of_life {gateway base target : Gateway} {label : Label} {env : Env}
    {event : Event} {output : List Logged} {bridge : Bridge} {change : Change}
    {taken : List Transition} (offered : Offers gateway label env event base)
    (received : base.Receives env event bridge)
    (heard : bridge.state ≠ .init → Heard taken bridge)
    (life : Life env (base.world bridge.ctx) bridge.state event change) :
    Heard (taken ++ [⟨gateway, label, output, target⟩]) ⟨change.ctx, change.state⟩ := by
  have sameId : change.ctx.id = bridge.ctx.id := life.keeps_id
  have last : (⟨gateway, label, output, target⟩ : Transition) ∈
      taken ++ [⟨gateway, label, output, target⟩] :=
    List.mem_append_right _ (List.mem_singleton.mpr rfl)
  constructor
  · intro waiting
    rw [sameId]
    rcases life.hears.1 waiting with ⟨was, media⟩ | same
    · exact ⟨_, last, MediaFor.of_receives offered received (by rw [was]; exact nofun) media⟩
    · exact ((heard (by rw [same]; exact nofun)).more _).media same
  · intro waiting
    rw [sameId]
    rcases life.hears.2 waiting with ⟨was, ready⟩ | same
    · exact ⟨_, last, ReadyFor.of_receives offered received (by rw [was]; exact nofun) ready⟩
    · exact ((heard (by rw [same]; exact nofun)).more _).ready same

theorem Offers.bridges_eq {gateway base : Gateway} {label : Label} {env : Env} {event : Event}
    (offered : Offers gateway label env event base) : base.bridges = gateway.bridges := by
  cases offered <;> rfl

theorem Run.heard {initial state : Gateway} {taken : List Transition}
    (run : Run initial taken state) (start : initial.bridges = []) :
    ∀ bridge ∈ state.bridges, Heard taken bridge := by
  have atStart : ∀ bridge ∈ initial.bridges, Heard [] bridge := by
    rw [start]
    exact List.forall_mem_nil _
  have carried : (fun taken state => ∀ bridge ∈ state.bridges, Heard taken bridge) taken state := by
    apply LabelledMachine.Run.invariant atStart _ run (fun _ _ => trivial)
    intro taken source label output target earlier heard fired _
    cases step_stepped fired with
    | idle empty => exact fun bridge member => (heard bridge member).more _
    | pjsip => exact fun bridge member => (heard bridge member).more _
    | @event _ env event base target effects offered processed =>
        have inBase : ∀ bridge ∈ base.bridges, Heard taken bridge := by
          rw [offered.bridges_eq]
          exact heard
        have running : ∀ bridge ∈ base.bridges, bridge.state ≠ .x := by
          rw [offered.bridges_eq]
          exact fun bridge member => (Run.composed earlier start bridge member).running
        refine processed.forall_bridges running ?_ ?_
        · exact fun bridge member => (inBase bridge member).more _
        · intro bridge change received life _
          apply Heard.of_life offered received _ life
          intro notNew
          rcases received with ⟨member, _⟩ | ⟨rfl, _⟩
          · exact inBase bridge member
          · exact absurd rfl notNew
  exact carried

/-- Something performed in the step of a run has its cause in that step, and
audio is bridged when both sides have been heard. -/
theorem Run.caused {initial : Gateway} {before : List Transition} {transition : Transition}
    (run : Run initial before transition.source) (start : initial.bridges = [])
    (stepped : Stepped transition.source transition.label transition.output transition.target)
    {ctxId : String} {effect : Effect} {name : ActionName}
    (logged : (ctxId, effect) ∈ transition.output) (performs : effect.performer? = some name) :
    (name = .answerTg → MediaFor ctxId transition) ∧
      (name = .answerSip → ReadyFor ctxId transition) ∧
      (name = .bridgeAudio → (∃ media ∈ before ++ [transition], MediaFor ctxId media) ∧
        ∃ ready ∈ before ++ [transition], ReadyFor ctxId ready) := by
  obtain ⟨source, label, output, target⟩ := transition
  dsimp only at run stepped logged
  have last : ∀ {step : Transition}, step ∈ before ++ [step] :=
    List.mem_append_right _ (List.mem_singleton.mpr rfl)
  cases stepped with
  | idle empty => cases logged
  | pjsip => cases logged
  | @event _ env event base target effects offered processed =>
      obtain ⟨bridge, received, rfl, cause⟩ := processed.source_of logged performs
      have heard : bridge.state ≠ .init → Heard before bridge := by
        intro notNew
        rcases received with ⟨member, _⟩ | ⟨rfl, _⟩
        · rw [offered.bridges_eq] at member
          exact Run.heard run start bridge member
        · exact absurd rfl notNew
      refine ⟨?_, ?_, ?_⟩
      · rintro rfl
        obtain ⟨was, media⟩ := cause
        exact MediaFor.of_receives offered received (by rw [was]; exact nofun) media
      · rintro rfl
        obtain ⟨was, ready⟩ := cause
        exact ReadyFor.of_receives offered received (by rw [was]; exact nofun) ready
      · rintro rfl
        rcases cause with ⟨was, ready⟩ | ⟨was, media⟩
        · have notNew : bridge.state ≠ .init := by rw [was]; exact nofun
          exact ⟨((heard notNew).more _).media was,
            _, last, ReadyFor.of_receives offered received notNew ready⟩
        · have notNew : bridge.state ≠ .init := by rw [was]; exact nofun
          exact ⟨⟨_, last, MediaFor.of_receives offered received notNew media⟩,
            ((heard notNew).more _).ready was⟩

/-- A call is set up in the order of its script, whatever arrives in between.
The parts of a script that concern the outside are performed once and not
before the event that calls for them, and a removed bridge does nothing. -/
theorem calls_are_set_up_in_order (pid : Nat) (cache : Cache) (started : Int)
    (client : SipClient) {taken : List Transition} {state : Gateway}
    (run : Run (Gateway.initial pid cache started client) taken state) :
    (∀ ctxId, stagesOf ctxId taken ≠ [] →
      (∃ event, openedBy (stagesOf ctxId taken) = some event ∧
        FollowsScript event (setupActions (stagesOf ctxId taken).flatten)) ∧
      (performed (stagesOf ctxId taken).flatten).Nodup) ∧
    ∀ before transition after, taken = before ++ transition :: after →
      ∀ ctxId effect, (ctxId, effect) ∈ transition.output →
        (effect.performer? = some .answerTg → MediaFor ctxId transition) ∧
        (effect.performer? = some .answerSip → ReadyFor ctxId transition) ∧
        (effect.performer? = some .bridgeAudio →
          (∃ media ∈ before ++ [transition], MediaFor ctxId media) ∧
          ∃ ready ∈ before ++ [transition], ReadyFor ctxId ready) ∧
        (effect = .deleted → stagesOf ctxId after = []) := by
  constructor
  · intro ctxId seen
    obtain ⟨last, ctx, biography⟩ := run.biography ctxId seen
    exact ⟨biography.follows, biography.performed_nodup⟩
  · rintro before transition after rfl ctxId effect logged
    obtain ⟨reached, fired⟩ := run.at_split
    have caused : ∀ {name : ActionName}, effect.performer? = some name → _ :=
      fun performs => Run.caused reached rfl (step_stepped fired) logged performs
    refine ⟨fun performs => (caused performs).1 rfl, fun performs => (caused performs).2.1 rfl,
      fun performs => (caused performs).2.2 rfl, ?_⟩
    rintro rfl
    have stages := stagesOf_split before after logged
    obtain ⟨last, ctx, biography⟩ := run.biography ctxId (by rw [stages]; simp)
    rw [stages] at biography
    exact biography.nothing_after_deleted (mem_effectsOf.mpr logged)

theorem calls_are_set_up_in_order_from_sip :
    ∃ taken state, Run Gateway.sample taken state ∧
      setupActions (stagesOf "1-1" taken).flatten = sipScript ∧
      (performed (stagesOf "1-1" taken).flatten).Nodup ∧
      ∃ media ∈ taken, MediaFor "1-1" media := by
  have replayed : LabelledMachine.replay Gateway.step Gateway.sample Label.bridging =
    some (_, _) := rfl
  have run := LabelledMachine.Run.of_replay replayed
  have ordered := calls_are_set_up_in_order _ _ _ _ run
  refine ⟨_, _, run, by decide, (ordered.1 "1-1" (by decide)).2, ?_⟩
  exact ((ordered.2 _ _ [] (List.dropLast_append_getLast (List.cons_ne_nil _ _)).symm "1-1"
    (.sip (.bridgeAudio 5) (some 0) none) (by decide)).2.2.1 rfl).1

end Tg2Sip.Cpp
