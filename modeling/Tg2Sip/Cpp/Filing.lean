/-
What an event does to the registry of SIP calls.

Among the effects of an event only the result of a dial, the id that a context
stores and an accepted hangup concern the registry, the dialogs and the calls
of the contexts.  `Filing` says which of them an event makes, and `Operation`
which operation on a SIP call.
-/

import Tg2Sip.Cpp.Exchange

namespace Tg2Sip.Cpp

open FiniteMap (Map)

/-! ### What an event files -/

def Effect.files : Effect → Bool
  | .associatedSip _ => true
  | .dial _ _ (.ok _) => true
  | .sip (.hangup _ _) (some _) none => true
  | _ => false

def filed (effects : List Effect) : List Effect := effects.filter Effect.files

theorem filed_append (first second : List Effect) :
    filed (first ++ second) = filed first ++ filed second := List.filter_append ..

theorem filed_eq_filterMap (effects : List Effect) :
    filed effects = effects.filterMap (Option.guard Effect.files) :=
  (congrFun (List.filterMap_eq_filter (p := Effect.files)) effects).symm

theorem filed_stage {announced effects marks : List Effect} {event : Event}
    (begun : announced = [] ∨ announced = [.created])
    (marked : marks = [] ∨ marks = [.deleted]) :
    filed (stageEffects announced event effects marks) = filed effects := by
  rw [filed_eq_filterMap, filed_eq_filterMap]
  exact filterMap_stage (Option.guard Effect.files) rfl rfl rfl begun marked

theorem filed_failureLog (failed : Bool) : filed (failureLog failed) = [] := by
  cases failed <;> rfl

def hungUp (env : Env) (client : SipClient) (ctx : Context) : List Effect :=
  if ctx.sipCallId = invalidId then []
  else
    match client.calls ctx.sipCallId, env.hangup with
    | some held, .ok () => [.sip (.hangup ctx.sipCallId ctx.hangupPrm) (some held) none]
    | _, _ => []

theorem filed_closingEffects (env : Env) (client : SipClient) (ctx : Context) :
    filed (closingEffects env client ctx) = hungUp env client ctx := by
  rw [filed_eq_filterMap,
    filterMap_closingEffects (Option.guard Effect.files) rfl rfl env client ctx]
  have stopped : Option.guard Effect.files .controllerStop = none := rfl
  have discarded : Option.guard Effect.files (.query (.discardCall ctx.tgCallId false 0 false
      ctx.tgCallId) env.discardCall) = none := rfl
  rw [stopped, discarded]
  simp only [Option.toList_none, ite_self, List.nil_append]
  unfold hungUp
  by_cases absent : ctx.sipCallId = invalidId
  · rw [if_pos absent, if_neg (not_not.mpr absent)]
  · rw [if_neg absent, if_pos absent]
    cases client.calls ctx.sipCallId with
    | none => rfl
    | some held => cases hung : env.hangup <;> simp [hangupFailure, hung, PjResult.fault,
        Option.guard, Effect.files]

theorem DialTrace.unfiled {env : Env} {ctx : Context} {cache cacheAfter : Cache}
    {block blockAfter : Int} {effects : List Effect} {tg : Option Int}
    {errors : List CallOpParam}
    (traced : DialTrace env ctx cache block effects tg errors cacheAfter blockAfter) :
    filed effects = [] := by
  cases traced with
  | blocked early => rfl
  | unresolved free missing => cases missing <;> rfl
  | dialled free resolved created => cases resolved <;> cases created <;> rfl

theorem Removal.row_unfiled {env : Env} {ctx closing : Context} {state : SmState}
    {event : Event} {row : List Effect} (removal : Removal env ctx state event closing row) :
    filed row = [] := by
  cases removal <;> rfl

/-- The four ways in which an event concerns the registry. -/
inductive Filing (env : Env) (world : World) (change : Change) :
    SmState → Event → List Effect → Prop where
  | steady {state : SmState} {event : Event} : (change.state = .x → state = .x) →
      change.ctx.sipCallId = world.ctx.sipCallId →
      (state = .init → ∀ id ext, event ≠ .incomingCall id ext) →
      Filing env world change state event []
  | dialled {call : Call} {id : Int} {uri : String} {prm : CallOpParam} :
      env.makeCall = .ok id → change.state ≠ .x → change.ctx.sipCallId = id →
      change.effects.foldl SipClient.apply world.sip = world.sip.register id →
      Filing env world change .init (.updateCall call)
        [.dial uri prm (.ok id), .associatedSip id]
  | accepted {id : Int} {ext : String} : change.state ≠ .x → change.ctx.sipCallId = id →
      Filing env world change .init (.incomingCall id ext) [.associatedSip id]
  | closed {state : SmState} {event : Event} {closing : Context} {row : List Effect} :
      Removal env world.ctx state event closing row →
      change = World.closed env world closing row →
      Filing env world change state event (hungUp env world.sip closing)

theorem Filing.goesOn {env : Env} {world : World} {change : Change} {state : SmState}
    {event : Event} (running : (state.isFromTg || state.isFromSip) = true)
    (live : (change.state.isFromTg || change.state.isFromSip) = true)
    (same : change.ctx.sipCallId = world.ctx.sipCallId) :
    Filing env world change state event [] := by
  refine .steady ?_ same ?_
  · intro ended
    rw [ended] at live
    cases live
  · intro first
    rw [first] at running
    cases running

theorem Life.filing {env : Env} {world : World} {state : SmState} {event : Event}
    {change : Change} (life : Life env world state event change) :
    Filing env world change state event (filed change.effects) := by
  cases life with
  | @dialled call user id incoming pending uri answered dialled =>
      have shape : filed (diallingEffects env world.ctx call user ++ [Effect.associatedSip id]) =
          [.dial env.settings.callbackUri (dialSipPrm world.ctx.id call.userId user) (.ok id),
            .associatedSip id] := by
        unfold diallingEffects
        rw [dialled]
        rfl
      rw [World.moved]
      dsimp only
      rw [shape]
      refine .dialled dialled ?_ rfl ?_
      · intro ended
        cases ended
      · unfold diallingEffects
        rw [dialled]
        rfl
  | @undialled call user reason incoming pending uri answered failed =>
      have shape : filed (diallingEffects env world.ctx call user) = [] := by
        unfold diallingEffects
        rw [failed]
        rfl
      rw [World.moved]
      dsimp only
      rw [shape]
      refine .steady ?_ rfl ?_
      · intro ended
        cases ended
      · intro _ id ext announced
        cases announced
  | accepted extension =>
      refine .accepted ?_ (parseExtension_keeps extension).2.1
      intro ended
      cases ended
  | badExtension extension =>
      refine .accepted ?_ rfl
      intro ended
      cases ended
  | answeredTg =>
      rw [World.moved]
      dsimp only
      rw [filed_append, filed_failureLog]
      exact .goesOn rfl rfl rfl
  | readyTg reached => exact .goesOn rfl rfl rfl
  | @dialledTg id effects tg errors cache block traced =>
      change Filing env world _ _ _ (filed effects)
      rw [traced.unfiled]
      exact .goesOn rfl rfl (Context.withTg_sipCallId _ _)
  | readySip reached => exact .goesOn rfl rfl rfl
  | bridgedSip present => exact .goesOn rfl rfl rfl
  | dtmf final digits found =>
      rw [World.moved]
      dsimp only
      rw [filed_append, filed_failureLog]
      refine .steady id rfl ?_
      intro _ id ext announced
      cases announced
  | @ignored state event unselected =>
      refine .steady id rfl ?_
      rintro rfl id ext rfl
      rw [select_init] at unselected
      exact absurd unselected (initRow_of_opens env rfl)
  | @removed state event closing row removal =>
      have shape : filed (World.closed env world closing row).effects =
          hungUp env world.sip closing := by
        change filed (row ++ closingEffects env world.sip closing) = _
        rw [filed_append, removal.row_unfiled, filed_closingEffects, List.nil_append]
      rw [shape]
      exact .closed removal rfl

def unfile (calls : Map Int CallRef) : Effect → Map Int CallRef
  | .sip (.hangup id _) (some _) none => FiniteMap.erase calls id
  | _ => calls

theorem apply_calls {client : SipClient} {effect : Effect}
    (undialled : ∀ uri prm id, effect ≠ .dial uri prm (.ok id)) :
    (client.apply effect).calls = unfile client.calls effect := by
  unfold SipClient.apply unfile
  split
  · exact absurd rfl (undialled _ _ _)
  · rfl
  · rfl
  · rename_i other
    split
    · exact absurd rfl (other _ _ _)
    · rfl

theorem unfile_quiet {effect : Effect} (quiet : effect.files = false)
    (calls : Map Int CallRef) : unfile calls effect = calls := by
  unfold unfile
  split
  · cases quiet
  · rfl

/-- Only what is filed changes the registry. -/
theorem applied_calls {effects : List Effect}
    (undialled : ∀ uri prm id, .dial uri prm (.ok id) ∉ filed effects) (client : SipClient) :
    (effects.foldl SipClient.apply client).calls =
      (filed effects).foldl unfile client.calls := by
  induction effects generalizing client with
  | nil => rfl
  | cons effect rest ih =>
      rw [List.foldl_cons]
      cases files : effect.files with
      | true =>
          have shape : filed (effect :: rest) = effect :: filed rest :=
            List.filter_cons_of_pos files
          rw [shape] at undialled ⊢
          have first : ∀ uri prm id, effect ≠ .dial uri prm (.ok id) :=
            fun uri prm id same => undialled uri prm id (same ▸ List.mem_cons_self)
          rw [List.foldl_cons, ← apply_calls first]
          exact ih (fun uri prm id later => undialled uri prm id (List.mem_cons_of_mem _ later)) _
      | false =>
          have shape : filed (effect :: rest) = filed rest :=
            List.filter_cons_of_neg (by simp [files])
          rw [shape] at undialled ⊢
          have first : ∀ uri prm id, effect ≠ .dial uri prm (.ok id) := by
            rintro uri prm id rfl
            cases files
          have same : (client.apply effect).calls = client.calls := by
            rw [apply_calls first, unfile_quiet files]
          rw [ih undialled, same]

theorem note_quiet {logged : Logged} (quiet : logged.2.files = false) (ref : CallRef)
    (atOnce : Bool) (exchange : Exchange) : exchange.note ref atOnce logged = exchange := by
  unfold Exchange.note
  split
  · cases quiet
  · cases quiet
  · cases quiet
  · rfl

theorem noted_filed (ref : CallRef) (atOnce : Bool) (ctxId : String) (effects : List Effect)
    (exchange : Exchange) :
    (tagged ctxId effects).foldl (Exchange.note ref atOnce) exchange =
      (tagged ctxId (filed effects)).foldl (Exchange.note ref atOnce) exchange := by
  induction effects generalizing exchange with
  | nil => rfl
  | cons effect rest ih =>
      cases files : effect.files with
      | true =>
          have shape : filed (effect :: rest) = effect :: filed rest :=
            List.filter_cons_of_pos files
          rw [shape]
          exact ih _
      | false =>
          have shape : filed (effect :: rest) = filed rest :=
            List.filter_cons_of_neg (by simp [files])
          rw [shape, ← ih]
          have same : exchange.note ref atOnce (ctxId, effect) = exchange :=
            note_quiet files ref atOnce exchange
          change (tagged ctxId rest).foldl _ (exchange.note ref atOnce (ctxId, effect)) = _
          rw [same]

/-- The operations on SIP calls, with the objects that they found. -/
def Effect.sipOp? : Effect → Option (SipOp × Option CallRef)
  | .sip op found _ => some (op, found)
  | _ => none

def sipOps (effects : List Effect) : List (SipOp × Option CallRef) :=
  effects.filterMap Effect.sipOp?

theorem sipOps_append (first second : List Effect) :
    sipOps (first ++ second) = sipOps first ++ sipOps second := List.filterMap_append

theorem sipOps_failureLog (failed : Bool) : sipOps (failureLog failed) = [] :=
  filterMap_failureLog Effect.sipOp? rfl failed

theorem sipOps_closingEffects (env : Env) (client : SipClient) (ctx : Context) :
    sipOps (closingEffects env client ctx) =
      if ctx.sipCallId = invalidId then []
      else [(.hangup ctx.sipCallId ctx.hangupPrm, client.calls ctx.sipCallId)] := by
  rw [sipOps, filterMap_closingEffects Effect.sipOp? rfl rfl]
  simp [Effect.sipOp?]

theorem DialTrace.sipOps_eq {env : Env} {ctx : Context} {cache cacheAfter : Cache}
    {block blockAfter : Int} {effects : List Effect} {tg : Option Int}
    {errors : List CallOpParam}
    (traced : DialTrace env ctx cache block effects tg errors cacheAfter blockAfter) :
    sipOps effects = [] := by
  cases traced with
  | blocked early => rfl
  | unresolved free missing => cases missing <;> rfl
  | dialled free resolved created => cases resolved <;> cases created <;> rfl

/-- An event makes at most one operation on a SIP call, on the id that the
context has then, and the operation finds what the registry has for it. -/
inductive Operation (world : World) : SmState → Event → List (SipOp × Option CallRef) → Prop where
  | none {state : SmState} {event : Event} : Operation world state event []
  | own {state : SmState} {event : Event} (op : SipOp) : op.id = world.ctx.sipCallId →
      state.hasSip = true ∨ op.id ≠ invalidId →
      Operation world state event [(op, world.sip.calls op.id)]
  | accepted (op : SipOp) {ext : String} :
      Operation world .init (.incomingCall op.id ext) [(op, world.sip.calls op.id)]

theorem Removal.sipOps_eq {env : Env} {ctx closing : Context} {state : SmState}
    {event : Event} {row : List Effect} (removal : Removal env ctx state event closing row) :
    sipOps row = [] ∧
      (closing.sipCallId = ctx.sipCallId ∨ closing.sipCallId = invalidId) := by
  cases removal with
  | disconnected composite => exact ⟨rfl, .inr rfl⟩
  | _ => exact ⟨rfl, .inl rfl⟩

theorem Life.operation {env : Env} {world : World} {state : SmState} {event : Event}
    {change : Change} (life : Life env world state event change) :
    Operation world state event (sipOps change.effects) := by
  cases life with
  | dialled incoming pending uri answered dialled => exact .none
  | undialled incoming pending uri answered failed => exact .none
  | @accepted id ext parsed extension => exact .accepted (.answer id ringingPrm)
  | badExtension extension => exact .none
  | answeredTg =>
      rw [World.moved]
      dsimp only
      rw [sipOps_append, sipOps_failureLog]
      exact .none
  | readyTg reached => exact .own _ rfl (.inl rfl)
  | @dialledTg id effects tg errors cache block traced =>
      change Operation world _ _ (sipOps effects)
      rw [traced.sipOps_eq]
      exact .none
  | readySip reached => exact .own _ rfl (.inl rfl)
  | bridgedSip present => exact .own _ rfl (.inl rfl)
  | @dtmf state message digits ref final wanted found =>
      rw [World.moved]
      dsimp only
      rw [sipOps_append, sipOps_failureLog, ← found]
      refine .own (.dialDtmf world.ctx.sipCallId digits) rfl (.inl ?_)
      rcases final with rfl | rfl <;> rfl
  | ignored unselected => exact .none
  | @removed state event closing row removal =>
      change Operation world state event (sipOps (row ++ closingEffects env world.sip closing))
      rw [sipOps_append, removal.sipOps_eq.1, sipOps_closingEffects, List.nil_append]
      by_cases absent : closing.sipCallId = invalidId
      · rw [if_pos absent]
        exact .none
      · rw [if_neg absent]
        rcases removal.sipOps_eq.2 with same | cleaned
        · exact .own (.hangup closing.sipCallId closing.hangupPrm) same (.inr absent)
        · exact absurd cleaned absent

end Tg2Sip.Cpp
