/-
Both legs are released exactly once.

While a bridge lives, its `Ledger` says which call ids its context has ever
held: the Telegram id is the one it holds now or there was none, likewise the
SIP id, a controller exists if one was started, and nothing has been released.
The step that removes the bridge runs `CleanUp` on that context, after the
row's own action has dropped the leg that the event itself ended.
-/

import Tg2Sip.Cpp.Biography

namespace Tg2Sip.Cpp

def Effect.tgId? : Effect → Option Int
  | .associatedTg id => some id
  | _ => none

def Effect.sipId? : Effect → Option Int
  | .associatedSip id => some id
  | _ => none

def Effect.discard? : Effect → Option Int
  | .query (.discardCall id _ _ _ _) _ => some id
  | _ => none

def Effect.hangup? : Effect → Option (Int × CallOpParam)
  | .sip (.hangup id prm) _ _ => some (id, prm)
  | _ => none

def tgIds (log : List Effect) : List Int := log.filterMap Effect.tgId?

def sipIds (log : List Effect) : List Int := log.filterMap Effect.sipId?

def discards (log : List Effect) : List Int := log.filterMap Effect.discard?

def hangups (log : List Effect) : List (Int × CallOpParam) := log.filterMap Effect.hangup?

def Effect.stop? : Effect → Option Unit
  | .controllerStop => some ()
  | _ => none

def stops (log : List Effect) : Nat := (log.filterMap Effect.stop?).length

def Effect.releases : Effect → Bool
  | .query (.discardCall _ _ _ _ _) _ => true
  | .sip (.hangup _ _) _ _ => true
  | .controllerStop => true
  | _ => false

structure Ledger (log : List Effect) (state : SmState) (ctx : Context) : Prop where
  tg : tgIds log = [] ∧ ctx.tgCallId = 0 ∨ tgIds log = [ctx.tgCallId]
  tgUnset : state = .init ∨ state = .fromSip .sipWaitConfirm →
    tgIds log = [] ∧ ctx.tgCallId = 0
  sip : sipIds log = [] ∧ ctx.sipCallId = invalidId ∨ sipIds log = [ctx.sipCallId]
  sipUnset : state = .init → sipIds log = [] ∧ ctx.sipCallId = invalidId
  voip : log.count .controllerStart = if ctx.controller.isSome then 1 else 0
  voipUnset : state.hasVoip = false → ctx.controller = none
  unreleased : ∀ effect ∈ log, effect.releases = false ∧ effect ≠ .deleted

/-- What one event adds to a ledger. -/
structure Entry (effects : List Effect) (tg sip : List Int) (starts : Nat) : Prop where
  tg : tgIds effects = tg
  sip : sipIds effects = sip
  voip : effects.count .controllerStart = starts
  unreleased : ∀ effect ∈ effects, effect.releases = false ∧ effect ≠ .deleted

theorem Entry.append {first second : List Effect} {tg tg' sip sip' : List Int}
    {starts starts' : Nat} (left : Entry first tg sip starts)
    (right : Entry second tg' sip' starts') :
    Entry (first ++ second) (tg ++ tg') (sip ++ sip') (starts + starts') where
  tg := by rw [tgIds, List.filterMap_append, ← left.tg, ← right.tg]; rfl
  sip := by rw [sipIds, List.filterMap_append, ← left.sip, ← right.sip]; rfl
  voip := by rw [List.count_append, left.voip, right.voip]
  unreleased := by
    intro effect member
    rcases List.mem_append.mp member with inFirst | inSecond
    · exact left.unreleased effect inFirst
    · exact right.unreleased effect inSecond

theorem Entry.of_eval {effects : List Effect} {tg sip : List Int} {starts : Nat}
    (evaluated : (tgIds effects, sipIds effects, effects.count .controllerStart,
      effects.all (fun effect => !effect.releases && effect != .deleted)) =
        (tg, sip, starts, true)) :
    Entry effects tg sip starts := by
  simp only [Prod.mk.injEq] at evaluated
  obtain ⟨tgEq, sipEq, voip, quiet⟩ := evaluated
  refine ⟨tgEq, sipEq, voip, ?_⟩
  intro effect member
  have kept := List.all_eq_true.mp quiet effect member
  rw [Bool.and_eq_true, Bool.not_eq_true', bne_iff_ne] at kept
  exact kept

theorem DialTrace.entry {env : Env} {ctx : Context} {cache cacheAfter : Cache}
    {block blockAfter : Int} {effects : List Effect} {tg : Option Int}
    {errors : List CallOpParam}
    (traced : DialTrace env ctx cache block effects tg errors cacheAfter blockAfter) :
    Entry effects tg.toList [] 0 := by
  cases traced with
  | blocked early => exact Entry.of_eval rfl
  | unresolved free missing => cases missing <;> exact Entry.of_eval rfl
  | @dialled lookup create userId cacheAfter tg errors blockAfter free resolved created =>
      have looked : Entry lookup [] [] 0 := by
        cases resolved <;> exact Entry.of_eval rfl
      have dialled : Entry create tg.toList [] 0 := by
        cases created <;> exact Entry.of_eval rfl
      exact looked.append dialled

theorem Entry.stage {announced effects : List Effect} {event : Event} {tg sip : List Int}
    {starts : Nat} (begun : announced = [] ∨ announced = [.created])
    (entry : Entry effects tg sip starts) :
    Entry (stageEffects announced event effects []) tg sip starts := by
  have marks : Entry (announced ++ [Effect.handled event]) [] [] 0 := by
    rcases begun with rfl | rfl <;> exact Entry.of_eval rfl
  have whole := marks.append entry
  rw [List.append_assoc, List.singleton_append, List.nil_append, List.nil_append,
    Nat.zero_add] at whole
  rw [stageEffects, List.append_nil]
  exact whole

theorem Ledger.extend {log stage : List Effect} {state next : SmState} {ctx now : Context}
    {tg sip : List Int} {starts : Nat} (ledger : Ledger log state ctx)
    (entry : Entry stage tg sip starts)
    (tgNow : tgIds log ++ tg = [] ∧ now.tgCallId = 0 ∨ tgIds log ++ tg = [now.tgCallId])
    (tgFirst : next = .init ∨ next = .fromSip .sipWaitConfirm →
      tgIds log ++ tg = [] ∧ now.tgCallId = 0)
    (sipNow : sipIds log ++ sip = [] ∧ now.sipCallId = invalidId ∨
      sipIds log ++ sip = [now.sipCallId])
    (sipFirst : next = .init → sipIds log ++ sip = [] ∧ now.sipCallId = invalidId)
    (voipNow : log.count .controllerStart + starts = if now.controller.isSome then 1 else 0)
    (voipFirst : next.hasVoip = false → now.controller = none) :
    Ledger (log ++ stage) next now := by
  have tgAll : tgIds (log ++ stage) = tgIds log ++ tg := by
    rw [tgIds, List.filterMap_append, ← entry.tg]
    rfl
  have sipAll : sipIds (log ++ stage) = sipIds log ++ sip := by
    rw [sipIds, List.filterMap_append, ← entry.sip]
    rfl
  refine ⟨?_, ?_, ?_, ?_, ?_, voipFirst, ?_⟩
  · rw [tgAll]
    exact tgNow
  · rw [tgAll]
    exact tgFirst
  · rw [sipAll]
    exact sipNow
  · rw [sipAll]
    exact sipFirst
  · rw [List.count_append, entry.voip]
    exact voipNow
  · intro effect member
    rcases List.mem_append.mp member with old | new
    · exact ledger.unreleased effect old
    · exact entry.unreleased effect new

theorem Ledger.unchanged {log stage : List Effect} {state next : SmState} {ctx : Context}
    (ledger : Ledger log state ctx) (entry : Entry stage [] [] 0)
    (notFirst : next ≠ .init ∧ next ≠ .fromSip .sipWaitConfirm ∨ next = state)
    (voiced : next.hasVoip = false → ctx.controller = none) :
    Ledger (log ++ stage) next ctx := by
  apply ledger.extend entry
  · rw [List.append_nil]
    exact ledger.tg
  · intro first
    rw [List.append_nil]
    rcases notFirst with ⟨notInit, notConfirm⟩ | rfl
    · rcases first with wrong | wrong
      · exact absurd wrong notInit
      · exact absurd wrong notConfirm
    · exact ledger.tgUnset first
  · rw [List.append_nil]
    exact ledger.sip
  · intro first
    rw [List.append_nil]
    rcases notFirst with ⟨notInit, _⟩ | rfl
    · exact absurd first notInit
    · exact ledger.sipUnset first
  · rw [Nat.add_zero]
    exact ledger.voip
  · exact voiced

theorem Ledger.voiced {log stage : List Effect} {state next : SmState} {ctx now : Context}
    (ledger : Ledger log state ctx) (entry : Entry stage [] [] 1)
    (silent : state.hasVoip = false) (voiced : next.hasVoip = true)
    (sameTg : now.tgCallId = ctx.tgCallId) (sameSip : now.sipCallId = ctx.sipCallId)
    (started : now.controller.isSome = true) : Ledger (log ++ stage) next now := by
  apply ledger.extend entry
  · rw [List.append_nil, sameTg]
    exact ledger.tg
  · rintro (rfl | rfl) <;> cases voiced
  · rw [List.append_nil, sameSip]
    exact ledger.sip
  · rintro rfl
    cases voiced
  · rw [ledger.voip, ledger.voipUnset silent, started]
    rfl
  · intro wrong
    rw [voiced] at wrong
    cases wrong

theorem Ledger.answered {log stage : List Effect} {ctx now : Context} {id : Int}
    (ledger : Ledger log .init ctx) (entry : Entry stage [] [id] 0)
    (sameTg : now.tgCallId = ctx.tgCallId) (stored : now.sipCallId = id)
    (sameVoip : now.controller = ctx.controller) :
    Ledger (log ++ stage) (.fromSip .sipWaitConfirm) now := by
  obtain ⟨noTg, tgZero⟩ := ledger.tgUnset (.inl rfl)
  obtain ⟨noSip, _⟩ := ledger.sipUnset rfl
  have unset : tgIds log ++ [] = [] ∧ now.tgCallId = 0 := by
    rw [noTg, sameTg]
    exact ⟨rfl, tgZero⟩
  apply ledger.extend entry (.inl unset) (fun _ => unset)
  · rw [noSip, stored]
    exact .inr rfl
  · nofun
  · rw [ledger.voip, sameVoip]
    rfl
  · intro _
    rw [sameVoip]
    exact ledger.voipUnset rfl

theorem Life.ledger {env : Env} {world : World} {state : SmState} {event : Event}
    {change : Change} {log announced : List Effect} (life : Life env world state event change)
    (live : change.state ≠ .x) (begun : announced = [] ∨ announced = [.created])
    (ledger : Ledger log state world.ctx) :
    Ledger (log ++ stageEffects announced event change.effects []) change.state
      change.ctx := by
  cases life with
  | @dialled call user id incoming pending uri answered dialled =>
      have entry : Entry (diallingEffects env world.ctx call user ++ [Effect.associatedSip id])
          [call.id] [id] 0 := Entry.of_eval rfl
      obtain ⟨noTg, _⟩ := ledger.tgUnset (.inl rfl)
      obtain ⟨noSip, _⟩ := ledger.sipUnset rfl
      apply ledger.extend (entry.stage begun)
      · rw [noTg]
        exact .inr rfl
      · rintro (wrong | wrong) <;> cases wrong
      · rw [noSip]
        exact .inr rfl
      · intro wrong
        cases wrong
      · rw [ledger.voip]
        rfl
      · exact fun _ => ledger.voipUnset rfl
  | @undialled call user reason incoming pending uri answered failed =>
      have entry : Entry (diallingEffects env world.ctx call user) [call.id] [] 0 :=
        Entry.of_eval rfl
      obtain ⟨noTg, _⟩ := ledger.tgUnset (.inl rfl)
      apply ledger.extend (entry.stage begun)
      · rw [noTg]
        exact .inr rfl
      · rintro (wrong | wrong) <;> cases wrong
      · rw [List.append_nil]
        exact .inl (ledger.sipUnset rfl)
      · intro wrong
        cases wrong
      · rw [ledger.voip]
        rfl
      · exact fun _ => ledger.voipUnset rfl
  | @accepted id ext parsed extension =>
      obtain ⟨_, sameSip, sameTg, sameVoip, _⟩ := parseExtension_keeps extension
      have entry : Entry [.action .storeSipId, .associatedSip id, .action .acceptIncomingSip,
          .sip (.answer id ringingPrm) (world.sip.calls id)
            (opFailure world id env.answer.fault)] [] [id] 0 := Entry.of_eval rfl
      exact ledger.answered (entry.stage begun) sameTg sameSip sameVoip
  | @badExtension id ext extension =>
      have entry : Entry [.action .storeSipId, .associatedSip id, .action .acceptIncomingSip]
          [] [id] 0 := Entry.of_eval rfl
      exact ledger.answered (entry.stage begun) rfl rfl rfl
  | answeredTg =>
      refine ledger.unchanged (Entry.stage begun ?_) (.inl ⟨?_, ?_⟩)
        (fun _ => ledger.voipUnset rfl)
      · rw [World.moved]
        cases env.acceptCall.error?.isSome <;> exact Entry.of_eval rfl
      · intro wrong
        cases wrong
      · intro wrong
        cases wrong
  | readyTg reached =>
      exact ledger.voiced (Entry.stage begun (Entry.of_eval rfl)) rfl rfl rfl rfl rfl
  | @dialledTg id effects tg errors cache block traced =>
      obtain ⟨noTg, tgZero⟩ := ledger.tgUnset (.inr rfl)
      have announcement : Entry [.action .dialTg] [] [] 0 := Entry.of_eval rfl
      have entry := announcement.append traced.entry
      apply ledger.extend (Entry.stage begun entry)
      · rw [noTg]
        cases tg with
        | none => exact .inl ⟨rfl, tgZero⟩
        | some id => exact .inr rfl
      · rintro (wrong | wrong) <;> cases wrong
      · rw [Context.withTg_sipCallId, List.append_nil, List.append_nil]
        exact ledger.sip
      · intro wrong
        cases wrong
      · rw [Context.withTg_controller]
        exact ledger.voip
      · intro _
        rw [Context.withTg_controller]
        exact ledger.voipUnset rfl
  | readySip reached =>
      exact ledger.voiced (Entry.stage begun (Entry.of_eval rfl)) rfl rfl rfl rfl rfl
  | bridgedSip present =>
      refine ledger.unchanged (Entry.stage begun (Entry.of_eval rfl))
        (.inl ⟨?_, ?_⟩) ?_
      · intro wrong
        cases wrong
      · intro wrong
        cases wrong
      · intro wrong
        cases wrong
  | dtmf final digits found =>
      refine ledger.unchanged (Entry.stage begun ?_) (.inr rfl) ledger.voipUnset
      rw [World.moved]
      cases env.dialDtmf.fault.isSome <;> exact Entry.of_eval rfl
  | ignored unselected =>
      exact ledger.unchanged (Entry.stage begun (Entry.of_eval rfl)) (.inr rfl)
        ledger.voipUnset
  | removed removal => exact absurd rfl live

theorem Ledger.start (ctxId : String) : Ledger [] .init { id := ctxId } where
  tg := .inl ⟨rfl, rfl⟩
  tgUnset := fun _ => ⟨rfl, rfl⟩
  sip := .inl ⟨rfl, rfl⟩
  sipUnset := fun _ => ⟨rfl, rfl⟩
  voip := rfl
  voipUnset := fun _ => rfl
  unreleased := List.forall_mem_nil _

theorem Biography.ledger {ctxId : String} {stages : List (List Effect)} {state : SmState}
    {ctx : Context} (biography : Biography ctxId stages state ctx) (live : state ≠ .x) :
    Ledger stages.flatten state ctx := by
  induction biography with
  | @opened env world event change fresh opens life =>
      have start : Ledger [] .init world.ctx := by
        rw [fresh]
        exact Ledger.start ctxId
      have ledger := life.ledger live (.inr rfl) start
      rw [removalMark, if_neg live, List.flatten_singleton]
      exact ledger
  | @continued stages state env world event change earlier running owner life ih =>
      have ledger := life.ledger live (.inl rfl) (ih running)
      rw [removalMark, if_neg live, List.flatten_append, List.flatten_singleton]
      exact ledger

/-! ### The removing step -/

/-- How the last step of a removed bridge came about. -/
structure Farewell (stages : List (List Effect)) where
  earlier : List (List Effect)
  announced : List Effect
  env : Env
  world : World
  state : SmState
  event : Event
  closing : Context
  row : List Effect
  shape : stages = earlier ++
    [stageEffects announced event (row ++ closingEffects env world.sip closing) [.deleted]]
  begun : announced = [] ∨ announced = [.created]
  removal : Removal env world.ctx state event closing row
  ledger : Ledger earlier.flatten state world.ctx
  owner : state = .init ∨ Bridge.owns env event ⟨world.ctx, state⟩ = true

theorem Biography.farewell {ctxId : String} {stages : List (List Effect)} {ctx : Context}
    (biography : Biography ctxId stages .x ctx) : Nonempty (Farewell stages) := by
  generalize reached : SmState.x = last at biography
  cases biography with
  | @opened env world event change fresh opens life =>
      obtain ⟨closing, row, removal, rfl⟩ := life.closed nofun reached.symm
      have start : Ledger ([] : List (List Effect)).flatten .init world.ctx := by
        rw [fresh]
        exact Ledger.start ctxId
      exact ⟨⟨[], [.created], env, world, .init, event, closing, row, rfl, .inr rfl, removal,
        start, .inl rfl⟩⟩
  | @continued stages state env world event change earlier running owner life =>
      obtain ⟨closing, row, removal, rfl⟩ := life.closed running reached.symm
      exact ⟨⟨stages, [], env, world, state, event, closing, row, rfl, .inl rfl, removal,
        earlier.ledger running, .inr owner⟩⟩

def Event.endsTg (event : Event) (id : Int) : Bool :=
  match event with
  | .updateCall call => call.id == id && call.state.isOver
  | _ => false

def Event.endsSip (event : Event) (id : Int) : Bool :=
  match event with
  | .callStateUpdate other .disconnected => other == id
  | _ => false

/-- What the removing step `last` does with what its context ever held. -/
structure Released (log last : List Effect) (event : Event) : Prop where
  tgEnded : ∀ id, id ≠ 0 → id ∈ tgIds log → event.endsTg id = true → discards last = []
  tgReleased : ∀ id, id ≠ 0 → id ∈ tgIds log → event.endsTg id = false → discards last = [id]
  sipEnded : ∀ id, id ≠ invalidId → id ∈ sipIds log → event.endsSip id = true →
    hangups last = []
  sipReleased : ∀ id, id ≠ invalidId → id ∈ sipIds log → event.endsSip id = false →
    ∃ prm, hangups last = [(id, prm)] ∧ ∀ error, event = .internalError error → prm = error.prm
  stopped : .controllerStart ∈ log → stops last = 1
  unstopped : .controllerStart ∉ log → stops last = 0

theorem filterMap_failureLog {Value : Type} (read : Effect → Option Value)
    (unlogged : read .logError = none) (failed : Bool) :
    (failureLog failed).filterMap read = [] := by
  cases failed with
  | true => exact List.filterMap_cons_none unlogged
  | false => rfl

theorem filterMap_closingEffects {Value : Type} (read : Effect → Option Value)
    (unannounced : read (.action .cleanUp) = none) (unlogged : read .logError = none)
    (env : Env) (client : SipClient) (ctx : Context) :
    (closingEffects env client ctx).filterMap read =
      (if ctx.controller.isSome then (read .controllerStop).toList else []) ++
        ((if ctx.tgCallId ≠ 0 then
            (read (.query (.discardCall ctx.tgCallId false 0 false ctx.tgCallId)
              env.discardCall)).toList else []) ++
          (if ctx.sipCallId ≠ invalidId then
            (read (.sip (.hangup ctx.sipCallId ctx.hangupPrm) (client.calls ctx.sipCallId)
              (hangupFailure env (client.calls ctx.sipCallId)))).toList else [])) := by
  have single : ∀ (effect : Effect) (failed : Bool),
      (effect :: failureLog failed).filterMap read = (read effect).toList := by
    intro effect failed
    rw [List.filterMap_cons, filterMap_failureLog read unlogged]
    cases read effect <;> rfl
  unfold closingEffects cleanUpEffects stopEffects discardEffects hangupEffects
  rw [List.filterMap_cons_none unannounced, List.filterMap_append, List.filterMap_append]
  congr 1
  · split
    · exact single .controllerStop false
    · rfl
  · congr 1
    · split
      · exact single _ _
      · rfl
    · split
      · exact single _ _
      · rfl

theorem discards_closingEffects (env : Env) (client : SipClient) (ctx : Context) :
    discards (closingEffects env client ctx) =
      if ctx.tgCallId ≠ 0 then [ctx.tgCallId] else [] := by
  rw [discards, filterMap_closingEffects Effect.discard? rfl rfl]
  simp [Effect.discard?]

theorem hangups_closingEffects (env : Env) (client : SipClient) (ctx : Context) :
    hangups (closingEffects env client ctx) =
      if ctx.sipCallId ≠ invalidId then [(ctx.sipCallId, ctx.hangupPrm)] else [] := by
  rw [hangups, filterMap_closingEffects Effect.hangup? rfl rfl]
  simp [Effect.hangup?]

theorem stops_closingEffects (env : Env) (client : SipClient) (ctx : Context) :
    stops (closingEffects env client ctx) = if ctx.controller.isSome then 1 else 0 := by
  rw [stops, filterMap_closingEffects Effect.stop? rfl rfl]
  cases ctx.controller.isSome <;> simp [Effect.stop?]

theorem closingEffects_storeless (env : Env) (client : SipClient) (ctx : Context) :
    tgIds (closingEffects env client ctx) = [] ∧ sipIds (closingEffects env client ctx) = [] ∧
      .controllerStart ∉ closingEffects env client ctx := by
  refine ⟨?_, ?_, ?_⟩
  · rw [tgIds, filterMap_closingEffects Effect.tgId? rfl rfl]
    simp [Effect.tgId?]
  · rw [sipIds, filterMap_closingEffects Effect.sipId? rfl rfl]
    simp [Effect.sipId?]
  · intro member
    rcases mem_closingEffects member with wrong | wrong | wrong | wrong | wrong <;> cases wrong

theorem filterMap_farewell {Value : Type} (read : Effect → Option Value) {env : Env}
    {ctx closing : Context} {state : SmState} {event : Event}
    {announced row effects : List Effect} (begun : announced = [] ∨ announced = [.created])
    (removal : Removal env ctx state event closing row)
    (unread : ∀ effect, effect.releases = false → read effect = none) :
    (stageEffects announced event (row ++ effects) [.deleted]).filterMap read =
      effects.filterMap read := by
  have quietRow : ∀ effect ∈ row, effect.releases = false := by
    cases removal <;> simp [Effect.releases]
  have silentRow : row.filterMap read = [] :=
    List.filterMap_eq_nil_iff.mpr (fun effect member => unread effect (quietRow effect member))
  rw [filterMap_stage read (unread _ rfl) (unread _ rfl) (unread _ rfl) begun (.inr rfl),
    List.filterMap_append, silentRow, List.nil_append]

def Farewell.last {stages : List (List Effect)} (farewell : Farewell stages) : List Effect :=
  stageEffects farewell.announced farewell.event
    (farewell.row ++ closingEffects farewell.env farewell.world.sip farewell.closing) [.deleted]

theorem Farewell.discards_last {stages : List (List Effect)} (farewell : Farewell stages) :
    discards farewell.last =
      if farewell.closing.tgCallId ≠ 0 then [farewell.closing.tgCallId] else [] := by
  rw [← discards_closingEffects farewell.env farewell.world.sip]
  apply filterMap_farewell Effect.discard? farewell.begun farewell.removal
  intro effect quiet
  unfold Effect.discard?
  split
  · cases quiet
  · rfl

theorem Farewell.hangups_last {stages : List (List Effect)} (farewell : Farewell stages) :
    hangups farewell.last =
      if farewell.closing.sipCallId ≠ invalidId then
        [(farewell.closing.sipCallId, farewell.closing.hangupPrm)] else [] := by
  rw [← hangups_closingEffects farewell.env farewell.world.sip]
  apply filterMap_farewell Effect.hangup? farewell.begun farewell.removal
  intro effect quiet
  unfold Effect.hangup?
  split
  · cases quiet
  · rfl

theorem Farewell.stops_last {stages : List (List Effect)} (farewell : Farewell stages) :
    stops farewell.last = if farewell.closing.controller.isSome then 1 else 0 := by
  rw [← stops_closingEffects farewell.env farewell.world.sip]
  apply congrArg List.length
  apply filterMap_farewell Effect.stop? farewell.begun farewell.removal
  intro effect quiet
  unfold Effect.stop?
  split
  · cases quiet
  · rfl

theorem Farewell.log {stages : List (List Effect)} (farewell : Farewell stages) :
    tgIds stages.flatten = tgIds farewell.earlier.flatten ++ tgIds farewell.row ∧
      sipIds stages.flatten = sipIds farewell.earlier.flatten ∧
      (.controllerStart ∈ stages.flatten ↔ .controllerStart ∈ farewell.earlier.flatten) := by
  obtain ⟨earlier, announced, env, world, state, event, closing, row, rfl, begun, removal, _, _⟩ :=
    farewell
  obtain ⟨noTg, noSip, noStart⟩ := closingEffects_storeless env world.sip closing
  have rowSip : sipIds row = [] := by
    cases removal <;> rfl
  have rowStart : .controllerStart ∉ row := by
    cases removal <;> simp
  refine ⟨?_, ?_, ?_⟩
  · rcases begun with rfl | rfl <;>
      simp [stageEffects, tgIds, Effect.tgId?, List.filterMap_cons] <;>
      exact List.filterMap_eq_nil_iff.mp noTg
  · rcases begun with rfl | rfl <;>
      simp [stageEffects, sipIds, Effect.sipId?, List.filterMap_cons] <;>
      exact ⟨List.filterMap_eq_nil_iff.mp rowSip, List.filterMap_eq_nil_iff.mp noSip⟩
  · rcases begun with rfl | rfl <;> simp [stageEffects, noStart, rowStart]

/-- The id that a live context held is the one it holds. -/
theorem Ledger.tg_eq {log : List Effect} {state : SmState} {ctx : Context} {id : Int}
    (ledger : Ledger log state ctx) (held : id ∈ tgIds log) : ctx.tgCallId = id := by
  rcases ledger.tg with ⟨none, _⟩ | only
  · rw [none] at held
    cases held
  · rw [only] at held
    exact (List.mem_singleton.mp held).symm

theorem Ledger.sip_eq {log : List Effect} {state : SmState} {ctx : Context} {id : Int}
    (ledger : Ledger log state ctx) (held : id ∈ sipIds log) : ctx.sipCallId = id := by
  rcases ledger.sip with ⟨none, _⟩ | only
  · rw [none] at held
    cases held
  · rw [only] at held
    exact (List.mem_singleton.mp held).symm

theorem Ledger.voip_iff {log : List Effect} {state : SmState} {ctx : Context}
    (ledger : Ledger log state ctx) : .controllerStart ∈ log ↔ ctx.controller.isSome = true := by
  rw [← List.count_pos_iff, ledger.voip]
  cases ctx.controller.isSome <;> simp

/-- What happens to a Telegram id: the row stored it, the event ended it, or
`CleanUp` finds it. -/
theorem Farewell.tg_cases {stages : List (List Effect)} (farewell : Farewell stages) {id : Int}
    (held : id ∈ tgIds stages.flatten) :
    farewell.event.endsTg id = true ∧ farewell.closing.tgCallId = 0 ∨
      farewell.event.endsTg id = false ∧ farewell.closing.tgCallId = id := by
  rw [farewell.log.1] at held
  obtain ⟨earlier, announced, env, world, state, event, closing, row, shape, begun, removal,
    ledger, owner⟩ := farewell
  cases removal with
  | @noCallback call incoming pending uri =>
      right
      obtain ⟨none, _⟩ := ledger.tgUnset (.inl rfl)
      change id ∈ tgIds earlier.flatten ++ [call.id] at held
      rw [none, List.nil_append, List.mem_singleton] at held
      refine ⟨?_, held.symm⟩
      have notOver : call.state.isOver = false := by
        cases reached : call.state <;> simp_all [CallState.isPending, CallState.isOver]
      simp [Event.endsTg, notOver]
  | unknownCall notPending =>
      obtain ⟨none, _⟩ := ledger.tgUnset (.inl rfl)
      rw [none] at held
      cases held
  | unknownState =>
      obtain ⟨none, _⟩ := ledger.tgUnset (.inl rfl)
      rw [none] at held
      cases held
  | unknownMedia =>
      obtain ⟨none, _⟩ := ledger.tgUnset (.inl rfl)
      rw [none] at held
      cases held
  | @ended state call composite closed =>
      left
      have same := ledger.tg_eq (by simpa [tgIds, Effect.tgId?] using held)
      rcases owner with rfl | owner
      · cases composite
      · have sameCall : world.ctx.tgCallId = call.id := eq_of_beq owner
        refine ⟨?_, rfl⟩
        simp [Event.endsTg, closed, ← sameCall, same]
  | disconnected composite =>
      right
      exact ⟨rfl, ledger.tg_eq (by simpa [tgIds, Effect.tgId?] using held)⟩
  | failed composite =>
      right
      exact ⟨rfl, ledger.tg_eq (by simpa [tgIds, Effect.tgId?] using held)⟩

theorem Farewell.sip_cases {stages : List (List Effect)} (farewell : Farewell stages) {id : Int}
    (held : id ∈ sipIds stages.flatten) :
    farewell.event.endsSip id = true ∧ farewell.closing.sipCallId = invalidId ∨
      farewell.event.endsSip id = false ∧ farewell.closing.sipCallId = id ∧
        ∀ error, farewell.event = .internalError error →
          farewell.closing.hangupPrm = error.prm := by
  rw [farewell.log.2.1] at held
  obtain ⟨earlier, announced, env, world, state, event, closing, row, shape, begun, removal,
    ledger, owner⟩ := farewell
  have unset : state = .init → id ∉ sipIds earlier.flatten := by
    intro initial wrong
    rw [(ledger.sipUnset initial).1] at wrong
    cases wrong
  cases removal with
  | noCallback incoming pending uri => exact absurd held (unset rfl)
  | unknownCall notPending => exact absurd held (unset rfl)
  | unknownState => exact absurd held (unset rfl)
  | unknownMedia => exact absurd held (unset rfl)
  | ended composite closed => exact .inr ⟨rfl, ledger.sip_eq held, nofun⟩
  | @disconnected state other composite =>
      left
      rcases owner with rfl | owner
      · cases composite
      · have sameCall : world.ctx.sipCallId = other := eq_of_beq owner
        refine ⟨?_, rfl⟩
        simp [Event.endsSip, ← sameCall, ledger.sip_eq held]
  | failed composite =>
      right
      refine ⟨rfl, ledger.sip_eq held, ?_⟩
      rintro error ⟨⟩
      rfl

theorem Farewell.voip_eq {stages : List (List Effect)} (farewell : Farewell stages) :
    farewell.closing.controller = farewell.world.ctx.controller := by
  obtain ⟨earlier, announced, env, world, state, event, closing, row, shape, begun, removal,
    ledger, owner⟩ := farewell
  cases removal <;> rfl

theorem Farewell.released {stages : List (List Effect)} (farewell : Farewell stages) :
    Released stages.flatten farewell.last farewell.event where
  tgEnded := by
    intro id valid held ends
    rcases farewell.tg_cases held with ⟨_, cleared⟩ | ⟨wrong, _⟩
    · rw [farewell.discards_last, cleared]
      rfl
    · rw [ends] at wrong
      cases wrong
  tgReleased := by
    intro id valid held stays
    rcases farewell.tg_cases held with ⟨wrong, _⟩ | ⟨_, kept⟩
    · rw [stays] at wrong
      cases wrong
    · rw [farewell.discards_last, kept, if_pos valid]
  sipEnded := by
    intro id valid held ends
    rcases farewell.sip_cases held with ⟨_, cleared⟩ | ⟨wrong, _⟩
    · rw [farewell.hangups_last, cleared]
      rfl
    · rw [ends] at wrong
      cases wrong
  sipReleased := by
    intro id valid held stays
    rcases farewell.sip_cases held with ⟨wrong, _⟩ | ⟨_, kept, reason⟩
    · rw [stays] at wrong
      cases wrong
    · refine ⟨farewell.closing.hangupPrm, ?_, reason⟩
      rw [farewell.hangups_last, kept, if_pos valid]
  stopped := by
    intro started
    rw [farewell.log.2.2, farewell.ledger.voip_iff] at started
    rw [farewell.stops_last, farewell.voip_eq, started]
    rfl
  unstopped := by
    intro unstarted
    rw [farewell.log.2.2, farewell.ledger.voip_iff] at unstarted
    rw [farewell.stops_last, farewell.voip_eq, if_neg unstarted]

/-! ### Runs -/

theorem Removal.row_unmarked {env : Env} {ctx closing : Context} {state : SmState}
    {event : Event} {row : List Effect} (removal : Removal env ctx state event closing row) :
    ∀ effect ∈ row, ∀ other, effect ≠ .handled other := by
  cases removal <;> simp

theorem Farewell.handled_eq {stages : List (List Effect)} (farewell : Farewell stages)
    {event : Event} (handled : .handled event ∈ farewell.last) : event = farewell.event := by
  rcases mem_stageEffects farewell.begun (.inr rfl) handled with
    wrong | same | wrong | inside
  · cases wrong
  · cases same
    rfl
  · cases wrong
  · rcases List.mem_append.mp inside with inRow | inClosing
    · have unmarked := farewell.removal.row_unmarked (.handled event) inRow
      exact absurd rfl (unmarked event)
    · rcases mem_closingEffects inClosing with wrong | wrong | wrong | wrong | wrong <;>
        cases wrong

theorem Biography.deleted_of_releases {ctxId : String} {stages : List (List Effect)}
    {state : SmState} {ctx : Context} (biography : Biography ctxId stages state ctx)
    {stage : List Effect} {effect : Effect} (inStages : stage ∈ stages)
    (inStage : effect ∈ stage) (releases : effect.releases = true) : .deleted ∈ stage := by
  by_cases closed : state = .x
  · subst closed
    obtain ⟨farewell⟩ := biography.farewell
    rw [farewell.shape] at inStages
    rcases List.mem_append.mp inStages with inEarlier | isLast
    · have quiet := farewell.ledger.unreleased effect
        (List.mem_flatten.mpr ⟨stage, inEarlier, inStage⟩)
      rw [releases] at quiet
      cases quiet.1
    · rw [List.mem_singleton.mp isLast]
      simp [stageEffects]
  · have quiet := (biography.ledger closed).unreleased effect
      (List.mem_flatten.mpr ⟨stage, inStages, inStage⟩)
    rw [releases] at quiet
    cases quiet.1

theorem Biography.released {ctxId : String} {earlier : List (List Effect)} {last : List Effect}
    {state : SmState} {ctx : Context} {event : Event}
    (biography : Biography ctxId (earlier ++ [last]) state ctx) (deleted : .deleted ∈ last)
    (handled : .handled event ∈ last) :
    Released (earlier ++ [last]).flatten last event ∧
      ∀ stage ∈ earlier, ∀ effect ∈ stage, effect.releases = false := by
  by_cases closed : state = .x
  · subst closed
    obtain ⟨farewell⟩ := biography.farewell
    have shape := farewell.shape
    change earlier ++ [last] = farewell.earlier ++ [farewell.last] at shape
    obtain ⟨sameEarlier, sameLast⟩ := List.append_inj' shape rfl
    rw [List.singleton_inj] at sameLast
    rw [sameLast] at handled
    obtain rfl := farewell.handled_eq handled
    constructor
    · have released := farewell.released
      rw [← sameLast] at released
      exact released
    · intro stage inEarlier effect inStage
      rw [sameEarlier] at inEarlier
      exact (farewell.ledger.unreleased effect
        (List.mem_flatten.mpr ⟨stage, inEarlier, inStage⟩)).1
  · have quiet := (biography.ledger closed).unreleased .deleted
      (List.mem_flatten.mpr ⟨last, List.mem_append_right _ List.mem_cons_self, deleted⟩)
    exact absurd rfl quiet.2

theorem legs_are_released_once (pid : Nat) (cache : Cache) (started : Int) (client : SipClient)
    {taken : List Transition} {state : Gateway}
    (run : Run (Gateway.initial pid cache started client) taken state) :
    (∀ ctxId earlier last event, stagesOf ctxId taken = earlier ++ [last] →
        .deleted ∈ last → .handled event ∈ last →
        Released (earlier ++ [last]).flatten last event ∧
          ∀ stage ∈ earlier, ∀ effect ∈ stage, effect.releases = false) ∧
      ∀ transition ∈ taken, ∀ ctxId effect, (ctxId, effect) ∈ transition.output →
        effect.releases = true → (ctxId, .deleted) ∈ transition.output := by
  constructor
  · intro ctxId earlier last event stages deleted handled
    obtain ⟨final, ctx, biography⟩ := run.biography ctxId (by rw [stages]; simp)
    rw [stages] at biography
    exact biography.released deleted handled
  · intro transition member ctxId effect logged releases
    have inStages := effectsOf_mem_stagesOf member logged
    obtain ⟨final, ctx, biography⟩ := run.biography ctxId (List.ne_nil_of_mem inStages)
    exact mem_effectsOf.mp
      (biography.deleted_of_releases inStages (mem_effectsOf.mpr logged) releases)

def Label.hangingUp : List Label :=
  Label.bridging ++ [Label.dispatch Env.sample (.callStateUpdate 5 .disconnected)]

theorem legs_are_released_after_hangup :
    ∃ taken state, Run Gateway.sample taken state ∧ state.bridges.length = 0 ∧
      ∃ earlier last, stagesOf "1-1" taken = earlier ++ [last] ∧
        discards last = [7] ∧ hangups last = [] ∧ stops last = 1 := by
  have replayed : LabelledMachine.replay Gateway.step Gateway.sample Label.hangingUp =
    some (_, _) := rfl
  have run := LabelledMachine.Run.of_replay replayed
  refine ⟨_, _, run, rfl, (stagesOf "1-1" _).dropLast, (stagesOf "1-1" _).getLast (by decide),
    (List.dropLast_append_getLast _).symm, ?_⟩
  have released := ((legs_are_released_once _ _ _ _ run).1 "1-1" _ _
    (.callStateUpdate 5 .disconnected) (List.dropLast_append_getLast (by decide)).symm
    (by decide) (by decide)).1
  exact ⟨released.tgReleased 7 (by decide) (by decide) rfl,
    released.sipEnded 5 (by decide) (by decide) rfl, released.stopped (by decide)⟩

end Tg2Sip.Cpp
