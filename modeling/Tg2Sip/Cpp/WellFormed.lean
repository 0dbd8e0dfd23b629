/-
The invariant of the list of bridges.

Every bridge between two events is in a composite state, holds the legs that
its state needs and has a controller once one was created; the context ids are
distinct, because the counter behind them only grows.  A bridge whose second
leg could not be set up has an error waiting in the internal queue, so that
the main loop will remove it.
-/

import Tg2Sip.Cpp.Faults

namespace Tg2Sip.Cpp

def Event.ValidIds : Event → Prop
  | .updateCall call => call.id ≠ 0
  | .incomingCall id _ => id ≠ invalidId
  | .callStateUpdate id _ => id ≠ invalidId
  | .callMediaStateUpdate id _ => id ≠ invalidId
  | .updateNewMessage _ => True
  | .internalError _ => True

def Event.sipId? : Event → Option Int
  | .incomingCall id _ => some id
  | .callStateUpdate id _ => some id
  | .callMediaStateUpdate id _ => some id
  | _ => none

theorem Event.ValidIds.sip {event : Event} (valid : event.ValidIds) {id : Int}
    (named : event.sipId? = some id) : id ≠ invalidId := by
  cases event with
  | incomingCall other ext =>
      cases named
      exact valid
  | callStateUpdate other state =>
      cases named
      exact valid
  | callMediaStateUpdate other hasMedia =>
      cases named
      exact valid
  | _ => cases named

structure Env.ValidIds (env : Env) : Prop where
  createCall : ∀ id, env.createCall = .callId id → id ≠ 0
  makeCall : ∀ id, env.makeCall = .ok id → id ≠ invalidId

def Label.ValidIds : Label → Prop
  | .dispatch env event => env.ValidIds ∧ event.ValidIds
  | .popInternal env => env.ValidIds
  | .pjsip _ => True

theorem Env.sample_validIds : Env.sample.ValidIds := by
  constructor
  · intro id answered
    cases answered
    decide
  · intro id dialled
    cases dialled
    decide

theorem Offers.valid {gateway base : Gateway} {label : Label} {env : Env} {event : Event}
    (offered : Offers gateway label env event base) (valid : label.ValidIds) :
    env.ValidIds ∧ event.ValidIds := by
  cases offered with
  | dispatch => exact valid
  | popInternal queue => exact ⟨valid, trivial⟩

def SmState.hasVoip : SmState → Bool
  | .fromTg .waitDtmf => true
  | .fromSip .sipWaitMedia => true
  | .fromSip .waitDtmf => true
  | _ => false

def SmState.hasTg : SmState → Bool
  | .fromTg _ => true
  | .fromSip .sipWaitMedia => true
  | .fromSip .waitDtmf => true
  | _ => false

def SmState.hasSip : SmState → Bool
  | .fromTg .waitTg => true
  | .fromTg .waitDtmf => true
  | .fromSip _ => true
  | _ => false

structure Bridge.WellFormed (bridge : Bridge) : Prop where
  composite : bridge.state.isFromTg || bridge.state.isFromSip
  tgLeg : bridge.state.hasTg = true → bridge.ctx.tgCallId ≠ 0
  sipLeg : bridge.state.hasSip = true → bridge.ctx.sipCallId ≠ invalidId
  voip : bridge.state.hasVoip = true → bridge.ctx.controller.isSome = true

/-- What the machine alone guarantees, whatever the ids are. -/
structure Bridge.Composed (bridge : Bridge) : Prop where
  composite : bridge.state.isFromTg || bridge.state.isFromSip
  voip : bridge.state.hasVoip = true → bridge.ctx.controller.isSome = true

theorem Bridge.Composed.running {bridge : Bridge} (composed : bridge.Composed) :
    bridge.state ≠ .x := by
  intro closed
  have composite := composed.composite
  rw [closed] at composite
  cases composite

theorem Life.composed {env : Env} {world : World} {bridge : Bridge} {event : Event}
    {change : Change} (life : Life env world bridge.state event change)
    (same : world.ctx = bridge.ctx)
    (started : bridge.Composed ∨ bridge.state = .init ∧ event.opens = true)
    (live : change.state ≠ .x) : Bridge.Composed ⟨change.ctx, change.state⟩ := by
  obtain ⟨ctx, state⟩ := bridge
  have waiting : state.hasVoip = true → ctx.controller.isSome = true := by
    intro voip
    rcases started with composed | ⟨initial, _⟩
    · exact composed.voip voip
    · change state = .init at initial
      rw [initial] at voip
      cases voip
  change world.ctx = ctx at same
  subst same
  cases life with
  | dialled incoming pending uri answered dialled => exact ⟨rfl, nofun⟩
  | undialled incoming pending uri answered failed => exact ⟨rfl, nofun⟩
  | accepted valid => exact ⟨rfl, nofun⟩
  | badExtension invalid => exact ⟨rfl, nofun⟩
  | answeredTg => exact ⟨rfl, nofun⟩
  | readyTg reached => exact ⟨rfl, fun _ => rfl⟩
  | dialledTg traced => exact ⟨rfl, nofun⟩
  | readySip reached => exact ⟨rfl, fun _ => rfl⟩
  | bridgedSip present => exact ⟨rfl, fun _ => present⟩
  | dtmf final valid found =>
      refine ⟨?_, waiting⟩
      rcases final with rfl | rfl <;> rfl
  | ignored unselected =>
      refine ⟨?_, waiting⟩
      rcases started with composed | ⟨initial, opens⟩
      · exact composed.composite
      · change state = .init at initial
        rw [initial, select_init] at unselected
        exact absurd unselected (initRow_of_opens env opens)
  | removed removal => exact absurd rfl live

/-- The legs: an event that reaches a bridge carries the id it was found by. -/
theorem Life.tgLeg {env : Env} {world : World} {state : SmState} {event : Event}
    {change : Change} (life : Life env world state event change) (valid : event.ValidIds)
    (owned : ∀ call, event = .updateCall call → state = .init ∨ world.ctx.tgCallId = call.id)
    (held : state.hasTg = true → world.ctx.tgCallId ≠ 0) :
    change.state.hasTg = true → change.ctx.tgCallId ≠ 0 := by
  cases life with
  | dialled incoming pending uri answered dialled => exact fun _ => valid
  | undialled incoming pending uri answered failed => exact fun _ => valid
  | accepted extension => exact nofun
  | badExtension extension => exact nofun
  | answeredTg => exact fun _ => held rfl
  | readyTg reached => exact fun _ => held rfl
  | dialledTg traced => exact nofun
  | @readySip call ready reached =>
      intro _
      rcases owned call rfl with initial | sameId
      · cases initial
      · rw [World.moved]
        change world.ctx.tgCallId ≠ 0
        rw [sameId]
        exact valid
  | bridgedSip present => exact fun _ => held rfl
  | dtmf final digits found => exact held
  | ignored unselected => exact held
  | removed removal => exact nofun

theorem Life.sipLeg {env : Env} {world : World} {state : SmState} {event : Event}
    {change : Change} (life : Life env world state event change)
    (valid : ∀ id, event.sipId? = some id → id ≠ invalidId)
    (owned : ∀ id hasMedia, event = .callMediaStateUpdate id hasMedia →
      state = .init ∨ world.ctx.sipCallId = id)
    (held : state.hasSip = true → world.ctx.sipCallId ≠ invalidId) :
    change.state.hasSip = true → change.ctx.sipCallId ≠ invalidId := by
  cases life with
  | dialled incoming pending uri answered dialled => exact nofun
  | undialled incoming pending uri answered failed => exact nofun
  | @accepted id ext parsed extension =>
      intro _
      change parsed.sipCallId ≠ invalidId
      rw [(parseExtension_keeps extension).2.1]
      exact valid id rfl
  | badExtension extension => exact fun _ => valid _ rfl
  | @answeredTg id =>
      intro _
      rcases owned id true rfl with initial | sameId
      · cases initial
      · change world.ctx.sipCallId ≠ invalidId
        rw [sameId]
        exact valid id rfl
  | readyTg reached => exact fun _ => held rfl
  | dialledTg traced =>
      intro _
      rw [Context.withTg_sipCallId]
      exact held rfl
  | readySip reached => exact fun _ => held rfl
  | bridgedSip present => exact fun _ => held rfl
  | dtmf final digits found => exact held
  | ignored unselected => exact held
  | removed removal => exact nofun

theorem ctxIdOf_injective (pid : Nat) {first second : Nat}
    (same : ctxIdOf pid first = ctxIdOf pid second) : first = second := by
  have characters := congrArg String.toList same
  simp only [ctxIdOf, String.toList_append] at characters
  have digits : first.repr.toList = second.repr.toList := List.append_cancel_left characters
  rw [Nat.toList_repr, Nat.toList_repr] at digits
  have values := congrArg (fun decimal => Nat.ofDigitChars 10 decimal 0) digits
  simpa only [Nat.ofDigitChars_ten_toDigits] using values

structure Gateway.Numbered (gateway : Gateway) : Prop where
  issued : ∀ bridge ∈ gateway.bridges, ∃ number ≤ gateway.ctxCounter,
    bridge.ctx.id = ctxIdOf gateway.pid number
  distinct : gateway.bridges.Pairwise (fun first second => first.ctx.id ≠ second.ctx.id)

theorem Gateway.Numbered.newBridge_id {gateway : Gateway} (numbered : gateway.Numbered) :
    ∀ bridge ∈ gateway.bridges, bridge.ctx.id ≠ gateway.newBridge.ctx.id := by
  intro bridge member same
  obtain ⟨number, bound, isIssued⟩ := numbered.issued bridge member
  have equal := ctxIdOf_injective gateway.pid (isIssued.symm.trans same)
  omega

theorem Placed.numbered {gateway base : Gateway} {env : Env} {event : Event}
    {before after : List Bridge} {bridge : Bridge} {announced : List Effect}
    (placed : Placed gateway env event before bridge after announced base)
    (numbered : gateway.Numbered) :
    Gateway.Numbered { base with bridges := before ++ bridge :: after } := by
  cases placed with
  | found shape owner earlier =>
      rw [← shape]
      exact ⟨numbered.issued, numbered.distinct⟩
  | opened opens foreign =>
      constructor
      · intro other member
        rcases List.mem_append.mp member with old | new
        · obtain ⟨number, bound, isIssued⟩ := numbered.issued other old
          exact ⟨number, Nat.le_succ_of_le bound, isIssued⟩
        · rw [List.mem_singleton] at new
          exact ⟨gateway.ctxCounter + 1, Nat.le_refl _, by rw [new]; rfl⟩
      · rw [List.pairwise_append]
        refine ⟨numbered.distinct, List.pairwise_singleton _ _, ?_⟩
        intro other member new fresh
        rw [List.mem_singleton.mp fresh]
        exact numbered.newBridge_id other member

theorem Gateway.Numbered.withQueue {gateway : Gateway} (numbered : gateway.Numbered)
    (queue : List InternalError) :
    Gateway.Numbered { gateway with internalEvents := queue } :=
  ⟨numbered.issued, numbered.distinct⟩

/-- A bridge that keeps its id can be replaced, and any bridge removed. -/
theorem Gateway.Numbered.replace {gateway : Gateway} {before after : List Bridge}
    {bridge replaced : Bridge}
    (numbered : Gateway.Numbered { gateway with bridges := before ++ bridge :: after })
    (sameId : replaced.ctx.id = bridge.ctx.id) :
    Gateway.Numbered { gateway with bridges := before ++ replaced :: after } := by
  have issued := numbered.issued
  have distinct := numbered.distinct
  simp only [List.forall_mem_append, List.forall_mem_cons, List.pairwise_append,
    List.pairwise_cons] at issued distinct
  constructor
  · simp only [List.forall_mem_append, List.forall_mem_cons, sameId]
    exact issued
  · simp only [List.pairwise_append, List.pairwise_cons, List.forall_mem_cons, sameId]
    exact distinct

theorem Gateway.Numbered.remove {gateway : Gateway} {before after : List Bridge}
    {bridge : Bridge}
    (numbered : Gateway.Numbered { gateway with bridges := before ++ bridge :: after }) :
    Gateway.Numbered { gateway with bridges := before ++ after } := by
  have sub : (before ++ after).Sublist (before ++ bridge :: after) :=
    List.Sublist.append_left (List.sublist_cons_self bridge after) before
  exact ⟨fun other member => numbered.issued other (sub.subset member),
    numbered.distinct.sublist sub⟩

theorem Placed.other_id {gateway base : Gateway} {env : Env} {event : Event}
    {before after : List Bridge} {bridge : Bridge} {announced : List Effect}
    (placed : Placed gateway env event before bridge after announced base)
    (numbered : gateway.Numbered) {other : Bridge} (member : other ∈ before ++ after) :
    other.ctx.id ≠ bridge.ctx.id := by
  have distinct := (placed.numbered numbered).distinct
  simp only [List.pairwise_append, List.pairwise_cons, List.forall_mem_cons] at distinct
  obtain ⟨_, ⟨behind, _⟩, ahead⟩ := distinct
  rcases List.mem_append.mp member with inBefore | inAfter
  · exact (ahead other inBefore).1
  · exact (behind other inAfter).symm

theorem Processed.numbered {gateway target : Gateway} {env : Env} {event : Event}
    {effects : List Logged} (processed : Processed gateway env event effects target)
    (numbered : gateway.Numbered) : target.Numbered := by
  cases processed with
  | unrouted silent foreign => exact numbered
  | @kept before after bridge announced base change placed life stays =>
      have sameId : Context.id (Bridge.ctx ⟨change.ctx, change.state⟩) = bridge.ctx.id :=
        life.keeps_id
      have replaced := (placed.numbered numbered).replace sameId
      exact ⟨replaced.issued, replaced.distinct⟩
  | removed placed life closed =>
      have removed := (placed.numbered numbered).remove
      exact ⟨removed.issued, removed.distinct⟩

/-! ### Errors that are still to be processed -/

/-- The second leg of the bridge could not be set up. -/
def Bridge.Stuck (bridge : Bridge) : Prop :=
  bridge.state = .fromTg .sipWaitMedia ∧ bridge.ctx.sipCallId = invalidId ∨
    bridge.state = .fromSip .waitTg ∧ bridge.ctx.tgCallId = 0

def Gateway.Awaited (gateway : Gateway) : Prop :=
  ∀ bridge ∈ gateway.bridges, bridge.Stuck →
    ∃ error ∈ gateway.internalEvents, error.ctxId = bridge.ctx.id

theorem DialTrace.reports {env : Env} {ctx : Context} {cache cacheAfter : Cache}
    {block blockAfter : Int} {effects : List Effect} {tg : Option Int}
    {errors : List CallOpParam}
    (traced : DialTrace env ctx cache block effects tg errors cacheAfter blockAfter) :
    (∃ id, tg = some id ∧ env.createCall = .callId id) ∨ tg = none ∧ errors ≠ [] := by
  cases traced with
  | blocked early => exact .inr ⟨rfl, List.cons_ne_nil _ _⟩
  | unresolved free missing => exact .inr ⟨rfl, List.cons_ne_nil _ _⟩
  | dialled free resolved created =>
      cases created with
      | created answered => exact .inl ⟨_, rfl, answered⟩
      | failed answered fits => exact .inr ⟨rfl, List.cons_ne_nil _ _⟩

/-- An event leaves a bridge stuck only when it queues an error, or when the
bridge was stuck before. -/
theorem Life.stuck {env : Env} {world : World} {state : SmState} {event : Event}
    {change : Change} (life : Life env world state event change) (valid : env.ValidIds)
    (stuck : Bridge.Stuck ⟨change.ctx, change.state⟩) :
    change.errors ≠ [] ∨ Bridge.Stuck ⟨world.ctx, state⟩ := by
  cases life with
  | dialled incoming pending uri answered dialled =>
      rcases stuck with ⟨_, missing⟩ | ⟨wrong, _⟩
      · exact absurd missing (valid.makeCall _ dialled)
      · cases wrong
  | undialled incoming pending uri answered failed => exact .inl (List.cons_ne_nil _ _)
  | dialledTg traced =>
      rcases stuck with ⟨wrong, _⟩ | ⟨_, missing⟩
      · cases wrong
      · rcases traced.reports with ⟨id, rfl, answered⟩ | ⟨_, reported⟩
        · exact absurd missing (valid.createCall id answered)
        · exact .inl reported
  | dtmf final digits found => exact .inr stuck
  | ignored unselected => exact .inr stuck
  | _ =>
      rcases stuck with ⟨wrong, _⟩ | ⟨wrong, _⟩ <;> cases wrong

structure Gateway.WellFormed (gateway : Gateway) : Prop where
  numbered : gateway.Numbered
  bridges : ∀ bridge ∈ gateway.bridges, bridge.WellFormed
  awaited : gateway.Awaited

theorem Bridge.WellFormed.composed {bridge : Bridge} (formed : bridge.WellFormed) :
    bridge.Composed :=
  ⟨formed.composite, formed.voip⟩

theorem Gateway.Receives.started {gateway : Gateway} {env : Env} {event : Event}
    {bridge : Bridge} (received : gateway.Receives env event bridge)
    (composed : ∀ other ∈ gateway.bridges, other.Composed) :
    bridge.Composed ∨ bridge.state = .init ∧ event.opens = true := by
  rcases received with ⟨member, _⟩ | ⟨rfl, opens⟩
  · exact .inl (composed bridge member)
  · exact .inr ⟨rfl, opens⟩

theorem Processed.composed {gateway target : Gateway} {env : Env} {event : Event}
    {effects : List Logged} (processed : Processed gateway env event effects target)
    (composed : ∀ bridge ∈ gateway.bridges, bridge.Composed) :
    ∀ bridge ∈ target.bridges, bridge.Composed := by
  apply processed.forall_bridges (fun bridge member => (composed bridge member).running) composed
  intro bridge change received life live
  exact life.composed rfl (received.started composed) live

theorem Gateway.Receives.tgCallId {gateway : Gateway} {env : Env} {call : Call}
    {bridge : Bridge} (received : gateway.Receives env (.updateCall call) bridge) :
    bridge.state = .init ∨ bridge.ctx.tgCallId = call.id := by
  rcases received with ⟨_, owner⟩ | ⟨rfl, _⟩
  · exact .inr (eq_of_beq owner)
  · exact .inl rfl

theorem Gateway.Receives.sipCallId {gateway : Gateway} {env : Env} {id : Int}
    {hasMedia : Bool} {bridge : Bridge}
    (received : gateway.Receives env (.callMediaStateUpdate id hasMedia) bridge) :
    bridge.state = .init ∨ bridge.ctx.sipCallId = id := by
  rcases received with ⟨_, owner⟩ | ⟨rfl, _⟩
  · exact .inr (eq_of_beq owner)
  · exact .inl rfl

theorem Processed.wellFormed {gateway target : Gateway} {env : Env} {event : Event}
    {effects : List Logged} (processed : Processed gateway env event effects target)
    (valid : event.ValidIds) (formed : ∀ bridge ∈ gateway.bridges, bridge.WellFormed) :
    ∀ bridge ∈ target.bridges, bridge.WellFormed := by
  apply processed.forall_bridges (fun bridge member => (formed bridge member).composed.running)
    formed
  intro bridge change received life live
  have composed := life.composed rfl
    (received.started (fun other member => (formed other member).composed)) live
  have heldTg : bridge.state.hasTg = true → bridge.ctx.tgCallId ≠ 0 := by
    intro needed
    rcases received with ⟨member, _⟩ | ⟨rfl, _⟩
    · exact (formed bridge member).tgLeg needed
    · cases needed
  have heldSip : bridge.state.hasSip = true → bridge.ctx.sipCallId ≠ invalidId := by
    intro needed
    rcases received with ⟨member, _⟩ | ⟨rfl, _⟩
    · exact (formed bridge member).sipLeg needed
    · cases needed
  have tgLeg := life.tgLeg valid
    (by rintro call rfl; exact received.tgCallId) heldTg
  have sipLeg := life.sipLeg (fun _ named => valid.sip named)
    (by rintro id hasMedia rfl; exact received.sipCallId) heldSip
  exact ⟨composed.composite, tgLeg, sipLeg, composed.voip⟩

theorem Life.internalError_over {env : Env} {world : World} {state : SmState}
    {error : InternalError} {change : Change}
    (life : Life env world state (.internalError error) change)
    (composite : state.isFromTg || state.isFromSip) : change.state = .x := by
  cases life with
  | ignored unselected =>
      cases state with
      | init => cases composite
      | x => rfl
      | fromTg state =>
          rw [select_fromTg] at unselected
          cases state <;> cases unselected
      | fromSip state =>
          rw [select_fromSip] at unselected
          cases state <;> cases unselected
  | removed removal => rfl

/-- Waiting errors stay in the queue, except for the one that is processed; its
bridge is removed.  A bridge that gets stuck adds an error. -/
theorem Processed.awaited {gateway target : Gateway} {env : Env} {event : Event}
    {effects : List Logged} (processed : Processed gateway env event effects target)
    (valid : env.ValidIds) (numbered : gateway.Numbered)
    (composed : ∀ bridge ∈ gateway.bridges, bridge.Composed)
    (awaited : ∀ bridge ∈ gateway.bridges, bridge.Stuck →
      (∃ error ∈ gateway.internalEvents, error.ctxId = bridge.ctx.id) ∨
        ∃ error, event = .internalError error ∧ error.ctxId = bridge.ctx.id) :
    target.Awaited := by
  cases processed with
  | unrouted silent foreign =>
      intro bridge member stuck
      rcases awaited bridge member stuck with waiting | ⟨error, rfl, named⟩
      · exact waiting
      · have notOwner := foreign error rfl bridge member
        simp only [Bridge.owns, named, beq_self_eq_true, Bool.true_eq_false] at notOwner
  | @kept before after bridge announced base change placed life stays =>
      have known : ∀ other ∈ gateway.bridges, other.Stuck →
          ∃ error ∈ (base.settle bridge.ctx.id change
            (before ++ ⟨change.ctx, change.state⟩ :: after)).internalEvents,
            error.ctxId = other.ctx.id := by
        intro other member stuck
        rcases awaited other member stuck with ⟨error, waiting, named⟩ | ⟨error, rfl, _⟩
        · refine ⟨error, List.mem_append_left _ ?_, named⟩
          rw [placed.internalEvents_eq]
          exact waiting
        · rcases placed.receives with ⟨receiver, _⟩ | ⟨_, opens⟩
          · have closed := life.internalError_over (composed bridge receiver).composite
            exact absurd (stays closed) (composed bridge receiver).running
          · cases opens
      intro other member stuck
      rcases List.mem_append.mp member with inBefore | rest
      · exact known other (placed.others (List.mem_append_left _ inBefore)) stuck
      · rcases List.mem_cons.mp rest with rfl | inAfter
        · rcases life.stuck valid stuck with reported | stuckBefore
          · obtain ⟨prm, first⟩ := List.exists_mem_of_ne_nil _ reported
            refine ⟨⟨bridge.ctx.id, prm⟩, List.mem_append_right _ ?_, life.keeps_id.symm⟩
            exact List.mem_map.mpr ⟨prm, first, rfl⟩
          · rcases placed.receives with ⟨receiver, _⟩ | ⟨rfl, _⟩
            · obtain ⟨error, waiting, named⟩ := known bridge receiver stuckBefore
              exact ⟨error, waiting, named.trans life.keeps_id.symm⟩
            · rcases stuckBefore with ⟨wrong, _⟩ | ⟨wrong, _⟩ <;> cases wrong
        · exact known other (placed.others (List.mem_append_right _ inAfter)) stuck
  | @removed before after bridge announced base change placed life closed =>
      intro other member stuck
      rcases awaited other (placed.others member) stuck with
        ⟨error, waiting, named⟩ | ⟨error, rfl, named⟩
      · refine ⟨error, List.mem_append_left _ ?_, named⟩
        rw [placed.internalEvents_eq]
        exact waiting
      · rcases placed.receives with ⟨_, owner⟩ | ⟨_, opens⟩
        · have same : bridge.ctx.id = error.ctxId := eq_of_beq owner
          exact absurd (named.symm.trans same.symm) (placed.other_id numbered member)
        · cases opens

theorem Stepped.wellFormed {gateway target : Gateway} {label : Label} {effects : List Logged}
    (stepped : Stepped gateway label effects target) (valid : label.ValidIds)
    (formed : gateway.WellFormed) : target.WellFormed := by
  cases stepped with
  | idle empty => exact formed
  | pjsip => exact ⟨⟨formed.numbered.issued, formed.numbered.distinct⟩, formed.bridges,
      formed.awaited⟩
  | event offered processed =>
      obtain ⟨validEnv, validEvent⟩ := offered.valid valid
      cases offered with
      | dispatch =>
          refine ⟨processed.numbered formed.numbered,
            processed.wellFormed validEvent formed.bridges,
            processed.awaited validEnv formed.numbered
              (fun bridge member => (formed.bridges bridge member).composed) ?_⟩
          exact fun bridge member stuck => .inl (formed.awaited bridge member stuck)
      | @popInternal env error rest queue =>
          have numbered := formed.numbered.withQueue rest
          refine ⟨processed.numbered numbered,
            processed.wellFormed validEvent formed.bridges,
            processed.awaited validEnv numbered
              (fun bridge member => (formed.bridges bridge member).composed) ?_⟩
          intro bridge member stuck
          obtain ⟨error, waiting, named⟩ := formed.awaited bridge member stuck
          rw [queue] at waiting
          rcases List.mem_cons.mp waiting with rfl | later
          · exact .inr ⟨error, rfl, named⟩
          · exact .inl ⟨error, later, named⟩

theorem initial_wellFormed (pid : Nat) (cache : Cache) (started : Int) (client : SipClient) :
    (Gateway.initial pid cache started client).WellFormed := by
  have empty : (Gateway.initial pid cache started client).bridges = [] := rfl
  refine ⟨⟨?_, ?_⟩, ?_, ?_⟩
  · rw [empty]
    exact List.forall_mem_nil _
  · rw [empty]
    exact List.Pairwise.nil
  · rw [empty]
    exact List.forall_mem_nil _
  · unfold Gateway.Awaited
    rw [empty]
    exact List.forall_mem_nil _

theorem Run.wellFormed {initial state : Gateway} {taken : List Transition}
    (run : Run initial taken state) (start : initial.WellFormed)
    (valid : ∀ transition ∈ taken, transition.label.ValidIds) : state.WellFormed := by
  apply LabelledMachine.Run.stateInvariant start _ run valid
  intro source label output target formed fired allowed
  exact (step_stepped fired).wellFormed allowed formed

/-- Where every bridge has the controller its state needs, no event makes
`BridgeAudio` dereference a null pointer. -/
theorem processEvent_ne_null {gateway : Gateway}
    (composed : ∀ bridge ∈ gateway.bridges, bridge.Composed) (env : Env) (event : Event)
    (effects : List Logged) :
    gateway.processEvent env event ≠ .terminated .nullDereference effects := by
  intro ended
  have thrown := processEvent_fault gateway env event
  rw [ended] at thrown
  obtain ⟨bridge, received, escaped⟩ := Option.bind_eq_some_iff.mp thrown.symm
  obtain ⟨waiting, missing⟩ := escape_null escaped
  rcases (receiver_receives received).started composed with held | ⟨initial, _⟩
  · have present := held.voip (by rw [waiting]; rfl)
    rw [show bridge.ctx.controller = none from missing] at present
    cases present
  · rw [waiting] at initial
    cases initial

theorem bridges_stay_wellFormed (pid : Nat) (cache : Cache) (started : Int) (client : SipClient)
    {taken : List Transition} {state : Gateway}
    (run : Run (Gateway.initial pid cache started client) taken state)
    (valid : ∀ transition ∈ taken, transition.label.ValidIds) :
    state.bridges.Pairwise (fun first second => first.ctx.id ≠ second.ctx.id) ∧
      (∀ bridge ∈ state.bridges, bridge.WellFormed) ∧
      (∀ bridge ∈ state.bridges, bridge.Stuck →
        ∃ error ∈ state.internalEvents, error.ctxId = bridge.ctx.id) ∧
      ∀ env event effects,
        state.processEvent env event ≠ .terminated .nullDereference effects := by
  have formed := run.wellFormed (initial_wellFormed pid cache started client) valid
  refine ⟨formed.numbered.distinct, formed.bridges, formed.awaited, ?_⟩
  exact processEvent_ne_null (fun bridge member => (formed.bridges bridge member).composed)

/-- An incoming SIP call that is being dialled on. -/
theorem bridges_wellFormed_of_incoming :
    ∃ taken state, Run Gateway.sample taken state ∧
      state.bridges.map Bridge.state = [.fromSip .waitTg] ∧
      ∀ bridge ∈ state.bridges, bridge.WellFormed := by
  have replayed : LabelledMachine.replay Gateway.step Gateway.sample
    [.dispatch Env.sample (.incomingCall 5 "42"),
      .dispatch Env.sample (.callStateUpdate 5 .early)] = some (_, _) := rfl
  have run := LabelledMachine.Run.of_replay replayed
  refine ⟨_, _, run, rfl, ?_⟩
  refine (bridges_stay_wellFormed _ _ _ _ run ?_).2.1
  refine LabelledMachine.replay_forall_labels Label.ValidIds replayed ?_
  simp [Label.ValidIds, Event.ValidIds, Env.sample_validIds, invalidId]

end Tg2Sip.Cpp
