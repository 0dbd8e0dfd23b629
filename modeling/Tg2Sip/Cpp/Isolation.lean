/-
Routing and isolation.

`search_call` takes the first bridge with the id of an event.  Over a run in
which the ids handed out by a dial are new, no two bridges share an id, so the
first bridge is the only one, and an event touches no other.  An event that no
bridge owns and that does not start a call creates a bridge and deletes it in
the same step, without any other effect.
-/

import Mathlib.Data.List.Pairwise
import Tg2Sip.Cpp.FloodBlock

namespace Tg2Sip.Cpp

structure Bridge.Disjoint (first second : Bridge) : Prop where
  tg : first.ctx.tgCallId = second.ctx.tgCallId → first.ctx.tgCallId = 0
  sip : first.ctx.sipCallId = second.ctx.sipCallId → first.ctx.sipCallId = invalidId

theorem Bridge.Disjoint.symm {first second : Bridge} (disjoint : first.Disjoint second) :
    second.Disjoint first where
  tg := fun same => same.trans (disjoint.tg same.symm)
  sip := fun same => same.trans (disjoint.sip same.symm)

def Gateway.UniqueIds (gateway : Gateway) : Prop :=
  gateway.bridges.Pairwise Bridge.Disjoint

def Effect.reuses (effect : Effect) (bridge : Bridge) : Bool :=
  match effect with
  | .dial _ _ (.ok id) => bridge.ctx.sipCallId == id
  | .query (.createCall _ _ _) (.callId id) => bridge.ctx.tgCallId == id
  | _ => false

/-- The ids that the outside handed out in a step were free. -/
def FreshIds (source : Gateway) (output : List Logged) : Prop :=
  ∀ logged ∈ output, ∀ bridge ∈ source.bridges, logged.2.reuses bridge = false

instance (source : Gateway) (output : List Logged) : Decidable (FreshIds source output) :=
  inferInstanceAs (Decidable (∀ logged ∈ output, ∀ bridge ∈ source.bridges,
    logged.2.reuses bridge = false))

theorem DialTrace.tg_created {env : Env} {ctx : Context} {cache cacheAfter : Cache}
    {block blockAfter : Int} {effects : List Effect} {id : Int}
    {errors : List CallOpParam}
    (traced : DialTrace env ctx cache block effects (some id) errors cacheAfter blockAfter) :
    ∃ userId, .query (createQuery env userId) (.callId id) ∈ effects := by
  cases traced with
  | dialled free resolved created =>
      cases created with
      | created answered =>
          exact ⟨_, List.mem_append_right _ List.mem_cons_self⟩

theorem Life.tgCallId_cases {env : Env} {world : World} {state : SmState} {event : Event}
    {change : Change} (life : Life env world state event change) :
    change.ctx.tgCallId = world.ctx.tgCallId ∨ change.ctx.tgCallId = 0 ∨
      (∃ call, state = .init ∧ event = .updateCall call ∧ change.ctx.tgCallId = call.id) ∨
      ∃ userId, .query (createQuery env userId) (.callId change.ctx.tgCallId) ∈
        change.effects := by
  cases life with
  | dialled incoming pending uri answered dialled =>
      exact .inr (.inr (.inl ⟨_, rfl, rfl, rfl⟩))
  | undialled incoming pending uri answered failed =>
      exact .inr (.inr (.inl ⟨_, rfl, rfl, rfl⟩))
  | accepted extension => exact .inl (parseExtension_keeps extension).2.2.1
  | @dialledTg id effects tg errors cache block traced =>
      cases tg with
      | none => exact .inl rfl
      | some id =>
          obtain ⟨userId, member⟩ := traced.tg_created
          exact .inr (.inr (.inr ⟨userId, List.mem_cons_of_mem _ member⟩))
  | removed removal => exact .inr (.inl rfl)
  | _ => exact .inl rfl

theorem dial_mem_diallingEffects (env : Env) (ctx : Context) (call : Call) (user : User) :
    .dial env.settings.callbackUri (dialSipPrm ctx.id call.userId user) env.makeCall ∈
      diallingEffects env ctx call user := by
  simp [diallingEffects]

theorem Life.sipCallId_cases {env : Env} {world : World} {state : SmState} {event : Event}
    {change : Change} (life : Life env world state event change) :
    change.ctx.sipCallId = world.ctx.sipCallId ∨ change.ctx.sipCallId = invalidId ∨
      (∃ id ext, state = .init ∧ event = .incomingCall id ext ∧
        change.ctx.sipCallId = id) ∨
      ∃ uri prm, .dial uri prm (.ok change.ctx.sipCallId) ∈ change.effects := by
  cases life with
  | @dialled call user id incoming pending uri answered dialled =>
      have request := dial_mem_diallingEffects env world.ctx call user
      rw [dialled] at request
      exact .inr (.inr (.inr ⟨_, _, List.mem_append_left _ request⟩))
  | accepted extension =>
      exact .inr (.inr (.inl ⟨_, _, rfl, rfl, (parseExtension_keeps extension).2.1⟩))
  | badExtension extension => exact .inr (.inr (.inl ⟨_, _, rfl, rfl, rfl⟩))
  | dialledTg traced => exact .inl (Context.withTg_sipCallId _ _)
  | removed removal => exact .inr (.inl rfl)
  | _ => exact .inl rfl

/-- A relation between the bridges that a new bridge is in with every other one
holds between the bridge at which an event is placed and the others. -/
theorem Placed.pairwise {gateway base : Gateway} {env : Env} {event : Event}
    {before after : List Bridge} {bridge : Bridge} {announced : List Effect}
    {related : Bridge → Bridge → Prop}
    (placed : Placed gateway env event before bridge after announced base)
    (symmetric : ∀ {first second : Bridge}, related first second → related second first)
    (unborn : ∀ other, related gateway.newBridge other)
    (pairwise : gateway.bridges.Pairwise related) :
    (∀ other ∈ before ++ after, related bridge other) ∧ (before ++ after).Pairwise related := by
  cases placed with
  | found shape owner earlier =>
      rw [shape, List.pairwise_middle symmetric, List.pairwise_cons] at pairwise
      exact pairwise
  | opened opens foreign =>
      rw [List.append_nil]
      exact ⟨fun other _ => unborn other, pairwise⟩

theorem Placed.uniqueIds {gateway base : Gateway} {env : Env} {event : Event}
    {before after : List Bridge} {bridge : Bridge} {announced : List Effect}
    (placed : Placed gateway env event before bridge after announced base)
    (unique : gateway.UniqueIds) :
    (∀ other ∈ before ++ after, bridge.Disjoint other) ∧
      (before ++ after).Pairwise Bridge.Disjoint :=
  placed.pairwise Bridge.Disjoint.symm (fun _ => ⟨fun _ => rfl, fun _ => rfl⟩) unique

theorem Placed.opened_of_init {gateway base : Gateway} {env : Env} {event : Event}
    {before after : List Bridge} {bridge : Bridge} {announced : List Effect}
    (placed : Placed gateway env event before bridge after announced base)
    (composed : ∀ other ∈ gateway.bridges, other.Composed) (initial : bridge.state = .init) :
    ∀ other ∈ gateway.bridges, other.owns env event = false := by
  cases placed with
  | found shape owner earlier =>
      have member : bridge ∈ gateway.bridges := by
        rw [shape]
        exact List.mem_append_right _ List.mem_cons_self
      have composite := (composed bridge member).composite
      rw [initial] at composite
      cases composite
  | opened opens foreign => exact foreign

theorem mem_stage_effects {announced effects marks : List Effect} {event : Event}
    {effect : Effect} (member : effect ∈ effects) :
    effect ∈ stageEffects announced event effects marks :=
  List.mem_append_right _ (List.mem_cons_of_mem _ (List.mem_append_left _ member))

theorem changed_disjoint {gateway base : Gateway} {env : Env} {event : Event}
    {before after : List Bridge} {bridge other : Bridge} {announced : List Effect}
    {change : Change} (placed : Placed gateway env event before bridge after announced base)
    (life : Life env (base.world bridge.ctx) bridge.state event change)
    (composed : ∀ other ∈ gateway.bridges, other.Composed)
    (fresh : FreshIds gateway
      (tagged bridge.ctx.id (stageEffects announced event change.effects [])))
    (disjoint : bridge.Disjoint other) (member : other ∈ gateway.bridges) :
    Bridge.Disjoint ⟨change.ctx, change.state⟩ other where
  tg := by
    intro same
    change change.ctx.tgCallId = other.ctx.tgCallId at same
    change change.ctx.tgCallId = 0
    rcases life.tgCallId_cases with unchanged | none | ⟨call, initial, rfl, stored⟩ |
      ⟨userId, created⟩
    · rw [unchanged] at same ⊢
      exact disjoint.tg same
    · exact none
    · have foreign := placed.opened_of_init composed initial other member
      have differs : other.ctx.tgCallId ≠ call.id := by simpa [Bridge.owns] using foreign
      exact absurd (same.symm.trans stored) differs
    · have free := fresh _ (mem_tagged.mpr ⟨rfl, mem_stage_effects created⟩) other member
      exact absurd same.symm (beq_eq_false_iff_ne.mp free)
  sip := by
    intro same
    change change.ctx.sipCallId = other.ctx.sipCallId at same
    change change.ctx.sipCallId = invalidId
    rcases life.sipCallId_cases with unchanged | none | ⟨id, ext, initial, rfl, stored⟩ |
      ⟨uri, prm, dialled⟩
    · rw [unchanged] at same ⊢
      exact disjoint.sip same
    · exact none
    · have foreign := placed.opened_of_init composed initial other member
      have differs : other.ctx.sipCallId ≠ id := by simpa [Bridge.owns] using foreign
      exact absurd (same.symm.trans stored) differs
    · have free := fresh _ (mem_tagged.mpr ⟨rfl, mem_stage_effects dialled⟩) other member
      exact absurd same.symm (beq_eq_false_iff_ne.mp free)

theorem Processed.uniqueIds {gateway target : Gateway} {env : Env} {event : Event}
    {effects : List Logged} (processed : Processed gateway env event effects target)
    (composed : ∀ bridge ∈ gateway.bridges, bridge.Composed)
    (fresh : FreshIds gateway effects)
    (unique : gateway.UniqueIds) : target.UniqueIds := by
  cases processed with
  | unrouted silent foreign => exact unique
  | removed placed life closed => exact (placed.uniqueIds unique).2
  | @kept before after bridge announced base change placed life stays =>
      obtain ⟨apart, others⟩ := placed.uniqueIds unique
      change (before ++ (⟨change.ctx, change.state⟩ : Bridge) :: after).Pairwise Bridge.Disjoint
      rw [List.pairwise_middle Bridge.Disjoint.symm, List.pairwise_cons]
      refine ⟨?_, others⟩
      intro other member
      exact changed_disjoint placed life composed fresh (apart other member)
        (placed.others member)

/-! ### Isolation -/

def Event.startsCall : Event → Bool
  | .updateCall call => isIncoming call && call.state.isPending
  | .incomingCall _ _ => true
  | _ => false

def Event.isMessage : Event → Bool
  | .updateNewMessage _ => true
  | _ => false

/-- What processing an event does to the bridges it is not for, and what it
does when it is for none. -/
structure Isolated (source : Gateway) (env : Env) (event : Event) (output : List Logged)
    (target : Gateway) : Prop where
  alone : event.isMessage = false → ∃ before owner changed after,
    source.bridges = before ++ owner ++ after ∧
      target.bridges = before ++ changed ++ after ∧
      owner.length ≤ 1 ∧ changed.length ≤ 1 ∧
      (∀ bridge ∈ owner, bridge.owns env event = true) ∧
      ∀ bridge ∈ before ++ after, bridge.owns env event = false
  unowned : (∀ bridge ∈ source.bridges, bridge.owns env event = false) →
    event.startsCall = false →
    target.bridges = source.bridges ∧ target.cache = source.cache ∧
      target.blockUntil = source.blockUntil ∧
      target.internalEvents = source.internalEvents ∧
      ∀ logged ∈ output, logged.2.isRequest = false

theorem only_owner {env : Env} {event : Event} {owner other : Bridge}
    (apart : owner.Disjoint other) (otherId : other.ctx.id ≠ owner.ctx.id)
    (valid : event.ValidIds) (notMessage : event.isMessage = false)
    (owned : owner.owns env event = true) : other.owns env event = false := by
  cases event with
  | updateNewMessage message => cases notMessage
  | updateCall call =>
      have same : owner.ctx.tgCallId = call.id := eq_of_beq owned
      refine beq_eq_false_iff_ne.mpr (fun collides => ?_)
      exact valid (same.symm.trans (apart.tg (same.trans collides.symm)))
  | internalError error =>
      have same : owner.ctx.id = error.ctxId := eq_of_beq owned
      refine beq_eq_false_iff_ne.mpr (fun collides => ?_)
      exact otherId (collides.trans same.symm)
  | incomingCall id ext =>
      have same : owner.ctx.sipCallId = id := eq_of_beq owned
      refine beq_eq_false_iff_ne.mpr (fun collides => ?_)
      exact valid (same.symm.trans (apart.sip (same.trans collides.symm)))
  | callStateUpdate id state =>
      have same : owner.ctx.sipCallId = id := eq_of_beq owned
      refine beq_eq_false_iff_ne.mpr (fun collides => ?_)
      exact valid (same.symm.trans (apart.sip (same.trans collides.symm)))
  | callMediaStateUpdate id hasMedia =>
      have same : owner.ctx.sipCallId = id := eq_of_beq owned
      refine beq_eq_false_iff_ne.mpr (fun collides => ?_)
      exact valid (same.symm.trans (apart.sip (same.trans collides.symm)))

/-- A new bridge whose event starts no call is cleaned up at once. -/
theorem Life.of_unstarted {env : Env} {world : World} {event : Event} {change : Change}
    (life : Life env world .init event change) (opens : event.opens = true)
    (unstarted : event.startsCall = false) :
    change = World.closed env world world.ctx [] := by
  cases life with
  | dialled incoming pending uri answered dialled =>
      simp only [Event.startsCall, incoming, pending] at unstarted
      cases unstarted
  | undialled incoming pending uri answered failed =>
      simp only [Event.startsCall, incoming, pending] at unstarted
      cases unstarted
  | accepted extension => cases unstarted
  | badExtension extension => cases unstarted
  | dtmf final digits found => rcases final with wrong | wrong <;> cases wrong
  | ignored unselected =>
      rw [select_init] at unselected
      exact absurd unselected (initRow_of_opens env opens)
  | removed removal =>
      cases removal with
      | noCallback incoming pending uri =>
          simp only [Event.startsCall, incoming, pending] at unstarted
          cases unstarted
      | unknownCall notPending => rfl
      | unknownState => rfl
      | unknownMedia => rfl
      | ended composite closed => cases composite
      | disconnected composite => cases composite
      | failed composite => cases composite

theorem Processed.isolated {gateway target : Gateway} {env : Env} {event : Event}
    {effects : List Logged} (processed : Processed gateway env event effects target)
    (valid : event.ValidIds) (numbered : gateway.Numbered) (unique : gateway.UniqueIds) :
    Isolated gateway env event effects target := by
  have foreign : ∀ {before after : List Bridge} {bridge : Bridge},
      gateway.bridges = before ++ bridge :: after → bridge.owns env event = true →
      (∀ other ∈ before, other.owns env event = false) → event.isMessage = false →
      ∀ other ∈ before ++ after, other.owns env event = false := by
    intro before after bridge shape owner earlier notMessage other member
    have placed : Placed gateway env event before bridge after [] gateway :=
      .found shape owner earlier
    exact only_owner ((placed.uniqueIds unique).1 other member)
      (placed.other_id numbered member) valid notMessage owner
  cases processed with
  | unrouted silent unowned =>
      refine ⟨?_, fun _ _ => ⟨rfl, rfl, rfl, rfl, List.forall_mem_nil _⟩⟩
      intro notMessage
      refine ⟨gateway.bridges, [], [], [], by simp, by simp, by simp, by simp, by simp, ?_⟩
      rw [List.append_nil]
      cases event with
      | internalError error => exact unowned error rfl
      | updateNewMessage message => cases notMessage
      | _ => cases silent
  | @kept before after bridge announced base change placed life stays =>
      cases placed with
      | found shape owner earlier =>
          constructor
          · intro notMessage
            refine ⟨before, [bridge], [⟨change.ctx, change.state⟩], after, ?_, ?_, by simp,
              by simp, by simpa using owner, foreign shape owner earlier notMessage⟩
            · rw [shape, List.append_assoc, List.singleton_append]
            · rw [List.append_assoc, List.singleton_append]
              rfl
          · intro unowned _
            have notOwner := unowned bridge (by
              rw [shape]
              exact List.mem_append_right _ List.mem_cons_self)
            rw [owner] at notOwner
            cases notOwner
      | opened opens unowned =>
          constructor
          · intro _
            exact ⟨gateway.bridges, [], [⟨change.ctx, change.state⟩], [], by simp,
              by simp [Gateway.settle], by simp, by simp, by simp, by simpa using unowned⟩
          · intro _ unstarted
            rw [life.of_unstarted opens unstarted] at stays
            cases stays rfl
  | @removed before after bridge announced base change placed life closed =>
      cases placed with
      | found shape owner earlier =>
          constructor
          · intro notMessage
            refine ⟨before, [bridge], [], after, ?_, ?_, by simp, by simp,
              by simpa using owner, foreign shape owner earlier notMessage⟩
            · rw [shape, List.append_assoc, List.singleton_append]
            · rw [List.append_nil]
              rfl
          · intro unowned _
            have notOwner := unowned bridge (by
              rw [shape]
              exact List.mem_append_right _ List.mem_cons_self)
            rw [owner] at notOwner
            cases notOwner
      | opened opens unowned =>
          constructor
          · intro _
            exact ⟨gateway.bridges, [], [], [], by simp, by simp [Gateway.settle], by simp,
              by simp, by simp, by simpa using unowned⟩
          · intro _ unstarted
            have silent : (World.closed env (gateway.world gateway.newBridge.ctx)
                gateway.newBridge.ctx []).effects = [.action .cleanUp] := rfl
            rw [life.of_unstarted opens unstarted]
            refine ⟨List.append_nil _, rfl, rfl, List.append_nil _, ?_⟩
            intro logged member
            change logged ∈ tagged _ (stageEffects _ _ (World.closed env
              (gateway.world gateway.newBridge.ctx) gateway.newBridge.ctx []).effects _) at member
            rw [silent] at member
            revert logged member
            simp [stageEffects, tagged, Effect.isRequest]

/-- The invariant that routing rests on. -/
structure Gateway.Routable (gateway : Gateway) : Prop where
  numbered : gateway.Numbered
  composed : ∀ bridge ∈ gateway.bridges, bridge.Composed
  unique : gateway.UniqueIds

theorem Gateway.Routable.of_offer {source base : Gateway} {label : Label} {env : Env}
    {event : Event} (routable : source.Routable) (offered : Offers source label env event base) :
    base.Routable := by
  cases offered with
  | dispatch => exact routable
  | popInternal queue =>
      exact ⟨routable.numbered.withQueue _, routable.composed, routable.unique⟩

theorem Stepped.routable {gateway target : Gateway} {label : Label} {output : List Logged}
    (stepped : Stepped gateway label output target) (fresh : FreshIds gateway output)
    (routable : gateway.Routable) : target.Routable := by
  cases stepped with
  | idle empty => exact routable
  | pjsip => exact ⟨⟨routable.numbered.issued, routable.numbered.distinct⟩, routable.composed,
      routable.unique⟩
  | @event label env event base target output offered processed =>
      have before := routable.of_offer offered
      have freshBase : FreshIds base output := by
        cases offered <;> exact fresh
      exact ⟨processed.numbered before.numbered, processed.composed before.composed,
        processed.uniqueIds before.composed freshBase before.unique⟩

theorem Run.routable {initial state : Gateway} {taken : List Transition}
    (run : Run initial taken state) (start : initial.Routable)
    (fresh : ∀ transition ∈ taken, FreshIds transition.source transition.output) :
    state.Routable := by
  apply LabelledMachine.Run.stateInvariant start _ run fresh
  intro source label output target routable fired allowed
  exact (step_stepped fired).routable allowed routable

theorem initial_routable (pid : Nat) (cache : Cache) (started : Int) (client : SipClient) :
    (Gateway.initial pid cache started client).Routable := by
  have formed := initial_wellFormed pid cache started client
  exact ⟨formed.numbered, fun bridge member => (formed.bridges bridge member).composed,
    List.Pairwise.nil⟩

theorem events_are_isolated (pid : Nat) (cache : Cache) (started : Int) (client : SipClient)
    {taken : List Transition} {state : Gateway}
    (run : Run (Gateway.initial pid cache started client) taken state)
    (valid : ∀ transition ∈ taken, transition.label.ValidIds)
    (fresh : ∀ transition ∈ taken, FreshIds transition.source transition.output) :
    state.UniqueIds ∧
      ∀ transition ∈ taken, ∀ env event base,
        Offers transition.source transition.label env event base →
          Isolated base env event transition.output transition.target := by
  have start := initial_routable pid cache started client
  refine ⟨(run.routable start fresh).unique, ?_⟩
  intro transition member env event base offered
  obtain ⟨before, after, shape, reached, fired⟩ := run.split member
  have routable := Run.routable reached start (fun earlier inBefore => fresh earlier (by
    rw [shape]
    exact List.mem_append_left _ inBefore))
  have atEvent := routable.of_offer offered
  exact ((step_stepped fired).processed offered).isolated
    (offered.valid (valid transition member)).2 atEvent.numbered atEvent.unique

/-- One call is being bridged while another one rings. -/
def Label.twoCalls : List Label :=
  Label.bridging ++ [Label.dispatch Env.sample (.updateCall .samplePending)]

theorem events_are_isolated_for_two_calls :
    ∃ taken state, Run Gateway.sample taken state ∧
      state.bridges.map Bridge.state = [.fromSip .waitDtmf, .fromTg .sipWaitMedia] ∧
      state.UniqueIds := by
  have replayed : LabelledMachine.replay Gateway.step Gateway.sample Label.twoCalls =
    some (_, _) := rfl
  have run := LabelledMachine.Run.of_replay replayed
  refine ⟨_, _, run, rfl, ?_⟩
  refine (events_are_isolated _ _ _ _ run ?_ ?_).1
  · refine LabelledMachine.replay_forall_labels Label.ValidIds replayed ?_
    simp [Label.twoCalls, Label.bridging, Label.ValidIds, Event.ValidIds, Env.sample_validIds,
      invalidId, Call.samplePending]
  · decide

end Tg2Sip.Cpp
