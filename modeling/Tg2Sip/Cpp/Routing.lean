/-
What one dispatched event does to the gateway.

An event is placed at the first bridge that owns its id, at a bridge created
for it, or nowhere.  `Processed` is the resulting change of the gateway: the
bridge lives through the event, is removed if its machine has ended, and no
other bridge is touched.
-/

import Mathlib.Data.List.TakeWhile
import Tg2Sip.Cpp.Lifecycle

namespace Tg2Sip.Cpp

/-- The test by which the overload of `process_event` for an event searches. -/
def Bridge.owns (env : Env) (event : Event) (bridge : Bridge) : Bool :=
  match event with
  | .updateCall call => bridge.ctx.tgCallId == call.id
  | .updateNewMessage message => bridge.ctx.userId == message.senderId.castUserId env
  | .incomingCall id _ => bridge.ctx.sipCallId == id
  | .callStateUpdate id _ => bridge.ctx.sipCallId == id
  | .callMediaStateUpdate id _ => bridge.ctx.sipCallId == id
  | .internalError error => bridge.ctx.id == error.ctxId

def Event.opens : Event → Bool
  | .updateNewMessage _ => false
  | .internalError _ => false
  | _ => true

theorem initRow_of_opens (env : Env) {event : Event} (opens : event.opens = true) :
    initRow env event ≠ none := by
  cases event with
  | updateNewMessage message => cases opens
  | internalError error => cases opens
  | updateCall call =>
      unfold initRow
      dsimp only
      by_cases pending : (isIncoming call && call.state.isPending) = true
      · rw [if_pos pending]
        by_cases uri : callbackUriIsSet env.settings = true
        · rw [if_pos uri]
          exact Option.some_ne_none _
        · rw [if_neg uri]
          exact Option.some_ne_none _
      · rw [if_neg pending]
        exact Option.some_ne_none _
  | _ => exact Option.some_ne_none _

theorem firstMatch_some {owns : Bridge → Bool} {bridges before after : List Bridge}
    {bridge : Bridge} (found : firstMatch owns bridges = some (before, bridge, after)) :
    bridges = before ++ bridge :: after ∧ owns bridge = true ∧
      ∀ other ∈ before, owns other = false := by
  unfold firstMatch at found
  split at found
  · cases found
  · rename_i head tail rest
    cases found
    refine ⟨?_, ?_, ?_⟩
    · rw [← rest, List.takeWhile_append_dropWhile]
    · have stopped := List.head?_dropWhile_not (fun other => !owns other) bridges
      rw [rest] at stopped
      simpa using stopped
    · intro other member
      have passed := List.mem_takeWhile_imp member
      simpa using passed

theorem firstMatch_none {owns : Bridge → Bool} {bridges : List Bridge}
    (missing : firstMatch owns bridges = none) : ∀ other ∈ bridges, owns other = false := by
  unfold firstMatch at missing
  split at missing
  · rename_i rest
    rw [List.dropWhile_eq_nil_iff] at rest
    intro other member
    simpa using rest other member
  · cases missing

theorem filter_singleton_split {owns : Bridge → Bool} {bridges : List Bridge} {bridge : Bridge}
    (only : bridges.filter owns = [bridge]) :
    ∃ before after, bridges = before ++ bridge :: after ∧ owns bridge = true ∧
      (∀ other ∈ before, owns other = false) ∧ ∀ other ∈ after, owns other = false := by
  induction bridges with
  | nil => cases only
  | cons head tail ih =>
      cases owned : owns head with
      | true =>
          rw [List.filter_cons_of_pos owned, List.cons.injEq, List.filter_eq_nil_iff] at only
          obtain ⟨rfl, others⟩ := only
          refine ⟨[], tail, rfl, owned, by simp, ?_⟩
          intro other member
          simpa using others other member
      | false =>
          rw [List.filter_cons_of_neg (by simp [owned])] at only
          obtain ⟨before, after, rfl, isOwner, earlier, later⟩ := ih only
          refine ⟨head :: before, after, rfl, isOwner, ?_, later⟩
          intro other member
          rcases List.mem_cons.mp member with rfl | inside
          · exact owned
          · exact earlier other inside

theorem map_split {owns : Bridge → Bool} {before after : List Bridge} {bridge replaced : Bridge}
    (owned : owns bridge = true) (earlier : ∀ other ∈ before, owns other = false)
    (later : ∀ other ∈ after, owns other = false) :
    (before ++ bridge :: after).map (fun other => if owns other then replaced else other) =
      before ++ replaced :: after := by
  have unchanged : ∀ others : List Bridge, (∀ other ∈ others, owns other = false) →
      others.map (fun other => if owns other then replaced else other) = others := by
    intro others foreign
    have same : others.map (fun other => if owns other then replaced else other) =
        others.map id := by
      apply List.map_congr_left
      intro other member
      simp [foreign other member]
    rw [same, List.map_id]
  rw [List.map_append, List.map_cons, if_pos owned, unchanged before earlier,
    unchanged after later]

inductive Placed (gateway : Gateway) (env : Env) (event : Event) :
    List Bridge → Bridge → List Bridge → List Effect → Gateway → Prop where
  | found {before after : List Bridge} {bridge : Bridge} :
      gateway.bridges = before ++ bridge :: after → bridge.owns env event = true →
      (∀ other ∈ before, other.owns env event = false) →
      Placed gateway env event before bridge after [] gateway
  | opened : event.opens = true → (∀ other ∈ gateway.bridges, other.owns env event = false) →
      Placed gateway env event gateway.bridges gateway.newBridge [] [.created]
        { gateway with ctxCounter := gateway.ctxCounter + 1 }

def Gateway.settle (gateway : Gateway) (ctxId : String) (change : Change)
    (bridges : List Bridge) : Gateway :=
  { gateway with
    bridges := bridges
    cache := change.cache
    blockUntil := change.blockUntil
    internalEvents := gateway.internalEvents ++ change.errors.map (InternalError.mk ctxId)
    sip := change.effects.foldl SipClient.apply gateway.sip }

def removalMark (state : SmState) : List Effect := if state = .x then [.deleted] else []

def stageEffects (announced : List Effect) (event : Event) (effects marks : List Effect) :
    List Effect :=
  announced ++ (Effect.handled event :: (effects ++ marks))

inductive Processed (gateway : Gateway) (env : Env) (event : Event) :
    List Logged → Gateway → Prop where
  | unrouted : event.opens = false →
      (∀ error, event = .internalError error →
        ∀ bridge ∈ gateway.bridges, bridge.owns env event = false) →
      Processed gateway env event [] gateway
  | kept {before after : List Bridge} {bridge : Bridge} {announced : List Effect}
      {base : Gateway} {change : Change} :
      Placed gateway env event before bridge after announced base →
      Life env (base.world bridge.ctx) bridge.state event change →
      (change.state = .x → bridge.state = .x) →
      Processed gateway env event
        (tagged bridge.ctx.id (stageEffects announced event change.effects []))
        (base.settle bridge.ctx.id change (before ++ ⟨change.ctx, change.state⟩ :: after))
  | removed {before after : List Bridge} {bridge : Bridge} {announced : List Effect}
      {base : Gateway} {change : Change} :
      Placed gateway env event before bridge after announced base →
      Life env (base.world bridge.ctx) bridge.state event change → change.state = .x →
      Processed gateway env event
        (tagged bridge.ctx.id (stageEffects announced event change.effects [.deleted]))
        (base.settle bridge.ctx.id change (before ++ after))

theorem absorb_behind (gateway : Gateway) (ctx : Context) (change : Change)
    (bridges : List Bridge) :
    gateway.absorb (change.behind (gateway.world ctx)) bridges =
      gateway.settle ctx.id change bridges := rfl

theorem trace_behind (gateway : Gateway) (ctx : Context) (change : Change) :
    (change.behind (gateway.world ctx)).trace = change.effects := by
  simp [Change.behind, World.withBlock, World.after, Gateway.world]

theorem tagged_append (ctxId : String) (first second : List Effect) :
    tagged ctxId (first ++ second) = tagged ctxId first ++ tagged ctxId second := by
  simp only [tagged, List.map_append]

theorem deliver_processed {gateway base target : Gateway} {env : Env} {event : Event}
    {before after : List Bridge} {bridge : Bridge} {announced : List Effect}
    {effects : List Logged}
    (placed : Placed gateway env event before bridge after announced base)
    (returned : base.deliver env event before bridge after = .returned target effects) :
    Processed gateway env event (tagged bridge.ctx.id announced ++ effects) target := by
  unfold Gateway.deliver at returned
  split at returned
  · cases returned
  · rename_i state world performed
    obtain ⟨change, lived, rfl, rfl⟩ := processEvent_lives performed
    rw [absorb_behind, absorb_behind, trace_behind] at returned
    split at returned
    · rename_i closed
      cases returned
      rw [← tagged_append]
      exact Processed.removed placed lived closed
    · rename_i live
      cases returned
      rw [← tagged_append]
      have kept := Processed.kept placed lived (fun closed => absurd closed live)
      rw [stageEffects, List.append_nil] at kept
      exact kept

theorem searchCall_processed {gateway target : Gateway} {env : Env} {event : Event}
    {effects : List Logged} (opens : event.opens = true)
    (returned : gateway.searchCall env event (Bridge.owns env event) =
      .returned target effects) :
    Processed gateway env event effects target := by
  unfold Gateway.searchCall at returned
  cases found : firstMatch (Bridge.owns env event) gateway.bridges with
  | some split =>
      obtain ⟨before, bridge, after⟩ := split
      rw [found] at returned
      obtain ⟨shape, owner, earlier⟩ := firstMatch_some found
      have processed := deliver_processed (.found shape owner earlier) returned
      exact processed
  | none =>
      rw [found] at returned
      have foreign := firstMatch_none found
      cases delivered : Gateway.deliver { gateway with ctxCounter := gateway.ctxCounter + 1 }
          env event gateway.bridges gateway.newBridge [] with
      | terminated fault later =>
          simp only [delivered, Outcome.after, reduceCtorEq] at returned
      | returned last later =>
          simp only [delivered, Outcome.after, Outcome.returned.injEq] at returned
          obtain ⟨rfl, rfl⟩ := returned
          exact deliver_processed (.opened opens foreign) delivered

theorem processMessage_processed {gateway target : Gateway} {env : Env} {message : Message}
    {effects : List Logged}
    (returned : gateway.processMessage env message = .returned target effects) :
    Processed gateway env (.updateNewMessage message) effects target := by
  unfold Gateway.processMessage at returned
  split at returned
  · cases returned
    exact .unrouted rfl nofun
  · dsimp only at returned
    split at returned
    · cases returned
      exact .unrouted rfl nofun
    · rename_i bridge only
      obtain ⟨before, after, shape, owner, earlier, later⟩ := filter_singleton_split only
      unfold Gateway.deliverMessage at returned
      split at returned
      · cases returned
      · rename_i state world performed
        obtain ⟨change, lived, rfl, rfl⟩ := processEvent_lives performed
        rw [absorb_behind, trace_behind, shape, map_split owner earlier later] at returned
        cases returned
        have placed : Placed gateway env (.updateNewMessage message) before bridge after []
            gateway := .found shape owner earlier
        have kept := Processed.kept placed lived
          (fun closed => lived.message_keeps_state.symm.trans closed)
        rw [stageEffects, List.append_nil] at kept
        exact kept
    · cases returned
      exact .unrouted rfl nofun

theorem processInternalError_processed {gateway target : Gateway} {env : Env}
    {error : InternalError} {effects : List Logged}
    (returned : gateway.processInternalError env error = .returned target effects) :
    Processed gateway env (.internalError error) effects target := by
  unfold Gateway.processInternalError at returned
  split at returned
  · rename_i missing
    cases returned
    exact .unrouted rfl (fun _ _ => firstMatch_none missing)
  · rename_i before bridge after found
    obtain ⟨shape, owner, earlier⟩ := firstMatch_some found
    have placed : Placed gateway env (.internalError error) before bridge after [] gateway :=
      .found shape owner earlier
    exact deliver_processed placed returned

theorem processEvent_processed {gateway target : Gateway} {env : Env} {event : Event}
    {effects : List Logged}
    (returned : gateway.processEvent env event = .returned target effects) :
    Processed gateway env event effects target := by
  cases event with
  | updateCall call => exact searchCall_processed rfl returned
  | incomingCall id ext => exact searchCall_processed rfl returned
  | callStateUpdate id state => exact searchCall_processed rfl returned
  | callMediaStateUpdate id hasMedia => exact searchCall_processed rfl returned
  | updateNewMessage message => exact processMessage_processed returned
  | internalError error => exact processInternalError_processed returned

/-! ### Lifting a property of one bridge -/

theorem Placed.world_eq {gateway base : Gateway} {env : Env} {event : Event}
    {before after : List Bridge} {bridge : Bridge} {announced : List Effect}
    (placed : Placed gateway env event before bridge after announced base) (ctx : Context) :
    base.world ctx = gateway.world ctx := by
  cases placed <;> rfl

theorem Placed.internalEvents_eq {gateway base : Gateway} {env : Env} {event : Event}
    {before after : List Bridge} {bridge : Bridge} {announced : List Effect}
    (placed : Placed gateway env event before bridge after announced base) :
    base.internalEvents = gateway.internalEvents := by
  cases placed <;> rfl

/-- The bridge at which an event is placed: one that owns it, or a new one. -/
def Gateway.Receives (gateway : Gateway) (env : Env) (event : Event) (bridge : Bridge) : Prop :=
  bridge ∈ gateway.bridges ∧ bridge.owns env event = true ∨
    bridge = gateway.newBridge ∧ event.opens = true

theorem Placed.receives {gateway base : Gateway} {env : Env} {event : Event}
    {before after : List Bridge} {bridge : Bridge} {announced : List Effect}
    (placed : Placed gateway env event before bridge after announced base) :
    gateway.Receives env event bridge := by
  cases placed with
  | found shape owner earlier =>
      left
      rw [shape]
      exact ⟨List.mem_append_right _ List.mem_cons_self, owner⟩
  | opened opens foreign => exact .inr ⟨rfl, opens⟩

theorem Placed.others {gateway base : Gateway} {env : Env} {event : Event}
    {before after : List Bridge} {bridge : Bridge} {announced : List Effect}
    (placed : Placed gateway env event before bridge after announced base)
    {other : Bridge} (member : other ∈ before ++ after) : other ∈ gateway.bridges := by
  cases placed with
  | found shape owner earlier =>
      rw [shape]
      rcases List.mem_append.mp member with inBefore | inAfter
      · exact List.mem_append_left _ inBefore
      · exact List.mem_append_right _ (List.mem_cons_of_mem _ inAfter)
  | opened opens foreign =>
      rw [List.append_nil] at member
      exact member

theorem Processed.forall_bridges {gateway target : Gateway} {env : Env} {event : Event}
    {effects : List Logged} {property : Bridge → Prop}
    (processed : Processed gateway env event effects target)
    (running : ∀ bridge ∈ gateway.bridges, bridge.state ≠ .x)
    (held : ∀ bridge ∈ gateway.bridges, property bridge)
    (lived : ∀ bridge change, gateway.Receives env event bridge →
      Life env (gateway.world bridge.ctx) bridge.state event change → change.state ≠ .x →
      property ⟨change.ctx, change.state⟩) :
    ∀ bridge ∈ target.bridges, property bridge := by
  cases processed with
  | unrouted => exact held
  | @kept before after bridge announced base change placed life stays =>
      have received := placed.receives
      have live : change.state ≠ .x := by
        intro closed
        rcases received with ⟨member, _⟩ | ⟨fresh, _⟩
        · exact running bridge member (stays closed)
        · rw [fresh] at stays
          cases stays closed
      rw [placed.world_eq] at life
      intro other member
      rcases List.mem_append.mp member with inBefore | rest
      · exact held other (placed.others (List.mem_append_left _ inBefore))
      · rcases List.mem_cons.mp rest with rfl | inAfter
        · exact lived bridge change received life live
        · exact held other (placed.others (List.mem_append_right _ inAfter))
  | @removed before after bridge announced base change placed life closed =>
      intro other member
      exact held other (placed.others member)

/-- The event that a label makes the gateway process, and the gateway it
finds: popping the internal queue removes the error first. -/
inductive Offers (gateway : Gateway) : Label → Env → Event → Gateway → Prop where
  | dispatch {env : Env} {event : Event} :
      Offers gateway (.dispatch env event) env event gateway
  | popInternal {env : Env} {error : InternalError} {rest : List InternalError} :
      gateway.internalEvents = error :: rest →
      Offers gateway (.popInternal env) env (.internalError error)
        { gateway with internalEvents := rest }

inductive Stepped (gateway : Gateway) : Label → List Logged → Gateway → Prop where
  | idle {env : Env} : gateway.internalEvents = [] →
      Stepped gateway (.popInternal env) [] gateway
  | pjsip {client : SipClient} :
      Stepped gateway (.pjsip client) [] { gateway with sip := client }
  | event {label : Label} {env : Env} {event : Event} {base target : Gateway}
      {effects : List Logged} : Offers gateway label env event base →
      Processed base env event effects target → Stepped gateway label effects target

theorem Outcome.returned_of_toStep {outcome : Outcome} {effects : List Logged}
    {target : Gateway} (some : outcome.toStep = some (effects, target)) :
    outcome = .returned target effects := by
  cases outcome with
  | returned gateway later =>
      cases some
      rfl
  | terminated fault later => cases some

theorem step_stepped {gateway target : Gateway} {label : Label} {effects : List Logged}
    (fired : gateway.step label = some (effects, target)) :
    Stepped gateway label effects target := by
  cases label with
  | dispatch env event =>
      exact .event .dispatch (processEvent_processed (Outcome.returned_of_toStep fired))
  | pjsip client =>
      cases fired
      exact .pjsip
  | popInternal env =>
      simp only [Gateway.step] at fired
      split at fired
      · rename_i empty
        cases fired
        exact .idle empty
      · rename_i error rest queue
        exact .event (.popInternal queue)
          (processInternalError_processed (Outcome.returned_of_toStep fired))

theorem Stepped.processed {gateway base target : Gateway} {label : Label} {env : Env}
    {event : Event} {effects : List Logged} (stepped : Stepped gateway label effects target)
    (offered : Offers gateway label env event base) :
    Processed base env event effects target := by
  cases stepped with
  | idle empty =>
      cases offered with
      | popInternal queue =>
          rw [empty] at queue
          cases queue
  | pjsip => cases offered
  | event taken processed =>
      cases offered with
      | dispatch =>
          cases taken
          exact processed
      | popInternal queue =>
          cases taken with
          | popInternal same =>
              rw [queue] at same
              cases same
              exact processed

end Tg2Sip.Cpp
