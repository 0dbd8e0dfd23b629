/-
The invariant of the registry of SIP calls, over one turn of the main loop.

A bridge with a SIP call and a queued incoming call each have an entry, and the
entry is their own object; no two of them have the same id.
-/

import Tg2Sip.Cpp.Filing

namespace Tg2Sip.Cpp

open FiniteMap (Map)

/-! ### The invariant -/

def Hung (log : List Logged) (id : Int) (ref : CallRef) : Prop :=
  ∃ ctxId prm, (ctxId, .sip (.hangup id prm) (some ref) none) ∈ log

theorem Hung.more {log : List Logged} {id : Int} {ref : CallRef} (hung : Hung log id ref)
    (later : List Logged) : Hung (log ++ later) id ref := by
  obtain ⟨ctxId, prm, member⟩ := hung
  exact ⟨ctxId, prm, List.mem_append_left _ member⟩

def Bridge.SipApart (first second : Bridge) : Prop :=
  first.ctx.sipCallId = second.ctx.sipCallId → first.ctx.sipCallId = invalidId

theorem Bridge.SipApart.symm {first second : Bridge} (apart : first.SipApart second) :
    second.SipApart first :=
  fun same => same.trans (apart same.symm)

/-- The entry of a dialog is its own object, until it is hung up. -/
def Exchange.Kept (log : List Logged) (exchange : Exchange) : Prop :=
  ∀ id ref, exchange.dialogs id = some ref →
    exchange.calls id = some ref ∨ exchange.calls id = none ∧ Hung log id ref

def Exchange.Slots (exchange : Exchange) : Prop :=
  ∀ id ref, exchange.dialogs id = some ref ∨ exchange.calls id = some ref → id ≠ invalidId

theorem Exchange.Slots.fewer {source target : Exchange} (slots : source.Slots)
    (dialogs : ∀ id ref, target.dialogs id = some ref → source.dialogs id = some ref)
    (calls : ∀ id ref, target.calls id = some ref → source.calls id = some ref) :
    target.Slots := by
  rintro id ref (dialog | entry)
  · exact slots id ref (.inl (dialogs id ref dialog))
  · exact slots id ref (.inr (calls id ref entry))

def Queued.announces (queued : Queued) (id : Int) : Prop :=
  ∃ ext, queued.event = .incomingCall id ext

structure Exchange.Tracked (log : List Logged) (exchange : Exchange) : Prop where
  owned : ∀ bridge ∈ exchange.gateway.bridges, bridge.ctx.sipCallId ≠ invalidId →
    ∃ ref, exchange.own bridge.ctx.id = some ref ∧
      exchange.calls bridge.ctx.sipCallId = some ref
  apart : exchange.gateway.bridges.Pairwise Bridge.SipApart
  legs : ∀ bridge ∈ exchange.gateway.bridges, bridge.state.hasSip = true →
    bridge.ctx.sipCallId ≠ invalidId
  pending : ∀ queued ∈ exchange.sipEvents, ∀ id, queued.announces id →
    exchange.calls id = some queued.ref ∧
      ∀ bridge ∈ exchange.gateway.bridges, bridge.ctx.sipCallId ≠ id
  pendingApart : exchange.sipEvents.Pairwise
    (fun first second => ∀ id, first.announces id → ¬second.announces id)
  valid : ∀ queued ∈ exchange.sipEvents, queued.event.isTelegram = false ∧
    ∀ id, queued.event.sipId? = some id → id ≠ invalidId
  slots : exchange.Slots
  kept : exchange.Kept log

theorem Exchange.Tracked.announced_valid {exchange : Exchange} {log : List Logged}
    (tracked : exchange.Tracked log) {queued : Queued} (waiting : queued ∈ exchange.sipEvents)
    {id : Int} (announced : queued.announces id) : id ≠ invalidId := by
  obtain ⟨ext, isIncoming⟩ := announced
  exact (tracked.valid queued waiting).2 id (by rw [isIncoming]; rfl)

theorem mem_around {before after : List Bridge} {bridge changed : Bridge}
    (member : bridge ∈ before ++ changed :: after) :
    bridge = changed ∨ bridge ∈ before ++ after := by
  rcases List.mem_append.mp member with inBefore | rest
  · exact .inr (List.mem_append_left _ inBefore)
  · rcases List.mem_cons.mp rest with same | inAfter
    · exact .inl same
    · exact .inr (List.mem_append_right _ inAfter)

/-- One bridge is new or changed, and the registry only grows. -/
theorem Exchange.Tracked.replaced {source target : Exchange} {log more : List Logged}
    {before after : List Bridge} {changed : Bridge} (tracked : source.Tracked log)
    (shape : target.gateway.bridges = before ++ changed :: after)
    (others : ∀ other ∈ before ++ after, other ∈ source.gateway.bridges)
    (pairwise : (before ++ after).Pairwise Bridge.SipApart)
    (sameOwn : ∀ other ∈ before ++ after, target.own other.ctx.id = source.own other.ctx.id)
    (grows : ∀ id ref, source.calls id = some ref → target.calls id = some ref)
    (sameQueue : target.sipEvents = source.sipEvents)
    (owned : changed.ctx.sipCallId ≠ invalidId → ∃ ref,
      target.own changed.ctx.id = some ref ∧ target.calls changed.ctx.sipCallId = some ref)
    (leg : changed.state.hasSip = true → changed.ctx.sipCallId ≠ invalidId)
    (apart : ∀ other ∈ before ++ after, changed.SipApart other)
    (unannounced : ∀ queued ∈ source.sipEvents, ∀ id, queued.announces id →
      changed.ctx.sipCallId ≠ id)
    (slots : target.Slots)
    (kept : target.Kept (log ++ more)) : target.Tracked (log ++ more) where
  owned := by
    rw [shape]
    intro bridge member held
    rcases mem_around member with rfl | other
    · exact owned held
    · obtain ⟨ref, isOwn, entry⟩ := tracked.owned bridge (others bridge other) held
      exact ⟨ref, (sameOwn bridge other).trans isOwn, grows _ _ entry⟩
  apart := by
    rw [shape, List.pairwise_middle Bridge.SipApart.symm, List.pairwise_cons]
    exact ⟨apart, pairwise⟩
  legs := by
    rw [shape]
    intro bridge member
    rcases mem_around member with rfl | other
    · exact leg
    · exact tracked.legs bridge (others bridge other)
  pending := by
    rw [sameQueue, shape]
    intro queued waiting id announced
    obtain ⟨entry, foreign⟩ := tracked.pending queued waiting id announced
    refine ⟨grows _ _ entry, ?_⟩
    intro bridge member
    rcases mem_around member with rfl | other
    · exact unannounced queued waiting id announced
    · exact foreign bridge (others bridge other)
  pendingApart := by
    rw [sameQueue]
    exact tracked.pendingApart
  valid := by
    rw [sameQueue]
    exact tracked.valid
  slots := slots
  kept := kept

theorem Exchange.Tracked.removed {source target : Exchange} {log more : List Logged}
    {before after : List Bridge} {bridge : Bridge} (tracked : source.Tracked log)
    (shape : target.gateway.bridges = before ++ after)
    (others : ∀ other ∈ before ++ after, other ∈ source.gateway.bridges)
    (pairwise : (before ++ after).Pairwise Bridge.SipApart)
    (apart : ∀ other ∈ before ++ after, bridge.SipApart other)
    (held : bridge.ctx.sipCallId ≠ invalidId → bridge ∈ source.gateway.bridges)
    (sameOwn : target.own = source.own)
    (erased : ∀ id, id ≠ invalidId → id ≠ bridge.ctx.sipCallId →
      target.calls id = source.calls id)
    (sameQueue : target.sipEvents = source.sipEvents)
    (slots : target.Slots)
    (kept : target.Kept (log ++ more)) : target.Tracked (log ++ more) where
  owned := by
    rw [shape, sameOwn]
    intro other member valid
    obtain ⟨ref, isOwn, entry⟩ := tracked.owned other (others other member) valid
    refine ⟨ref, isOwn, (erased _ valid ?_).trans entry⟩
    intro same
    exact valid (same.trans (apart other member same.symm))
  apart := by
    rw [shape]
    exact pairwise
  legs := by
    rw [shape]
    exact fun other member => tracked.legs other (others other member)
  pending := by
    rw [sameQueue, shape]
    intro queued waiting id announced
    obtain ⟨entry, foreign⟩ := tracked.pending queued waiting id announced
    refine ⟨?_, fun other member => foreign other (others other member)⟩
    have valid := tracked.announced_valid waiting announced
    rw [erased id valid ?_, entry]
    intro same
    exact foreign bridge (held (same ▸ valid)) same.symm
  pendingApart := by
    rw [sameQueue]
    exact tracked.pendingApart
  valid := by
    rw [sameQueue]
    exact tracked.valid
  slots := slots
  kept := kept

/-- An event of a dialog that does not start a call. -/
structure Event.Reports (event : Event) (id : Int) : Prop where
  named : event.sipId? = some id
  started : ∀ other ext, event ≠ .incomingCall other ext
  notTelegram : event.isTelegram = false

theorem Exchange.Tracked.queued {source : Exchange} {log : List Logged} {late : List Queued}
    (tracked : source.Tracked log)
    (reports : ∀ queued ∈ late, ∃ id, queued.event.Reports id ∧ id ≠ invalidId)
    {dialogs : Map Int CallRef}
    (fewer : ∀ id ref, dialogs id = some ref → source.dialogs id = some ref) :
    Exchange.Tracked log
      { source with
        sipEvents := source.sipEvents ++ late
        dialogs := dialogs } := by
  have silent : ∀ queued ∈ late, ∀ id, ¬queued.announces id := by
    rintro queued isLate id ⟨ext, isIncoming⟩
    obtain ⟨other, report, _⟩ := reports queued isLate
    exact report.started id ext isIncoming
  refine ⟨tracked.owned, tracked.apart, tracked.legs, ?_, ?_, ?_,
    tracked.slots.fewer fewer (fun _ _ entry => entry),
    fun id ref dialog => tracked.kept id ref (fewer id ref dialog)⟩
  · intro queued waiting id announced
    rcases List.mem_append.mp waiting with early | isLate
    · exact tracked.pending queued early id announced
    · exact absurd announced (silent queued isLate id)
  · rw [List.pairwise_append]
    refine ⟨tracked.pendingApart, ?_, fun _ _ second isSecond id _ => silent second isSecond id⟩
    apply List.pairwise_of_forall_mem_list
    intro first isFirst second isSecond id announced
    exact absurd announced (silent first isFirst id)
  · intro queued waiting
    rcases List.mem_append.mp waiting with early | isLate
    · exact tracked.valid queued early
    · obtain ⟨id, report, valid⟩ := reports queued isLate
      refine ⟨report.notTelegram, ?_⟩
      intro other named
      rw [report.named] at named
      cases named
      exact valid

/-! ### One turn of the main loop -/

/-- What a turn may rely on: pjsip accepts a hangup, an id that it hands out
has no entry, an incoming call has its entry and is not known yet, and the SIP
side does not end a call that a bridge still has. -/
structure Exchange.Admits (exchange : Exchange) (env : Env) (event : Event) (ref : CallRef) :
    Prop where
  hangup : env.hangup = .ok ()
  fresh : ∀ call id, event = .updateCall call → env.makeCall = .ok id →
    exchange.calls id = none ∧ ref = exchange.nextRef
  incoming : ∀ id ext, event = .incomingCall id ext → exchange.calls id = some ref ∧
    (∀ bridge ∈ exchange.gateway.bridges, bridge.ctx.sipCallId ≠ id) ∧
    ∀ queued ∈ exchange.sipEvents, ¬queued.announces id
  notRemote : ∀ id, event = .callStateUpdate id .disconnected →
    ∀ bridge ∈ exchange.gateway.bridges, bridge.ctx.sipCallId ≠ id
  valid : ∀ id, event.sipId? = some id → id ≠ invalidId

structure Exchange.Serves (source : Exchange) (output : List Logged) (target : Exchange) :
    Prop where
  dialled : ∀ ctxId uri prm id, (ctxId, .dial uri prm (.ok id)) ∈ output →
    target.calls id = some source.nextRef
  acts : ∀ ctxId op found failure, (ctxId, .sip op found failure) ∈ output →
    ∃ ref, found = some ref ∧ target.own ctxId = some ref
  erased : ∀ ctxId, (ctxId, .deleted) ∈ output →
    (∀ id, (ctxId, .associatedSip id) ∉ output) ∧
      ((∃ bridge ∈ source.gateway.bridges, bridge.ctx.id = ctxId ∧
          target.calls bridge.ctx.sipCallId = none) ∨
        ctxId = source.gateway.newBridge.ctx.id)

theorem callback_spec (exchange : Exchange) (id : Int) (held : Option CallRef) (event : Event) :
    ∃ late, exchange.callback id held event =
        { exchange with sipEvents := exchange.sipEvents ++ late } ∧
      ∀ queued ∈ late, queued.event = event ∧ exchange.dialogs id = some queued.ref := by
  unfold Exchange.callback
  cases dialog : exchange.dialogs id with
  | none => exact ⟨[], by rw [List.append_nil], List.forall_mem_nil _⟩
  | some ref =>
      dsimp only
      by_cases alive : held = some ref
      · rw [if_pos alive]
        refine ⟨[⟨event, ref⟩], rfl, ?_⟩
        intro queued member
        rw [List.mem_singleton.mp member]
        exact ⟨rfl, rfl⟩
      · rw [if_neg alive]
        exact ⟨[], by rw [List.append_nil], List.forall_mem_nil _⟩

theorem hangUp_spec (exchange : Exchange) (id : Int) (held : Option CallRef) :
    ∃ late, exchange.hangUp id held =
        { exchange with
          sipEvents := exchange.sipEvents ++ late
          dialogs := FiniteMap.erase exchange.dialogs id } ∧
      ∀ queued ∈ late, queued.event = .callStateUpdate id .disconnected ∧
        exchange.dialogs id = some queued.ref := by
  obtain ⟨late, shape, isLate⟩ :=
    callback_spec exchange id held (.callStateUpdate id .disconnected)
  refine ⟨late, ?_, isLate⟩
  unfold Exchange.hangUp
  rw [shape]

theorem Life.undeleted {env : Env} {world : World} {state : SmState} {event : Event}
    {change : Change} (life : Life env world state event change) :
    .deleted ∉ change.effects := by
  have unlogged : ∀ failed, .deleted ∉ failureLog failed := by
    intro failed
    cases failed <;> simp [failureLog]
  cases life with
  | dialledTg traced =>
      cases traced with
      | blocked early => simp
      | unresolved free missing => cases missing <;> simp
      | dialled free resolved created => cases resolved <;> cases created <;> simp
  | @removed state event closing row removal =>
      intro member
      change _ ∈ row ++ closingEffects env world.sip closing at member
      rcases List.mem_append.mp member with inRow | closes
      · cases removal <;> simp at inRow
      · rcases mem_closingEffects closes with wrong | wrong | wrong | wrong | wrong <;>
          cases wrong
  | _ => simp [World.moved, diallingEffects, voipEffects, World.sipEffect, unlogged]

section Turn

variable {source : Exchange} {base : Gateway} {env : Env} {event : Event} {ref : CallRef}
  {before after : List Bridge} {bridge : Bridge} {announced : List Effect} {change : Change}
  {log : List Logged}

/-- The bridge that is about to live through an event has a call only if it is
not new, and then its entry is its own object. -/
theorem Placed.holds
    (placed : Placed source.gateway env event before bridge after announced base)
    (held : bridge.ctx.sipCallId ≠ invalidId ∨ bridge.state.hasSip = true) :
    bridge ∈ source.gateway.bridges := by
  rcases placed.receives with ⟨member, _⟩ | ⟨rfl, _⟩
  · exact member
  · rcases held with valid | waiting
    · exact absurd rfl valid
    · cases waiting

theorem Placed.sipApart
    (placed : Placed source.gateway env event before bridge after announced base)
    (tracked : source.Tracked log) :
    (∀ other ∈ before ++ after, bridge.SipApart other) ∧
      (before ++ after).Pairwise Bridge.SipApart :=
  placed.pairwise Bridge.SipApart.symm (fun _ _ => rfl) tracked.apart

theorem Placed.new_of_init
    (placed : Placed source.gateway env event before bridge after announced base)
    (composed : ∀ other ∈ source.gateway.bridges, other.Composed)
    (initial : bridge.state = .init) : bridge = source.gateway.newBridge := by
  rcases placed.receives with ⟨member, _⟩ | ⟨isNew, _⟩
  · have composite := (composed bridge member).composite
    rw [initial] at composite
    cases composite
  · exact isNew

theorem Placed.leg
    (placed : Placed source.gateway env event before bridge after announced base)
    (life : Life env (source.gateway.world bridge.ctx) bridge.state event change)
    (tracked : source.Tracked log) (admits : source.Admits env event ref) :
    change.state.hasSip = true → change.ctx.sipCallId ≠ invalidId := by
  apply life.sipLeg admits.valid
  · rintro id hasMedia rfl
    rcases placed.receives with ⟨_, owner⟩ | ⟨rfl, _⟩
    · exact .inr (eq_of_beq owner)
    · exact .inl rfl
  · intro waiting
    exact tracked.legs bridge (placed.holds (.inr waiting)) waiting

/-- The operation of a turn acts on the object of its own call. -/
theorem Placed.acts
    (placed : Placed source.gateway env event before bridge after announced base)
    (life : Life env (source.gateway.world bridge.ctx) bridge.state event change)
    (tracked : source.Tracked log) (admits : source.Admits env event ref)
    {op : SipOp} {found : Option CallRef} {failure : Option Fault}
    (member : .sip op found failure ∈ change.effects) :
    (∃ held, found = some held ∧ source.own bridge.ctx.id = some held ∧
        bridge.ctx.sipCallId ≠ invalidId) ∨
      found = some ref ∧ bridge.state = .init ∧ ∃ id ext, event = .incomingCall id ext := by
  have listed : (op, found) ∈ sipOps change.effects :=
    List.mem_filterMap.mpr ⟨_, member, rfl⟩
  have operation := life.operation
  generalize sipOps change.effects = ops at operation listed
  generalize stateEq : bridge.state = state at operation
  cases operation with
  | none => cases listed
  | own other same held =>
      cases List.mem_singleton.mp listed
      change op.id = bridge.ctx.sipCallId at same
      have valid : bridge.ctx.sipCallId ≠ invalidId := by
        rcases held with waiting | valid
        · rw [← stateEq] at waiting
          exact tracked.legs bridge (placed.holds (.inr waiting)) waiting
        · exact same ▸ valid
      obtain ⟨ref, isOwn, entry⟩ := tracked.owned bridge (placed.holds (.inl valid)) valid
      exact .inl ⟨ref, (congrArg source.calls same).trans entry, isOwn, valid⟩
  | @accepted other ext =>
      cases List.mem_singleton.mp listed
      exact .inr ⟨(admits.incoming _ ext rfl).1, rfl, _, ext, rfl⟩

theorem Exchange.Kept.more {exchange : Exchange} (kept : exchange.Kept log)
    (later : List Logged) : exchange.Kept (log ++ later) := by
  intro id held dialog
  rcases kept id held dialog with entry | ⟨none, hung⟩
  · exact .inl entry
  · exact .inr ⟨none, hung.more later⟩

theorem Exchange.Kept.of_same {target : Exchange} (kept : source.Kept log)
    (sameDialogs : target.dialogs = source.dialogs) (sameCalls : target.calls = source.calls) :
    target.Kept log := by
  unfold Exchange.Kept
  rw [sameDialogs, sameCalls]
  exact kept

theorem Placed.steady {target : Exchange} {output : List Logged}
    (placed : Placed source.gateway env event before bridge after announced base)
    (life : Life env (source.gateway.world bridge.ctx) bridge.state event change)
    (tracked : source.Tracked log) (admits : source.Admits env event ref)
    (sameSip : change.ctx.sipCallId = bridge.ctx.sipCallId)
    (shape : target.gateway.bridges = before ++ ⟨change.ctx, change.state⟩ :: after)
    (sameCalls : target.calls = source.calls) (sameQueue : target.sipEvents = source.sipEvents)
    (sameOwn : target.own = source.own) (sameDialogs : target.dialogs = source.dialogs) :
    target.Tracked (log ++ output) := by
  obtain ⟨apart, pairwise⟩ := placed.sipApart tracked
  have sameId : change.ctx.id = bridge.ctx.id := life.keeps_id
  refine tracked.replaced shape (fun other => placed.others) pairwise ?_ ?_ sameQueue ?_
    (placed.leg life tracked admits) ?_ ?_ ?_ ?_
  · intro other member
    rw [sameOwn]
  · intro id held entry
    rw [sameCalls, entry]
  · intro valid
    dsimp only at valid ⊢
    rw [sameSip] at valid ⊢
    rw [sameOwn, sameCalls, sameId]
    exact tracked.owned bridge (placed.holds (.inl valid)) valid
  · intro other member same
    dsimp only at same ⊢
    rw [sameSip] at same ⊢
    exact apart other member same
  · intro queued waiting id announces
    dsimp only
    rw [sameSip]
    by_cases absent : bridge.ctx.sipCallId = invalidId
    · rw [absent]
      exact (tracked.announced_valid waiting announces).symm
    · exact (tracked.pending queued waiting id announces).2 bridge (placed.holds (.inl absent))
  · refine tracked.slots.fewer ?_ ?_
    · rw [sameDialogs]
      exact fun _ _ dialog => dialog
    · rw [sameCalls]
      exact fun _ _ entry => entry
  · exact (tracked.kept.more output).of_same sameDialogs sameCalls

theorem Placed.dialled {target : Exchange} {output : List Logged} {call : Call} {id : Int}
    (placed : Placed source.gateway env event before bridge after announced base)
    (life : Life env (source.gateway.world bridge.ctx) bridge.state event change)
    (tracked : source.Tracked log) (admits : source.Admits env event ref)
    (numbered : source.gateway.Numbered) (isCall : event = .updateCall call)
    (returned : env.makeCall = .ok id) (valid : id ≠ invalidId)
    (newSip : change.ctx.sipCallId = id)
    (shape : target.gateway.bridges = before ++ ⟨change.ctx, change.state⟩ :: after)
    (newCalls : target.calls = FiniteMap.emplace source.calls id source.nextRef)
    (sameQueue : target.sipEvents = source.sipEvents)
    (newOwn : target.own = FiniteMap.insert source.own bridge.ctx.id ref)
    (newDialogs : target.dialogs = FiniteMap.insert source.dialogs id ref) :
    target.Tracked (log ++ output) := by
  obtain ⟨apart, pairwise⟩ := placed.sipApart tracked
  obtain ⟨absent, isNext⟩ := admits.fresh call id isCall returned
  have sameId : change.ctx.id = bridge.ctx.id := life.keeps_id
  have entry : target.calls id = some ref := by
    rw [newCalls, isNext]
    exact FiniteMap.emplace_absent _ absent
  have grows : ∀ other held, source.calls other = some held → target.calls other = some held := by
    intro other held known
    have different : other ≠ id := by
      rintro rfl
      rw [absent] at known
      cases known
    rw [newCalls, FiniteMap.emplace_of_ne _ _ different]
    exact known
  have unheld : ∀ other ∈ source.gateway.bridges, other.ctx.sipCallId ≠ id := by
    intro other member same
    obtain ⟨held, _, known⟩ := tracked.owned other member (same ▸ valid)
    rw [same, absent] at known
    cases known
  refine tracked.replaced shape (fun other => placed.others) pairwise ?_ grows sameQueue ?_
    (placed.leg life tracked admits) ?_ ?_ ?_ ?_
  · intro other member
    rw [newOwn, FiniteMap.insert_of_ne _ _ (placed.other_id numbered member)]
  · intro _
    dsimp only
    rw [newSip, sameId, newOwn, FiniteMap.insert_self]
    exact ⟨ref, rfl, entry⟩
  · intro other member same
    dsimp only at same
    exact absurd (same.symm.trans newSip) (unheld other (placed.others member))
  · intro queued waiting other announces same
    have known := (tracked.pending queued waiting other announces).1
    dsimp only at same
    rw [← same, newSip, absent] at known
    cases known
  · intro other held present
    by_cases same : other = id
    · exact same ▸ valid
    · rw [newDialogs, newCalls, FiniteMap.insert_of_ne _ _ same,
        FiniteMap.emplace_of_ne _ _ same] at present
      exact tracked.slots other held present
  · intro other held dialog
    by_cases same : other = id
    · subst same
      rw [newDialogs, FiniteMap.insert_self] at dialog
      cases dialog
      exact .inl entry
    · rw [newDialogs, FiniteMap.insert_of_ne _ _ same] at dialog
      rw [newCalls, FiniteMap.emplace_of_ne _ _ same]
      exact tracked.kept.more output other held dialog

theorem Placed.accepted {target : Exchange} {output : List Logged} {id : Int} {ext : String}
    (placed : Placed source.gateway env event before bridge after announced base)
    (life : Life env (source.gateway.world bridge.ctx) bridge.state event change)
    (tracked : source.Tracked log) (admits : source.Admits env event ref)
    (numbered : source.gateway.Numbered) (isCall : event = .incomingCall id ext)
    (newSip : change.ctx.sipCallId = id)
    (shape : target.gateway.bridges = before ++ ⟨change.ctx, change.state⟩ :: after)
    (sameCalls : target.calls = source.calls) (sameQueue : target.sipEvents = source.sipEvents)
    (newOwn : target.own = FiniteMap.insert source.own bridge.ctx.id ref)
    (sameDialogs : target.dialogs = source.dialogs) :
    target.Tracked (log ++ output) := by
  obtain ⟨apart, pairwise⟩ := placed.sipApart tracked
  obtain ⟨entry, unheld, alone⟩ := admits.incoming id ext isCall
  have sameId : change.ctx.id = bridge.ctx.id := life.keeps_id
  refine tracked.replaced shape (fun other => placed.others) pairwise ?_ ?_ sameQueue ?_
    (placed.leg life tracked admits) ?_ ?_ ?_ ?_
  · intro other member
    rw [newOwn, FiniteMap.insert_of_ne _ _ (placed.other_id numbered member)]
  · intro other held known
    rw [sameCalls, known]
  · intro _
    dsimp only
    rw [newSip, sameId, newOwn, sameCalls, FiniteMap.insert_self]
    exact ⟨ref, rfl, entry⟩
  · intro other member same
    dsimp only at same
    exact absurd (same.symm.trans newSip) (unheld other (placed.others member))
  · intro queued waiting other announces same
    dsimp only at same
    rw [newSip] at same
    exact alone queued waiting (same ▸ announces)
  · refine tracked.slots.fewer ?_ ?_
    · rw [sameDialogs]
      exact fun _ _ dialog => dialog
    · rw [sameCalls]
      exact fun _ _ entry => entry
  · exact (tracked.kept.more output).of_same sameDialogs sameCalls

theorem Placed.sip_eq
    (placed : Placed source.gateway env event before bridge after announced base) :
    base.sip = source.gateway.sip := by
  cases placed <;> rfl

theorem effect_of_stage {marks effects : List Effect} {ctxId : String} {effect : Effect}
    (begun : announced = [] ∨ announced = [.created])
    (marked : marks = [] ∨ marks = [.deleted])
    (logged : (ctxId, effect) ∈ tagged bridge.ctx.id (stageEffects announced event effects marks))
    (requests : effect.isRequest = true) :
    ctxId = bridge.ctx.id ∧ effect ∈ effects := by
  obtain ⟨same, member⟩ := mem_tagged.mp logged
  rcases mem_stageEffects begun marked member with rfl | rfl | rfl | inside
  · cases requests
  · cases requests
  · cases requests
  · exact ⟨same, inside⟩

theorem mem_filed {effects : List Effect} {effect : Effect} (member : effect ∈ effects)
    (files : effect.files = true) : effect ∈ filed effects :=
  List.mem_filter.mpr ⟨member, files⟩

theorem Placed.undeleted
    (placed : Placed source.gateway env event before bridge after announced base)
    (life : Life env (source.gateway.world bridge.ctx) bridge.state event change)
    (ctxId : String) : (ctxId, .deleted) ∉
      tagged bridge.ctx.id (stageEffects announced event change.effects []) := by
  intro logged
  obtain ⟨_, member⟩ := mem_tagged.mp logged
  unfold stageEffects at member
  rw [List.append_nil] at member
  rcases List.mem_append.mp member with begun | rest
  · rcases placed.announces with none | created
    · rw [none] at begun
      cases begun
    · rw [created] at begun
      cases List.mem_singleton.mp begun
  · rcases List.mem_cons.mp rest with wrong | later
    · cases wrong
    · exact life.undeleted later

theorem vacant_valid {ctxId uri : String} {prm : CallOpParam} {id : Int}
    (allotted : source.allots (ctxId, .dial uri prm (.ok id)) = true) : id ≠ invalidId := by
  simp only [Exchange.allots, Exchange.vacant, Bool.and_eq_true, decide_eq_true_eq] at allotted
  unfold invalidId
  omega

theorem Placed.turned_kept {atOnce : Bool} {output : List Logged} {target : Gateway}
    (placed : Placed source.gateway env event before bridge after announced base)
    (life : Life env (source.gateway.world bridge.ctx) bridge.state event change)
    (stays : change.state ≠ .x) (tracked : source.Tracked log)
    (admits : source.Admits env event ref) (numbered : source.gateway.Numbered)
    (composed : ∀ other ∈ source.gateway.bridges, other.Composed)
    (outputEq : output =
      tagged bridge.ctx.id (stageEffects announced event change.effects []))
    (allotted : ∀ logged ∈ output, source.allots logged = true)
    (shape : target.bridges = before ++ ⟨change.ctx, change.state⟩ :: after)
    (client : target.sip = change.effects.foldl SipClient.apply source.gateway.sip) :
    Exchange.Tracked (log ++ output)
        (output.foldl (Exchange.note ref atOnce) { source with gateway := target }) ∧
      source.Serves output
        (output.foldl (Exchange.note ref atOnce) { source with gateway := target }) := by
  have inside : ∀ {ctxId : String} {effect : Effect}, (ctxId, effect) ∈ output →
      effect.isRequest = true → ctxId = bridge.ctx.id ∧ effect ∈ change.effects := by
    rw [outputEq]
    exact effect_of_stage placed.announces (.inl rfl)
  have undeleted : ∀ ctxId, (ctxId, .deleted) ∉ output := by
    rw [outputEq]
    exact placed.undeleted life
  have folded : output.foldl (Exchange.note ref atOnce) { source with gateway := target } =
      (tagged bridge.ctx.id (filed change.effects)).foldl (Exchange.note ref atOnce)
        { source with gateway := target } := by
    rw [outputEq, noted_filed, filed_stage placed.announces (.inl rfl)]
  have listed : ∀ {ctxId : String} {uri : String} {prm : CallOpParam} {id : Int},
      (ctxId, .dial uri prm (.ok id)) ∈ output →
      .dial uri prm (.ok id) ∈ filed change.effects :=
    fun logged => mem_filed (inside logged rfl).2 rfl
  have undialled : ∀ {list : List Effect}, filed change.effects = list →
      (∀ uri prm id, .dial uri prm (.ok id) ∉ list) →
      target.sip.calls = list.foldl unfile source.gateway.sip.calls := by
    rintro list rfl absent
    rw [client]
    exact applied_calls absent source.gateway.sip
  have unborn : bridge.state = .init → bridge.ctx.sipCallId = invalidId := by
    intro initial
    rw [placed.new_of_init composed initial]
    rfl
  rw [folded]
  have filing := life.filing
  generalize listEq : filed change.effects = list at filing listed
  generalize stateEq : bridge.state = state at filing
  cases filing with
  | steady closed sameSip notIncoming =>
      have sameCalls := undialled listEq (fun _ _ _ => List.not_mem_nil)
      refine ⟨placed.steady life tracked admits sameSip shape sameCalls rfl rfl rfl,
        fun _ _ _ _ logged => ?_, ?_, fun _ deleted => absurd deleted (undeleted _)⟩
      · cases listed logged
      · intro ctxId op found failure logged
        obtain ⟨rfl, member⟩ := inside logged rfl
        rcases placed.acts life tracked admits member with
          ⟨held, isHeld, isOwn, _⟩ | ⟨_, initial, id, ext, isIncoming⟩
        · exact ⟨held, isHeld, isOwn⟩
        · exact absurd isIncoming (notIncoming (stateEq.symm.trans initial) id ext)
  | @dialled call id uri prm returned live newSip registered =>
      have logged : (bridge.ctx.id, .dial uri prm (.ok id)) ∈ output := by
        rw [outputEq]
        refine mem_tagged.mpr
          ⟨rfl, mem_stage_effects (List.mem_of_mem_filter (p := Effect.files) ?_)⟩
        change _ ∈ filed change.effects
        rw [listEq]
        exact List.mem_cons_self
      have newCalls : target.sip.calls =
          FiniteMap.emplace source.calls id source.nextRef := by
        rw [client]
        exact congrArg SipClient.calls registered
      have valid := vacant_valid (allotted _ logged)
      refine ⟨placed.dialled life tracked admits numbered rfl returned valid newSip shape newCalls
        rfl rfl rfl, ?_, ?_, fun _ deleted => absurd deleted (undeleted _)⟩
      · intro ctxId other otherPrm dialled logged
        have isDialled := listed logged
        simp only [List.mem_cons, Effect.dial.injEq, PjResult.ok.injEq, reduceCtorEq,
          List.not_mem_nil, or_false] at isDialled
        obtain ⟨_, _, rfl⟩ := isDialled
        change target.sip.calls dialled = _
        rw [newCalls]
        exact FiniteMap.emplace_absent _ (admits.fresh call dialled rfl returned).1
      · intro ctxId op found failure logged
        obtain ⟨rfl, member⟩ := inside logged rfl
        rcases placed.acts life tracked admits member with
          ⟨_, _, _, valid⟩ | ⟨_, _, _, _, isIncoming⟩
        · exact absurd (unborn stateEq) valid
        · cases isIncoming
  | @accepted id ext live newSip =>
      have sameCalls := undialled listEq (fun _ _ _ wrong => by
        cases List.mem_singleton.mp wrong)
      refine ⟨placed.accepted life tracked admits numbered rfl newSip shape sameCalls rfl rfl rfl,
        fun _ _ _ _ logged => ?_, ?_, fun _ deleted => absurd deleted (undeleted _)⟩
      · cases List.mem_singleton.mp (listed logged)
      · intro ctxId op found failure logged
        obtain ⟨rfl, member⟩ := inside logged rfl
        rcases placed.acts life tracked admits member with
          ⟨_, _, _, valid⟩ | ⟨isRef, _⟩
        · exact absurd (unborn stateEq) valid
        · exact ⟨ref, isRef, FiniteMap.insert_self _ _ _⟩
  | closed removal closes => exact absurd (congrArg Change.state closes) stays

/-- Only a call that the SIP side has ended is forgotten before the cleanup. -/
theorem Placed.closing_sip {closing : Context} {row : List Effect}
    (placed : Placed source.gateway env event before bridge after announced base)
    (admits : source.Admits env event ref)
    (removal : Removal env bridge.ctx bridge.state event closing row) :
    closing.sipCallId = bridge.ctx.sipCallId := by
  generalize stateEq : bridge.state = state at removal
  cases removal with
  | @disconnected _ id composite =>
      rcases placed.receives with ⟨member, owner⟩ | ⟨isNew, _⟩
      · exact absurd (eq_of_beq owner) (admits.notRemote id rfl bridge member)
      · rw [isNew] at stateEq
        cases stateEq
        cases composite
  | _ => rfl

theorem noted_hangup (exchange : Exchange) (id : Int) (prm : CallOpParam) (held ref : CallRef)
    (atOnce : Bool) (ctxId : String) :
    ∃ late dialogs, exchange.note ref atOnce (ctxId, .sip (.hangup id prm) (some held) none) =
        { exchange with
          sipEvents := exchange.sipEvents ++ late
          dialogs := dialogs } ∧
      (∀ queued ∈ late, queued.event = .callStateUpdate id .disconnected) ∧
      ∀ other ref, dialogs other = some ref → exchange.dialogs other = some ref := by
  unfold Exchange.note
  dsimp only
  cases atOnce with
  | false =>
      refine ⟨[], exchange.dialogs, ?_, List.forall_mem_nil _, fun _ _ same => same⟩
      rw [List.append_nil]
      rfl
  | true =>
      obtain ⟨late, shape, isLate⟩ := hangUp_spec exchange id (some held)
      refine ⟨late, _, shape, fun queued member => (isLate queued member).1, ?_⟩
      intro other ref dialog
      by_cases same : other = id
      · rw [same, FiniteMap.erase_self] at dialog
        cases dialog
      · rw [FiniteMap.erase_of_ne _ same] at dialog
        exact dialog

theorem hungUp_cases (env : Env) (client : SipClient) (ctx : Context) :
    hungUp env client ctx = [] ∨ ∃ held, hungUp env client ctx =
      [.sip (.hangup ctx.sipCallId ctx.hangupPrm) (some held) none] := by
  unfold hungUp
  split
  · exact .inl rfl
  · split
    · exact .inr ⟨_, rfl⟩
    · exact .inl rfl

theorem Removal.not_incoming {ctx closing : Context} {state : SmState} {row : List Effect}
    (removal : Removal env ctx state event closing row) (id : Int) (ext : String) :
    event ≠ .incomingCall id ext := by
  rintro rfl
  cases removal

theorem Placed.serves_removed {last : Exchange} {output : List Logged} {closing : Context}
    {row : List Effect}
    (placed : Placed source.gateway env event before bridge after announced base)
    (life : Life env (source.gateway.world bridge.ctx) bridge.state event change)
    (removal : Removal env bridge.ctx bridge.state event closing row)
    (closes : filed change.effects = hungUp env source.gateway.sip closing)
    (tracked : source.Tracked log) (admits : source.Admits env event ref)
    (outputEq : output =
      tagged bridge.ctx.id (stageEffects announced event change.effects [.deleted]))
    (sameOwn : last.own = source.own)
    (erased : last.calls bridge.ctx.sipCallId = none) :
    source.Serves output last := by
  have inside : ∀ {ctxId : String} {effect : Effect}, (ctxId, effect) ∈ output →
      effect.isRequest = true → ctxId = bridge.ctx.id ∧ effect ∈ change.effects := by
    rw [outputEq]
    exact effect_of_stage placed.announces (.inr rfl)
  have listed : ∀ {effect : Effect}, effect ∈ change.effects → effect.files = true →
      ∃ held, effect = .sip (.hangup closing.sipCallId closing.hangupPrm) (some held) none := by
    intro effect member files
    have isFiled := mem_filed member files
    rw [closes] at isFiled
    rcases hungUp_cases env source.gateway.sip closing with none | ⟨held, only⟩
    · rw [none] at isFiled
      cases isFiled
    · rw [only] at isFiled
      exact ⟨held, List.mem_singleton.mp isFiled⟩
  constructor
  · intro ctxId uri prm id logged
    obtain ⟨held, wrong⟩ := listed (inside logged rfl).2 rfl
    cases wrong
  · intro ctxId op found failure logged
    obtain ⟨rfl, member⟩ := inside logged rfl
    rcases placed.acts life tracked admits member with
      ⟨held, isHeld, isOwn, _⟩ | ⟨_, _, id, ext, isIncoming⟩
    · exact ⟨held, isHeld, (congrFun sameOwn _).trans isOwn⟩
    · exact absurd isIncoming (removal.not_incoming id ext)
  · intro ctxId deleted
    rw [outputEq] at deleted
    obtain ⟨rfl, _⟩ := mem_tagged.mp deleted
    constructor
    · intro id logged
      rw [outputEq] at logged
      obtain ⟨_, member⟩ := mem_tagged.mp logged
      rcases mem_stageEffects placed.announces (.inr rfl) member with wrong | wrong | wrong | own
      · cases wrong
      · cases wrong
      · cases wrong
      · obtain ⟨held, wrong⟩ := listed own rfl
        cases wrong
    · rcases placed.receives with ⟨member, _⟩ | ⟨rfl, _⟩
      · exact .inl ⟨bridge, member, rfl, erased⟩
      · exact .inr rfl

theorem Placed.turned_removed {atOnce : Bool} {output : List Logged} {target : Gateway}
    {closing : Context} {row : List Effect}
    (placed : Placed source.gateway env event before bridge after announced base)
    (life : Life env (source.gateway.world bridge.ctx) bridge.state event change)
    (removal : Removal env bridge.ctx bridge.state event closing row)
    (closes : filed change.effects = hungUp env source.gateway.sip closing)
    (tracked : source.Tracked log) (admits : source.Admits env event ref)
    (outputEq : output =
      tagged bridge.ctx.id (stageEffects announced event change.effects [.deleted]))
    (shape : target.bridges = before ++ after)
    (client : target.sip = change.effects.foldl SipClient.apply source.gateway.sip) :
    Exchange.Tracked (log ++ output)
        (output.foldl (Exchange.note ref atOnce) { source with gateway := target }) ∧
      source.Serves output
        (output.foldl (Exchange.note ref atOnce) { source with gateway := target }) := by
  obtain ⟨apart, pairwise⟩ := placed.sipApart tracked
  have sameSip := placed.closing_sip admits removal
  have folded : output.foldl (Exchange.note ref atOnce) { source with gateway := target } =
      (tagged bridge.ctx.id (hungUp env source.gateway.sip closing)).foldl
        (Exchange.note ref atOnce) { source with gateway := target } := by
    rw [outputEq, noted_filed, filed_stage placed.announces (.inr rfl), closes]
  have unfiled : target.sip.calls =
      (hungUp env source.gateway.sip closing).foldl unfile source.gateway.sip.calls := by
    rw [client, applied_calls, closes]
    intro uri prm id
    rw [closes]
    rcases hungUp_cases env source.gateway.sip closing with none | ⟨held, only⟩
    · rw [none]
      exact List.not_mem_nil
    · rw [only]
      intro wrong
      cases List.mem_singleton.mp wrong
  by_cases absent : bridge.ctx.sipCallId = invalidId
  · have nothing : hungUp env source.gateway.sip closing = [] := by
      unfold hungUp
      rw [if_pos (sameSip.trans absent)]
    rw [nothing] at folded unfiled
    rw [folded]
    have unheld : source.calls bridge.ctx.sipCallId = none := by
      rw [absent]
      cases entry : source.calls invalidId with
      | none => rfl
      | some held => exact absurd rfl (tracked.slots invalidId held (.inr entry))
    refine ⟨?_, placed.serves_removed life removal closes tracked admits outputEq rfl
      ((congrFun unfiled _).trans unheld)⟩
    refine tracked.removed shape (fun other => placed.others) pairwise apart
      (fun valid => absurd absent valid) rfl (fun id _ _ => congrFun unfiled id)
      rfl (tracked.slots.fewer (fun _ _ dialog => dialog) (fun id _ entry =>
        (congrFun unfiled id).symm.trans entry)) ?_
    exact (tracked.kept.more output).of_same rfl unfiled
  · obtain ⟨held, isOwn, entry⟩ := tracked.owned bridge (placed.holds (.inl absent)) absent
    have hangs : hungUp env source.gateway.sip closing =
        [.sip (.hangup bridge.ctx.sipCallId closing.hangupPrm) (some held) none] := by
      have found : source.gateway.sip.calls bridge.ctx.sipCallId = some held := entry
      unfold hungUp
      rw [sameSip, if_neg absent, found, admits.hangup]
    have logged : (bridge.ctx.id, .sip (.hangup bridge.ctx.sipCallId closing.hangupPrm)
        (some held) none) ∈ output := by
      have isFiled : .sip (.hangup bridge.ctx.sipCallId closing.hangupPrm) (some held) none ∈
          filed change.effects := by
        rw [closes, hangs]
        exact List.mem_cons_self
      rw [outputEq]
      exact mem_tagged.mpr ⟨rfl, mem_stage_effects (List.mem_filter.mp isFiled).1⟩
    rw [hangs] at folded unfiled
    obtain ⟨late, dialogs, noted, isLate, fewer⟩ :=
      noted_hangup { source with gateway := target } bridge.ctx.sipCallId closing.hangupPrm held
        ref atOnce bridge.ctx.id
    rw [show tagged bridge.ctx.id _ = [(bridge.ctx.id, _)] from rfl, List.foldl_cons,
      List.foldl_nil, noted] at folded
    have gone : target.sip.calls bridge.ctx.sipCallId = none := by
      rw [unfiled]
      exact FiniteMap.erase_self _ _
    have others : ∀ id, id ≠ bridge.ctx.sipCallId →
        target.sip.calls id = source.calls id := by
      intro id different
      rw [unfiled]
      exact FiniteMap.erase_of_ne _ different
    have remaining : ∀ id ref, target.sip.calls id = some ref → source.calls id = some ref := by
      intro id ref known
      by_cases same : id = bridge.ctx.sipCallId
      · rw [same, gone] at known
        cases known
      · rw [← others id same]
        exact known
    rw [folded]
    refine ⟨?_, placed.serves_removed life removal closes tracked admits outputEq rfl gone⟩
    have after : Exchange.Tracked (log ++ output) { source with gateway := target } := by
      refine tracked.removed shape (fun other => placed.others) pairwise apart
        (fun valid => placed.holds (.inl valid)) rfl (fun id _ different => others id different)
        rfl (tracked.slots.fewer (fun _ _ dialog => dialog) remaining) ?_
      intro id other dialog
      by_cases same : id = bridge.ctx.sipCallId
      · subst same
        rcases tracked.kept _ other dialog with known | ⟨none, _⟩
        · cases entry.symm.trans known
          exact .inr ⟨gone, _, _, List.mem_append_right _ logged⟩
        · rw [entry] at none
          cases none
      · change target.sip.calls id = _ ∨ target.sip.calls id = _ ∧ _
        rw [others id same]
        exact tracked.kept.more output id other dialog
    refine after.queued (fun queued member => ⟨_, ?_, absent⟩) fewer
    rw [isLate queued member]
    exact ⟨rfl, nofun, rfl⟩

theorem Processed.turned {output : List Logged} {target : Gateway} (atOnce : Bool)
    (processed : Processed source.gateway env event output target)
    (tracked : source.Tracked log) (admits : source.Admits env event ref)
    (numbered : source.gateway.Numbered)
    (composed : ∀ other ∈ source.gateway.bridges, other.Composed)
    (allotted : ∀ logged ∈ output, source.allots logged = true) :
    Exchange.Tracked (log ++ output)
        (output.foldl (Exchange.note ref atOnce) { source with gateway := target }) ∧
      source.Serves output
        (output.foldl (Exchange.note ref atOnce) { source with gateway := target }) := by
  have running : ∀ {before after : List Bridge} {bridge : Bridge} {announced : List Effect}
      {base : Gateway}, Placed source.gateway env event before bridge after announced base →
      bridge.state ≠ .x := by
    intro before after bridge announced base placed
    rcases placed.receives with ⟨member, _⟩ | ⟨rfl, _⟩
    · exact (composed bridge member).running
    · exact nofun
  cases processed with
  | unrouted silent foreign =>
      rw [List.append_nil]
      exact ⟨tracked, nofun, nofun, nofun⟩
  | @kept before after bridge announced base change placed life stays =>
      rw [placed.world_eq] at life
      refine placed.turned_kept life (fun closed => running placed (stays closed)) tracked admits
        numbered composed rfl allotted rfl ?_
      rw [← placed.sip_eq]
      rfl
  | @removed before after bridge announced base change placed life closed =>
      rw [placed.world_eq] at life
      obtain ⟨closing, row, removal, closes⟩ := life.closed (running placed) closed
      refine placed.turned_removed life removal ?_ tracked admits rfl rfl ?_
      · rw [closes]
        change filed (row ++ closingEffects env source.gateway.sip closing) = _
        rw [filed_append, removal.row_unfiled, filed_closingEffects, List.nil_append]
      · rw [← placed.sip_eq]
        rfl

end Turn

end Tg2Sip.Cpp
