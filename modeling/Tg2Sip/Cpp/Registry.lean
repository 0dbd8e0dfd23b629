/-
The registry of SIP calls over whole runs.

`Hangup` is the only operation that erases an entry, and `CleanSipId` forgets
the id of a call that the SIP side has ended without it.  `Orderly` excludes
the steps that leave an entry behind or meet one: then the entry of a call is
its own object from its registration to its hangup.
-/

import Tg2Sip.Cpp.Tracking

namespace Tg2Sip.Cpp

open FiniteMap (Map)

section Steps

variable {source : Exchange} {event : Event} {log : List Logged}

theorem Exchange.Tracked.accept {id : Int} (tracked : source.Tracked log) (ext : String)
    (vacant : source.vacant id = true) (absent : source.calls id = none) :
    (source.accept id ext).Tracked log ∧ (source.accept id ext).calls id = some source.nextRef := by
  have valid : id ≠ invalidId := by
    simp only [Exchange.vacant, Bool.and_eq_true, decide_eq_true_eq] at vacant
    unfold invalidId
    omega
  have entry : (source.accept id ext).calls id = some source.nextRef :=
    FiniteMap.emplace_absent _ absent
  have others : ∀ other, other ≠ id → (source.accept id ext).calls other = source.calls other :=
    fun other different => FiniteMap.emplace_of_ne _ _ different
  have grows : ∀ other held, source.calls other = some held →
      (source.accept id ext).calls other = some held := by
    intro other held known
    rw [others other ?_, known]
    rintro rfl
    rw [absent] at known
    cases known
  have unheld : ∀ bridge ∈ source.gateway.bridges, bridge.ctx.sipCallId ≠ id := by
    intro bridge member same
    obtain ⟨held, _, known⟩ := tracked.owned bridge member (same ▸ valid)
    rw [same, absent] at known
    cases known
  have unannounced : ∀ queued ∈ source.sipEvents, ¬queued.announces id := by
    intro queued waiting announced
    have known := (tracked.pending queued waiting id announced).1
    rw [absent] at known
    cases known
  refine ⟨⟨?_, tracked.apart, tracked.legs, ?_, ?_, ?_, ?_, ?_⟩, entry⟩
  · intro bridge member held
    obtain ⟨ref, isOwn, known⟩ := tracked.owned bridge member held
    exact ⟨ref, isOwn, grows _ _ known⟩
  · intro queued waiting other announced
    rcases List.mem_append.mp waiting with early | last
    · obtain ⟨known, foreign⟩ := tracked.pending queued early other announced
      exact ⟨grows _ _ known, foreign⟩
    · rw [List.mem_singleton.mp last] at announced ⊢
      obtain ⟨otherExt, same⟩ := announced
      cases same
      exact ⟨entry, unheld⟩
  · change (source.sipEvents ++ [_]).Pairwise _
    rw [List.pairwise_append]
    refine ⟨tracked.pendingApart, List.pairwise_singleton _ _, ?_⟩
    intro first waiting second last other announced wrong
    rw [List.mem_singleton.mp last] at wrong
    obtain ⟨otherExt, same⟩ := wrong
    cases same
    exact unannounced first waiting announced
  · intro queued waiting
    rcases List.mem_append.mp waiting with early | last
    · exact tracked.valid queued early
    · rw [List.mem_singleton.mp last]
      refine ⟨rfl, ?_⟩
      intro other named
      cases named
      exact valid
  · intro other held present
    by_cases same : other = id
    · exact same ▸ valid
    · change FiniteMap.insert source.dialogs id source.nextRef other = some held ∨ _ at present
      rw [FiniteMap.insert_of_ne _ _ same, others other same] at present
      exact tracked.slots other held present
  · intro other held dialog
    change FiniteMap.insert source.dialogs id source.nextRef other = some held at dialog
    by_cases same : other = id
    · subst same
      rw [FiniteMap.insert_self] at dialog
      cases dialog
      exact .inl entry
    · rw [FiniteMap.insert_of_ne _ _ same] at dialog
      rw [others other same]
      exact tracked.kept other held dialog

theorem callStateUpdate_reports (id : Int) (state : InvState) :
    Event.Reports (.callStateUpdate id state) id :=
  ⟨rfl, nofun, rfl⟩

theorem callMediaStateUpdate_reports (id : Int) (hasMedia : Bool) :
    Event.Reports (.callMediaStateUpdate id hasMedia) id :=
  ⟨rfl, nofun, rfl⟩

theorem Exchange.Tracked.callback {id : Int} (tracked : source.Tracked log)
    (reports : event.Reports id) (held : Option CallRef) :
    (source.callback id held event).Tracked log := by
  obtain ⟨late, shape, isLate⟩ := callback_spec source id held event
  rw [shape]
  refine tracked.queued (fun queued member => ⟨id, ?_, ?_⟩) (fun _ _ dialog => dialog)
  · rw [(isLate queued member).1]
    exact reports
  · exact tracked.slots id _ (.inl (isLate queued member).2)

theorem Exchange.Tracked.hangUp (tracked : source.Tracked log) (id : Int)
    (held : Option CallRef) : (source.hangUp id held).Tracked log := by
  obtain ⟨late, shape, isLate⟩ := hangUp_spec source id held
  rw [shape]
  refine tracked.queued (fun queued member => ⟨id, ?_, ?_⟩) ?_
  · rw [(isLate queued member).1]
    exact callStateUpdate_reports id .disconnected
  · exact tracked.slots id _ (.inl (isLate queued member).2)
  · intro other ref dialog
    by_cases same : other = id
    · rw [same, FiniteMap.erase_self] at dialog
      cases dialog
    · rw [FiniteMap.erase_of_ne _ same] at dialog
      exact dialog

end Steps

/-! ### Whole runs -/

def PjResult.value? {Value : Type} : PjResult Value → Option Value
  | .ok value => some value
  | .error _ => none

def Queued.ended? : Queued → Option Int
  | ⟨.callStateUpdate id .disconnected, _⟩ => some id
  | _ => none

/-- The steps that neither leave an entry behind nor meet one: an id that pjsip
hands out has no entry, pjsip accepts a hangup, and the SIP side does not end a
call that a bridge still has. -/
def Orderly (transition : ExchangeTransition) : Prop :=
  match transition with
  | ⟨source, .incoming id _, _, _⟩ => source.calls id = none
  | ⟨source, .telegram env _ _, _, _⟩ =>
      env.hangup = .ok () ∧ ∀ id ∈ env.makeCall.value?, source.calls id = none
  | ⟨source, .sip env _, _, _⟩ =>
      env.hangup = .ok () ∧ ∀ id ∈ source.sipEvents.head?.bind Queued.ended?,
        ∀ bridge ∈ source.gateway.bridges, bridge.ctx.sipCallId ≠ id
  | ⟨_, .internal env _, _, _⟩ => env.hangup = .ok ()
  | _ => True

instance : DecidablePred Orderly := fun transition =>
  match transition with
  | ⟨source, .incoming id _, _, _⟩ => inferInstanceAs (Decidable (source.calls id = none))
  | ⟨source, .telegram env _ _, _, _⟩ =>
      inferInstanceAs (Decidable (env.hangup = .ok () ∧
        ∀ id ∈ env.makeCall.value?, source.calls id = none))
  | ⟨source, .sip env _, _, _⟩ =>
      inferInstanceAs (Decidable (env.hangup = .ok () ∧
        ∀ id ∈ source.sipEvents.head?.bind Queued.ended?,
          ∀ bridge ∈ source.gateway.bridges, bridge.ctx.sipCallId ≠ id))
  | ⟨_, .internal env _, _, _⟩ => inferInstanceAs (Decidable (env.hangup = .ok ()))
  | ⟨_, .progress _ _, _, _⟩ => isTrue trivial
  | ⟨_, .media _ _, _, _⟩ => isTrue trivial
  | ⟨_, .disconnect _, _, _⟩ => isTrue trivial

/-- The registry follows the calls: a registered call is its own entry until it
is hung up, every operation acts on the object of its own call, and a removed
bridge leaves no entry. -/
structure RegistryFollows (taken : List ExchangeTransition) (state : Exchange) : Prop where
  kept : state.Kept (LabelledMachine.history taken)
  registered : ∀ transition ∈ taken, ∀ id ext, transition.label = .incoming id ext →
    transition.target.calls id = some transition.source.nextRef
  dialled : ∀ transition ∈ taken, ∀ ctxId uri prm id,
    (ctxId, .dial uri prm (.ok id)) ∈ transition.output →
    transition.target.calls id = some transition.source.nextRef
  acts : ∀ transition ∈ taken, ∀ ctxId op found failure,
    (ctxId, .sip op found failure) ∈ transition.output →
    ∃ ref, found = some ref ∧ transition.target.own ctxId = some ref
  erased : ∀ before transition after, taken = before ++ transition :: after →
    ∀ ctxId id, (ctxId, .deleted) ∈ transition.output →
    (ctxId, .associatedSip id) ∈ LabelledMachine.history (before ++ [transition]) →
    transition.target.calls id = none

theorem Queued.ended?_of_disconnected {queued : Queued} {id : Int}
    (isState : queued.event = .callStateUpdate id .disconnected) : queued.ended? = some id := by
  obtain ⟨event, ref⟩ := queued
  dsimp only at isState
  rw [isState]
  rfl

structure Advanced (log : List Logged) (transition : ExchangeTransition) : Prop where
  tracked : transition.target.Tracked (log ++ transition.output)
  serves : transition.source.Serves transition.output transition.target
  registered : ∀ id ext, transition.label = .incoming id ext →
    transition.target.calls id = some transition.source.nextRef

theorem serves_nil (source target : Exchange) : source.Serves [] target :=
  ⟨nofun, nofun, nofun⟩

theorem Advanced.of_silent {source target : Exchange} {label : ExchangeLabel}
    {log : List Logged} (tracked : target.Tracked log)
    (registered : ∀ id ext, label = .incoming id ext → target.calls id = some source.nextRef) :
    Advanced log ⟨source, label, [], target⟩ := by
  refine ⟨?_, serves_nil source target, registered⟩
  rw [List.append_nil]
  exact tracked

def ExchangeLabel.isIncoming : ExchangeLabel → Bool
  | .incoming _ _ => true
  | _ => false

theorem Advanced.of_turn {source target : Exchange} {label : ExchangeLabel}
    {log output : List Logged} (notIncoming : label.isIncoming = false)
    (tracked : target.Tracked (log ++ output)) (serves : source.Serves output target) :
    Advanced log ⟨source, label, output, target⟩ := by
  refine ⟨tracked, serves, ?_⟩
  intro id ext isIncoming
  cases isIncoming
  cases notIncoming

theorem Advanced.of_idle {source target : Exchange} {label : ExchangeLabel} {log : List Logged}
    (notIncoming : label.isIncoming = false) (tracked : target.Tracked log) :
    Advanced log ⟨source, label, [], target⟩ := by
  apply Advanced.of_turn notIncoming _ (serves_nil source target)
  rw [List.append_nil]
  exact tracked

theorem admits_internalError {exchange : Exchange} {env : Env} (error : InternalError)
    (ref : CallRef) (hangup : env.hangup = .ok ()) :
    exchange.Admits env (.internalError error) ref :=
  ⟨hangup, nofun, nofun, nofun, nofun⟩

theorem Exchange.Tracked.admits_head {source : Exchange} {log : List Logged} {env : Env}
    {queued : Queued} {rest : List Queued} (tracked : source.Tracked log)
    (queue : source.sipEvents = queued :: rest) (hangup : env.hangup = .ok ())
    (notRemote : ∀ id, queued.event = .callStateUpdate id .disconnected →
      ∀ bridge ∈ source.gateway.bridges, bridge.ctx.sipCallId ≠ id) :
    Exchange.Admits { source with sipEvents := rest } env queued.event queued.ref where
  hangup := hangup
  fresh := by
    intro call id isCall
    have notTelegram := (tracked.valid queued (by rw [queue]; exact List.mem_cons_self)).1
    rw [isCall] at notTelegram
    cases notTelegram
  incoming := by
    intro id ext isIncoming
    obtain ⟨entry, foreign⟩ :=
      tracked.pending queued (by rw [queue]; exact List.mem_cons_self) id ⟨ext, isIncoming⟩
    have apart := tracked.pendingApart
    rw [queue, List.pairwise_cons] at apart
    exact ⟨entry, foreign, fun other waiting => apart.1 other waiting id ⟨ext, isIncoming⟩⟩
  notRemote := notRemote
  valid := (tracked.valid queued (by rw [queue]; exact List.mem_cons_self)).2

theorem Exchange.Tracked.tail {source : Exchange} {log : List Logged} {queued : Queued}
    {rest : List Queued} (tracked : source.Tracked log)
    (queue : source.sipEvents = queued :: rest) :
    Exchange.Tracked log { source with sipEvents := rest } := by
  have inQueue : ∀ other ∈ rest, other ∈ source.sipEvents := by
    rw [queue]
    exact fun other waiting => List.mem_cons_of_mem _ waiting
  have apart := tracked.pendingApart
  rw [queue, List.pairwise_cons] at apart
  exact ⟨tracked.owned, tracked.apart, tracked.legs,
    fun other waiting => tracked.pending other (inQueue other waiting), apart.2,
    fun other waiting => tracked.valid other (inQueue other waiting), tracked.slots, tracked.kept⟩

theorem step_advanced {source target : Exchange} {label : ExchangeLabel} {output : List Logged}
    {log : List Logged} (fired : source.step label = some (output, target))
    (tracked : source.Tracked log) (numbered : source.gateway.Numbered)
    (composed : ∀ other ∈ source.gateway.bridges, other.Composed)
    (orderly : Orderly ⟨source, label, output, target⟩) :
    Advanced log ⟨source, label, output, target⟩ := by
  cases label with
  | incoming id ext =>
      simp only [Exchange.step] at fired
      split at fired
      · rename_i vacant
        cases fired
        obtain ⟨accepted, entry⟩ := tracked.accept ext vacant orderly
        refine .of_silent accepted ?_
        intro other otherExt same
        cases same
        exact entry
      · cases fired
  | progress id state =>
      simp only [Exchange.step] at fired
      split at fired
      · cases fired
      · cases fired
        exact .of_idle rfl (tracked.callback (callStateUpdate_reports id state) _)
  | media id hasMedia =>
      cases fired
      exact .of_idle rfl (tracked.callback (callMediaStateUpdate_reports id hasMedia) _)
  | disconnect id =>
      cases fired
      exact .of_idle rfl (tracked.hangUp id _)
  | telegram env event atOnce =>
      simp only [Exchange.step] at fired
      split at fired
      · rename_i isTelegram
        obtain ⟨stepped, allotted, targetEq⟩ := turn_some fired
        have processed := (step_stepped stepped).processed .dispatch
        have admits : source.Admits env event source.nextRef := by
          refine ⟨orderly.1, ?_, ?_, ?_, ?_⟩
          · intro _ id _ returned
            exact ⟨orderly.2 id (by rw [returned]; rfl), rfl⟩
          · rintro id ext rfl
            cases isTelegram
          · rintro id rfl
            cases isTelegram
          · intro id named
            cases event <;> cases isTelegram <;> cases named
        obtain ⟨after, serves⟩ :=
          processed.turned atOnce tracked admits numbered composed allotted
        rw [← targetEq] at after serves
        exact .of_turn rfl after serves
      · cases fired
  | sip env atOnce =>
      simp only [Exchange.step] at fired
      split at fired
      · cases fired
      · rename_i queued rest queue
        obtain ⟨stepped, allotted, targetEq⟩ := turn_some fired
        have processed := (step_stepped stepped).processed .dispatch
        have admits := tracked.admits_head queue orderly.1 (by
          intro id isState
          apply orderly.2 id
          rw [queue, List.head?_cons, Option.bind_some]
          exact Queued.ended?_of_disconnected isState)
        obtain ⟨after, serves⟩ := Processed.turned atOnce processed
          (tracked.tail queue) admits numbered composed allotted
        rw [← targetEq] at after serves
        exact .of_turn rfl after ⟨serves.dialled, serves.acts, serves.erased⟩
  | internal env atOnce =>
      obtain ⟨stepped, allotted, targetEq⟩ := turn_some fired
      rw [targetEq]
      generalize target.gateway = last at stepped
      cases step_stepped stepped with
      | idle empty => exact .of_idle rfl tracked
      | event offered processed =>
          cases offered with
          | @popInternal _ error rest queue =>
              have popped : Exchange.Tracked log
                  { source with gateway := { source.gateway with internalEvents := rest } } :=
                ⟨tracked.owned, tracked.apart, tracked.legs, tracked.pending,
                  tracked.pendingApart, tracked.valid, tracked.slots, tracked.kept⟩
              have admits : Exchange.Admits
                  { source with gateway := { source.gateway with internalEvents := rest } } env
                  (.internalError error) source.nextRef :=
                admits_internalError error source.nextRef orderly
              obtain ⟨after, serves⟩ := Processed.turned atOnce processed popped admits
                (numbered.withQueue rest) composed allotted
              exact .of_turn rfl after ⟨serves.dialled, serves.acts, serves.erased⟩

theorem initial_tracked (pid : Nat) (cache : Cache) (started : Int) :
    (Exchange.initial pid cache started).Tracked [] := by
  constructor
  · exact List.forall_mem_nil _
  · exact List.Pairwise.nil
  · exact List.forall_mem_nil _
  · exact List.forall_mem_nil _
  · exact List.Pairwise.nil
  · exact List.forall_mem_nil _
  · rintro id ref (dialog | entry)
    · cases dialog
    · cases entry
  · exact nofun

section Runs

variable {pid : Nat} {cache : Cache} {started : Int}

theorem ExchangeRun.held {taken : List ExchangeTransition} {state : Exchange}
    (run : ExchangeRun (Exchange.initial pid cache started) taken state) :
    state.gateway.Numbered ∧ (∀ bridge ∈ state.gateway.bridges, bridge.Composed) ∧
      (∀ bridge ∈ state.gateway.bridges, ∀ id,
        (bridge.ctx.id, .associatedSip id) ∈ LabelledMachine.history taken →
        bridge.ctx.sipCallId = id) ∧
      ∀ id, (state.gateway.newBridge.ctx.id, .associatedSip id) ∉
        LabelledMachine.history taken := by
  obtain ⟨shown, reached, sameHistory⟩ := ExchangeRun.gateway run
  have chronicle := Run.chronicle reached
  have logged : ∀ ctxId id, (ctxId, .associatedSip id) ∈ LabelledMachine.history taken →
      .associatedSip id ∈ (stagesOf ctxId shown).flatten := by
    intro ctxId id member
    rw [flatten_stagesOf, sameHistory]
    exact mem_effectsOf.mpr member
  refine ⟨chronicle.numbered, chronicle.composed, ?_, ?_⟩
  · intro bridge member id associated
    have ledger := (chronicle.live bridge member).ledger (chronicle.composed bridge member).running
    exact ledger.sip_eq (List.mem_filterMap.mpr ⟨_, logged _ id associated, rfl⟩)
  · intro id associated
    have silent := chronicle.unissued state.gateway.newBridge.ctx.id (by
      intro number bound same
      have equal := ctxIdOf_injective state.gateway.pid same
      omega)
    have impossible := logged _ id associated
    rw [silent] at impossible
    cases impossible

theorem ExchangeRun.tracked {taken : List ExchangeTransition} {state : Exchange}
    (run : ExchangeRun (Exchange.initial pid cache started) taken state)
    (orderly : ∀ transition ∈ taken, Orderly transition) :
    state.Tracked (LabelledMachine.history taken) := by
  have carried : (fun taken state => Exchange.Tracked (LabelledMachine.history taken) state)
      taken state := by
    apply LabelledMachine.Run.invariant (initial_tracked pid cache started) _ run orderly
    intro taken source label output target earlier tracked fired allowed
    obtain ⟨numbered, composed, _⟩ := ExchangeRun.held earlier
    have advanced := step_advanced fired tracked numbered composed allowed
    rw [LabelledMachine.history_append, LabelledMachine.history_cons,
      LabelledMachine.history_nil, List.append_nil]
    exact advanced.tracked
  exact carried

theorem ExchangeRun.advanced {before after : List ExchangeTransition}
    {transition : ExchangeTransition} {state : Exchange}
    (run : ExchangeRun (Exchange.initial pid cache started) (before ++ transition :: after) state)
    (orderly : ∀ step ∈ before ++ transition :: after, Orderly step) :
    ExchangeRun (Exchange.initial pid cache started) before transition.source ∧
      Advanced (LabelledMachine.history before) transition := by
  obtain ⟨reached, fired⟩ := run.at_split
  obtain ⟨numbered, composed, _⟩ := ExchangeRun.held reached
  have tracked := ExchangeRun.tracked reached
    (fun step member => orderly step (List.mem_append_left _ member))
  exact ⟨reached, step_advanced fired tracked numbered composed
    (orderly transition (List.mem_append_right _ List.mem_cons_self))⟩

end Runs

/-- In a run whose steps are all orderly the registry follows the calls. -/
theorem registry_follows_calls (pid : Nat) (cache : Cache) (started : Int)
    {taken : List ExchangeTransition} {state : Exchange}
    (run : ExchangeRun (Exchange.initial pid cache started) taken state)
    (orderly : ∀ transition ∈ taken, Orderly transition) : RegistryFollows taken state := by
  have advanced : ∀ transition ∈ taken, ∃ log, Advanced log transition := by
    intro transition member
    obtain ⟨before, after, rfl⟩ := List.append_of_mem member
    exact ⟨_, (ExchangeRun.advanced run orderly).2⟩
  refine ⟨(ExchangeRun.tracked run orderly).kept, ?_, ?_, ?_, ?_⟩
  · intro transition member
    obtain ⟨log, step⟩ := advanced transition member
    exact step.registered
  · intro transition member
    obtain ⟨log, step⟩ := advanced transition member
    exact step.serves.dialled
  · intro transition member
    obtain ⟨log, step⟩ := advanced transition member
    exact step.serves.acts
  · rintro before transition after rfl ctxId id deleted associated
    obtain ⟨reached, step⟩ := ExchangeRun.advanced run orderly
    obtain ⟨_, _, sameSip, unborn⟩ := ExchangeRun.held reached
    obtain ⟨notNow, removed⟩ := step.serves.erased ctxId deleted
    rw [LabelledMachine.history_append, LabelledMachine.history_cons,
      LabelledMachine.history_nil, List.append_nil] at associated
    have earlier := (List.mem_append.mp associated).resolve_right (notNow id)
    rcases removed with ⟨bridge, member, rfl, erased⟩ | rfl
    · rw [← sameSip bridge member id earlier]
      exact erased
    · exact absurd earlier (unborn id)

def Exchange.sample : Exchange :=
  Exchange.initial 1 ⟨FiniteMap.empty, FiniteMap.empty⟩ 0

/-- A call whose Telegram side ends first, and another one in the same slot. -/
def ExchangeLabel.endedByTelegram : List ExchangeLabel :=
  [.incoming 0 "42", .sip Env.sample false, .progress 0 .early, .sip Env.sample false,
    .telegram Env.sample (.updateCall ⟨7, 42, true, .discarded⟩) false, .disconnect 0,
    .incoming 0 "43"]

theorem registry_follows_call_ended_by_telegram :
    ∃ taken state, ExchangeRun Exchange.sample taken state ∧
      RegistryFollows taken state ∧ state.calls 0 = some 1 := by
  have replayed : LabelledMachine.replay Exchange.step Exchange.sample
    ExchangeLabel.endedByTelegram = some (_, _) := rfl
  have run := LabelledMachine.Run.of_replay replayed
  refine ⟨_, _, run, registry_follows_calls _ _ _ run ?_, rfl⟩
  exact LabelledMachine.replay_forall Orderly replayed (by decide)

/-- A call whose SIP side ends first, and another one in the same slot. -/
def ExchangeLabel.endedBySip : List ExchangeLabel :=
  [.incoming 0 "42", .sip Env.sample false, .disconnect 0, .sip Env.sample false,
    .incoming 0 "43"]

theorem remote_disconnect_leaves_entry :
    ∃ taken state, ExchangeRun Exchange.sample taken state ∧
      state.gateway.bridges = [] ∧ state.dialogs 0 = some 1 ∧ state.calls 0 = some 0 ∧
      ¬RegistryFollows taken state := by
  have replayed : LabelledMachine.replay Exchange.step Exchange.sample
    ExchangeLabel.endedBySip = some (_, _) := rfl
  have run := LabelledMachine.Run.of_replay replayed
  refine ⟨_, _, run, rfl, rfl, rfl, ?_⟩
  intro follows
  rcases follows.kept 0 1 rfl with stale | ⟨none, _⟩
  · cases stale
  · cases none

end Tg2Sip.Cpp
