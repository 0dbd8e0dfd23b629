/-
The history of one bridge within a run of the gateway.

The steps of a run that concern one context, each with the effects it had, are
the stages of that context.  They form a `Biography`: a creation followed by
events that the context owned, each an instance of `Life`, with nothing behind
the terminal state.  The context ids are never reused, so this holds for every
context of every run, and properties of a bridge over a run are proved by
induction over its biography.
-/

import Mathlib.Data.List.Nodup
import Tg2Sip.Cpp.Isolation

namespace Tg2Sip.Cpp

def effectsOf (ctxId : String) (output : List Logged) : List Effect :=
  output.filterMap (fun logged => if logged.1 = ctxId then some logged.2 else none)

def stagesOf (ctxId : String) (taken : List Transition) : List (List Effect) :=
  (taken.map (fun transition => effectsOf ctxId transition.output)).filter (fun stage => stage ≠ [])

theorem effectsOf_tagged_self (ctxId : String) (effects : List Effect) :
    effectsOf ctxId (tagged ctxId effects) = effects := by
  unfold effectsOf tagged
  rw [List.filterMap_map]
  simp

theorem effectsOf_tagged_other {ctxId other : String} (different : other ≠ ctxId)
    (effects : List Effect) : effectsOf ctxId (tagged other effects) = [] := by
  unfold effectsOf tagged
  rw [List.filterMap_map, List.filterMap_eq_nil_iff]
  intro effect _
  exact if_neg different

theorem mem_effectsOf {ctxId : String} {effect : Effect} {output : List Logged} :
    effect ∈ effectsOf ctxId output ↔ (ctxId, effect) ∈ output := by
  unfold effectsOf
  rw [List.mem_filterMap]
  constructor
  · rintro ⟨⟨owner, logged⟩, member, read⟩
    split at read
    · rename_i same
      cases read
      cases same
      exact member
    · cases read
  · intro member
    exact ⟨(ctxId, effect), member, if_pos rfl⟩

theorem effectsOf_mem_stagesOf {ctxId : String} {taken : List Transition}
    {transition : Transition} (member : transition ∈ taken) {effect : Effect}
    (logged : (ctxId, effect) ∈ transition.output) :
    effectsOf ctxId transition.output ∈ stagesOf ctxId taken := by
  unfold stagesOf
  rw [List.mem_filter]
  refine ⟨List.mem_map.mpr ⟨transition, member, rfl⟩, ?_⟩
  have inside := mem_effectsOf.mpr logged
  simp only [decide_eq_true_eq]
  exact List.ne_nil_of_mem inside

/-- A step that concerns a context is one of its stages. -/
theorem stagesOf_split {ctxId : String} {effect : Effect} {transition : Transition}
    (before after : List Transition) (logged : (ctxId, effect) ∈ transition.output) :
    stagesOf ctxId (before ++ transition :: after) =
      stagesOf ctxId before ++ effectsOf ctxId transition.output :: stagesOf ctxId after := by
  have present : effectsOf ctxId transition.output ≠ [] :=
    List.ne_nil_of_mem (mem_effectsOf.mpr logged)
  unfold stagesOf
  rw [List.map_append, List.map_cons, List.filter_append, List.filter_cons_of_pos]
  simpa using present

theorem effectsOf_append (ctxId : String) (first second : List Logged) :
    effectsOf ctxId (first ++ second) = effectsOf ctxId first ++ effectsOf ctxId second :=
  List.filterMap_append

theorem flatten_stagesOf (ctxId : String) (taken : List Transition) :
    (stagesOf ctxId taken).flatten = effectsOf ctxId (LabelledMachine.history taken) := by
  induction taken with
  | nil => rfl
  | cons transition rest ih =>
      rw [LabelledMachine.history_cons, effectsOf_append, ← ih]
      unfold stagesOf
      rw [List.map_cons]
      by_cases silent : effectsOf ctxId transition.output = []
      · rw [List.filter_cons_of_neg (by simpa using silent), silent, List.nil_append]
      · rw [List.filter_cons_of_pos (by simpa using silent), List.flatten_cons]

theorem stagesOf_append (ctxId : String) (first second : List Transition) :
    stagesOf ctxId (first ++ second) = stagesOf ctxId first ++ stagesOf ctxId second := by
  simp only [stagesOf, List.map_append, List.filter_append]

theorem stagesOf_silent {ctxId : String} {transition : Transition}
    (silent : effectsOf ctxId transition.output = []) : stagesOf ctxId [transition] = [] := by
  simp [stagesOf, silent]

theorem stagesOf_stage {ctxId : String} {transition : Transition} {stage : List Effect}
    (output : transition.output = tagged ctxId stage) (nonempty : stage ≠ []) :
    stagesOf ctxId [transition] = [stage] := by
  simp [stagesOf, output, effectsOf_tagged_self, nonempty]

theorem stageEffects_ne_nil (announced : List Effect) (event : Event)
    (effects marks : List Effect) : stageEffects announced event effects marks ≠ [] := by
  unfold stageEffects
  intro empty
  cases (List.append_eq_nil_iff.mp empty).2

theorem filterMap_stage {Value : Type} (read : Effect → Option Value)
    (created : read .created = none) (deleted : read .deleted = none) {event : Event}
    (handled : read (.handled event) = none) {announced effects marks : List Effect}
    (begun : announced = [] ∨ announced = [.created])
    (marked : marks = [] ∨ marks = [.deleted]) :
    (stageEffects announced event effects marks).filterMap read = effects.filterMap read := by
  have start : announced.filterMap read = [] := by
    rcases begun with rfl | rfl
    · rfl
    · exact List.filterMap_cons_none created
  have mark : marks.filterMap read = [] := by
    rcases marked with rfl | rfl
    · rfl
    · exact List.filterMap_cons_none deleted
  rw [stageEffects, List.filterMap_append, start, List.nil_append,
    List.filterMap_cons_none handled, List.filterMap_append, mark, List.append_nil]

/-! ### Biographies -/

inductive Biography (ctxId : String) : List (List Effect) → SmState → Context → Prop where
  | opened {env : Env} {world : World} {event : Event} {change : Change} :
      world.ctx = { id := ctxId } → event.opens = true →
      Life env world .init event change →
      Biography ctxId
        [stageEffects [.created] event change.effects (removalMark change.state)]
        change.state change.ctx
  | continued {stages : List (List Effect)} {state : SmState} {env : Env} {world : World}
      {event : Event} {change : Change} :
      Biography ctxId stages state world.ctx → state ≠ .x →
      Bridge.owns env event ⟨world.ctx, state⟩ = true →
      Life env world state event change →
      Biography ctxId
        (stages ++ [stageEffects [] event change.effects (removalMark change.state)])
        change.state change.ctx

/-- What a run knows about the contexts it has created. -/
structure Chronicle (taken : List Transition) (state : Gateway) : Prop where
  numbered : state.Numbered
  composed : ∀ bridge ∈ state.bridges, bridge.Composed
  live : ∀ bridge ∈ state.bridges,
    Biography bridge.ctx.id (stagesOf bridge.ctx.id taken) bridge.state bridge.ctx
  gone : ∀ ctxId, (∀ bridge ∈ state.bridges, bridge.ctx.id ≠ ctxId) →
    stagesOf ctxId taken = [] ∨ ∃ ctx, Biography ctxId (stagesOf ctxId taken) .x ctx
  unissued : ∀ ctxId, (∀ number ≤ state.ctxCounter, ctxId ≠ ctxIdOf state.pid number) →
    stagesOf ctxId taken = []

theorem Chronicle.silent {taken : List Transition} {gateway source target : Gateway}
    {label : Label} (chronicle : Chronicle taken gateway)
    (sameBridges : target.bridges = gateway.bridges)
    (sameCounter : target.ctxCounter = gateway.ctxCounter)
    (samePid : target.pid = gateway.pid) :
    Chronicle (taken ++ [⟨source, label, [], target⟩]) target := by
  have sameStages : ∀ ctxId, stagesOf ctxId (taken ++ [⟨source, label, [], target⟩]) =
      stagesOf ctxId taken := by
    intro ctxId
    rw [stagesOf_append, stagesOf_silent rfl, List.append_nil]
  refine ⟨⟨?_, ?_⟩, ?_, ?_, ?_, ?_⟩
  · rw [sameBridges, sameCounter, samePid]
    exact chronicle.numbered.issued
  · rw [sameBridges]
    exact chronicle.numbered.distinct
  · rw [sameBridges]
    exact chronicle.composed
  · intro bridge member
    rw [sameBridges] at member
    rw [sameStages]
    exact chronicle.live bridge member
  · intro ctxId absent
    rw [sameBridges] at absent
    rw [sameStages]
    exact chronicle.gone ctxId absent
  · intro ctxId fresh
    rw [sameCounter, samePid] at fresh
    rw [sameStages]
    exact chronicle.unissued ctxId fresh

/-- The stage that an event adds to the context it was placed at. -/
theorem Placed.biography {gateway base : Gateway} {env : Env} {event : Event}
    {before after : List Bridge} {bridge : Bridge} {announced : List Effect} {change : Change}
    {taken : List Transition}
    (placed : Placed gateway env event before bridge after announced base)
    (chronicle : Chronicle taken gateway)
    (life : Life env (base.world bridge.ctx) bridge.state event change) :
    Biography bridge.ctx.id
      (stagesOf bridge.ctx.id taken ++
        [stageEffects announced event change.effects (removalMark change.state)])
      change.state change.ctx := by
  cases placed with
  | found shape owner earlier =>
      have member : bridge ∈ gateway.bridges := by
        rw [shape]
        exact List.mem_append_right _ List.mem_cons_self
      exact .continued (chronicle.live bridge member) (chronicle.composed bridge member).running
        owner life
  | opened opens foreign =>
      have unseen : stagesOf gateway.newBridge.ctx.id taken = [] := by
        apply chronicle.unissued
        intro number bound same
        have equal := ctxIdOf_injective gateway.pid same
        omega
      rw [unseen]
      exact .opened rfl opens life

theorem Placed.counter_le {gateway base : Gateway} {env : Env} {event : Event}
    {before after : List Bridge} {bridge : Bridge} {announced : List Effect}
    (placed : Placed gateway env event before bridge after announced base) :
    gateway.ctxCounter ≤ base.ctxCounter ∧ base.pid = gateway.pid := by
  cases placed with
  | found shape owner earlier => exact ⟨Nat.le_refl _, rfl⟩
  | opened opens foreign => exact ⟨Nat.le_succ _, rfl⟩

theorem Placed.issued {gateway base : Gateway} {env : Env} {event : Event}
    {before after : List Bridge} {bridge : Bridge} {announced : List Effect}
    (placed : Placed gateway env event before bridge after announced base)
    (numbered : gateway.Numbered) :
    ∃ number ≤ base.ctxCounter, bridge.ctx.id = ctxIdOf base.pid number :=
  (placed.numbered numbered).issued bridge (List.mem_append_right _ List.mem_cons_self)

theorem Placed.known {gateway base : Gateway} {env : Env} {event : Event}
    {before after : List Bridge} {bridge : Bridge} {announced : List Effect}
    (placed : Placed gateway env event before bridge after announced base)
    {other : Bridge} (member : other ∈ gateway.bridges) :
    other = bridge ∨ other ∈ before ++ after := by
  cases placed with
  | found shape owner earlier =>
      rw [shape] at member
      rcases List.mem_append.mp member with inBefore | rest
      · exact .inr (List.mem_append_left _ inBefore)
      · rcases List.mem_cons.mp rest with same | inAfter
        · exact .inl same
        · exact .inr (List.mem_append_right _ inAfter)
  | opened opens foreign =>
      rw [List.append_nil]
      exact .inr member

theorem stagesOf_other {ctxId owner : String} (different : ctxId ≠ owner)
    (taken : List Transition) {transition : Transition} {stage : List Effect}
    (output : transition.output = tagged owner stage) :
    stagesOf ctxId (taken ++ [transition]) = stagesOf ctxId taken := by
  have silent : effectsOf ctxId transition.output = [] := by
    rw [output]
    exact effectsOf_tagged_other (Ne.symm different) stage
  rw [stagesOf_append, stagesOf_silent silent, List.append_nil]

theorem stagesOf_self {owner : String} (taken : List Transition) {transition : Transition}
    {stage : List Effect} (output : transition.output = tagged owner stage)
    (nonempty : stage ≠ []) :
    stagesOf owner (taken ++ [transition]) = stagesOf owner taken ++ [stage] := by
  rw [stagesOf_append, stagesOf_stage output nonempty]

theorem Placed.unissued_before {gateway base : Gateway} {env : Env} {event : Event}
    {before after : List Bridge} {bridge : Bridge} {announced : List Effect}
    (placed : Placed gateway env event before bridge after announced base)
    (numbered : gateway.Numbered) {ctxId : String}
    (fresh : ∀ number ≤ base.ctxCounter, ctxId ≠ ctxIdOf base.pid number) :
    ctxId ≠ bridge.ctx.id ∧
      ∀ number ≤ gateway.ctxCounter, ctxId ≠ ctxIdOf gateway.pid number := by
  obtain ⟨number, bound, isIssued⟩ := placed.issued numbered
  obtain ⟨grows, samePid⟩ := placed.counter_le
  constructor
  · intro same
    exact fresh number bound (same.trans isIssued)
  · intro earlier earlierBound
    rw [← samePid]
    exact fresh earlier (Nat.le_trans earlierBound grows)

theorem Processed.chronicle {gateway target source : Gateway} {env : Env} {event : Event}
    {label : Label} {output : List Logged} {taken : List Transition}
    (processed : Processed gateway env event output target)
    (chronicle : Chronicle taken gateway) :
    Chronicle (taken ++ [⟨source, label, output, target⟩]) target := by
  have numbered := processed.numbered chronicle.numbered
  have composed := processed.composed chronicle.composed
  cases processed with
  | unrouted silent foreign =>
      exact chronicle.silent rfl rfl rfl
  | @kept before after bridge announced base change placed life stays =>
      have live : change.state ≠ .x := by
        intro closed
        rcases placed.receives with ⟨member, _⟩ | ⟨fresh, _⟩
        · exact (chronicle.composed bridge member).running (stays closed)
        · rw [fresh] at stays
          cases stays closed
      have biography := placed.biography chronicle life
      rw [removalMark, if_neg live] at biography
      refine ⟨numbered, composed, ?_, ?_, ?_⟩
      · intro other member
        rcases List.mem_append.mp member with inBefore | rest
        · have inOthers : other ∈ before ++ after := List.mem_append_left _ inBefore
          rw [stagesOf_other (placed.other_id chronicle.numbered inOthers) taken rfl]
          exact chronicle.live other (placed.others inOthers)
        · rcases List.mem_cons.mp rest with rfl | inAfter
          · have sameId : change.ctx.id = bridge.ctx.id := life.keeps_id
            change Biography change.ctx.id (stagesOf change.ctx.id _) change.state change.ctx
            rw [sameId, stagesOf_self taken rfl (stageEffects_ne_nil _ _ _ _)]
            exact biography
          · have inOthers : other ∈ before ++ after := List.mem_append_right _ inAfter
            rw [stagesOf_other (placed.other_id chronicle.numbered inOthers) taken rfl]
            exact chronicle.live other (placed.others inOthers)
      · intro ctxId absent
        have different : ctxId ≠ bridge.ctx.id := by
          intro same
          have sameId : change.ctx.id = bridge.ctx.id := life.keeps_id
          exact absent ⟨change.ctx, change.state⟩
            (List.mem_append_right _ List.mem_cons_self) (sameId.trans same.symm)
        rw [stagesOf_other different taken rfl]
        apply chronicle.gone ctxId
        intro other member
        rcases placed.known member with rfl | inOthers
        · exact different.symm
        · apply absent other
          rcases List.mem_append.mp inOthers with inBefore | inAfter
          · exact List.mem_append_left _ inBefore
          · exact List.mem_append_right _ (List.mem_cons_of_mem _ inAfter)
      · intro ctxId fresh
        obtain ⟨different, earlier⟩ := placed.unissued_before chronicle.numbered fresh
        rw [stagesOf_other different taken rfl]
        exact chronicle.unissued ctxId earlier
  | @removed before after bridge announced base change placed life closed =>
      have biography := placed.biography chronicle life
      rw [removalMark, if_pos closed, closed] at biography
      refine ⟨numbered, composed, ?_, ?_, ?_⟩
      · intro other member
        rw [stagesOf_other (placed.other_id chronicle.numbered member) taken rfl]
        exact chronicle.live other (placed.others member)
      · intro ctxId absent
        by_cases same : ctxId = bridge.ctx.id
        · subst same
          rw [stagesOf_self taken rfl (stageEffects_ne_nil _ _ _ _)]
          exact .inr ⟨change.ctx, biography⟩
        · rw [stagesOf_other same taken rfl]
          apply chronicle.gone ctxId
          intro other member
          rcases placed.known member with rfl | inOthers
          · exact Ne.symm same
          · exact absent other inOthers
      · intro ctxId fresh
        obtain ⟨different, earlier⟩ := placed.unissued_before chronicle.numbered fresh
        rw [stagesOf_other different taken rfl]
        exact chronicle.unissued ctxId earlier

theorem Chronicle.of_offer {taken : List Transition} {source base : Gateway} {label : Label}
    {env : Env} {event : Event} (chronicle : Chronicle taken source)
    (offered : Offers source label env event base) : Chronicle taken base := by
  cases offered with
  | dispatch => exact chronicle
  | popInternal queue =>
      exact ⟨chronicle.numbered.withQueue _, chronicle.composed, chronicle.live,
        chronicle.gone, chronicle.unissued⟩

theorem Run.chronicle {pid : Nat} {cache : Cache} {started : Int} {client : SipClient}
    {taken : List Transition} {state : Gateway}
    (run : Run (Gateway.initial pid cache started client) taken state) :
    Chronicle taken state := by
  have start := initial_routable pid cache started client
  have atStart : Chronicle [] (Gateway.initial pid cache started client) :=
    ⟨start.numbered, start.composed, List.forall_mem_nil _, fun _ _ => .inl rfl, fun _ _ => rfl⟩
  apply LabelledMachine.Run.invariant atStart _ run (fun _ _ => trivial)
  intro taken source label output target _ chronicle fired _
  cases step_stepped fired with
  | idle empty => exact chronicle.silent rfl rfl rfl
  | pjsip => exact chronicle.silent rfl rfl rfl
  | event offered processed => exact processed.chronicle (chronicle.of_offer offered)

/-- The steps that concern a context form a biography, whether or not its
bridge is still there. -/
theorem Run.biography {pid : Nat} {cache : Cache} {started : Int} {client : SipClient}
    {taken : List Transition} {state : Gateway}
    (run : Run (Gateway.initial pid cache started client) taken state) (ctxId : String)
    (seen : stagesOf ctxId taken ≠ []) :
    ∃ last ctx, Biography ctxId (stagesOf ctxId taken) last ctx := by
  have chronicle := run.chronicle
  by_cases present : ∃ bridge ∈ state.bridges, bridge.ctx.id = ctxId
  · obtain ⟨bridge, member, rfl⟩ := present
    exact ⟨_, _, chronicle.live bridge member⟩
  · rcases chronicle.gone ctxId (by
        intro bridge member same
        exact present ⟨bridge, member, same⟩) with none | ⟨ctx, biography⟩
    · exact absurd none seen
    · exact ⟨_, _, biography⟩

end Tg2Sip.Cpp
