/-
The flood block over whole runs.

`block_until` is shared by all calls.  A dial that starts before it sends
nothing; a dial that starts behind it may move it, and then to an instant that
is not before the start of the dial.  That the block never gets shorter rests
on this gate alone, whatever the two durations are.
-/

import Tg2Sip.Cpp.Dtmf

namespace Tg2Sip.Cpp

/-- The second reading of the clock in a step is not before the first one. -/
def Label.ClockForward : Label → Prop
  | .dispatch env _ => env.now ≤ env.later
  | .popInternal env => env.now ≤ env.later
  | .pjsip _ => True

def Effect.isQuery : Effect → Bool
  | .query _ _ => true
  | _ => false

def Query.isDial : Query → Bool
  | .createCall _ _ _ => true
  | .importContacts _ => true
  | .searchPublicChat _ => true
  | _ => false

def Effect.isDialRequest : Effect → Bool
  | .query request _ => request.isDial
  | _ => false

theorem Flood.until_ge {env : Env} {block : Int} (flood : Flood)
    (forward : env.now ≤ env.later) (free : ¬env.now < block) :
    block ≤ flood.until env block := by
  cases flood with
  | unrelated => exact Int.le_refl block
  | overflow => exact Int.le_refl block
  | wait seconds =>
      have positive : 0 ≤ second * (seconds : Int) := by
        unfold second
        omega
      change block ≤ env.later + second * (seconds : Int)
      omega

theorem DialTrace.block_le {env : Env} {ctx : Context} {cache cacheAfter : Cache}
    {block blockAfter : Int} {effects : List Effect} {tg : Option Int}
    {errors : List CallOpParam}
    (traced : DialTrace env ctx cache block effects tg errors cacheAfter blockAfter)
    (forward : env.now ≤ env.later) : block ≤ blockAfter := by
  cases traced with
  | blocked early => exact Int.le_refl block
  | unresolved free missing =>
      cases missing with
      | usernameError named cached answered fits => exact Flood.until_ge _ forward free
      | notAUser named cached answered kind => exact Int.le_refl block
      | phoneError unnamed numbered cached answered fits => exact Flood.until_ge _ forward free
      | notRegistered unnamed numbered cached answered => exact Int.le_refl block
  | dialled free resolved created =>
      cases created with
      | created answered => exact Int.le_refl block
      | failed answered fits => exact Flood.until_ge _ forward free

/-- In front of the block nothing is sent and nothing changes. -/
theorem DialTrace.of_blocked {env : Env} {ctx : Context} {cache cacheAfter : Cache}
    {block blockAfter : Int} {effects : List Effect} {tg : Option Int}
    {errors : List CallOpParam}
    (traced : DialTrace env ctx cache block effects tg errors cacheAfter blockAfter)
    (early : env.now < block) :
    effects = [] ∧ tg = none ∧ errors = [floodWaitPrm env block] ∧ cacheAfter = cache ∧
      blockAfter = block := by
  cases traced with
  | blocked _ => exact ⟨rfl, rfl, rfl, rfl, rfl⟩
  | unresolved free missing => exact absurd early free
  | dialled free resolved created => exact absurd early free

/-- No request of the list follows a request that was answered with an error. -/
def LastOnError : List Effect → Prop
  | [] => True
  | effect :: rest =>
      (effect.isQuery = true → effect.failed = true → ∀ later ∈ rest, later.isQuery = false) ∧
        LastOnError rest

theorem LastOnError.cons {effect : Effect} {rest : List Effect} (notQuery : effect.isQuery = false)
    (last : LastOnError rest) : LastOnError (effect :: rest) := by
  refine ⟨?_, last⟩
  intro isQuery
  rw [notQuery] at isQuery
  cases isQuery

theorem DialTrace.lastOnError {env : Env} {ctx : Context} {cache cacheAfter : Cache}
    {block blockAfter : Int} {effects : List Effect} {tg : Option Int}
    {errors : List CallOpParam}
    (traced : DialTrace env ctx cache block effects tg errors cacheAfter blockAfter) :
    LastOnError effects := by
  cases traced with
  | blocked early => trivial
  | unresolved free missing => cases missing <;> simp [LastOnError, Effect.isQuery]
  | dialled free resolved created =>
      cases resolved <;> cases created <;>
        simp [LastOnError, Effect.isQuery, Effect.failed]

/-- An event other than the one that dials sends no request of a dial and
leaves the cache and the block alone. -/
structure Change.Quiet (change : Change) (world : World) : Prop where
  announced : .action .dialTg ∉ change.effects
  requests : ∀ effect ∈ change.effects, effect.isDialRequest = false
  cache : change.cache = world.cache
  blockUntil : change.blockUntil = world.blockUntil

def Effect.offDial (effect : Effect) : Prop :=
  effect ≠ .action .dialTg ∧ effect.isDialRequest = false

theorem closingEffects_offDial {env : Env} {client : SipClient} {ctx : Context}
    {effect : Effect} (member : effect ∈ closingEffects env client ctx) : effect.offDial := by
  rcases mem_closingEffects member with rfl | rfl | rfl | rfl | rfl <;> exact ⟨nofun, rfl⟩

theorem Removal.announced_offDial {env : Env} {ctx closing : Context} {state : SmState}
    {event : Event} {announced : List Effect}
    (removal : Removal env ctx state event closing announced) :
    ∀ effect ∈ announced, effect.offDial := by
  cases removal <;> simp [Effect.offDial, Effect.isDialRequest]

theorem Change.Quiet.of_moved {world : World} {state : SmState} {ctx : Context}
    {effects : List Effect} {errors : List CallOpParam}
    (offDial : ∀ effect ∈ effects, effect.offDial) :
    (world.moved state ctx effects errors).Quiet world :=
  ⟨fun member => (offDial _ member).1 rfl, fun effect member => (offDial effect member).2,
    rfl, rfl⟩

theorem Change.Quiet.of_eval {world : World} {state : SmState} {ctx : Context}
    {effects : List Effect} {errors : List CallOpParam}
    (off : effects.all (fun effect => effect != .action .dialTg && !effect.isDialRequest) = true) :
    (world.moved state ctx effects errors).Quiet world := by
  apply Change.Quiet.of_moved
  intro effect member
  have checked := List.all_eq_true.mp off effect member
  rw [Bool.and_eq_true, bne_iff_ne, Bool.not_eq_true'] at checked
  exact checked

theorem Life.dial_or_quiet {env : Env} {world : World} {state : SmState} {event : Event}
    {change : Change} (life : Life env world state event change) :
    (∃ id effects tg, state = .fromSip .sipWaitConfirm ∧ event = .callStateUpdate id .early ∧
      change.ctx = world.ctx.withTg tg ∧ change.state = .fromSip .waitTg ∧
      change.effects = .action .dialTg :: effects ∧
      DialTrace env world.ctx world.cache world.blockUntil effects tg change.errors
        change.cache change.blockUntil) ∨ change.Quiet world := by
  cases life with
  | dialledTg traced => exact .inl ⟨_, _, _, rfl, rfl, rfl, rfl, rfl, traced⟩
  | removed removal =>
      refine .inr (Change.Quiet.of_moved ?_)
      intro effect member
      rcases List.mem_append.mp member with early | closing
      · exact removal.announced_offDial effect early
      · exact closingEffects_offDial closing
  | answeredTg =>
      right
      apply Change.Quiet.of_eval
      cases env.acceptCall.error?.isSome <;> rfl
  | dtmf final digits found =>
      right
      apply Change.Quiet.of_eval
      cases env.dialDtmf.fault.isSome <;> rfl
  | _ => exact .inr (Change.Quiet.of_eval rfl)

/-! ### One step -/

/-- What the block means for one step of the gateway. -/
structure RespectsBlock (transition : Transition) : Prop where
  grows : transition.source.blockUntil ≤ transition.target.blockUntil
  /-- The requests of a dial are sent only behind the block. -/
  requests : ∀ ctxId query reply, (ctxId, .query query reply) ∈ transition.output →
    query.isDial = true → ∃ env event, transition.label = .dispatch env event ∧
      transition.source.blockUntil ≤ env.now
  /-- A dial in front of the block sends nothing, changes no context and queues
  one error for its own. -/
  refused : ∀ env event ctxId, transition.label = .dispatch env event →
    (ctxId, .action .dialTg) ∈ transition.output →
    env.now < transition.source.blockUntil →
    (∀ logged ∈ transition.output, logged.2.isRequest = false) ∧
      transition.target.cache = transition.source.cache ∧
      transition.target.blockUntil = transition.source.blockUntil ∧
      transition.target.bridges.map Bridge.ctx = transition.source.bridges.map Bridge.ctx ∧
      ∃ prm, transition.target.internalEvents =
        transition.source.internalEvents ++ [⟨ctxId, prm⟩]
  /-- A dial sends nothing behind a request that was answered with an error. -/
  last : ∀ ctxId, (ctxId, .action .dialTg) ∈ transition.output →
    LastOnError (transition.output.map Prod.snd)

theorem mem_tagged {ctxId other : String} {effects : List Effect} {effect : Effect} :
    (other, effect) ∈ tagged ctxId effects ↔ other = ctxId ∧ effect ∈ effects := by
  unfold tagged
  rw [List.mem_map]
  constructor
  · rintro ⟨found, member, same⟩
    cases same
    exact ⟨rfl, member⟩
  · rintro ⟨rfl, member⟩
    exact ⟨effect, member, rfl⟩

theorem tagged_snd (ctxId : String) (effects : List Effect) :
    (tagged ctxId effects).map Prod.snd = effects := by
  rw [tagged, List.map_map]
  exact List.map_id effects

theorem mem_stageEffects {announced effects marks : List Effect} {event : Event}
    {effect : Effect} (begun : announced = [] ∨ announced = [.created])
    (marked : marks = [] ∨ marks = [.deleted])
    (member : effect ∈ stageEffects announced event effects marks) :
    effect = .created ∨ effect = .handled event ∨ effect = .deleted ∨ effect ∈ effects := by
  unfold stageEffects at member
  rcases List.mem_append.mp member with early | member
  · rcases begun with rfl | rfl
    · cases early
    · exact .inl (List.mem_singleton.mp early)
  rcases List.mem_cons.mp member with handled | member
  · exact .inr (.inl handled)
  rcases List.mem_append.mp member with inside | mark
  · exact .inr (.inr (.inr inside))
  · rcases marked with rfl | rfl
    · cases mark
    · exact .inr (.inr (.inl (List.mem_singleton.mp mark)))

theorem RespectsBlock.of_quiet {source target : Gateway} {label : Label}
    {output : List Logged} (same : target.blockUntil = source.blockUntil)
    (offDial : ∀ logged ∈ output, logged.2.offDial) :
    RespectsBlock ⟨source, label, output, target⟩ where
  grows := Int.le_of_eq same.symm
  requests := by
    intro ctxId query reply member isDial
    have none := (offDial _ member).2
    rw [show Effect.isDialRequest (.query query reply) = query.isDial from rfl, isDial] at none
    cases none
  refused := by
    intro env event ctxId _ member
    exact absurd rfl (offDial _ member).1
  last := by
    intro ctxId member
    exact absurd rfl (offDial _ member).1

theorem Placed.blockUntil_eq {gateway base : Gateway} {env : Env} {event : Event}
    {before after : List Bridge} {bridge : Bridge} {announced : List Effect}
    (placed : Placed gateway env event before bridge after announced base) (ctx : Context) :
    (base.world ctx).blockUntil = gateway.blockUntil := by
  cases placed <;> rfl

theorem stage_offDial {ctxId : String} {announced effects marks : List Effect} {event : Event}
    {change : Change} {world : World} (begun : announced = [] ∨ announced = [.created])
    (marked : marks = [] ∨ marks = [.deleted]) (same : change.effects = effects)
    (quiet : change.Quiet world) :
    ∀ logged ∈ tagged ctxId (stageEffects announced event effects marks),
      logged.2.offDial := by
  rintro ⟨other, effect⟩ member
  rcases mem_stageEffects begun marked (mem_tagged.mp member).2 with
    rfl | rfl | rfl | inside
  · exact ⟨nofun, rfl⟩
  · exact ⟨nofun, rfl⟩
  · exact ⟨nofun, rfl⟩
  · rw [← same] at inside
    refine ⟨?_, quiet.requests effect inside⟩
    rintro rfl
    exact quiet.announced inside

theorem RespectsBlock.of_dial {gateway : Gateway} {env : Env} {id : Int}
    {before after : List Bridge} {bridge : Bridge} {change : Change} {effects : List Effect}
    {tg : Option Int} (shape : gateway.bridges = before ++ bridge :: after)
    (forward : env.now ≤ env.later) (sameCtx : change.ctx = bridge.ctx.withTg tg)
    (performed : change.effects = .action .dialTg :: effects)
    (traced : DialTrace env bridge.ctx gateway.cache gateway.blockUntil effects tg change.errors
      change.cache change.blockUntil) :
    RespectsBlock ⟨gateway, .dispatch env (.callStateUpdate id .early),
      tagged bridge.ctx.id (stageEffects [] (.callStateUpdate id .early) change.effects []),
      gateway.settle bridge.ctx.id change
        (before ++ ⟨change.ctx, change.state⟩ :: after)⟩ where
  grows := traced.block_le forward
  requests := by
    intro ctxId query reply member isDial
    refine ⟨env, _, rfl, ?_⟩
    by_cases early : env.now < gateway.blockUntil
    · obtain ⟨rfl, _⟩ := traced.of_blocked early
      rw [performed] at member
      simp [stageEffects, tagged] at member
    · change gateway.blockUntil ≤ env.now
      omega
  refused := by
    rintro other event ctxId sameLabel member early
    cases sameLabel
    obtain ⟨rfl, rfl, refused, sameCache, sameBlock⟩ := traced.of_blocked early
    obtain rfl := (mem_tagged.mp member).1
    refine ⟨?_, sameCache, sameBlock, ?_, floodWaitPrm env gateway.blockUntil, ?_⟩
    · rw [performed]
      simp [stageEffects, tagged, Effect.isRequest]
    · change (before ++ (⟨change.ctx, change.state⟩ : Bridge) :: after).map Bridge.ctx =
        gateway.bridges.map Bridge.ctx
      rw [shape, sameCtx]
      simp [Context.withTg]
    · change gateway.internalEvents ++ change.errors.map (InternalError.mk bridge.ctx.id) = _
      rw [refused]
      rfl
  last := by
    intro ctxId _
    rw [tagged_snd, performed, stageEffects, List.append_nil]
    exact LastOnError.cons rfl (LastOnError.cons rfl traced.lastOnError)

theorem Stepped.respectsBlock {gateway target : Gateway} {label : Label}
    {output : List Logged} (stepped : Stepped gateway label output target)
    (forward : label.ClockForward) :
    RespectsBlock ⟨gateway, label, output, target⟩ := by
  cases stepped with
  | idle empty => exact RespectsBlock.of_quiet rfl (List.forall_mem_nil _)
  | pjsip => exact RespectsBlock.of_quiet rfl (List.forall_mem_nil _)
  | @event label env event base target output offered processed =>
      have sameBlock : base.blockUntil = gateway.blockUntil := by
        cases offered <;> rfl
      cases processed with
      | unrouted silent foreign =>
          exact RespectsBlock.of_quiet sameBlock (List.forall_mem_nil _)
      | @removed before after bridge announced placedBase change placed life closed =>
          rcases life.dial_or_quiet with ⟨_, _, _, _, _, _, wrong, _⟩ | quiet
          · rw [closed] at wrong
            cases wrong
          · refine RespectsBlock.of_quiet ?_
              (stage_offDial placed.announces (.inr rfl) rfl quiet)
            exact (quiet.blockUntil.trans (placed.blockUntil_eq _)).trans sameBlock
      | @kept before after bridge announced placedBase change placed life stays =>
          rcases life.dial_or_quiet with
            ⟨id, effects, tg, waiting, rfl, sameCtx, _, performed, traced⟩ | quiet
          · cases offered
            cases placed with
            | opened opens foreign => cases waiting
            | found shape owner earlier =>
                exact RespectsBlock.of_dial shape forward sameCtx performed traced
          · refine RespectsBlock.of_quiet ?_
              (stage_offDial placed.announces (.inl rfl) rfl quiet)
            exact (quiet.blockUntil.trans (placed.blockUntil_eq _)).trans sameBlock

theorem flood_block_is_respected (pid : Nat) (cache : Cache) (started : Int)
    (client : SipClient) {taken : List Transition} {state : Gateway}
    (run : Run (Gateway.initial pid cache started client) taken state)
    (forward : ∀ transition ∈ taken, transition.label.ClockForward) :
    ∀ transition ∈ taken, RespectsBlock transition := by
  intro transition member
  obtain ⟨_, _, _, _, fired⟩ := run.split member
  exact (step_stepped fired).respectsBlock (forward transition member)

def Env.flooded : Env :=
  { Env.sample with createCall := .error ⟨429, "Too Many Requests: retry after 10"⟩ }

/-- Two calls in a row; the first dial sets the block that refuses the second. -/
def Label.flooding : List Label :=
  [.dispatch Env.flooded (.incomingCall 5 "42"),
    .dispatch Env.flooded (.callStateUpdate 5 .early),
    .dispatch Env.flooded (.incomingCall 6 "43"),
    .dispatch Env.flooded (.callStateUpdate 6 .early)]

theorem flood_block_is_respected_by_two_calls :
    ∃ taken state, Run Gateway.sample taken state ∧
      taken.map (fun transition => transition.target.blockUntil) =
        [0, 40 * second, 40 * second, 40 * second] ∧
      ∀ transition ∈ taken, RespectsBlock transition := by
  have replayed : LabelledMachine.replay Gateway.step Gateway.sample Label.flooding =
    some (_, _) := rfl
  have run := LabelledMachine.Run.of_replay replayed
  refine ⟨_, _, run, by decide, ?_⟩
  refine flood_block_is_respected _ _ _ _ run ?_
  refine LabelledMachine.replay_forall_labels Label.ClockForward replayed ?_
  simp [Label.flooding, Label.ClockForward, Env.flooded, Env.sample]

end Tg2Sip.Cpp
