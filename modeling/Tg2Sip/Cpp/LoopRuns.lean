/-
What rounds of the main loop amount to.

Every round polls each of the three queues once, so an event waits for as many
rounds as there were events before it.  An internal error ends the bridge that
it names when it is popped, and the id of that bridge is never given out again.
After a signal the round that is under way is finished and no other is begun.
-/

import Tg2Sip.Cpp.Biography
import Tg2Sip.Cpp.MainLoop

namespace Tg2Sip.Cpp

open LabelledMachine (history)

theorem telegram_polled : telegramQueue.PolledBy MainLoop.step (turnsAt .popTelegram) := by
  intro source label output target fired polling some dry
  unfold telegramQueue at dry
  dsimp only at dry
  rw [if_pos polling, List.take_eq_nil_iff] at dry
  rcases dry with impossible | empty
  · cases impossible
  · exact some empty

theorem sip_polled : sipQueue.PolledBy MainLoop.step (turnsAt .popSip) := by
  intro source label output target fired polling some dry
  unfold sipQueue at dry
  dsimp only at dry
  rw [if_pos polling, List.take_eq_nil_iff] at dry
  rcases dry with impossible | empty
  · cases impossible
  · exact some empty

theorem internal_polled : internalQueue.PolledBy MainLoop.step (turnsAt .popInternal) := by
  intro source label output target fired polling some dry
  unfold internalQueue at dry
  dsimp only at dry
  rw [if_pos polling, List.take_eq_nil_iff] at dry
  rcases dry with impossible | empty
  · cases impossible
  · exact some empty

/-- How many internal polls the round under way is ahead of its SIP poll. -/
def Phase.internalAhead : Phase → Nat
  | .popTelegram => 1
  | .popSip => 1
  | _ => 0

def Phase.telegramAhead : Phase → Nat
  | .popSip => 1
  | _ => 0

/-- The three queues are polled in turn. -/
def InTurn (taken : List LoopTransition) (state : MainLoop) : Prop :=
  taken.countP (turnsAt .popInternal) =
      taken.countP (turnsAt .popSip) + state.phase.internalAhead ∧
    taken.countP (turnsAt .popTelegram) =
      taken.countP (turnsAt .popSip) + state.phase.telegramAhead

def Phase.next (eFlag : Bool) : Phase → Phase
  | .testFlag => if eFlag then .left else .popInternal
  | .popInternal => .popTelegram
  | .popTelegram => .popSip
  | .popSip => .testFlag
  | .left => .left

theorem turn_phase {source target : MainLoop} {env : Env} {output : List Logged}
    (fired : source.turn env = some (output, target)) :
    target.phase = source.phase.next source.eFlag ∧ target.eFlag = source.eFlag ∧
      source.phase ≠ .left := by
  cases turn_turned fired with
  | tested phase =>
      rw [phase]
      exact ⟨rfl, rfl, nofun⟩
  | internal phase stepped =>
      rw [phase]
      exact ⟨rfl, rfl, nofun⟩
  | noTelegram phase empty =>
      rw [phase]
      exact ⟨rfl, rfl, nofun⟩
  | skipped phase queue other =>
      rw [phase]
      exact ⟨rfl, rfl, nofun⟩
  | telegram phase queue known stepped =>
      rw [phase]
      exact ⟨rfl, rfl, nofun⟩
  | noSip phase empty =>
      rw [phase]
      exact ⟨rfl, rfl, nofun⟩
  | sip phase queue stepped =>
      rw [phase]
      exact ⟨rfl, rfl, nofun⟩

/-- The other threads leave the main thread where it is, and only raise the flag. -/
theorem phase_of_other {source target : MainLoop} {label : LoopLabel} {output : List Logged}
    (fired : source.step label = some (output, target)) (other : label.isTurn = false) :
    target.phase = source.phase ∧ (source.eFlag = true → target.eFlag = true) := by
  cases label with
  | update update =>
      cases fired
      split <;> exact ⟨rfl, id⟩
  | sipEvent event =>
      simp only [MainLoop.step] at fired
      split at fired
      · cases fired
        exact ⟨rfl, id⟩
      · cases fired
  | pjsip client =>
      cases fired
      exact ⟨rfl, id⟩
  | signal =>
      cases fired
      exact ⟨rfl, fun _ => rfl⟩
  | turn env => cases other

theorem inTurn_snoc {taken : List LoopTransition} {source target : MainLoop}
    {label : LoopLabel} {output : List Logged} (inTurn : InTurn taken source)
    (fired : source.step label = some (output, target)) :
    InTurn (taken ++ [⟨source, label, output, target⟩]) target := by
  obtain ⟨internal, telegram⟩ := inTurn
  unfold InTurn
  simp only [List.countP_append, List.countP_singleton]
  cases isTurn : label.isTurn with
  | false =>
      rw [(phase_of_other fired isTurn).1]
      simp only [turnsAt_other isTurn, Bool.false_eq_true, if_false, Nat.add_zero]
      exact ⟨internal, telegram⟩
  | true =>
      cases label with
      | turn env =>
          rw [(turn_phase fired).1]
          simp only [turnsAt_turn]
          cases phase : source.phase with
          | testFlag =>
              rw [phase] at internal telegram
              cases source.eFlag <;>
                simpa [Phase.next, Phase.internalAhead, Phase.telegramAhead] using
                  ⟨internal, telegram⟩
          | _ =>
              rw [phase] at internal telegram
              simp [Phase.next, Phase.internalAhead, Phase.telegramAhead] at internal telegram ⊢
              omega
      | _ => cases isTurn

section Rounds

variable {start state : MainLoop} {taken : List LoopTransition}

theorem run_inTurn (run : LoopRun start taken state) (between : start.phase = .testFlag) :
    InTurn taken state := by
  have always : ∀ transition ∈ taken, True := fun _ _ => trivial
  apply LabelledMachine.Run.invariant _ _ run always
  · rw [InTurn, between]
    exact ⟨rfl, rfl⟩
  · intro taken source label output target earlier inTurn fired _
    exact inTurn_snoc inTurn fired

theorem dispatch_handled {gateway target : Gateway} {env : Env} {event : Event}
    {output : List Logged} (stepped : gateway.step (.dispatch env event) = some (output, target))
    (opens : event.opens = true) : ∃ ctxId, (ctxId, Effect.handled event) ∈ output := by
  have handled : ∀ (ctxId : String) (announced effects marks : List Effect),
      (ctxId, Effect.handled event) ∈
        tagged ctxId (stageEffects announced event effects marks) := by
    intro ctxId announced effects marks
    apply List.mem_map_of_mem
    exact List.mem_append_right _ List.mem_cons_self
  cases step_stepped stepped with
  | event offered processed =>
      cases offered with
      | dispatch =>
          cases processed with
          | unrouted closed unknown =>
              rw [opens] at closed
              cases closed
          | kept placed life stays => exact ⟨_, handled _ _ _ _⟩
          | removed placed life ended => exact ⟨_, handled _ _ _ _⟩

theorem departure_handled {transition : LoopTransition}
    (fired : transition.source.step transition.label =
      some (transition.output, transition.target)) {event : Event}
    (popped : event ∈ dispatchedAt .popSip transition ∨
      event ∈ dispatchedAt .popTelegram transition) (opens : event.opens = true) :
    ∃ ctxId, (ctxId, Effect.handled event) ∈ transition.output := by
  have stepped := loop_simulated _ _ _ _ fired
  have given : (gatewayLabel transition).event? = some event := by
    rcases popped with atSip | atTelegram
    · unfold dispatchedAt at atSip
      split at atSip
      · exact Option.mem_toList.mp atSip
      · cases atSip
    · unfold dispatchedAt at atTelegram
      split at atTelegram
      · exact Option.mem_toList.mp atTelegram
      · cases atTelegram
  change transition.source.gateway.step (gatewayLabel transition) = _ at stepped
  generalize gatewayLabel transition = label at given stepped
  cases label with
  | dispatch env dispatched =>
      cases given
      exact dispatch_handled stepped opens
  | popInternal env => cases given
  | pjsip client => cases given

theorem handled_of_departure (run : LoopRun start taken state) {transition : LoopTransition}
    (member : transition ∈ taken) {event : Event}
    (popped : event ∈ dispatchedAt .popSip transition ∨
      event ∈ dispatchedAt .popTelegram transition) (opens : event.opens = true) :
    ∃ ctxId, (ctxId, Effect.handled event) ∈ history taken := by
  obtain ⟨before, after, shape, reached, fired⟩ := run.split member
  obtain ⟨ctxId, handled⟩ := departure_handled fired popped opens
  exact ⟨ctxId, List.mem_flatMap.mpr ⟨transition, member, handled⟩⟩

/-- A call update or a SIP event with `position` events before it in its queue
has been handled by a bridge when the loop has made one round more. -/
theorem waiting_events_are_handled (run : LoopRun start taken state)
    (between : start.phase = .testFlag) {event : Event} {position : Nat}
    (waiting : start.sipEvents[position]? = some event ∨
      start.tgEvents[position]?.bind Update.event? = some event)
    (opens : event.opens = true) (rounds : position < taken.countP (turnsAt .popSip)) :
    ∃ ctxId, (ctxId, Effect.handled event) ∈ history taken := by
  obtain ⟨_, telegramTurns⟩ := run_inTurn run between
  rcases waiting with inSip | inTelegram
  · have left := run.served sip_conserved sip_polled inSip rounds
    obtain ⟨transition, member, popped⟩ :=
      List.mem_flatMap.mp (List.mem_of_getElem? left)
    rw [dispatchedAt_sip] at popped
    exact handled_of_departure run member (.inl popped) opens
  · obtain ⟨update, queued, known⟩ := Option.bind_eq_some_iff.mp inTelegram
    have enough : position < taken.countP (turnsAt .popTelegram) := by omega
    have left := run.served telegram_conserved telegram_polled queued enough
    obtain ⟨transition, member, popped⟩ :=
      List.mem_flatMap.mp (List.mem_of_getElem? left)
    have dispatched : event ∈ dispatchedAt .popTelegram transition := by
      rw [← dispatchedAt_telegram]
      exact List.mem_filterMap.mpr ⟨update, popped, known⟩
    exact handled_of_departure run member (.inr dispatched) opens

theorem failing_call_is_handled :
    ∃ (taken : List LoopTransition) (ctxId : String),
      (ctxId, Effect.handled (.incomingCall 5 "!!")) ∈ history taken := by
  have replayed : LabelledMachine.replay MainLoop.step
      { MainLoop.sample with sipEvents := [.incomingCall 5 "!!"] }
      (List.replicate 4 (.turn Env.sample)) = some (_, _) := rfl
  have waiting : [Event.incomingCall 5 "!!"][0]? = some (.incomingCall 5 "!!") := rfl
  exact ⟨_, waiting_events_are_handled (LabelledMachine.Run.of_replay replayed) rfl
    (.inl waiting) rfl (by decide)⟩

/-! ### The end of the loop -/

def Phase.remaining : Phase → Nat
  | .popInternal => 4
  | .popTelegram => 3
  | .popSip => 2
  | .testFlag => 1
  | .left => 0

theorem remaining_next {phase : Phase} (inside : phase ≠ .left) :
    (phase.next true).remaining + 1 = phase.remaining := by
  cases phase with
  | left => exact absurd rfl inside
  | _ => rfl

theorem flag_of_next {phase : Phase} {eFlag : Bool} (inside : phase ≠ .left)
    (left : phase.next eFlag = .left) : eFlag = true := by
  cases phase with
  | testFlag =>
      cases eFlag with
      | true => rfl
      | false => cases left
  | left => exact absurd rfl inside
  | _ => cases left

/-- What holds behind a state in which the flag was up. -/
structure WindsUp (caught : MainLoop) (taken : List LoopTransition) (state : MainLoop) :
    Prop where
  raised : state.eFlag = true
  turns : taken.countP (fun transition => transition.label.isTurn) + state.phase.remaining =
    caught.phase.remaining
  once : ∀ phase, taken.countP (turnsAt phase) +
    (if phase.remaining ≤ state.phase.remaining then 1 else 0) ≤ 1

theorem windsUp_snoc {caught source target : MainLoop} {taken : List LoopTransition}
    {label : LoopLabel} {output : List Logged} (windsUp : WindsUp caught taken source)
    (fired : source.step label = some (output, target)) :
    WindsUp caught (taken ++ [⟨source, label, output, target⟩]) target := by
  obtain ⟨raised, turns, once⟩ := windsUp
  cases isTurn : label.isTurn with
  | false =>
      obtain ⟨samePhase, flag⟩ := phase_of_other fired isTurn
      constructor
      · exact flag raised
      · rw [List.countP_append, List.countP_singleton, samePhase]
        simpa [isTurn] using turns
      · intro phase
        rw [List.countP_append, List.countP_singleton, samePhase, turnsAt_other isTurn]
        exact once phase
  | true =>
      cases label with
      | turn env =>
          obtain ⟨next, sameFlag, inside⟩ := turn_phase fired
          have fewer := remaining_next inside
          constructor
          · rw [sameFlag]
            exact raised
          · rw [next, raised, List.countP_append, List.countP_singleton, isTurn, if_pos rfl]
            omega
          · intro phase
            have before := once phase
            rw [next, raised, List.countP_append, List.countP_singleton, turnsAt_turn]
            by_cases here : source.phase = phase
            · rw [← here] at before ⊢
              rw [if_pos (Nat.le_refl _)] at before
              rw [decide_eq_true rfl, if_pos rfl, if_neg (by omega)]
              omega
            · rw [decide_eq_false here, if_neg Bool.false_ne_true]
              split
              · rw [if_pos (by omega)] at before
                omega
              · omega
      | _ => cases isTurn

theorem windsUp_of_run {caught : MainLoop} (run : LoopRun caught taken state)
    (raised : caught.eFlag = true) : WindsUp caught taken state := by
  have always : ∀ transition ∈ taken, True := fun _ _ => trivial
  apply LabelledMachine.Run.invariant _ _ run always
  · refine ⟨raised, Nat.zero_add _, ?_⟩
    intro phase
    rw [List.countP_nil, Nat.zero_add]
    split
    · exact Nat.le_refl 1
    · exact Nat.zero_le 1
  · intro taken source label output target earlier windsUp fired _
    exact windsUp_snoc windsUp fired

/-- The flag is only raised by a signal, and the loop is only left behind it. -/
theorem flag_of_run (run : LoopRun start taken state) (down : start.eFlag = false)
    (inside : start.phase ≠ .left) :
    (state.eFlag = true ∨ state.phase = .left) →
      ∃ transition ∈ taken, transition.label = .signal := by
  induction run with
  | nil =>
      intro ended
      rcases ended with up | left
      · rw [down] at up
        cases up
      · exact absurd left inside
  | @snoc taken source target label output earlier fired ih =>
      intro ended
      have later : (source.eFlag = true ∨ source.phase = .left) →
          ∃ transition ∈ taken ++ [⟨source, label, output, target⟩],
            transition.label = LoopLabel.signal := by
        intro before
        obtain ⟨transition, member, caught⟩ := ih before
        exact ⟨transition, List.mem_append_left _ member, caught⟩
      cases label with
      | signal =>
          exact ⟨_, List.mem_append_right _ (List.mem_singleton.mpr rfl), rfl⟩
      | turn env =>
          obtain ⟨next, sameFlag, staying⟩ := turn_phase fired
          apply later
          left
          rcases ended with up | left
          · rw [← sameFlag]
            exact up
          · rw [next] at left
            exact flag_of_next staying left
      | update update =>
          cases fired
          apply later
          revert ended
          split <;> exact id
      | sipEvent event =>
          simp only [MainLoop.step] at fired
          split at fired
          · cases fired
            exact later ended
          · cases fired
      | pjsip client =>
          cases fired
          exact later ended

theorem signal_raises {source target : MainLoop} {output : List Logged}
    (fired : source.step .signal = some (output, target)) :
    target.eFlag = true ∧ target.phase = source.phase := by
  cases fired
  exact ⟨rfl, rfl⟩

/-- The loop is only left behind a signal; behind one the main thread takes at
most four turns more, and polls no queue more than once. -/
theorem loop_ends_by_signal (run : LoopRun start taken state) (down : start.eFlag = false)
    (inside : start.phase ≠ .left) :
    (state.phase = .left → ∃ transition ∈ taken, transition.label = .signal) ∧
      ∀ before signal after, taken = before ++ signal :: after → signal.label = .signal →
        after.countP (fun transition => transition.label.isTurn) + state.phase.remaining =
            signal.source.phase.remaining ∧
          ∀ phase, after.countP (turnsAt phase) ≤ 1 := by
  constructor
  · intro left
    exact flag_of_run run down inside (.inr left)
  · intro before signal after shape caught
    subst shape
    obtain ⟨source, label, output, target⟩ := signal
    cases caught
    obtain ⟨_, fired⟩ := run.at_split
    obtain ⟨raised, samePhase⟩ := signal_raises fired
    have wound := windsUp_of_run run.behind raised
    constructor
    · rw [wound.turns, samePhase]
    · intro phase
      exact Nat.le_trans (Nat.le_add_right _ _) (wound.once phase)

end Rounds

/-- A signal that is caught while a SIP event waits. -/
theorem loop_ends_behind_failing :
    ∃ taken state, LoopRun MainLoop.sample taken state ∧ state.phase = .left ∧
      ∃ transition ∈ taken, transition.label = LoopLabel.signal := by
  have replayed : LabelledMachine.replay MainLoop.step MainLoop.sample
    (LoopLabel.failing ++ [.turn Env.sample, .signal] ++ List.replicate 4 (.turn Env.sample)) =
      some (_, _) := rfl
  have run := LabelledMachine.Run.of_replay replayed
  refine ⟨_, _, run, rfl, ?_⟩
  exact (loop_ends_by_signal run rfl (by decide)).1 rfl

def Gateway.Issued (ctxId : String) (gateway : Gateway) : Prop :=
  ∃ number ≤ gateway.ctxCounter, ctxId = ctxIdOf gateway.pid number

/-- An id that was given out and that no bridge has any more. -/
structure Gateway.Retired (ctxId : String) (gateway : Gateway) : Prop where
  issued : gateway.Issued ctxId
  absent : ∀ bridge ∈ gateway.bridges, bridge.ctx.id ≠ ctxId

theorem Placed.keepsIssued {gateway base : Gateway} {env : Env} {event : Event} {ctxId : String}
    {before after : List Bridge} {bridge : Bridge} {announced : List Effect}
    (placed : Placed gateway env event before bridge after announced base)
    (issued : gateway.Issued ctxId) : base.Issued ctxId := by
  obtain ⟨number, bound, named⟩ := issued
  cases placed with
  | found shape owner earlier => exact ⟨number, bound, named⟩
  | opened opens foreign => exact ⟨number, Nat.le_succ_of_le bound, named⟩

theorem step_issued {source target : Gateway} {label : Label} {output : List Logged}
    {ctxId : String} (fired : source.step label = some (output, target))
    (issued : source.Issued ctxId) : target.Issued ctxId := by
  cases step_stepped fired with
  | idle empty => exact issued
  | pjsip => exact issued
  | event offered processed =>
      cases offered <;> cases processed with
      | unrouted closed unknown => exact issued
      | kept placed life stays => exact placed.keepsIssued issued
      | removed placed life closed => exact placed.keepsIssued issued

theorem Placed.retired {gateway base : Gateway} {env : Env} {event : Event} {ctxId : String}
    {before after : List Bridge} {bridge : Bridge} {announced : List Effect}
    (placed : Placed gateway env event before bridge after announced base)
    (retired : gateway.Retired ctxId) :
    Gateway.Retired ctxId { base with bridges := before ++ bridge :: after } := by
  obtain ⟨issued, absent⟩ := retired
  refine ⟨placed.keepsIssued issued, ?_⟩
  cases placed with
  | found shape owner earlier =>
      rw [← shape]
      exact absent
  | opened opens foreign =>
      obtain ⟨number, bound, named⟩ := issued
      intro other member
      rcases List.mem_append.mp member with old | new
      · exact absent other old
      · rw [List.mem_singleton.mp new, named]
        intro same
        have equal := ctxIdOf_injective gateway.pid same
        omega

theorem Processed.retired {gateway target : Gateway} {env : Env} {event : Event}
    {effects : List Logged} {ctxId : String}
    (processed : Processed gateway env event effects target)
    (retired : gateway.Retired ctxId) : target.Retired ctxId := by
  cases processed with
  | unrouted closed unknown => exact retired
  | kept placed life stays =>
      obtain ⟨issued, absent⟩ := placed.retired retired
      refine ⟨issued, ?_⟩
      intro other member
      rcases List.mem_append.mp member with inBefore | rest
      · exact absent other (List.mem_append_left _ inBefore)
      · rcases List.mem_cons.mp rest with rfl | inAfter
        · rw [show Context.id (Bridge.ctx ⟨_, _⟩) = _ from life.keeps_id]
          exact absent _ (List.mem_append_right _ List.mem_cons_self)
        · exact absent other (List.mem_append_right _ (List.mem_cons_of_mem _ inAfter))
  | removed placed life closed =>
      obtain ⟨issued, absent⟩ := placed.retired retired
      refine ⟨issued, ?_⟩
      intro other member
      rcases List.mem_append.mp member with inBefore | inAfter
      · exact absent other (List.mem_append_left _ inBefore)
      · exact absent other (List.mem_append_right _ (List.mem_cons_of_mem _ inAfter))

theorem step_retired {source target : Gateway} {label : Label} {output : List Logged}
    {ctxId : String} (fired : source.step label = some (output, target))
    (retired : source.Retired ctxId) : target.Retired ctxId := by
  cases step_stepped fired with
  | idle empty => exact retired
  | pjsip => exact ⟨retired.issued, retired.absent⟩
  | event offered processed =>
      cases offered with
      | dispatch => exact processed.retired retired
      | popInternal queue => exact processed.retired ⟨retired.issued, retired.absent⟩

theorem Processed.without {gateway target : Gateway} {env : Env} {error : InternalError}
    {effects : List Logged}
    (processed : Processed gateway env (.internalError error) effects target)
    (numbered : gateway.Numbered) (composed : ∀ bridge ∈ gateway.bridges, bridge.Composed) :
    ∀ bridge ∈ target.bridges, bridge.ctx.id ≠ error.ctxId := by
  cases processed with
  | unrouted closed unknown =>
      intro bridge member same
      have foreign := unknown error rfl bridge member
      rw [Bridge.owns, same, beq_self_eq_true] at foreign
      cases foreign
  | kept placed life stays =>
      rcases placed.receives with ⟨receiver, _⟩ | ⟨_, opens⟩
      · have ended := life.internalError_over (composed _ receiver).composite
        exact absurd (stays ended) (composed _ receiver).running
      · cases opens
  | @removed before after bridge announced base change placed life closed =>
      rcases placed.receives with ⟨_, owner⟩ | ⟨_, opens⟩
      · have same : bridge.ctx.id = error.ctxId := eq_of_beq owner
        intro other member named
        exact placed.other_id numbered member (named.trans same.symm)
      · cases opens

theorem popInternal_without {gateway target : Gateway} {env : Env} {output : List Logged}
    {error : InternalError} (stepped : gateway.step (.popInternal env) = some (output, target))
    (numbered : gateway.Numbered) (composed : ∀ bridge ∈ gateway.bridges, bridge.Composed)
    (popped : error ∈ gateway.internalEvents.take 1) :
    ∀ bridge ∈ target.bridges, bridge.ctx.id ≠ error.ctxId := by
  cases step_stepped stepped with
  | idle empty =>
      rw [empty] at popped
      cases popped
  | event offered processed =>
      cases offered with
      | popInternal queue =>
          rw [queue] at popped
          cases List.mem_singleton.mp popped
          exact processed.without (numbered.withQueue _) composed

theorem step_retires {source target : MainLoop} {label : LoopLabel} {output : List Logged}
    {error : InternalError} (fired : source.step label = some (output, target))
    (numbered : source.gateway.Numbered)
    (composed : ∀ bridge ∈ source.gateway.bridges, bridge.Composed)
    (popped : error ∈ internalQueue.departures ⟨source, label, output, target⟩)
    (issued : source.gateway.Issued error.ctxId) : target.gateway.Retired error.ctxId := by
  have stepped := loop_simulated _ _ _ _ fired
  refine ⟨step_issued stepped issued, ?_⟩
  unfold internalQueue at popped
  dsimp only at popped
  split at popped
  · rename_i polling
    obtain ⟨isTurn, phase⟩ := Bool.and_eq_true_iff.mp polling
    cases label with
    | turn env =>
        rw [gatewayLabel, of_decide_eq_true phase] at stepped
        exact popInternal_without stepped numbered composed popped
    | _ => cases isTurn
  · cases popped

/-- Every loop run begins with a gateway that has no bridges. -/
theorem reached_chronicle {pid : Nat} {cache : Cache} {started : Int} {client : SipClient}
    {tgEvents : List Update} {sipEvents : List Event} {taken : List LoopTransition}
    {state : MainLoop}
    (run : LoopRun (MainLoop.initial (Gateway.initial pid cache started client) tgEvents sipEvents)
      taken state) :
    Chronicle (taken.map shown) state.gateway :=
  Run.chronicle (run.image MainLoop.gateway gatewayLabel loop_simulated)

/-- A bridge for which an error is queued is gone for good when the error and
those before it have been popped. -/
theorem failed_bridge_is_removed (pid : Nat) (cache : Cache) (started : Int)
    (client : SipClient) {tgEvents : List Update} {sipEvents : List Event}
    {before after : List LoopTransition} {middle state : MainLoop}
    (reached : LoopRun
      (MainLoop.initial (Gateway.initial pid cache started client) tgEvents sipEvents)
      before middle)
    (run : LoopRun middle after state) {bridge : Bridge} {error : InternalError}
    {position : Nat} (member : bridge ∈ middle.gateway.bridges)
    (named : error.ctxId = bridge.ctx.id)
    (queued : middle.gateway.internalEvents[position]? = some error)
    (turns : position < after.countP (turnsAt .popInternal)) :
    ∀ other ∈ state.gateway.bridges, other.ctx.id ≠ bridge.ctx.id := by
  have left := run.served internal_conserved internal_polled queued turns
  obtain ⟨transition, taken, popped⟩ := List.mem_flatMap.mp (List.mem_of_getElem? left)
  obtain ⟨earlier, later, rfl⟩ := List.append_of_mem taken
  obtain ⟨toSource, fired⟩ := run.at_split
  have chronicle := reached_chronicle (reached.append toSource)
  have issuedBefore : middle.gateway.Issued error.ctxId := by
    rw [named]
    exact (reached_chronicle reached).numbered.issued bridge member
  have issued := toSource.keeps
    (fun source label output target stepped held =>
      step_issued (loop_simulated source label output target stepped) held) issuedBefore
  have retired := step_retires fired chronicle.numbered chronicle.composed popped issued
  have kept := run.stable
    (fun source label output target stepped held =>
      step_retired (loop_simulated source label output target stepped) held) retired
  rw [← named]
  exact kept.2.absent

def MainLoop.failed : MainLoop :=
  ((LabelledMachine.replay MainLoop.step MainLoop.sample LoopLabel.failing).map Prod.snd).getD
    MainLoop.sample

theorem failing_bridge_is_removed :
    ∃ taken state, LoopRun MainLoop.failed taken state ∧
      MainLoop.failed.gateway.bridges.map (fun bridge => bridge.ctx.id) = ["1-1"] ∧
      ∀ other ∈ state.gateway.bridges, other.ctx.id ≠ "1-1" := by
  have replayed : LabelledMachine.replay MainLoop.step MainLoop.sample LoopLabel.failing =
    some (_, MainLoop.failed) := rfl
  have continued : LabelledMachine.replay MainLoop.step MainLoop.failed
    [.turn Env.sample, .turn Env.sample] = some (_, _) := rfl
  have run := LabelledMachine.Run.of_replay continued
  have queued : MainLoop.failed.gateway.internalEvents[0]? =
    some ⟨"1-1", { statusCode := scBadExtension }⟩ := rfl
  refine ⟨_, _, run, rfl, ?_⟩
  exact failed_bridge_is_removed 1 _ _ _ (LabelledMachine.Run.of_replay replayed) run
    (List.mem_singleton.mpr rfl) rfl queued (by decide)

end Tg2Sip.Cpp
