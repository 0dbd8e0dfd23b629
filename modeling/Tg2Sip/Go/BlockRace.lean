/-
The flood block between concurrent calls.

A handler checks `g.blockUntil`, asks Telegram and writes `g.blockUntil` in
steps of its own, so that handlers of calls that overlap write over each
other.  A deadline is kept exactly when no handler that has passed its check
writes an earlier one, or the zero time, before the deadline has passed.
-/

import Tg2Sip.Go.Steps

namespace Tg2Sip.Go

inductive Written (gateway target : Gateway) : Label → Prop where
  | kept {label : Label} : target.blockUntil = gateway.blockUntil → Written gateway target label
  | lifted {index : Nat} {answers : Answers} {deadline : Int} :
      gateway.blockUntil = some deadline → deadline < answers.now →
      target.blockUntil = none → Written gateway target (.handler index answers)
  | blocked {index : Nat} {answers : Answers} {handler : Handler} {wait : Int} :
      gateway.handlers[index]? = some handler → handler.stage = .blocking wait →
      target.blockUntil = some (answers.now + wait) →
      Written gateway target (.handler index answers)
  | unblocked {index : Nat} {answers : Answers} {handler : Handler} {userID : Int} :
      gateway.handlers[index]? = some handler → handler.stage = .unblocking userID →
      target.blockUntil = none → Written gateway target (.handler index answers)

def Stage.writes : Stage → Bool
  | .checking => true
  | .blocking _ => true
  | .unblocking _ => true
  | _ => false

theorem handle_blockUntil {gateway target : Gateway} {answers : Answers} {handler : Handler}
    {output : List Output} {stage : Stage}
    (handles : gateway.handle answers handler = some (output, stage, target))
    (reads : handler.stage.writes = false) : target.blockUntil = gateway.blockUntil := by
  cases position : handler.stage with
  | checking | blocking | unblocking =>
      rw [position] at reads
      cases reads
  | _ =>
      simp only [Gateway.handle, position] at handles
      repeat' split at handles
      all_goals cases handles
      all_goals rfl

theorem Advanced.blockUntil_eq {gateway target : Gateway} {answers : Answers}
    {loop : Loop} {output : List Output} (advanced : Advanced gateway answers loop output target) :
    target.blockUntil = gateway.blockUntil := by
  cases advanced <;> rfl

theorem handler_written {gateway target : Gateway} {index : Nat} {answers : Answers}
    {output : List Output}
    (fired : gateway.step (.handler index answers) = some (output, target)) :
    Written gateway target (.handler index answers) := by
  obtain ⟨handler, stage, last, found, handles, rfl⟩ := handler_fired fired
  cases position : handler.stage with
  | checking =>
      simp only [Gateway.handle, position] at handles
      cases handles
      rcases checkBlock_cases gateway answers.now with ⟨passes, passed⟩ | ⟨deadline, set, _, stays⟩
      · cases before : gateway.blockUntil with
        | none => exact .kept (by simp only [passes, before])
        | some deadline => exact .lifted before (passed deadline before) (by simp only [passes])
      · exact .kept (by simp only [stays, set])
  | blocking wait =>
      simp only [Gateway.handle, position] at handles
      cases handles
      exact .blocked found position rfl
  | unblocking userID =>
      simp only [Gateway.handle, position] at handles
      cases handles
      exact .unblocked found position rfl
  | _ =>
      have same := handle_blockUntil handles (by rw [position]; rfl)
      exact .kept same

theorem step_written {gateway target : Gateway} {label : Label} {output : List Output}
    (fired : gateway.step label = some (output, target)) : Written gateway target label := by
  cases step_stepped fired with
  | handler found handled => exact handler_written fired
  | loop advanced => exact .kept advanced.blockUntil_eq
  | @response callID tag =>
      obtain ⟨sessions, same⟩ := tagRemote_eq gateway callID tag
      rw [same]
      exact .kept rfl
  | _ => exact .kept rfl

def Label.now? : Label → Option Int
  | .handler _ answers => some answers.now
  | _ => none

def clock (transition : Transition) : Option Int := transition.label.now?

def Clocked (taken : List Transition) : Prop := (taken.filterMap clock).Pairwise (· ≤ ·)

def Sets (transition : Transition) (deadline : Int) : Prop :=
  ∃ index answers handler wait, transition.label = .handler index answers ∧
    transition.source.handlers[index]? = some handler ∧ handler.stage = .blocking wait ∧
    deadline = answers.now + wait

def Stage.asks : Stage → Bool
  | .parsing => true
  | .resolving => true
  | .creating _ => true
  | _ => false

/-- Up to a deadline that was set, no handler moves it back, and a handler
that makes its check asks Telegram nothing from then on. -/
def BlockKept (taken : List Transition) : Prop :=
  ∀ (before : List Transition) (set : Transition) (between : List Transition)
    (step : Transition) (after : List Transition) deadline index answers,
    taken = before ++ set :: between ++ step :: after → Sets set deadline →
    step.label = .handler index answers → answers.now ≤ deadline →
    (∃ later, step.target.blockUntil = some later ∧ deadline ≤ later) ∧
      ∀ handler, step.source.handlers[index]? = some handler → handler.stage = .checking →
        ∀ next ∈ step :: after, ∀ later, next.target.handlers[index]? = some later →
          later.stage.asks = false

def Stage.spares (now deadline : Int) : Stage → Bool
  | .unblocking _ => false
  | .blocking wait => deadline ≤ now + wait
  | _ => true

/-- A handler that lifts the block finds no deadline ahead, and one that sets
a deadline finds none behind it. -/
def Spares (transition : Transition) : Prop :=
  match transition with
  | ⟨source, .handler index answers, _, _⟩ =>
      ∀ handler ∈ source.handlers[index]?, ∀ deadline ∈ source.blockUntil,
        answers.now ≤ deadline → handler.stage.spares answers.now deadline = true
  | _ => True

theorem sets_blockUntil {source target : Gateway} {label : Label} {output : List Output}
    {deadline : Int} (fired : source.step label = some (output, target))
    (sets : Sets ⟨source, label, output, target⟩ deadline) :
    target.blockUntil = some deadline := by
  obtain ⟨index, answers, handler, wait, rfl, found, position, rfl⟩ := sets
  obtain ⟨same, stage, last, foundAgain, handles, rfl⟩ := handler_fired fired
  obtain rfl := Option.some.inj (found.symm.trans foundAgain)
  simp only [Gateway.handle, position] at handles
  cases handles
  rfl

/-- A deadline that was set has passed, or the block lasts at least as long. -/
def Outlasted (taken : List Transition) (state : Gateway) : Prop :=
  ∀ set ∈ taken, ∀ deadline, Sets set deadline →
    (∃ now ∈ taken.filterMap clock, deadline < now) ∨
      ∃ later, state.blockUntil = some later ∧ deadline ≤ later

theorem outlasted_step {taken : List Transition} {source target : Gateway} {label : Label}
    {output : List Output} (outlasted : Outlasted taken source)
    (fired : source.step label = some (output, target))
    (spares : Spares ⟨source, label, output, target⟩) :
    Outlasted (taken ++ [⟨source, label, output, target⟩]) target := by
  intro set member deadline sets
  rcases List.mem_append.mp member with earlier | last
  · have passedNow {index : Nat} {answers : Answers} (isHandler : label = .handler index answers)
        (passed : deadline < answers.now) :
        ∃ now ∈ (taken ++ [(⟨source, label, output, target⟩ : Transition)]).filterMap clock,
          deadline < now := by
      refine ⟨answers.now, ?_, passed⟩
      rw [List.filterMap_append, isHandler]
      exact List.mem_append_right _ List.mem_cons_self
    rcases outlasted set earlier deadline sets with ⟨now, seen, passed⟩ | ⟨later, lasts, ahead⟩
    · left
      refine ⟨now, ?_, passed⟩
      rw [List.filterMap_append]
      exact List.mem_append_left _ seen
    · cases step_written fired with
      | kept same => exact .inr ⟨later, same.trans lasts, ahead⟩
      | @lifted index answers current before passed none =>
          obtain rfl := Option.some.inj (lasts.symm.trans before)
          exact .inl (passedNow rfl (by omega))
      | @blocked index answers handler wait found position set =>
          by_cases passed : later < answers.now
          · exact .inl (passedNow rfl (by omega))
          · have longer := spares handler found later lasts (by omega)
            rw [position] at longer
            have ordered := of_decide_eq_true longer
            exact .inr ⟨_, set, by omega⟩
      | @unblocked index answers handler userID found position none =>
          by_cases passed : later < answers.now
          · exact .inl (passedNow rfl (by omega))
          · have lifts := spares handler found later lasts (by omega)
            rw [position] at lifts
            cases lifts
  · obtain rfl := List.mem_singleton.mp last
    exact .inr ⟨deadline, sets_blockUntil fired sets, Int.le_refl _⟩

theorem run_outlasted {initial state : Gateway} {taken : List Transition}
    (run : Run initial taken state) (spared : ∀ transition ∈ taken, Spares transition) :
    Outlasted taken state := by
  apply LabelledMachine.Run.invariant _ _ run spared
  · intro set member
    cases member
  · intro taken source label output target _ outlasted fired spares
    exact outlasted_step outlasted fired spares

/-! ### Handlers that are turned away -/

def Stage.isOver : Stage → Bool
  | .responding _ _ => true
  | .done => true
  | _ => false

def TurnedAway (index : Nat) (gateway : Gateway) : Prop :=
  ∃ handler, gateway.handlers[index]? = some handler ∧ handler.stage.isOver = true

theorem handle_isOver {gateway target : Gateway} {answers : Answers} {handler : Handler}
    {output : List Output} {stage : Stage} (closed : handler.stage.isOver = true)
    (handles : gateway.handle answers handler = some (output, stage, target)) :
    stage.isOver = true := by
  cases position : handler.stage with
  | responding status reason =>
      simp only [Gateway.handle, position] at handles
      cases handles
      rfl
  | done =>
      simp only [Gateway.handle, position] at handles
      cases handles
  | _ =>
      rw [position] at closed
      cases closed

theorem turnedAway_handler {index moving : Nat} {source target : Gateway} {answers : Answers}
    {output : List Output}
    (fired : source.step (.handler moving answers) = some (output, target))
    (away : TurnedAway index source) : TurnedAway index target := by
  obtain ⟨handler, found, closed⟩ := away
  obtain ⟨mover, stage, last, foundMover, handles, rfl⟩ := handler_fired fired
  have sameHandlers := (handle_handled handles).handlers_eq
  by_cases same : moving = index
  · subst same
    obtain rfl := Option.some.inj (found.symm.trans foundMover)
    refine ⟨{ handler with stage := stage }, ?_, handle_isOver closed handles⟩
    have inside : moving < last.handlers.length := by
      rw [sameHandlers]
      exact (List.getElem?_eq_some_iff.mp found).1
    exact List.getElem?_set_self inside
  · refine ⟨handler, ?_, closed⟩
    dsimp only
    rw [List.getElem?_set_ne same, sameHandlers]
    exact found

theorem turnedAway_step {index : Nat} {source target : Gateway} {label : Label}
    {output : List Output} (fired : source.step label = some (output, target))
    (away : TurnedAway index source) : TurnedAway index target := by
  cases label with
  | handler moving answers => exact turnedAway_handler fired away
  | _ =>
      obtain ⟨handler, found, closed⟩ := away
      refine ⟨handler, (step_stepped fired).handler_kept found ?_, closed⟩
      intro answers wrong
      cases wrong

theorem check_turns_away {source target : Gateway} {index : Nat} {answers : Answers}
    {output : List Output} {handler : Handler} {deadline : Int}
    (fired : source.step (.handler index answers) = some (output, target))
    (found : source.handlers[index]? = some handler) (checking : handler.stage = .checking)
    (lasts : source.blockUntil = some deadline) (ahead : answers.now ≤ deadline) :
    TurnedAway index target := by
  obtain ⟨same, stage, last, foundAgain, handles, rfl⟩ := handler_fired fired
  obtain rfl := Option.some.inj (found.symm.trans foundAgain)
  have sameHandlers := (handle_handled handles).handlers_eq
  have inside : index < last.handlers.length := by
    rw [sameHandlers]
    exact (List.getElem?_eq_some_iff.mp found).1
  refine ⟨{ handler with stage := stage }, List.getElem?_set_self inside, ?_⟩
  simp only [Gateway.handle, checking] at handles
  rcases checkBlock_cases source answers.now with ⟨_, passed⟩ | ⟨_, _, _, stays⟩
  · have late := passed deadline lasts
    omega
  · rw [stays] at handles
    cases handles
    rfl

theorem TurnedAway.asks {index : Nat} {gateway : Gateway} {handler : Handler}
    (away : TurnedAway index gateway) (found : gateway.handlers[index]? = some handler) :
    handler.stage.asks = false := by
  obtain ⟨same, foundAgain, closed⟩ := away
  obtain rfl := Option.some.inj (found.symm.trans foundAgain)
  cases position : handler.stage with
  | parsing | resolving | creating =>
      rw [position] at closed
      cases closed
  | _ => rfl

theorem run_set {extraWait peerFlood : Int} {taken : List Transition} {state : Gateway}
    (run : Run (Gateway.initial extraWait peerFlood) taken state) :
    ∀ deadline, state.blockUntil = some deadline → ∃ set ∈ taken, Sets set deadline := by
  induction run with
  | nil => exact nofun
  | @snoc taken source target label output earlier fired ih =>
      intro deadline lasts
      cases step_written fired with
      | kept same =>
          obtain ⟨set, member, sets⟩ := ih deadline (same.symm.trans lasts)
          exact ⟨set, List.mem_append_left _ member, sets⟩
      | @lifted index answers current before passed none =>
          rw [none] at lasts
          cases lasts
      | @blocked index answers handler wait found position set =>
          rw [set] at lasts
          cases lasts
          exact ⟨_, List.mem_append_right _ List.mem_cons_self, index, answers, handler, wait, rfl,
            found, position, rfl⟩
      | @unblocked index answers handler userID found position none =>
          rw [none] at lasts
          cases lasts

section WholeRuns

variable {extraWait peerFlood : Int} {taken : List Transition} {state : Gateway}

theorem spares_of_blockKept (run : Run (Gateway.initial extraWait peerFlood) taken state)
    (kept : BlockKept taken) {transition : Transition} (member : transition ∈ taken) :
    Spares transition := by
  obtain ⟨before, after, shape, reached, fired⟩ := run.split member
  obtain ⟨source, label, output, target⟩ := transition
  cases label with
  | handler index answers =>
      intro handler found deadline lasts ahead
      obtain ⟨set, earlier, sets⟩ := run_set reached deadline lasts
      obtain ⟨first, between, rfl⟩ := List.append_of_mem earlier
      obtain ⟨⟨later, stays, longer⟩, _⟩ := kept first set between _ after deadline index
        answers shape sets rfl ahead
      cases position : handler.stage with
      | unblocking userID =>
          obtain ⟨same, stage, last, foundAgain, handles, rfl⟩ := handler_fired fired
          obtain rfl := Option.some.inj (found.symm.trans foundAgain)
          simp only [Gateway.handle, position] at handles
          cases handles
          cases stays
      | blocking wait =>
          have written := sets_blockUntil fired
            ⟨index, answers, handler, wait, rfl, found, position, rfl⟩
          obtain rfl := Option.some.inj (stays.symm.trans written)
          exact decide_eq_true longer
      | _ => rfl
  | _ => trivial

theorem Clocked.le_of_before {before after : List Transition} {step : Transition} {now time : Int}
    (clocked : Clocked (before ++ step :: after)) (read : clock step = some now)
    (seen : time ∈ before.filterMap clock) : time ≤ now := by
  unfold Clocked at clocked
  rw [List.filterMap_append, List.filterMap_cons_some read, List.pairwise_append] at clocked
  exact clocked.2.2 time seen now List.mem_cons_self

theorem blockKept_of_spares (run : Run (Gateway.initial extraWait peerFlood) taken state)
    (clocked : Clocked taken) (spared : ∀ transition ∈ taken, Spares transition) :
    BlockKept taken := by
  intro before set between step after deadline index answers shape sets isHandler ahead
  subst shape
  have read : clock step = some answers.now := congrArg Label.now? isHandler
  have setEarlier : set ∈ before ++ set :: between := List.mem_append_right _ List.mem_cons_self
  obtain ⟨reached, fired⟩ := run.at_split
  have sparedBefore : ∀ transition ∈ before ++ set :: between, Spares transition :=
    fun transition member => spared transition (List.mem_append_left _ member)
  have sparesStep : Spares step :=
    spared step (List.mem_append_right _ List.mem_cons_self)
  have outlasted := run_outlasted reached sparedBefore
  have unpassed : ∀ now ∈ (before ++ set :: between).filterMap clock, ¬deadline < now := by
    intro now seen passed
    have ordered := clocked.le_of_before read seen
    omega
  obtain ⟨source, label, output, target⟩ := step
  dsimp only at isHandler fired reached outlasted
  subst isHandler
  constructor
  · rcases outlasted_step outlasted fired sparesStep set (List.mem_append_left _ setEarlier)
      deadline sets with ⟨now, seen, passed⟩ | stays
    · rw [List.filterMap_append, List.mem_append] at seen
      rcases seen with earlier | last
      · exact absurd passed (unpassed now earlier)
      · obtain rfl := List.mem_singleton.mp last
        omega
    · exact stays
  · intro handler found checking next member later foundLater
    rcases outlasted set setEarlier deadline sets with
      ⟨now, seen, passed⟩ | ⟨current, lasts, longer⟩
    · exact absurd passed (unpassed now seen)
    · have away := check_turns_away fired found checking lasts (by omega)
      have stays : ∀ source label output target, source.step label = some (output, target) →
          TurnedAway index source → TurnedAway index target :=
        fun _ _ _ _ stepped held => turnedAway_step stepped held
      exact ((run.stable stays away).1 next member).asks foundLater

/-- The flood block is kept in a run exactly when every handler spares the
deadline that it writes over. -/
theorem floodBlock_kept_iff (run : Run (Gateway.initial extraWait peerFlood) taken state)
    (clocked : Clocked taken) :
    BlockKept taken ↔ ∀ transition ∈ taken, Spares transition := by
  constructor
  · intro kept transition member
    exact spares_of_blockKept run kept member
  · exact blockKept_of_spares run clocked

end WholeRuns

theorem clocked_of_replay {labels : List Label} {first last : Gateway}
    {taken : List Transition}
    (replayed : LabelledMachine.replay Gateway.step first labels = some (taken, last))
    (ordered : (labels.filterMap Label.now?).Pairwise (· ≤ ·)) : Clocked taken := by
  rw [← LabelledMachine.replay_labels replayed, List.filterMap_map] at ordered
  exact ordered

instance : DecidablePred Spares := fun transition =>
  match transition with
  | ⟨source, .handler index answers, _, _⟩ => by
      unfold Spares
      dsimp only
      infer_instance
  | ⟨_, .request _, _, _⟩ => isTrue trivial
  | ⟨_, .update _, _, _⟩ => isTrue trivial
  | ⟨_, .receiveEvent, _, _⟩ => isTrue trivial
  | ⟨_, .receiveInternal, _, _⟩ => isTrue trivial
  | ⟨_, .cancel _, _, _⟩ => isTrue trivial
  | ⟨_, .loop _, _, _⟩ => isTrue trivial
  | ⟨_, .response _ _, _, _⟩ => isTrue trivial

def sampleRefusal : TgError := .response "Too Many Requests: retry after 100"

/-- A call that Telegram refuses, and a second call half a minute later. -/
def sampleBlocked : List Label :=
  [.request { method := .invite, callID := "a" }, .handler 0 {},
    .handler 0 { parse := .ok (some 11) }, .handler 0 { createCall := .error sampleRefusal },
    .handler 0 {}, .request { method := .invite, callID := "b" },
    .handler 1 { now := 30 * second }]

theorem floodBlock_kept_for_next_call :
    ∃ taken state, Run (Gateway.initial 0 0) taken state ∧ Clocked taken ∧
      state.blockUntil = some (100 * second) ∧ BlockKept taken := by
  have replayed : LabelledMachine.replay Gateway.step (Gateway.initial 0 0) sampleBlocked =
      some (_, _) := rfl
  have run := LabelledMachine.Run.of_replay replayed
  have clocked := clocked_of_replay replayed (by decide)
  exact ⟨_, _, run, clocked, by decide, (floodBlock_kept_iff run clocked).mpr
    (LabelledMachine.replay_forall Spares replayed (by decide))⟩

/-- Two calls pass their checks before Telegram refuses one of them and
accepts the other. -/
def sampleOverlap : List Label :=
  [.request { method := .invite, callID := "a" }, .request { method := .invite, callID := "b" },
    .handler 0 {}, .handler 1 {}, .handler 0 { parse := .ok (some 11) },
    .handler 1 { parse := .ok (some 12) }, .handler 0 { createCall := .error sampleRefusal },
    .handler 0 {}, .handler 1 { createCall := .ok 7 }, .handler 1 {}]

theorem floodBlock_lost_by_overlap :
    ¬∀ taken state, Run (Gateway.initial 0 0) taken state → Clocked taken → BlockKept taken := by
  intro always
  have replayed : LabelledMachine.replay Gateway.step (Gateway.initial 0 0) sampleOverlap =
      some (_, _) := rfl
  have run := LabelledMachine.Run.of_replay replayed
  have clocked := clocked_of_replay replayed (by decide)
  have spared : ∀ transition ∈ _, Spares transition :=
    fun _ member => spares_of_blockKept run (always _ _ run clocked) member
  exact absurd spared (by decide)

end Tg2Sip.Go
