/-
What the message thread runs, and when.

A message is in play from its post until it is cancelled or has run for the
last time.  The times at which it is to be run are fixed by its post: its first
time and its period, however late it is run.  Messages for at once are run in
the order of their posts.  A cancel takes effect unless the message has already
been taken out of the queue.
-/

import Mathlib.Data.List.Perm.Subperm
import Tg2Sip.Voip.MessageThread

namespace Tg2Sip.Voip

def MessageThread.waiting (state : MessageThread) : List Message := state.batch ++ state.queue

/-- The messages that may still run or be put back. -/
def MessageThread.inPlay (state : MessageThread) : List Message :=
  state.current.toList ++ state.waiting

def MessageThread.ids (state : MessageThread) : List Nat := state.inPlay.map Message.id

/-- The effect of a step on what is in play. -/
inductive Moves (source : MessageThread) : MessageLabel → List Delivery → MessageThread → Prop where
  | posted {delay interval now : Nat} : source.clock ≤ now → 0 < now →
      Moves source (.post delay interval now) [] (source.post delay interval now)
  | cancelled (id : Nat) : Moves source (.cancel id) [] (source.cancel id)
  | marked : Moves source .cancelSelf [] { source with cancelCurrent := true }
  | woken {now : Nat} : source.batch = [] → source.current = none → source.clock ≤ now →
      0 < now → Moves source (.wake now) [] (source.wake now)
  | started {message : Message} {rest : List Message} {now : Nat} :
      source.batch = message :: rest → source.current = none → source.clock ≤ now → 0 < now →
      Moves source (.start now) [(source.start message rest now).1]
        (source.start message rest now).2
  | finished {message : Message} : source.current = some message →
      Moves source .finish [] (source.finish message)

theorem step_moves {source target : MessageThread} {label : MessageLabel}
    {output : List Delivery} (fired : source.step label = some (output, target)) :
    Moves source label output target := by
  have readable {now : Nat} (reads : source.reads now = true) : source.clock ≤ now ∧ 0 < now := by
    unfold MessageThread.reads at reads
    rw [Bool.and_eq_true, decide_eq_true_eq, decide_eq_true_eq] at reads
    exact ⟨reads.2, reads.1⟩
  cases label with
  | post delay interval now =>
      simp only [MessageThread.step] at fired
      split at fired
      · rename_i allowed
        rw [Bool.and_eq_true] at allowed
        cases fired
        obtain ⟨later, positive⟩ := readable allowed.2
        exact .posted later positive
      · cases fired
  | cancel id =>
      simp only [MessageThread.step] at fired
      split at fired
      · cases fired
        exact .cancelled id
      · cases fired
  | cancelSelf =>
      simp only [MessageThread.step] at fired
      split at fired
      · cases fired
        exact .marked
      · cases fired
  | wake now =>
      simp only [MessageThread.step] at fired
      split at fired
      · rename_i idle
        rw [Bool.and_eq_true, Bool.and_eq_true, List.isEmpty_iff, Option.isNone_iff_eq_none]
          at idle
        cases fired
        obtain ⟨later, positive⟩ := readable idle.2
        exact .woken idle.1.1 idle.1.2 later positive
      · cases fired
  | start now =>
      simp only [MessageThread.step] at fired
      split at fired
      · rename_i waiting idle
        split at fired
        · rename_i reads
          cases fired
          obtain ⟨later, positive⟩ := readable reads
          exact .started waiting idle later positive
        · cases fired
      · cases fired
  | finish =>
      obtain ⟨message, running, same⟩ := Option.map_eq_some_iff.mp fired
      cases same
      exact .finished running

theorem insert_mem {message other : Message} {queue : List Message} :
    other ∈ insertMessageInternal message queue ↔ other = message ∨ other ∈ queue := by
  rw [(insert_perm message queue).mem_iff, List.mem_cons]

theorem Moves.ids {source target : MessageThread} {label : MessageLabel}
    {output : List Delivery} (moves : Moves source label output target) :
    target.lastMessageID = source.lastMessageID ∧ target.ids.Subperm source.ids ∨
      target.lastMessageID = source.lastMessageID + 1 ∧
        target.ids.Subperm (source.lastMessageID :: source.ids) := by
  cases moves with
  | @posted delay interval now =>
      refine .inr ⟨rfl, List.Perm.subperm ?_⟩
      have inserted := insert_perm
        ⟨source.lastMessageID, if delay = 0 then 0 else now + delay, interval⟩ source.queue
      have waiting := (inserted.append_left source.batch).trans List.perm_middle
      have inPlay := (waiting.append_left source.current.toList).trans List.perm_middle
      exact inPlay.map Message.id
  | cancelled id =>
      refine .inl ⟨rfl, List.Sublist.subperm ?_⟩
      have kept := List.filter_sublist (p := fun message => message.id != id) (l := source.queue)
      exact ((kept.append_left source.batch).append_left source.current.toList).map Message.id
  | marked => exact .inl ⟨rfl, .refl _⟩
  | @woken now empty idle =>
      refine .inl ⟨rfl, List.Perm.subperm ?_⟩
      unfold MessageThread.ids MessageThread.inPlay MessageThread.waiting MessageThread.wake
      dsimp only
      rw [empty, List.nil_append]
      exact ((List.filter_append_perm (Message.isDue now) source.queue).append_left _).map _
  | @started message rest now batch idle =>
      refine .inl ⟨rfl, List.Perm.subperm ?_⟩
      unfold MessageThread.ids MessageThread.inPlay MessageThread.waiting MessageThread.start
      dsimp only
      rw [batch, idle]
      exact .refl _
  | @finished message running =>
      refine .inl ⟨rfl, ?_⟩
      unfold MessageThread.ids MessageThread.inPlay MessageThread.waiting MessageThread.finish
      dsimp only
      rw [running]
      split
      · have inserted := insert_perm
          { message with deliverAt := message.deliverAt + message.interval } source.queue
        have waiting := (inserted.append_left source.batch).trans List.perm_middle
        exact (waiting.map Message.id).subperm
      · exact (List.sublist_cons_self _ _).subperm

/-- Each message in play was posted, and is in play once. -/
structure MessageThread.Numbered (state : MessageThread) : Prop where
  nodup : state.ids.Nodup
  posted : ∀ id ∈ state.ids, id < state.lastMessageID

theorem Moves.numbered {source target : MessageThread} {label : MessageLabel}
    {output : List Delivery} (moves : Moves source label output target)
    (numbered : source.Numbered) : target.Numbered := by
  have fewer : ∀ {ids ids' : List Nat}, ids.Subperm ids' → ids'.Nodup → ids.Nodup := by
    rintro ids ids' ⟨middle, perm, sublist⟩ nodup
    exact perm.nodup_iff.mp (sublist.nodup nodup)
  rcases moves.ids with ⟨same, kept⟩ | ⟨next, grown⟩
  · refine ⟨fewer kept numbered.nodup, ?_⟩
    intro id member
    rw [same]
    exact numbered.posted id (kept.subset member)
  · constructor
    · apply fewer grown
      refine List.nodup_cons.mpr ⟨?_, numbered.nodup⟩
      intro member
      exact Nat.lt_irrefl _ (numbered.posted _ member)
    · intro id member
      rw [next]
      rcases List.mem_cons.mp (grown.subset member) with rfl | earlier
      · exact Nat.lt_succ_self _
      · exact Nat.lt_succ_of_lt (numbered.posted id earlier)

theorem waiting_id {state : MessageThread} {message : Message}
    (member : message ∈ state.waiting) : message.id ∈ state.ids :=
  List.mem_map_of_mem (List.mem_append_right _ member)

theorem running_id {state : MessageThread} {message : Message}
    (running : state.current = some message) : message.id ∈ state.ids := by
  apply List.mem_map_of_mem
  apply List.mem_append_left
  rw [running]
  exact List.mem_singleton_self _

theorem Moves.ran {source target : MessageThread} {label : MessageLabel}
    {output : List Delivery} (moves : Moves source label output target) {delivery : Delivery}
    (member : delivery ∈ output) : ∃ message ∈ source.batch, message.id = delivery.id := by
  cases moves with
  | @started message rest now batch =>
      rw [List.mem_singleton.mp member, batch]
      exact ⟨message, List.mem_cons_self, rfl⟩
  | posted => cases member
  | cancelled => cases member
  | marked => cases member
  | woken => cases member
  | finished => cases member

/-- A message that is out of play stays out of play. -/
def MessageThread.Gone (state : MessageThread) (id : Nat) : Prop :=
  id < state.lastMessageID ∧ id ∉ state.ids

theorem Moves.gone {source target : MessageThread} {label : MessageLabel}
    {output : List Delivery} (moves : Moves source label output target) {id : Nat}
    (gone : source.Gone id) : target.Gone id := by
  rcases moves.ids with ⟨same, kept⟩ | ⟨next, grown⟩
  · refine ⟨by rw [same]; exact gone.1, ?_⟩
    intro member
    exact gone.2 (kept.subset member)
  · refine ⟨by rw [next]; exact Nat.lt_succ_of_lt gone.1, ?_⟩
    intro member
    rcases List.mem_cons.mp (grown.subset member) with rfl | earlier
    · exact Nat.lt_irrefl _ gone.1
    · exact gone.2 earlier

/-- A message that was posted and is cancelled before it is taken out of the
queue never runs again. -/
theorem cancelled_message_never_runs {before after : List Ticked} {ticked : Ticked}
    {state : MessageThread} (run : MessageRun (before ++ ticked :: after) state) {id : Nat}
    (cancel : ticked.label = .cancel id) (posted : id < ticked.source.lastMessageID)
    (inTime : ∀ message ∈ ticked.source.current.toList ++ ticked.source.batch,
      message.id ≠ id) :
    ∀ delivery ∈ LabelledMachine.history after, delivery.id ≠ id := by
  have behind := run.behind
  have gone : ticked.target.Gone id := by
    obtain ⟨_, fired⟩ := run.at_split
    obtain ⟨source, label, output, target⟩ := ticked
    dsimp only at cancel fired posted inTime ⊢
    subst cancel
    cases step_moves fired with
    | cancelled =>
        refine ⟨posted, ?_⟩
        intro member
        obtain ⟨message, inPlay, same⟩ := List.mem_map.mp member
        rcases List.mem_append.mp inPlay with running | waiting
        · exact inTime message (List.mem_append_left _ running) same
        · rcases List.mem_append.mp waiting with inBatch | inQueue
          · exact inTime message (List.mem_append_right _ inBatch) same
          · have kept := (List.mem_filter.mp inQueue).2
            rw [same, bne_self_eq_false] at kept
            cases kept
  intro delivery member same
  obtain ⟨later, inAfter, ran⟩ := List.mem_flatMap.mp member
  obtain ⟨earlier, rest, rfl⟩ := List.append_of_mem inAfter
  obtain ⟨toLater, fired⟩ := behind.at_split
  have goneLater := toLater.keeps
    (fun source label output target stepped held => (step_moves stepped).gone held) gone
  obtain ⟨message, inBatch, number⟩ := (step_moves fired).ran ran
  apply goneLater.2
  rw [← same, ← number]
  exact waiting_id (List.mem_append_left _ inBatch)

def found (ticked : Ticked) : MessageLabel × Nat × List Message :=
  (ticked.label, ticked.source.lastMessageID,
    ticked.source.current.toList ++ ticked.source.batch)

theorem cancelled_timer_never_runs :
    ∃ before ticked after state, MessageRun (before ++ ticked :: after) state ∧
      ticked.label = .cancel 1 ∧ after.map (fun later => later.label) = [.wake 100] ∧
      ∀ delivery ∈ LabelledMachine.history after, delivery.id ≠ 1 := by
  have replayed : (LabelledMachine.replay MessageThread.step .initial
      [.post 5 10 1, .cancel 1, .wake 100]).map (fun reached => reached.1.map found) =
    some ([(.post 5 10 1, 1, [])] ++ (.cancel 1, 2, []) :: [(.wake 100, 2, [])]) := rfl
  obtain ⟨taken, state, run, summary⟩ := LabelledMachine.Run.of_replay_map replayed
  obtain ⟨before, rest, rfl, _, restFound⟩ := List.map_eq_append_iff.mp summary
  obtain ⟨ticked, after, rfl, same, afterFound⟩ := List.map_eq_cons_iff.mp restFound
  simp only [found, Prod.mk.injEq] at same
  obtain ⟨cancel, next, idle⟩ := same
  refine ⟨before, ticked, after, state, run, cancel, ?_, ?_⟩
  · have labels := congrArg (List.map Prod.fst) afterFound
    rw [List.map_map] at labels
    exact labels
  · apply cancelled_message_never_runs run cancel
    · rw [next]
      decide
    · rw [idle]
      exact List.forall_mem_nil _

end Tg2Sip.Voip
