/-
The times at which messages are run.

A message that was posted with a delay is to be run when the delay is over, and
one for at once when it is taken; a periodic one then every period, counted
from the time before and not from the run.  No message is run before its time,
one without a period is run once, and those for at once are run in the order
of their posts.
-/

import Tg2Sip.Voip.MessageRuns

namespace Tg2Sip.Voip

def deliveriesOf (id : Nat) (taken : List Ticked) : List Delivery :=
  (LabelledMachine.history taken).filter (fun delivery => delivery.id == id)

structure Posting where
  delay : Nat
  interval : Nat
  now : Nat

def Posting.firstDue (posting : Posting) (deliveries : List Delivery) : Nat :=
  if posting.delay = 0 then (deliveries.head?.map Delivery.ranAt).getD 0
  else posting.now + posting.delay

/-- When the message that waits is to be run next; zero for at once. -/
def Posting.nextDue (posting : Posting) (deliveries : List Delivery) : Nat :=
  match deliveries.getLast? with
  | none => if posting.delay = 0 then 0 else posting.now + posting.delay
  | some last => last.due + posting.interval

/-- The runs of the message are the ones that its post asks for. -/
structure Posting.Kept (posting : Posting) (deliveries : List Delivery) : Prop where
  spaced : ∀ k delivery, deliveries[k]? = some delivery →
    delivery.due = posting.firstDue deliveries + k * posting.interval ∧
      0 < delivery.due ∧ delivery.due ≤ delivery.ranAt
  once : posting.interval = 0 → deliveries.length ≤ 1

/-- What the state keeps of the message. -/
structure Posting.Course (posting : Posting) (state : MessageThread) (id : Nat)
    (deliveries : List Delivery) : Prop where
  kept : posting.Kept deliveries
  waiting : ∀ message ∈ state.waiting, message.id = id →
    message.interval = posting.interval ∧ message.deliverAt = posting.nextDue deliveries ∧
      (deliveries ≠ [] → 0 < posting.interval)
  running : ∀ message, state.current = some message → message.id = id →
    message.interval = posting.interval ∧
      ∃ last, deliveries.getLast? = some last ∧ message.deliverAt = last.due

variable {posting : Posting} {deliveries : List Delivery}

theorem Posting.Kept.none : posting.Kept [] where
  spaced _ _ impossible := by cases impossible
  once _ := Nat.zero_le _

theorem nextDue_nil :
    posting.nextDue [] = if posting.delay = 0 then 0 else posting.now + posting.delay := rfl

theorem getLast_index {last : Delivery} (same : deliveries.getLast? = some last) :
    deliveries[deliveries.length - 1]? = some last := by
  rw [← List.getLast?_eq_getElem?]
  exact same

theorem Posting.Kept.snoc (kept : posting.Kept deliveries) {delivery : Delivery}
    (due : delivery.due =
      if posting.nextDue deliveries = 0 then delivery.ranAt else posting.nextDue deliveries)
    (positive : 0 < delivery.ranAt) (inTime : posting.nextDue deliveries ≤ delivery.ranAt)
    (periodic : deliveries ≠ [] → 0 < posting.interval) :
    posting.Kept (deliveries ++ [delivery]) := by
  have dueInTime : 0 < delivery.due ∧ delivery.due ≤ delivery.ranAt := by
    rw [due]
    split
    · exact ⟨positive, Nat.le_refl _⟩
    · omega
  cases last : deliveries.getLast? with
  | none =>
      have empty := List.getLast?_eq_none_iff.mp last
      subst empty
      constructor
      · intro k other found
        have only : k = 0 ∧ other = delivery := by
          cases k with
          | zero => exact ⟨rfl, (Option.some.inj found).symm⟩
          | succ => cases found
        obtain ⟨rfl, rfl⟩ := only
        refine ⟨?_, dueInTime⟩
        have first : posting.firstDue ([] ++ [other]) =
          if posting.delay = 0 then other.ranAt else posting.now + posting.delay := rfl
        rw [Nat.zero_mul, Nat.add_zero, due, nextDue_nil, first]
        by_cases immediate : posting.delay = 0
        · rw [if_pos immediate, if_pos rfl, if_pos immediate]
        · rw [if_neg immediate, if_neg immediate, if_neg (by omega)]
      · intro _
        exact Nat.le_refl 1
  | some before =>
      have nonempty : deliveries ≠ [] := by
        rintro rfl
        cases last
      have index := getLast_index last
      obtain ⟨beforeDue, beforePositive, _⟩ := kept.spaced _ before index
      have next : posting.nextDue deliveries = before.due + posting.interval := by
        unfold Posting.nextDue
        rw [last]
      have first : posting.firstDue (deliveries ++ [delivery]) = posting.firstDue deliveries := by
        unfold Posting.firstDue
        rw [List.head?_append_of_ne_nil _ nonempty]
      have some : 0 < deliveries.length := List.length_pos_of_ne_nil nonempty
      constructor
      · intro k other found
        rw [first]
        by_cases earlier : k < deliveries.length
        · rw [List.getElem?_append_left earlier] at found
          exact kept.spaced k other found
        · have atEnd : k = deliveries.length ∧ other = delivery := by
            rw [List.getElem?_append_right (Nat.le_of_not_lt earlier)] at found
            cases gap : k - deliveries.length with
            | zero =>
                rw [gap] at found
                exact ⟨by omega, (Option.some.inj found).symm⟩
            | succ more =>
                rw [gap] at found
                cases found
          obtain ⟨rfl, rfl⟩ := atEnd
          refine ⟨?_, dueInTime⟩
          rw [due, next, if_neg (by omega), beforeDue, Nat.add_assoc, ← Nat.succ_mul,
            Nat.succ_eq_add_one, Nat.sub_add_cancel some]
      · intro aperiodic
        have impossible := periodic nonempty
        omega

/-- What is in the batch was due when the clock was read. -/
def MessageThread.Timely (state : MessageThread) : Prop :=
  ∀ message ∈ state.batch, message.deliverAt ≤ state.clock

section Step

variable {source target : MessageThread} {label : MessageLabel} {output : List Delivery}

theorem Moves.timely (moves : Moves source label output target) (timely : source.Timely) :
    target.Timely := by
  cases moves with
  | posted later =>
      exact fun message member => Nat.le_trans (timely message member) later
  | cancelled => exact timely
  | marked => exact timely
  | woken =>
      intro message member
      have due := (List.mem_filter.mp member).2
      unfold Message.isDue at due
      rw [Bool.or_eq_true, beq_iff_eq, decide_eq_true_eq] at due
      rcases due with atOnce | reached
      · rw [atOnce]
        exact Nat.zero_le _
      · exact reached
  | started batch _ later =>
      intro message member
      apply Nat.le_trans (timely message _) later
      rw [batch]
      exact List.mem_cons_of_mem _ member
  | finished => exact timely

theorem head_alone (numbered : source.Numbered) {message : Message} {rest : List Message}
    (batch : source.batch = message :: rest) {other : Message}
    (member : other ∈ rest ++ source.queue) : other.id ≠ message.id := by
  have nodup := numbered.nodup
  unfold MessageThread.ids MessageThread.inPlay MessageThread.waiting at nodup
  rw [batch, List.map_append] at nodup
  have waiting := (List.nodup_append.mp nodup).2.1
  rw [List.cons_append, List.map_cons] at waiting
  intro same
  apply (List.nodup_cons.mp waiting).1
  rw [← same]
  exact List.mem_map_of_mem member

theorem Moves.course (moves : Moves source label output target) (numbered : source.Numbered)
    (timely : source.Timely) {id : Nat} (old : id < source.lastMessageID)
    (course : posting.Course source id deliveries) :
    posting.Course target id
      (deliveries ++ output.filter (fun delivery => delivery.id == id)) := by
  cases moves with
  | posted =>
      rw [List.filter_nil, List.append_nil]
      refine ⟨course.kept, ?_, course.running⟩
      intro message member same
      rcases List.mem_append.mp member with inBatch | inQueue
      · exact course.waiting message (List.mem_append_left _ inBatch) same
      · rcases insert_mem.mp inQueue with rfl | inOld
        · exact absurd same (Nat.ne_of_gt old)
        · exact course.waiting message (List.mem_append_right _ inOld) same
  | cancelled =>
      rw [List.filter_nil, List.append_nil]
      refine ⟨course.kept, ?_, course.running⟩
      intro message member same
      apply course.waiting message _ same
      rcases List.mem_append.mp member with inBatch | inQueue
      · exact List.mem_append_left _ inBatch
      · exact List.mem_append_right _ (List.mem_filter.mp inQueue).1
  | marked =>
      rw [List.filter_nil, List.append_nil]
      exact ⟨course.kept, course.waiting, course.running⟩
  | woken =>
      rw [List.filter_nil, List.append_nil]
      refine ⟨course.kept, ?_, course.running⟩
      intro message member same
      apply course.waiting message _ same
      rcases List.mem_append.mp member with taken | left
      · exact List.mem_append_right _ (List.mem_filter.mp taken).1
      · exact List.mem_append_right _ (List.mem_filter.mp left).1
  | @started head rest now batch idle later positive =>
      have stillWaiting : ∀ message ∈ rest ++ source.queue, message ∈ source.waiting := by
        intro message member
        unfold MessageThread.waiting
        rw [batch]
        exact List.mem_cons_of_mem _ member
      have headWaiting : head ∈ source.waiting := by
        unfold MessageThread.waiting
        rw [batch]
        exact List.mem_cons_self
      by_cases own : head.id = id
      · have ran : [(source.start head rest now).1].filter (fun delivery => delivery.id == id) =
            [(source.start head rest now).1] :=
          List.filter_cons_of_pos (beq_iff_eq.mpr own)
        rw [ran]
        obtain ⟨interval, due, periodic⟩ := course.waiting head headWaiting own
        have inTime : head.deliverAt ≤ now := by
          apply Nat.le_trans (timely head _) later
          rw [batch]
          exact List.mem_cons_self
        rw [due] at inTime
        constructor
        · apply course.kept.snoc _ positive inTime periodic
          rw [← due]
          rfl
        · intro message member same
          exact absurd (same.trans own.symm) (head_alone numbered batch member)
        · intro message running _
          cases running
          exact ⟨interval, (source.start head rest now).1, List.getLast?_concat, rfl⟩
      · have ran : [(source.start head rest now).1].filter (fun delivery => delivery.id == id) =
            [] :=
          List.filter_cons_of_neg (fun same => own (beq_iff_eq.mp same))
        rw [ran, List.append_nil]
        refine ⟨course.kept, ?_, ?_⟩
        · intro message member same
          exact course.waiting message (stillWaiting message member) same
        · intro message running same
          cases running
          exact absurd same own
  | @finished message running =>
      rw [List.filter_nil, List.append_nil]
      refine ⟨course.kept, ?_, ?_⟩
      · intro other member same
        rcases List.mem_append.mp member with inBatch | inQueue
        · exact course.waiting other (List.mem_append_left _ inBatch) same
        · unfold MessageThread.finish at inQueue
          dsimp only at inQueue
          split at inQueue
          · rename_i again
            rcases insert_mem.mp inQueue with rfl | inOld
            · obtain ⟨interval, last, same', due⟩ := course.running message running same
              rw [Bool.and_eq_true, decide_eq_true_eq] at again
              refine ⟨interval, ?_, fun _ => ?_⟩
              · unfold Posting.nextDue
                rw [same']
                dsimp only
                rw [← interval, ← due]
              · rw [← interval]
                exact again.2
            · exact course.waiting other (List.mem_append_right _ inOld) same
          · exact course.waiting other (List.mem_append_right _ inQueue) same
      · intro other impossible
        cases impossible

end Step

def Posts (ticked : Ticked) (id : Nat) (posting : Posting) : Prop :=
  ticked.label = .post posting.delay posting.interval posting.now ∧
    ticked.source.lastMessageID = id

structure Told (taken : List Ticked) (state : MessageThread) : Prop where
  numbered : state.Numbered
  timely : state.Timely
  delivered : ∀ delivery ∈ LabelledMachine.history taken, delivery.id < state.lastMessageID
  posts : ∀ ticked ∈ taken, ∀ id posting, Posts ticked id posting →
    id < state.lastMessageID ∧ posting.Course state id (deliveriesOf id taken)

theorem initial_told : Told [] .initial where
  numbered := ⟨List.nodup_nil, List.forall_mem_nil _⟩
  timely := List.forall_mem_nil _
  delivered := List.forall_mem_nil _
  posts := List.forall_mem_nil _

theorem Moves.later {source target : MessageThread} {label : MessageLabel}
    {output : List Delivery} (moves : Moves source label output target) :
    source.lastMessageID ≤ target.lastMessageID := by
  rcases moves.ids with ⟨same, _⟩ | ⟨next, _⟩
  · exact Nat.le_of_eq same.symm
  · rw [next]
    exact Nat.le_succ _

theorem deliveriesOf_snoc (id : Nat) (taken : List Ticked) (ticked : Ticked) :
    deliveriesOf id (taken ++ [ticked]) = deliveriesOf id taken ++
      ticked.output.filter (fun delivery => delivery.id == id) := by
  unfold deliveriesOf
  rw [LabelledMachine.history_append, List.filter_append, LabelledMachine.history_cons,
    LabelledMachine.history_nil, List.append_nil]

theorem Told.step {taken : List Ticked} {source target : MessageThread} {label : MessageLabel}
    {output : List Delivery} (told : Told taken source)
    (moves : Moves source label output target) :
    Told (taken ++ [⟨source, label, output, target⟩]) target := by
  constructor
  · exact moves.numbered told.numbered
  · exact moves.timely told.timely
  · intro delivery member
    rw [LabelledMachine.history_append] at member
    apply Nat.lt_of_lt_of_le _ moves.later
    rcases List.mem_append.mp member with earlier | last
    · exact told.delivered delivery earlier
    · rw [LabelledMachine.history_cons, LabelledMachine.history_nil, List.append_nil] at last
      obtain ⟨message, inBatch, same⟩ := moves.ran last
      rw [← same]
      exact told.numbered.posted _ (waiting_id (List.mem_append_left _ inBatch))
  · intro ticked member id posting posts
    rw [deliveriesOf_snoc]
    rcases List.mem_append.mp member with earlier | last
    · obtain ⟨old, course⟩ := told.posts ticked earlier id posting posts
      exact ⟨Nat.lt_of_lt_of_le old moves.later,
        moves.course told.numbered told.timely old course⟩
    · rw [List.mem_singleton.mp last] at posts
      obtain ⟨label', rfl⟩ := posts
      dsimp only at label' ⊢
      subst label'
      have unheard : deliveriesOf source.lastMessageID taken = [] := by
        apply List.filter_eq_nil_iff.mpr
        intro delivery heard same
        have old := told.delivered delivery heard
        rw [beq_iff_eq.mp same] at old
        exact Nat.lt_irrefl _ old
      rw [unheard, List.nil_append]
      cases moves with
      | posted =>
          refine ⟨Nat.lt_succ_self _, .none, ?_, ?_⟩
          · intro message inPlay same
            have fresh : ∀ other ∈ source.waiting, other.id ≠ source.lastMessageID :=
              fun other waiting => Nat.ne_of_lt (told.numbered.posted _ (waiting_id waiting))
            rcases List.mem_append.mp inPlay with inBatch | inQueue
            · exact absurd same (fresh message (List.mem_append_left _ inBatch))
            · rcases insert_mem.mp inQueue with rfl | inOld
              · exact ⟨rfl, nextDue_nil.symm, fun impossible => absurd rfl impossible⟩
              · exact absurd same (fresh message (List.mem_append_right _ inOld))
          · intro message running same
            have old := told.numbered.posted _ (running_id running)
            rw [same] at old
            exact absurd old (Nat.lt_irrefl _)

theorem told_of_run {taken : List Ticked} {state : MessageThread} (run : MessageRun taken state) :
    Told taken state := by
  induction run with
  | nil => exact initial_told
  | snoc _ fired ih => exact ih.step (step_moves fired)

def immediateIds (taken : List Ticked) : List Nat :=
  ((LabelledMachine.history taken).filter Delivery.immediate).map Delivery.id

structure Orderly (taken : List Ticked) (state : MessageThread) : Prop where
  queue : state.queue.Pairwise Message.Before
  batch : state.batch.Pairwise Message.Before
  between : ∀ first ∈ state.batch, ∀ second ∈ state.queue, first.deliverAt = 0 →
    second.deliverAt = 0 → first.id < second.id
  running : ∀ message, state.current = some message → 0 < message.deliverAt
  behind : ∀ id ∈ immediateIds taken, ∀ message ∈ state.waiting, message.deliverAt = 0 →
    id < message.id
  ordered : (immediateIds taken).Pairwise (· < ·)

theorem initial_orderly : Orderly [] .initial where
  queue := List.Pairwise.nil
  batch := List.Pairwise.nil
  between := List.forall_mem_nil _
  running _ impossible := by cases impossible
  behind := List.forall_mem_nil _
  ordered := List.Pairwise.nil

theorem immediateIds_snoc (taken : List Ticked) (ticked : Ticked) :
    immediateIds (taken ++ [ticked]) = immediateIds taken ++
      (ticked.output.filter Delivery.immediate).map Delivery.id := by
  unfold immediateIds
  rw [LabelledMachine.history_append, LabelledMachine.history_cons,
    LabelledMachine.history_nil, List.append_nil, List.filter_append, List.map_append]

theorem Orderly.step {taken : List Ticked} {source target : MessageThread} {label : MessageLabel}
    {output : List Delivery} (orderly : Orderly taken source) (told : Told taken source)
    (moves : Moves source label output target) :
    Orderly (taken ++ [⟨source, label, output, target⟩]) target := by
  have oldQueue : ∀ message ∈ source.queue, message.id < source.lastMessageID :=
    fun message member =>
      told.numbered.posted _ (waiting_id (List.mem_append_right _ member))
  have oldIds : ∀ id ∈ immediateIds taken, id < source.lastMessageID := by
    intro id member
    obtain ⟨delivery, inside, rfl⟩ := List.mem_map.mp member
    exact told.delivered delivery (List.mem_filter.mp inside).1
  cases moves with
  | @posted delay interval now =>
      constructor
      · exact insert_sorted orderly.queue (fun other member _ => oldQueue other member)
      · exact orderly.batch
      · intro first inBatch second inQueue atOnce atOnce'
        rcases insert_mem.mp inQueue with rfl | inOld
        · exact told.numbered.posted _ (waiting_id (List.mem_append_left _ inBatch))
        · exact orderly.between first inBatch second inOld atOnce atOnce'
      · exact orderly.running
      · intro id member message waiting atOnce
        rw [immediateIds_snoc, List.filter_nil, List.map_nil, List.append_nil] at member
        rcases List.mem_append.mp waiting with inBatch | inQueue
        · exact orderly.behind id member message (List.mem_append_left _ inBatch) atOnce
        · rcases insert_mem.mp inQueue with rfl | inOld
          · exact oldIds id member
          · exact orderly.behind id member message (List.mem_append_right _ inOld) atOnce
      · rw [immediateIds_snoc, List.filter_nil, List.map_nil, List.append_nil]
        exact orderly.ordered
  | cancelled =>
      constructor
      · exact orderly.queue.filter _
      · exact orderly.batch
      · exact fun first inBatch second inQueue =>
          orderly.between first inBatch second (List.mem_filter.mp inQueue).1
      · exact orderly.running
      · intro id member message waiting
        rw [immediateIds_snoc, List.filter_nil, List.map_nil, List.append_nil] at member
        apply orderly.behind id member message
        rcases List.mem_append.mp waiting with inBatch | inQueue
        · exact List.mem_append_left _ inBatch
        · exact List.mem_append_right _ (List.mem_filter.mp inQueue).1
      · rw [immediateIds_snoc, List.filter_nil, List.map_nil, List.append_nil]
        exact orderly.ordered
  | marked =>
      refine ⟨orderly.queue, orderly.batch, orderly.between, orderly.running, ?_, ?_⟩
      · rw [immediateIds_snoc, List.filter_nil, List.map_nil, List.append_nil]
        exact orderly.behind
      · rw [immediateIds_snoc, List.filter_nil, List.map_nil, List.append_nil]
        exact orderly.ordered
  | @woken now empty idle =>
      constructor
      · exact orderly.queue.filter _
      · exact orderly.queue.filter _
      · intro first _ second left _ atOnce
        have notDue := (List.mem_filter.mp left).2
        unfold Message.isDue at notDue
        rw [atOnce] at notDue
        cases notDue
      · intro message running
        exact orderly.running message running
      · intro id member message waiting
        rw [immediateIds_snoc, List.filter_nil, List.map_nil, List.append_nil] at member
        apply orderly.behind id member message
        rcases List.mem_append.mp waiting with inBatch | inQueue
        · exact List.mem_append_right _ (List.mem_filter.mp inBatch).1
        · exact List.mem_append_right _ (List.mem_filter.mp inQueue).1
      · rw [immediateIds_snoc, List.filter_nil, List.map_nil, List.append_nil]
        exact orderly.ordered
  | @started head rest now batch idle later positive =>
      have batchSorted := orderly.batch
      rw [batch] at batchSorted
      obtain ⟨headFirst, restSorted⟩ := List.pairwise_cons.mp batchSorted
      have headBatch : head ∈ source.batch := by
        rw [batch]
        exact List.mem_cons_self
      have stillWaiting : ∀ message ∈ rest ++ source.queue, message ∈ source.waiting := by
        intro message member
        unfold MessageThread.waiting
        rw [batch]
        exact List.mem_cons_of_mem _ member
      have headWaiting : head ∈ source.waiting := List.mem_append_left _ headBatch
      have headBehind : head.deliverAt = 0 → ∀ message ∈ rest ++ source.queue,
          message.deliverAt = 0 → head.id < message.id := by
        intro atOnce message member atOnce'
        rcases List.mem_append.mp member with inRest | inQueue
        · rcases headFirst message inRest with less | ⟨_, first⟩
          · omega
          · exact first atOnce'
        · exact orderly.between head headBatch message inQueue atOnce atOnce'
      constructor
      · exact orderly.queue
      · exact restSorted
      · intro first inRest
        apply orderly.between first
        rw [batch]
        exact List.mem_cons_of_mem _ inRest
      · intro message running
        cases running
        dsimp only
        split
        · exact positive
        · omega
      · intro id member message waiting atOnce
        rw [immediateIds_snoc] at member
        rcases List.mem_append.mp member with earlier | last
        · exact orderly.behind id earlier message (stillWaiting message waiting) atOnce
        · obtain ⟨delivery, inside, rfl⟩ := List.mem_map.mp last
          obtain ⟨only, immediate⟩ := List.mem_filter.mp inside
          rw [List.mem_singleton.mp only] at immediate ⊢
          exact headBehind (beq_iff_eq.mp immediate) message waiting atOnce
      · rw [immediateIds_snoc]
        apply List.pairwise_append.mpr
        refine ⟨orderly.ordered, ?_, ?_⟩
        · exact (List.pairwise_singleton _ _).filter _ |>.map _ (fun _ _ impossible => impossible)
        · intro id earlier id' last
          obtain ⟨delivery, inside, rfl⟩ := List.mem_map.mp last
          obtain ⟨only, immediate⟩ := List.mem_filter.mp inside
          rw [List.mem_singleton.mp only] at immediate ⊢
          exact orderly.behind id earlier head headWaiting (beq_iff_eq.mp immediate)
  | @finished message running =>
      have again : ∀ other ∈ (source.finish message).queue, other ∈ source.queue ∨
          0 < other.deliverAt := by
        intro other member
        unfold MessageThread.finish at member
        dsimp only at member
        split at member
        · rcases insert_mem.mp member with rfl | inOld
          · have ran := orderly.running message running
            exact .inr (by dsimp only; omega)
          · exact .inl inOld
        · exact .inl member
      constructor
      · unfold MessageThread.finish
        dsimp only
        split
        · apply insert_sorted orderly.queue
          intro other _ atOnce
          have ran := orderly.running message running
          dsimp only at atOnce
          omega
        · exact orderly.queue
      · exact orderly.batch
      · intro first inBatch second inQueue atOnce atOnce'
        rcases again second inQueue with inOld | later
        · exact orderly.between first inBatch second inOld atOnce atOnce'
        · omega
      · intro other impossible
        cases impossible
      · intro id member other waiting atOnce
        rw [immediateIds_snoc, List.filter_nil, List.map_nil, List.append_nil] at member
        rcases List.mem_append.mp waiting with inBatch | inQueue
        · exact orderly.behind id member other (List.mem_append_left _ inBatch) atOnce
        · rcases again other inQueue with inOld | later
          · exact orderly.behind id member other (List.mem_append_right _ inOld) atOnce
          · omega
      · rw [immediateIds_snoc, List.filter_nil, List.map_nil, List.append_nil]
        exact orderly.ordered

/-- The queue is always in the order of its times, and the messages for at once
are run in the order in which they were posted, each once. -/
theorem immediate_messages_run_in_order {taken : List Ticked} {state : MessageThread}
    (run : MessageRun taken state) :
    state.queue.Pairwise (fun first second => first.deliverAt ≤ second.deliverAt) ∧
      (immediateIds taken).Pairwise (· < ·) := by
  have orderly : Orderly taken state := by
    induction run with
    | nil => exact initial_orderly
    | snoc earlier fired ih => exact ih.step (told_of_run earlier) (step_moves fired)
  exact ⟨orderly.queue.imp Message.Before.le, orderly.ordered⟩

theorem two_messages_run_in_order :
    ∃ taken state, MessageRun taken state ∧ immediateIds taken = [1, 3] ∧
      (immediateIds taken).Pairwise (· < ·) := by
  have replayed : (LabelledMachine.replay MessageThread.step .initial
      [.post 0 0 1, .post 7 0 1, .post 0 0 2, .wake 9, .start 9, .finish, .start 9]).map
        (fun reached => immediateIds reached.1) = some [1, 3] := rfl
  obtain ⟨taken, state, run, ids⟩ := LabelledMachine.Run.of_replay_map replayed
  exact ⟨taken, state, run, ids, (immediate_messages_run_in_order run).2⟩

/-- Once the round of a wake is over, everything that was due has been run,
whatever was cancelled in between. -/
theorem due_messages_are_run {before after : List Ticked} {ticked : Ticked}
    {state : MessageThread} (run : MessageRun (before ++ ticked :: after) state) {now : Nat}
    (wake : ticked.label = .wake now) {message : Message}
    (queued : message ∈ ticked.source.queue) (due : message.isDue now = true)
    (ended : state.batch = []) :
    ∃ delivery ∈ LabelledMachine.history after, delivery.id = message.id := by
  have behind := run.behind
  have taken : message ∈ ticked.target.batch := by
    obtain ⟨_, fired⟩ := run.at_split
    obtain ⟨source, label, output, target⟩ := ticked
    dsimp only at wake fired queued ⊢
    subst wake
    cases step_moves fired with
    | woken => exact List.mem_filter.mpr ⟨queued, due⟩
  generalize ticked.target = first at behind taken
  have waits : message ∈ state.batch ∨
      ∃ delivery ∈ LabelledMachine.history after, delivery.id = message.id := by
    clear run ended
    induction behind with
    | nil => exact .inl taken
    | @snoc after source target label output _ fired ih =>
        rw [LabelledMachine.history_append]
        rcases ih with inBatch | ⟨delivery, ran, same⟩
        · cases step_moves fired with
          | posted => exact .inl inBatch
          | cancelled => exact .inl inBatch
          | marked => exact .inl inBatch
          | woken empty =>
              rw [empty] at inBatch
              cases inBatch
          | @started head rest now batch =>
              rw [batch] at inBatch
              rcases List.mem_cons.mp inBatch with first | inRest
              · refine .inr ⟨(source.start head rest now).1, List.mem_append_right _ ?_, ?_⟩
                · exact List.mem_singleton_self _
                · exact congrArg Message.id first.symm
              · exact .inl inRest
          | finished => exact .inl inBatch
        · exact .inr ⟨delivery, List.mem_append_left _ ran, same⟩
  rw [ended] at waits
  rcases waits with impossible | ran
  · cases impossible
  · exact ran

/-- The second message is cancelled while the first one is running. -/
theorem cancelled_message_is_run :
    ∃ before ticked after state, MessageRun (before ++ ticked :: after) state ∧
      (∃ later ∈ after, later.label = .cancel 2) ∧
      ∃ delivery ∈ LabelledMachine.history after, delivery.id = 2 := by
  have replayed : (LabelledMachine.replay MessageThread.step .initial
      [.post 0 0 1, .post 0 0 1, .wake 2, .start 2, .cancel 2, .finish, .start 3]).map
        (fun reached => (reached.1.map (fun ticked => (ticked.label, ticked.source.queue)),
          reached.2.batch)) =
    some ([(.post 0 0 1, []), (.post 0 0 1, [⟨1, 0, 0⟩])] ++
      (.wake 2, [⟨1, 0, 0⟩, ⟨2, 0, 0⟩]) ::
        [(.start 2, []), (.cancel 2, []), (.finish, []), (.start 3, [])], []) := rfl
  obtain ⟨taken, state, run, summary⟩ := LabelledMachine.Run.of_replay_map replayed
  rw [Prod.mk.injEq] at summary
  obtain ⟨before, rest, rfl, _, restFound⟩ := List.map_eq_append_iff.mp summary.1
  obtain ⟨ticked, after, rfl, same, afterFound⟩ := List.map_eq_cons_iff.mp restFound
  rw [Prod.mk.injEq] at same
  have queued : (⟨2, 0, 0⟩ : Message) ∈ ticked.source.queue := by
    rw [same.2]
    decide
  refine ⟨before, ticked, after, state, run, ?_,
    due_messages_are_run run same.1 queued rfl summary.2⟩
  have cancelled : (MessageLabel.cancel 2, ([] : List Message)) ∈
      after.map (fun ticked => (ticked.label, ticked.source.queue)) := by
    rw [afterFound]
    decide
  obtain ⟨later, member, found⟩ := List.mem_map.mp cancelled
  exact ⟨later, member, (Prod.mk.inj found).1⟩

end Tg2Sip.Voip
