/-
`MessageThread`: functions that are run at their times.

The queue is kept in the order of `deliverAt`.  When the thread wakes up it
takes everything that is due out of the queue and runs it; a periodic message
is put back when it has run.  The thread holds the lock all the while, so other
threads post and cancel only while it waits, and otherwise the message that is
running does.  Times are ticks of one clock, and `deliverAt` zero stands for at
once.  A message stands for its function.
-/

import Mathlib.Logic.Function.Basic
import Tg2Sip.Lib.Run

namespace Tg2Sip.Voip

structure Message where
  id : Nat
  deliverAt : Nat
  interval : Nat
  deriving DecidableEq, Repr

/-- `batch` is what is left of `msgsToDeliverNow`, and `current` is running. -/
structure MessageThread where
  queue : List Message
  batch : List Message
  current : Option Message
  cancelCurrent : Bool
  lastMessageID : Nat
  clock : Nat
  deriving DecidableEq, Repr

def MessageThread.initial : MessageThread := ⟨[], [], none, false, 1, 0⟩

/-- A function that was run: when it was to be run, and when it was. -/
structure Delivery where
  id : Nat
  due : Nat
  ranAt : Nat
  immediate : Bool
  deriving DecidableEq, Repr

/-- The loop of `InsertMessageInternal` over a queue that is not empty. -/
def insertBehind (message : Message) : List Message → List Message
  | [] => [message]
  | [last] => [last, message]
  | before :: next :: rest =>
      if next.deliverAt > message.deliverAt ∧ before.deliverAt ≤ message.deliverAt then
        before :: message :: next :: rest
      else before :: insertBehind message (next :: rest)

def insertMessageInternal (message : Message) : List Message → List Message
  | [] => [message]
  | first :: rest =>
      if first.deliverAt > message.deliverAt then message :: first :: rest
      else insertBehind message (first :: rest)

def Message.isDue (now : Nat) (message : Message) : Bool :=
  message.deliverAt == 0 || decide (now ≥ message.deliverAt)

/-- The thread waits, or one of its functions is running. -/
def MessageThread.accessible (self : MessageThread) : Bool :=
  self.batch.isEmpty || self.current.isSome

def MessageThread.post (self : MessageThread) (delay interval now : Nat) : MessageThread :=
  { self with
    queue := insertMessageInternal
      ⟨self.lastMessageID, if delay = 0 then 0 else now + delay, interval⟩ self.queue
    lastMessageID := self.lastMessageID + 1
    clock := now }

def MessageThread.cancel (self : MessageThread) (id : Nat) : MessageThread :=
  { self with queue := self.queue.filter (fun message => message.id != id) }

/-- What is due is taken out of the queue. -/
def MessageThread.wake (self : MessageThread) (now : Nat) : MessageThread :=
  { self with
    batch := self.queue.filter (Message.isDue now)
    queue := self.queue.filter (fun message => !message.isDue now)
    clock := now }

def MessageThread.start (self : MessageThread) (message : Message) (rest : List Message)
    (now : Nat) : Delivery × MessageThread :=
  let due := if message.deliverAt = 0 then now else message.deliverAt
  (⟨message.id, due, now, message.deliverAt == 0⟩,
    { self with
      batch := rest
      current := some { message with deliverAt := due }
      cancelCurrent := false
      clock := now })

def MessageThread.finish (self : MessageThread) (message : Message) : MessageThread :=
  { self with
    current := none
    queue :=
      if !self.cancelCurrent && decide (message.interval > 0) then
        insertMessageInternal { message with deliverAt := message.deliverAt + message.interval }
          self.queue
      else self.queue }

inductive MessageLabel where
  | post (delay interval now : Nat)
  | cancel (id : Nat)
  | cancelSelf
  | wake (now : Nat)
  | start (now : Nat)
  | finish
  deriving DecidableEq, Repr

/-- The clock is read, and does not go back. -/
def MessageThread.reads (self : MessageThread) (now : Nat) : Bool :=
  decide (0 < now) && decide (self.clock ≤ now)

def MessageThread.step : LabelledMachine.Step MessageThread MessageLabel Delivery :=
  fun self label =>
    match label with
    | .post delay interval now =>
        if self.accessible && self.reads now then some ([], self.post delay interval now) else none
    | .cancel id => if self.accessible then some ([], self.cancel id) else none
    | .cancelSelf =>
        if self.current.isSome then some ([], { self with cancelCurrent := true }) else none
    | .wake now =>
        if self.batch.isEmpty && self.current.isNone && self.reads now then
          some ([], self.wake now)
        else none
    | .start now =>
        match self.batch, self.current with
        | message :: rest, none =>
            if self.reads now then
              let started := self.start message rest now
              some ([started.1], started.2)
            else none
        | _, _ => none
    | .finish => self.current.map (fun message => ([], self.finish message))

abbrev Ticked := LabelledMachine.Transition MessageThread MessageLabel Delivery

abbrev MessageRun (taken : List Ticked) (state : MessageThread) : Prop :=
  LabelledMachine.Run MessageThread.step .initial taken state

theorem insertBehind_perm (message : Message) (queue : List Message) :
    (insertBehind message queue).Perm (message :: queue) := by
  fun_induction insertBehind message queue with
  | case1 => exact .refl _
  | case2 last => exact .swap _ _ _
  | case3 before next rest => exact .swap _ _ _
  | case4 before next rest _ ih => exact (List.Perm.cons before ih).trans (.swap _ _ _)

theorem insert_perm (message : Message) (queue : List Message) :
    (insertMessageInternal message queue).Perm (message :: queue) := by
  cases queue with
  | nil => exact .refl _
  | cons first rest =>
      unfold insertMessageInternal
      dsimp only
      split
      · exact .refl _
      · exact insertBehind_perm message (first :: rest)

/-- In the order of their times, and at once in the order in which they were posted. -/
def Message.Before (first second : Message) : Prop :=
  first.deliverAt < second.deliverAt ∨
    first.deliverAt = second.deliverAt ∧ (second.deliverAt = 0 → first.id < second.id)

theorem Message.Before.le {first second : Message} (before : first.Before second) :
    first.deliverAt ≤ second.deliverAt := by
  rcases before with less | ⟨same, _⟩
  · exact Nat.le_of_lt less
  · exact Nat.le_of_eq same

theorem insertBehind_sorted {message : Message} {queue : List Message}
    (sorted : queue.Pairwise Message.Before)
    (last : ∀ other ∈ queue, message.deliverAt = 0 → other.id < message.id)
    (first : ∀ other ∈ queue.head?, other.deliverAt ≤ message.deliverAt) :
    (insertBehind message queue).Pairwise Message.Before := by
  have behind : ∀ other ∈ queue, other.deliverAt ≤ message.deliverAt → other.Before message := by
    intro other member notLater
    rcases Nat.lt_or_eq_of_le notLater with less | same
    · exact .inl less
    · exact .inr ⟨same, last other member⟩
  fun_induction insertBehind message queue with
  | case1 => exact List.pairwise_singleton _ _
  | case2 only =>
      apply List.pairwise_pair.mpr
      exact behind only List.mem_cons_self (first only rfl)
  | case3 before next rest between =>
      obtain ⟨beforeAll, restSorted⟩ := List.pairwise_cons.mp sorted
      have later : ∀ other ∈ next :: rest, message.Before other := by
        intro other member
        rcases List.mem_cons.mp member with rfl | inRest
        · exact .inl between.1
        · have nextLe := ((List.pairwise_cons.mp restSorted).1 other inRest).le
          exact .inl (Nat.lt_of_lt_of_le between.1 nextLe)
      apply List.pairwise_cons.mpr
      constructor
      · intro other member
        rcases List.mem_cons.mp member with rfl | inRest
        · exact behind before List.mem_cons_self between.2
        · exact beforeAll other inRest
      · exact List.pairwise_cons.mpr ⟨later, restSorted⟩
  | case4 before next rest other ih =>
      obtain ⟨beforeAll, restSorted⟩ := List.pairwise_cons.mp sorted
      have beforeLe := first before rfl
      have nextLe : next.deliverAt ≤ message.deliverAt := by
        by_contra later
        exact other ⟨Nat.lt_of_not_le later, beforeLe⟩
      apply List.pairwise_cons.mpr
      constructor
      · intro one member
        rcases List.mem_cons.mp ((insertBehind_perm message _).mem_iff.mp member) with rfl | inRest
        · exact behind before List.mem_cons_self beforeLe
        · exact beforeAll one inRest
      · apply ih restSorted
        · exact fun one member => last one (List.mem_cons_of_mem _ member)
        · intro one same
          cases same
          exact nextLe
        · exact fun one member => behind one (List.mem_cons_of_mem _ member)

theorem insert_sorted {message : Message} {queue : List Message}
    (sorted : queue.Pairwise Message.Before)
    (last : ∀ other ∈ queue, message.deliverAt = 0 → other.id < message.id) :
    (insertMessageInternal message queue).Pairwise Message.Before := by
  cases queue with
  | nil => exact List.pairwise_singleton _ _
  | cons first rest =>
      unfold insertMessageInternal
      dsimp only
      split
      · rename_i earlier
        apply List.pairwise_cons.mpr
        refine ⟨?_, sorted⟩
        intro other member
        rcases List.mem_cons.mp member with rfl | inRest
        · exact .inl earlier
        · have firstLe := ((List.pairwise_cons.mp sorted).1 other inRest).le
          exact .inl (Nat.lt_of_lt_of_le earlier firstLe)
      · rename_i notEarlier
        apply insertBehind_sorted sorted last
        intro other same
        cases same
        exact Nat.le_of_not_gt notEarlier

end Tg2Sip.Voip
