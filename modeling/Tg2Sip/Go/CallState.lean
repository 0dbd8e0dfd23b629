/-
The state of a call.

Requests only queue an event, and the loop writes the state of each event into
the `Context` that it finds, whatever state that is in.  The states advance as
long as the events enter the queue in the order of a call.  Cleaning up needs no
such order: it happens once, and takes the `Context` out of the map.
-/

import Mathlib.Data.List.Chain
import Tg2Sip.Go.LifeCycle

namespace Tg2Sip.Go

def cleanUps (ref : Ref) (taken : List Transition) : Nat :=
  taken.countP (fun transition => transition.source.cleaned transition.label == some ref)

def Gateway.Removing (gateway : Gateway) (ref : Ref) : Prop :=
  match gateway.loop.phase with
  | .cleaning other _ => other = ref
  | .deleting key => gateway.calls.lookup key = some ref
  | _ => False

/-- No `Context` ever steps back, and one that has got to the end is out of the
map and was cleaned up once. -/
structure Advances (taken : List Transition) (state : Gateway) : Prop where
  forward : ∀ transition ∈ taken, ∀ (ref : Ref) (before : Context),
    transition.source.contexts[ref]? = some before →
      ∃ after : Context, transition.target.contexts[ref]? = some after ∧
        before.state.rank ≤ after.state.rank
  removed : ∀ (ref : Ref) (ctx : Context), state.contexts[ref]? = some ctx →
    ctx.state = .cleanup → ¬state.Removing ref →
      (∀ key, state.calls.lookup key ≠ some ref) ∧ cleanUps ref taken = 1

/-- Behind a clean-up anything may come. -/
def Follows (first second : CallState) : Prop := first = .cleanup ∨ first.rank ≤ second.rank

def Life.lookup (life : Life) (key : String) : Option Context :=
  (life.calls key).bind (fun ref => life.contexts[ref]?)

/-- The event that the loop will apply to what is found under its key. -/
def Life.inHand (life : Life) : List InternalEvent :=
  match life.phase with
  | .holding event => [event]
  | .applying ref event => if life.calls event.ctxID = some ref then [event] else []
  | _ => []

def statesFor (key : String) (events : List InternalEvent) : List CallState :=
  (events.filter (fun event => event.ctxID == key)).map (fun event => event.typ.state)

def Life.pending (life : Life) (key : String) : List CallState :=
  statesFor key (life.inHand ++ life.waiting)

/-- The state of the call under the key, and the ones that it will be given. -/
def Life.line (life : Life) (key : String) : List CallState :=
  ((life.lookup key).map Context.state).toList ++ life.pending key

/-- An event that the step queues is not below what is already known of its
key: the last event that waits for it, or else the state of its `Context`. -/
def InOrder (transition : Transition) : Prop :=
  ∀ event, transition.source.queued transition.label = some event →
    ∀ last, (transition.source.life.line event.ctxID).getLast? = some last →
      Follows last event.typ.state

def Phase.isClosing : Phase → Bool
  | .closing _ => true
  | _ => false

/-- Where a `Context` is in its life, by the number of times it was cleaned up. -/
inductive Life.Status (life : Life) (ref : Ref) (ctx : Context) (count : Nat) : Prop where
  | alive : ctx.state ≠ .cleanup → (life.phase.isClosing = false → count = 0) →
      Life.Status life ref ctx count
  | ending {key : String} : ctx.state = .cleanup → life.phase = .cleaning ref key → count = 0 →
      Life.Status life ref ctx count
  | finished : ctx.state = .cleanup → (∀ key, life.phase ≠ .cleaning ref key) →
      (∀ key, life.calls key = some ref → life.phase = .deleting key) → count = 1 →
      Life.Status life ref ctx count

structure Life.Sound (count : Ref → Nat) (life : Life) : Prop where
  keyed : ∀ key ref, life.calls key = some ref →
    ∃ ctx, life.contexts[ref]? = some ctx ∧ ctx.id = key
  applying : ∀ ref event, life.phase = .applying ref event →
    ∃ ctx, life.contexts[ref]? = some ctx ∧ ctx.id = event.ctxID ∧ ctx.state ≠ .cleanup
  cleaning : ∀ ref key, life.phase = .cleaning ref key →
    ∃ ctx, life.contexts[ref]? = some ctx ∧ ctx.id = key ∧ ctx.state = .cleanup
  closing : ∀ refs, life.phase = .closing refs → ∀ ref ∈ refs,
    ∃ ctx, life.contexts[ref]? = some ctx ∧ ctx.state ≠ .cleanup
  status : ∀ ref ctx, life.contexts[ref]? = some ctx → life.Status ref ctx (count ref)
  fresh : ∀ ref, life.contexts.length ≤ ref → count ref = 0

variable {life target : Life} {count : Ref → Nat} {ref : Ref} {ctx : Context}

def Phase.isStill : Phase → Bool
  | .idle => true
  | .holding _ => true
  | .applying _ _ => true
  | _ => false

theorem Life.Sound.unended (sound : life.Sound count) {key : String}
    (found : life.calls key = some ref) (present : life.contexts[ref]? = some ctx)
    (still : life.phase.isStill = true) : ctx.state ≠ .cleanup := by
  cases sound.status ref ctx present with
  | alive unended => exact unended
  | ending _ here =>
      rw [here] at still
      cases still
  | finished _ _ held =>
      rw [held key found] at still
      cases still

theorem Life.Status.move {n : Nat} (status : life.Status ref ctx n)
    (still : life.phase.isStill = true) {phase : Phase}
    (away : ∀ key, phase ≠ .cleaning ref key) (contexts : List Context)
    (waiting : List InternalEvent) :
    Life.Status { life with contexts := contexts, waiting := waiting, phase := phase } ref ctx
      n := by
  cases status with
  | alive unended uncleaned =>
      refine .alive unended (fun _ => uncleaned ?_)
      cases position : life.phase with
      | closing =>
          rw [position] at still
          cases still
      | _ => exact rfl
  | ending _ here =>
      rw [here] at still
      cases still
  | finished ended _ held once =>
      refine .finished ended away ?_ once
      intro key found
      rw [held key found] at still
      cases still

theorem Life.Sound.move (sound : life.Sound count) (still : life.phase.isStill = true)
    {phase : Phase} {waiting : List InternalEvent} (away : ∀ ref key, phase ≠ .cleaning ref key)
    (applying : ∀ ref event, phase = .applying ref event → life.calls event.ctxID = some ref)
    (closing : ∀ refs, phase = .closing refs → ∀ ref ∈ refs, ∃ key, life.calls key = some ref) :
    Life.Sound count (Life.at { life with waiting := waiting } phase) where
  keyed := sound.keyed
  applying := by
    intro ref event position
    have found := applying ref event position
    obtain ⟨ctx, present, named⟩ := sound.keyed _ ref found
    exact ⟨ctx, present, named, sound.unended found present still⟩
  cleaning := fun ref key wrong => absurd wrong (away ref key)
  closing := by
    intro refs position ref member
    obtain ⟨key, found⟩ := closing refs position ref member
    obtain ⟨ctx, present, _⟩ := sound.keyed key ref found
    exact ⟨ctx, present, sound.unended found present still⟩
  status := by
    intro ref ctx present
    exact (sound.status ref ctx present).move still (away ref) _ _
  fresh := sound.fresh

theorem register_older {old : Context} (present : life.contexts[ref]? = some old) :
    (life.register ctx).contexts[ref]? = some old := by
  unfold Life.register
  dsimp only
  rw [List.getElem?_append_left (List.getElem?_eq_some_iff.mp present).1]
  exact present

theorem register_newest : (life.register ctx).contexts[life.contexts.length]? = some ctx :=
  List.getElem?_concat_length

theorem register_calls_self : (life.register ctx).calls ctx.id = some life.contexts.length :=
  FiniteMap.insert_self _ _ _

theorem register_calls_of_ne {key : String} (different : key ≠ ctx.id) :
    (life.register ctx).calls key = life.calls key :=
  FiniteMap.insert_of_ne _ _ different

theorem register_cases {found : Context}
    (present : (life.register ctx).contexts[ref]? = some found) :
    life.contexts[ref]? = some found ∨ ref = life.contexts.length ∧ found = ctx := by
  rcases Nat.lt_or_ge ref life.contexts.length with inside | outside
  · left
    rw [← present]
    exact (List.getElem?_append_left inside).symm
  · right
    have bound : ref < (life.contexts ++ [ctx]).length := (List.getElem?_eq_some_iff.mp present).1
    rw [List.length_append, List.length_singleton] at bound
    have last : ref = life.contexts.length := Nat.le_antisymm (Nat.le_of_lt_succ bound) outside
    rw [last, register_newest] at present
    exact ⟨last, (Option.some.inj present).symm⟩

theorem register_calls_cases {key : String} (found : (life.register ctx).calls key = some ref) :
    key = ctx.id ∧ ref = life.contexts.length ∨ life.calls key = some ref := by
  by_cases same : key = ctx.id
  · rw [same, register_calls_self] at found
    exact .inl ⟨same, (Option.some.inj found).symm⟩
  · rw [register_calls_of_ne same] at found
    exact .inr found

theorem Life.Sound.register (sound : life.Sound count) (early : ctx.state.rank = 0) :
    (life.register ctx).Sound count := by
  constructor
  · intro key ref found
    rcases register_calls_cases found with ⟨own, newest⟩ | older
    · rw [newest]
      exact ⟨ctx, register_newest, own.symm⟩
    · obtain ⟨old, present, named⟩ := sound.keyed key ref older
      exact ⟨old, register_older present, named⟩
  · intro ref event position
    obtain ⟨old, present, known⟩ := sound.applying ref event position
    exact ⟨old, register_older present, known⟩
  · intro ref key position
    obtain ⟨old, present, known⟩ := sound.cleaning ref key position
    exact ⟨old, register_older present, known⟩
  · intro refs position ref member
    obtain ⟨old, present, known⟩ := sound.closing refs position ref member
    exact ⟨old, register_older present, known⟩
  · intro ref found present
    rcases register_cases present with older | ⟨newest, same⟩
    · cases sound.status ref found older with
      | alive unended uncleaned => exact .alive unended uncleaned
      | ending ended here none => exact .ending ended here none
      | finished ended away held once =>
          refine .finished ended away ?_ once
          intro key again
          rcases register_calls_cases again with ⟨_, newest⟩ | before
          · have allocated := (List.getElem?_eq_some_iff.mp older).1
            rw [newest] at allocated
            exact absurd allocated (Nat.lt_irrefl _)
          · exact held key before
    · subst same
      refine .alive ?_ (fun _ => sound.fresh ref (Nat.le_of_eq newest.symm))
      intro ended
      rw [ended] at early
      cases early
  · intro ref outside
    unfold Life.register at outside
    dsimp only at outside
    rw [List.length_append] at outside
    exact sound.fresh ref (Nat.le_trans (Nat.le_add_right _ _) outside)

theorem write_self {state : CallState} (present : life.contexts[ref]? = some ctx) :
    (life.write ref state).contexts[ref]? = some { ctx with state := state } := by
  unfold Life.write
  dsimp only
  rw [List.getElem?_modify_eq, present]
  exact rfl

theorem write_other {state : CallState} {other : Ref} (different : other ≠ ref) :
    (life.write ref state).contexts[other]? = life.contexts[other]? :=
  List.getElem?_modify_ne _ _ (Ne.symm different)

theorem Life.Sound.uncleaned (sound : life.Sound count)
    (present : life.contexts[ref]? = some ctx) (unended : ctx.state ≠ .cleanup)
    (running : life.phase.isClosing = false) : count ref = 0 := by
  cases sound.status ref ctx present with
  | alive _ uncleaned => exact uncleaned running
  | ending ended => exact absurd ended unended
  | finished ended => exact absurd ended unended

theorem write_cases {state : CallState} {other : Ref} {found : Context}
    (present : life.contexts[ref]? = some ctx)
    (there : (life.write ref state).contexts[other]? = some found) :
    other = ref ∧ found = { ctx with state := state } ∨
      other ≠ ref ∧ life.contexts[other]? = some found := by
  by_cases same : other = ref
  · rw [same, write_self present] at there
    exact .inl ⟨same, (Option.some.inj there).symm⟩
  · rw [write_other same] at there
    exact .inr ⟨same, there⟩

theorem Life.Sound.apply (sound : life.Sound count) {event : InternalEvent}
    (position : life.phase = .applying ref event) :
    Life.Sound count ((life.write ref event.typ.state).at
      (if event.typ = .cleanup then .cleaning ref event.ctxID else .idle)) := by
  obtain ⟨ctx, present, named, unended⟩ := sound.applying ref event position
  have still : life.phase.isStill = true := by
    rw [position]
    exact rfl
  have self : (life.write ref event.typ.state).contexts[ref]? =
      some { ctx with state := event.typ.state } := write_self present
  have idle : event.typ ≠ .cleanup → event.typ.state ≠ .cleanup := by
    cases event.typ <;> decide
  constructor
  · intro key other found
    obtain ⟨old, there, id⟩ := sound.keyed key other found
    by_cases same : other = ref
    · subst same
      rw [present] at there
      cases there
      exact ⟨_, self, id⟩
    · exact ⟨old, (write_other same).trans there, id⟩
  · intro other again wrong
    unfold Life.at at wrong
    dsimp only at wrong
    split at wrong <;> cases wrong
  · intro other key here
    unfold Life.at at here
    dsimp only at here
    split at here
    · rename_i isCleanup
      cases here
      refine ⟨_, self, named, ?_⟩
      dsimp only
      rw [isCleanup]
      exact rfl
    · cases here
  · intro refs wrong
    unfold Life.at at wrong
    dsimp only at wrong
    split at wrong <;> cases wrong
  · intro other old there
    rcases write_cases present there with ⟨own, written⟩ | ⟨different, before⟩
    · subst own written
      have uncleaned : count other = 0 := sound.uncleaned present unended (by rw [position]; rfl)
      by_cases isCleanup : event.typ = .cleanup
      · refine .ending ?_ (if_pos isCleanup) uncleaned
        dsimp only
        rw [isCleanup]
        exact rfl
      · exact .alive (idle isCleanup) (fun _ => uncleaned)
    · refine (sound.status other old before).move still ?_ _ _
      intro key here
      split at here
      · cases here
        exact different rfl
      · cases here
  · intro other outside
    change (life.contexts.modify ref _).length ≤ other at outside
    rw [List.length_modify] at outside
    exact sound.fresh other outside

theorem Life.Sound.fresh_counted (sound : life.Sound count)
    (present : life.contexts[ref]? = some ctx) {other : Ref}
    (outside : life.contexts.length ≤ other) :
    (count other + if some ref = some other then 1 else 0) = 0 := by
  have allocated := (List.getElem?_eq_some_iff.mp present).1
  have different : some ref ≠ some other := by
    intro same
    cases same
    exact absurd allocated (Nat.not_lt.mpr outside)
  rw [if_neg different, Nat.add_zero]
  exact sound.fresh other outside

theorem Life.Sound.clean (sound : life.Sound count) {key : String}
    (position : life.phase = .cleaning ref key) :
    Life.Sound (fun other => count other + if some ref = some other then 1 else 0)
      (life.at (.deleting key)) := by
  obtain ⟨ctx, present, named, ended⟩ := sound.cleaning ref key position
  constructor
  · exact sound.keyed
  · exact nofun
  · exact nofun
  · exact nofun
  · intro other found there
    by_cases same : ref = other
    · subst same
      rw [if_pos rfl]
      have found_eq : found = ctx := Option.some.inj (there.symm.trans present)
      subst found_eq
      have uncleaned : count ref = 0 := by
        cases sound.status ref found present with
        | alive unended => exact absurd ended unended
        | ending _ _ uncleaned => exact uncleaned
        | finished _ away => exact absurd position (away key)
      refine .finished ended nofun ?_ (by rw [uncleaned])
      intro again held
      obtain ⟨old, here, id⟩ := sound.keyed again ref held
      rw [present] at here
      cases here
      rw [← named, id]
      exact rfl
    · rw [if_neg (fun wrong => same (Option.some.inj wrong)), Nat.add_zero]
      cases sound.status other found there with
      | alive unended uncleaned => exact .alive unended (fun _ => uncleaned (by rw [position]; rfl))
      | ending _ here =>
          rw [position] at here
          cases here
          exact absurd rfl same
      | finished ended _ held once =>
          refine .finished ended nofun ?_ once
          intro again here
          have wrong := held again here
          rw [position] at wrong
          cases wrong
  · intro other outside
    exact sound.fresh_counted present outside

theorem Life.Sound.delete (sound : life.Sound count) {key : String}
    (position : life.phase = .deleting key) :
    Life.Sound count ((life.erase key).at .idle) := by
  have kept : ∀ {other : String} {ref : Ref}, FiniteMap.erase life.calls key other = some ref →
      other ≠ key ∧ life.calls other = some ref := by
    intro other ref found
    by_cases same : other = key
    · rw [same, FiniteMap.erase_self] at found
      cases found
    · rw [FiniteMap.erase_of_ne _ same] at found
      exact ⟨same, found⟩
  constructor
  · intro other ref found
    exact sound.keyed other ref (kept found).2
  · exact nofun
  · exact nofun
  · exact nofun
  · intro ref ctx present
    cases sound.status ref ctx present with
    | alive unended uncleaned => exact .alive unended (fun _ => uncleaned (by rw [position]; rfl))
    | ending _ here =>
        rw [position] at here
        cases here
    | finished ended _ held once =>
        refine .finished ended nofun ?_ once
        intro other found
        obtain ⟨different, before⟩ := kept found
        have same := held other before
        rw [position] at same
        cases same
        exact absurd rfl different
  · exact sound.fresh

theorem Life.Sound.close (sound : life.Sound count) {rest : List Ref}
    (position : life.phase = .closing (ref :: rest)) :
    Life.Sound (fun other => count other + if some ref = some other then 1 else 0)
      (life.at (.closing rest)) := by
  obtain ⟨ctx, present, unended⟩ := sound.closing _ position ref List.mem_cons_self
  constructor
  · exact sound.keyed
  · exact nofun
  · exact nofun
  · intro _ same
    cases same
    intro other member
    exact sound.closing _ position other (List.mem_cons_of_mem _ member)
  · intro other found there
    cases sound.status other found there with
    | alive unended => exact .alive unended nofun
    | ending _ here =>
        rw [position] at here
        cases here
    | finished ended _ held once =>
        have different : some ref ≠ some other := by
          intro same
          cases same
          have same : found = ctx := Option.some.inj (there.symm.trans present)
          rw [same] at ended
          exact unended ended
        rw [if_neg different, Nat.add_zero]
        refine .finished ended nofun ?_ once
        intro key here
        have wrong := held key here
        rw [position] at wrong
        cases wrong
  · intro other outside
    exact sound.fresh_counted present outside

theorem Life.Sound.queue (sound : life.Sound count) (event : InternalEvent) :
    (life.enqueue event).Sound count where
  keyed := sound.keyed
  applying := sound.applying
  cleaning := sound.cleaning
  closing := sound.closing
  status := by
    intro ref ctx present
    cases sound.status ref ctx present with
    | alive unended uncleaned => exact .alive unended uncleaned
    | ending ended here uncleaned => exact .ending ended here uncleaned
    | finished ended away held once => exact .finished ended away held once
  fresh := sound.fresh

theorem Life.Step.sound {queued : Option InternalEvent} {cleaned : Option Ref}
    (step : life.Step queued cleaned target) (sound : life.Sound count) :
    target.Sound (fun ref => count ref + if cleaned = some ref then 1 else 0) := by
  have uncounted : (fun ref => count ref + if none = some ref then 1 else 0) = count := by
    funext ref
    rw [if_neg (by nofun), Nat.add_zero]
  cases step with
  | clean position => exact sound.clean position
  | close position => exact sound.close position
  | stay =>
      rw [uncounted]
      exact sound
  | register early =>
      rw [uncounted]
      exact sound.register early
  | queue =>
      rw [uncounted]
      exact sound.queue _
  | @receive event rest position waiting =>
      rw [uncounted]
      exact sound.move (by rw [position]; rfl) nofun nofun nofun
  | @meet event ref position found =>
      rw [uncounted]
      refine sound.move (by rw [position]; rfl) nofun ?_ nofun
      intro other again same
      cases same
      exact found
  | @miss event position missing =>
      rw [uncounted]
      exact sound.move (by rw [position]; rfl) nofun nofun nofun
  | apply position =>
      rw [uncounted]
      exact sound.apply position
  | delete position =>
      rw [uncounted]
      exact sound.delete position
  | @shut refs position held =>
      rw [uncounted]
      refine sound.move (by rw [position]; rfl) nofun nofun ?_
      intro _ same
      cases same
      exact held

/-! ### One line for each key -/

theorem statesFor_append (key : String) (first second : List InternalEvent) :
    statesFor key (first ++ second) = statesFor key first ++ statesFor key second := by
  unfold statesFor
  rw [List.filter_append, List.map_append]

theorem statesFor_self (event : InternalEvent) :
    statesFor event.ctxID [event] = [event.typ.state] := by
  simp only [statesFor, List.filter_cons, beq_self_eq_true, if_true, List.filter_nil,
    List.map_cons, List.map_nil]

theorem statesFor_other {event : InternalEvent} {key : String} (different : event.ctxID ≠ key) :
    statesFor key [event] = [] := by
  simp only [statesFor, List.filter_cons, beq_eq_false_iff_ne.mpr different, Bool.false_eq_true,
    if_false, List.filter_nil, List.map_nil]

/-- The line of each key is in order, and so is the event about to be applied. -/
structure Life.Ordered (life : Life) : Prop where
  chain : ∀ key, (life.line key).IsChain Follows
  step : ∀ ref event, life.phase = .applying ref event →
    ∀ ctx : Context, life.contexts[ref]? = some ctx → ctx.state.rank ≤ event.typ.state.rank

theorem Life.Ordered.of_suffix (ordered : life.Ordered)
    (suffix : ∀ key, target.line key <:+ life.line key)
    (moved : ∀ ref event, target.phase ≠ .applying ref event) : target.Ordered where
  chain := fun key => (ordered.chain key).suffix (suffix key)
  step := fun ref event wrong => absurd wrong (moved ref event)

theorem line_at {phase : Phase} {waiting : List InternalEvent}
    (events : (Life.at { life with waiting := waiting } phase).inHand ++ waiting =
      life.inHand ++ life.waiting) (key : String) :
    (Life.at { life with waiting := waiting } phase).line key = life.line key := by
  have pending : (Life.at { life with waiting := waiting } phase).pending key =
      life.pending key := congrArg (statesFor key) events
  unfold Life.line
  rw [pending]
  exact rfl

theorem line_of_found {key : String} (found : life.calls key = some ref)
    (present : life.contexts[ref]? = some ctx) :
    life.line key = ctx.state :: life.pending key := by
  unfold Life.line Life.lookup
  rw [found, Option.bind_some, present]
  exact rfl

theorem pending_of_inHand {event : InternalEvent} (held : life.inHand = [event]) :
    life.pending event.ctxID = event.typ.state :: statesFor event.ctxID life.waiting := by
  unfold Life.pending
  rw [held, statesFor_append, statesFor_self]
  exact rfl

theorem inHand_at {phase : Phase} (position : life.phase = phase) :
    life.inHand = (life.at phase).inHand := by
  rw [← position]
  exact rfl

theorem inHand_of_applying {event : InternalEvent} (position : life.phase = .applying ref event) :
    life.inHand = if life.calls event.ctxID = some ref then [event] else [] :=
  inHand_at position

/-- A `Context` that is registered may take an event for its key out of the
loop's hand. -/
theorem inHand_register (sound : life.Sound count) (ctx : Context) :
    (life.register ctx).inHand = life.inHand ∨
      (life.register ctx).inHand = [] ∧ ∃ event, life.inHand = [event] ∧
        event.ctxID = ctx.id := by
  cases position : life.phase with
  | applying ref event =>
      rw [inHand_of_applying position,
        inHand_of_applying (show (life.register ctx).phase = .applying ref event from position)]
      by_cases own : event.ctxID = ctx.id
      · obtain ⟨old, present, _⟩ := sound.applying ref event position
        have allocated := (List.getElem?_eq_some_iff.mp present).1
        have moved : (life.register ctx).calls event.ctxID ≠ some ref := by
          rw [own, register_calls_self]
          intro same
          cases same
          exact Nat.lt_irrefl _ allocated
        rw [if_neg moved]
        by_cases held : life.calls event.ctxID = some ref
        · rw [if_pos held]
          exact .inr ⟨rfl, event, rfl, own⟩
        · rw [if_neg held]
          exact .inl rfl
      · rw [register_calls_of_ne own]
        exact .inl rfl
  | _ =>
      left
      unfold Life.inHand Life.register
      dsimp only
      rw [position]

theorem pending_register (sound : life.Sound count) (ctx : Context) (key : String) :
    (life.register ctx).pending key <:+ life.pending key := by
  unfold Life.pending
  rw [statesFor_append, statesFor_append]
  rcases inHand_register sound ctx with same | ⟨empty, _⟩
  · rw [same]
    exact List.suffix_refl _
  · rw [empty]
    exact List.suffix_append _ _

theorem pending_register_of_ne (sound : life.Sound count) {key : String}
    (different : key ≠ ctx.id) : (life.register ctx).pending key = life.pending key := by
  unfold Life.pending
  rw [statesFor_append, statesFor_append]
  rcases inHand_register sound ctx with same | ⟨empty, event, held, own⟩
  · rw [same]
    exact rfl
  · have other : event.ctxID ≠ key := by
      rw [own]
      exact Ne.symm different
    rw [empty, held, statesFor_other other]
    exact rfl

theorem lookup_register_of_ne (sound : life.Sound count) {key : String}
    (different : key ≠ ctx.id) : (life.register ctx).lookup key = life.lookup key := by
  unfold Life.lookup
  rw [register_calls_of_ne different]
  cases found : life.calls key with
  | none => exact rfl
  | some ref =>
      obtain ⟨old, present, _⟩ := sound.keyed key ref found
      rw [Option.bind_some, Option.bind_some, present]
      exact register_older present

theorem Life.Ordered.register (sound : life.Sound count) (ordered : life.Ordered)
    (early : ctx.state.rank = 0) : (life.register ctx).Ordered := by
  constructor
  · intro key
    by_cases own : key = ctx.id
    · subst own
      rw [line_of_found register_calls_self register_newest]
      have shorter : (life.register ctx).pending ctx.id <:+ life.line ctx.id :=
        (pending_register sound ctx ctx.id).trans (List.suffix_append _ _)
      apply ((ordered.chain ctx.id).suffix shorter).cons
      intro next _
      exact .inr (early ▸ Nat.zero_le _)
    · have same : (life.register ctx).line key = life.line key := by
        unfold Life.line
        rw [lookup_register_of_ne sound own, pending_register_of_ne sound own]
      rw [same]
      exact ordered.chain key
  · intro ref event position found present
    obtain ⟨old, there, _⟩ := sound.applying ref event position
    rw [register_older there] at present
    cases present
    exact ordered.step ref event position found there

theorem Life.Ordered.meet (sound : life.Sound count) (ordered : life.Ordered)
    {event : InternalEvent} (position : life.phase = .holding event)
    (found : life.calls event.ctxID = some ref) :
    (life.at (.applying ref event)).Ordered := by
  have before : life.inHand = [event] := inHand_at position
  have after : (life.at (.applying ref event)).inHand = [event] := if_pos found
  constructor
  · intro key
    have same : (life.at (.applying ref event)).line key = life.line key := by
      apply line_at
      rw [before]
      exact congrArg (fun events => events ++ life.waiting) after
    rw [same]
    exact ordered.chain key
  · intro other again same
    cases same
    intro ctx present
    have chain := ordered.chain event.ctxID
    rw [line_of_found found present, pending_of_inHand before] at chain
    rcases (List.isChain_cons_cons.mp chain).1 with ended | forward
    · have unended := sound.unended found present (by rw [position]; rfl)
      exact absurd ended unended
    · exact forward

theorem Life.Ordered.miss (ordered : life.Ordered) {event : InternalEvent}
    (position : life.phase = .holding event) (missing : life.calls event.ctxID = none) :
    (life.at .idle).Ordered := by
  refine ordered.of_suffix ?_ nofun
  intro key
  have before : life.pending key = statesFor key [event] ++ statesFor key life.waiting := by
    unfold Life.pending
    rw [inHand_at position, statesFor_append]
    exact rfl
  unfold Life.line
  rw [before]
  by_cases own : event.ctxID = key
  · subst own
    have nobody : life.lookup event.ctxID = none := by
      unfold Life.lookup
      rw [missing, Option.bind_none]
    have still : (life.at .idle).lookup event.ctxID = none := nobody
    rw [nobody, still]
    exact List.suffix_append _ _
  · rw [statesFor_other own]
    exact List.suffix_refl _

theorem Life.Ordered.delete (ordered : life.Ordered) {key : String}
    (position : life.phase = .deleting key) :
    ((life.erase key).at .idle).Ordered := by
  refine ordered.of_suffix ?_ nofun
  intro other
  have before : life.pending other = statesFor other life.waiting := by
    unfold Life.pending
    rw [inHand_at position]
    exact rfl
  unfold Life.line
  rw [before]
  by_cases own : other = key
  · have nobody : ((life.erase key).at .idle).lookup other = none := by
      unfold Life.lookup Life.erase Life.at
      dsimp only
      rw [own, FiniteMap.erase_self, Option.bind_none]
    rw [nobody]
    exact List.suffix_append _ _
  · have same : ((life.erase key).at .idle).lookup other = life.lookup other := by
      unfold Life.lookup Life.erase Life.at
      dsimp only
      rw [FiniteMap.erase_of_ne _ own]
    rw [same]
    exact List.suffix_refl _

theorem Life.Ordered.queue (ordered : life.Ordered) {event : InternalEvent}
    (admitted : ∀ last, (life.line event.ctxID).getLast? = some last →
      Follows last event.typ.state) :
    (life.enqueue event).Ordered := by
  constructor
  · intro key
    have longer : (life.enqueue event).line key =
        life.line key ++ statesFor key [event] := by
      unfold Life.line
      have same : (life.enqueue event).pending key =
          life.pending key ++ statesFor key [event] := by
        unfold Life.pending
        rw [← statesFor_append, List.append_assoc]
        exact rfl
      rw [same, List.append_assoc]
      exact rfl
    rw [longer]
    by_cases own : event.ctxID = key
    · subst own
      rw [statesFor_self]
      apply (ordered.chain event.ctxID).append (List.isChain_singleton _)
      intro last isLast first isFirst
      cases isFirst
      exact admitted last isLast
    · rw [statesFor_other own, List.append_nil]
      exact ordered.chain key
  · exact ordered.step

theorem lookup_write {key : String} {state : CallState} (away : life.calls key ≠ some ref) :
    (life.write ref state).lookup key = life.lookup key := by
  unfold Life.lookup
  change (life.calls key).bind _ = _
  cases found : life.calls key with
  | none => exact rfl
  | some other =>
      rw [Option.bind_some, Option.bind_some]
      apply write_other
      intro same
      rw [found, same] at away
      exact away rfl

theorem Life.Ordered.apply (sound : life.Sound count) (ordered : life.Ordered)
    {event : InternalEvent} (position : life.phase = .applying ref event) :
    Life.Ordered ((life.write ref event.typ.state).at
      (if event.typ = .cleanup then .cleaning ref event.ctxID else .idle)) := by
  obtain ⟨ctx, present, named, _⟩ := sound.applying ref event position
  have after : ∀ key, Life.pending ((life.write ref event.typ.state).at
      (if event.typ = .cleanup then .cleaning ref event.ctxID else .idle)) key =
        statesFor key life.waiting := by
    intro key
    by_cases isCleanup : event.typ = .cleanup
    · rw [if_pos isCleanup]
      exact rfl
    · rw [if_neg isCleanup]
      exact rfl
  constructor
  · intro key
    have chain := ordered.chain key
    by_cases own : life.calls key = some ref
    · obtain ⟨same, there, id⟩ := sound.keyed key ref own
      rw [present] at there
      cases there
      have isKey : event.ctxID = key := named.symm.trans id
      subst isKey
      have held : life.inHand = [event] := (inHand_of_applying position).trans (if_pos own)
      rw [line_of_found own present, pending_of_inHand held] at chain
      have front := line_of_found
        (show ((life.write ref event.typ.state).at (if event.typ = .cleanup then
          .cleaning ref event.ctxID else .idle)).calls event.ctxID = some ref from own)
        (write_self present)
      rw [front, after]
      exact (List.isChain_cons_cons.mp chain).2
    · have before : life.pending key = statesFor key life.waiting := by
        unfold Life.pending
        rw [statesFor_append, inHand_of_applying position]
        by_cases held : life.calls event.ctxID = some ref
        · have other : event.ctxID ≠ key := by
            rintro rfl
            exact own held
          rw [if_pos held, statesFor_other other]
          exact rfl
        · rw [if_neg held]
          exact rfl
      unfold Life.line at chain ⊢
      rw [before] at chain
      rw [after key]
      have same : (life.write ref event.typ.state).lookup key = life.lookup key :=
        lookup_write own
      unfold Life.lookup at same chain ⊢
      rw [← same] at chain
      exact chain
  · intro other again wrong
    unfold Life.at at wrong
    dsimp only at wrong
    split at wrong <;> cases wrong

theorem Life.Step.ordered {queued : Option InternalEvent} {cleaned : Option Ref}
    (step : life.Step queued cleaned target) (sound : life.Sound count)
    (ordered : life.Ordered)
    (admitted : ∀ event, queued = some event → ∀ last,
      (life.line event.ctxID).getLast? = some last → Follows last event.typ.state) :
    target.Ordered := by
  have moved : ∀ {phase : Phase} {waiting : List InternalEvent},
      (Life.at { life with waiting := waiting } phase).inHand ++ waiting =
        life.inHand ++ life.waiting → (∀ ref event, phase ≠ .applying ref event) →
      (Life.at { life with waiting := waiting } phase).Ordered := by
    intro phase waiting events still
    exact ordered.of_suffix (fun key => ⟨[], line_at events key⟩) still
  cases step with
  | stay => exact ordered
  | register early => exact ordered.register sound early
  | @queue event => exact ordered.queue (admitted event rfl)
  | @receive event rest position waiting =>
      refine moved ?_ nofun
      rw [inHand_at position, waiting]
      exact rfl
  | meet position found => exact ordered.meet sound position found
  | miss position missing => exact ordered.miss position missing
  | apply position => exact ordered.apply sound position
  | clean position =>
      refine moved ?_ nofun
      rw [inHand_at position]
      exact rfl
  | delete position => exact ordered.delete position
  | shut position =>
      refine moved ?_ nofun
      rw [inHand_at position]
      exact rfl
  | close position =>
      refine moved ?_ nofun
      rw [inHand_at position]
      exact rfl

theorem Life.Step.forward {queued : Option InternalEvent} {cleaned : Option Ref}
    (step : life.Step queued cleaned target) (ordered : life.Ordered)
    (present : life.contexts[ref]? = some ctx) :
    ∃ after : Context, target.contexts[ref]? = some after ∧
      ctx.state.rank ≤ after.state.rank := by
  cases step with
  | register => exact ⟨ctx, register_older present, Nat.le_refl _⟩
  | @apply other event position =>
      by_cases same : ref = other
      · subst same
        exact ⟨_, write_self present, ordered.step ref event position ctx present⟩
      · exact ⟨ctx, (write_other same).trans present, Nat.le_refl _⟩
  | _ => exact ⟨ctx, present, Nat.le_refl _⟩

/-! ### Whole runs -/

section WholeRuns

variable {extraWait peerFlood : Int} {taken : List Transition} {state : Gateway}

theorem cleanUps_snoc (ref : Ref) (taken : List Transition) (transition : Transition) :
    cleanUps ref (taken ++ [transition]) =
      cleanUps ref taken +
        if transition.source.cleaned transition.label = some ref then 1 else 0 := by
  unfold cleanUps
  rw [List.countP_append, List.countP_singleton]
  simp only [beq_iff_eq]

theorem run_sound (run : Run (Gateway.initial extraWait peerFlood) taken state) :
    state.life.Sound (fun ref => cleanUps ref taken) := by
  induction run with
  | nil =>
      constructor
      · exact nofun
      · exact nofun
      · exact nofun
      · exact nofun
      · exact nofun
      · exact fun _ _ => rfl
  | @snoc taken source target label output earlier fired ih =>
      have kept := (step_stepped fired).life.sound ih
      have counted : (fun ref => cleanUps ref (taken ++ [⟨source, label, output, target⟩])) =
          fun ref => cleanUps ref taken + if source.cleaned label = some ref then 1 else 0 := by
        funext ref
        exact cleanUps_snoc ref taken _
      rw [counted]
      exact kept

theorem run_ordered_lines (run : Run (Gateway.initial extraWait peerFlood) taken state)
    (inOrder : ∀ transition ∈ taken, InOrder transition) : state.life.Ordered := by
  induction run with
  | nil =>
      constructor
      · exact fun key => List.isChain_nil
      · exact nofun
  | @snoc taken source target label output earlier fired ih =>
      have ordered := ih (fun other inside => inOrder other (List.mem_append_left _ inside))
      have admitted := inOrder _ (List.mem_append_right _ List.mem_cons_self)
      exact (step_stepped fired).life.ordered (run_sound earlier) ordered admitted

/-- The states of a run advance when every internal event is queued in the
order of its call. -/
theorem call_states_advance (run : Run (Gateway.initial extraWait peerFlood) taken state)
    (inOrder : ∀ transition ∈ taken, InOrder transition) : Advances taken state := by
  constructor
  · intro transition member ref before present
    obtain ⟨earlier, later, shape, reached, fired⟩ := run.split member
    have admitted : ∀ transition ∈ earlier, InOrder transition := by
      intro other inside
      apply inOrder
      rw [shape]
      exact List.mem_append_left _ inside
    exact (step_stepped fired).life.forward (run_ordered_lines reached admitted) present
  · intro ref ctx present ended outside
    cases (run_sound run).status ref ctx present with
    | alive unended => exact absurd ended unended
    | @ending key _ here =>
        apply absurd _ outside
        unfold Gateway.Removing
        rw [show state.loop.phase = .cleaning ref key from here]
    | finished _ _ held once =>
        refine ⟨?_, once⟩
        intro key found
        apply outside
        unfold Gateway.Removing
        rw [show state.loop.phase = .deleting key from held key found]
        exact found

end WholeRuns

instance (first second : CallState) : Decidable (Follows first second) :=
  inferInstanceAs (Decidable (first = .cleanup ∨ first.rank ≤ second.rank))

theorem inOrder_iff {transition : Transition} :
    (transition.source.queued transition.label).all (fun event =>
        (transition.source.life.line event.ctxID).getLast?.all (fun last =>
          decide (Follows last event.typ.state))) = true ↔ InOrder transition := by
  unfold InOrder
  simp only [Option.all_eq_true, decide_eq_true_eq]

instance : DecidablePred InOrder := fun _ => decidable_of_iff _ inOrder_iff

def sampleArrival : List Label :=
  [Label.request { method := .invite, callID := "a" }, .handler 0 {},
    .handler 0 { parse := .ok (some 11) }, .handler 0 { createCall := .ok 9 }] ++
    List.replicate 6 (Label.handler 0 {}) ++ [.receiveInternal, .loop {}, .loop {}]

def sampleLater (method : Method) (index : Nat) : List Label :=
  [Label.request { method := method, callID := "a" }, .handler index {}, .handler index {},
    .receiveInternal, .loop {}, .loop {}]

/-- INVITE, ACK, INFO and BYE, up to the end of the clean-up. -/
theorem call_states_advance_to_bye :
    ∃ taken state, Run (Gateway.initial 0 0) taken state ∧
      (∀ transition ∈ taken, InOrder transition) ∧
      state.contexts.map Context.state = [.cleanup] ∧ Advances taken state := by
  have replayed : LabelledMachine.replay Gateway.step (Gateway.initial 0 0)
      (sampleArrival ++ sampleLater .ack 1 ++ sampleLater .info 2 ++ sampleLater .bye 3 ++
        List.replicate 5 (Label.loop {})) = some (_, _) := rfl
  have run := LabelledMachine.Run.of_replay replayed
  have inOrder := LabelledMachine.replay_forall InOrder replayed (by decide)
  exact ⟨_, _, run, inOrder, rfl, call_states_advance run inOrder⟩

/-- An ACK behind an INFO takes the call back to `StateWaitMedia`. -/
theorem call_state_steps_back :
    ¬∀ taken state, Run (Gateway.initial 0 0) taken state → Advances taken state := by
  intro always
  have replayed : LabelledMachine.replay Gateway.step (Gateway.initial 0 0)
      (sampleArrival ++ sampleLater .info 1 ++ (sampleLater .ack 2).dropLast) = some (_, _) := rfl
  have reached : ∃ taken state output target, Run (Gateway.initial 0 0) taken state ∧
      Gateway.step state (.loop {}) = some (output, target) ∧
        state.contexts.map Context.state = [.waitDTMF] ∧
          target.contexts.map Context.state = [.waitMedia] :=
    ⟨_, _, _, _, LabelledMachine.Run.of_replay replayed, rfl, rfl, rfl⟩
  obtain ⟨taken, state, output, target, run, fired, waitsDTMF, waitsMedia⟩ := reached
  obtain ⟨before, alone, waiting⟩ := List.map_eq_singleton_iff.mp waitsDTMF
  obtain ⟨after, single, talking⟩ := List.map_eq_singleton_iff.mp waitsMedia
  have present : state.contexts[0]? = some before := by
    rw [alone]
    exact rfl
  have last := List.mem_append_right taken
    (List.mem_singleton_self ⟨state, .loop {}, output, target⟩)
  obtain ⟨_, there, advanced⟩ := (always _ _ (run.snoc fired)).forward _ last 0 before present
  rw [single] at there
  cases there
  rw [waiting, talking] at advanced
  exact absurd advanced (by decide)

end Tg2Sip.Go
