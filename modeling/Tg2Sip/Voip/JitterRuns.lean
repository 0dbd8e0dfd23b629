/-
What the jitter buffer plays.

Every slot in use has a buffer of its own, and no two of them have the same
timestamp.  Whatever the calls, a packet that is played is the one that was put
last under its timestamp, and it is played once.  With room for two packets a
packet that is put is always stored.
-/

import Tg2Sip.Voip.JitterBuffer

namespace Tg2Sip.Voip

structure JitterBuffer.Sound (state : JitterBuffer) : Prop where
  owned : Ownership.Owned (fun buffer => state.bufferPool.used buffer = true)
    (fun i => (state.slots i).buffer)
  distinct : ∀ i j, (state.slots i).buffer.isSome → (state.slots j).buffer.isSome →
    (state.slots i).timestamp = (state.slots j).timestamp → i = j

structure JitterBuffer.Has (state : JitterBuffer) (i : Fin 64) (timestamp : Timestamp)
    (data : Bytes) (isEC : Bool) : Prop where
  buffer : ∃ buffer, (state.slots i).buffer = some buffer ∧
    (state.memory buffer).take (state.slots i).size = data
  timestamp : (state.slots i).timestamp = timestamp
  isEC : (state.slots i).isEC = isEC

def JitterBuffer.Holds (self : JitterBuffer) (timestamp : Timestamp) (data : Bytes)
    (isEC : Bool) : Prop := ∃ i, self.Has i timestamp data isEC

variable {config : JitterConfig} {self source target : JitterBuffer}

theorem initial_sound_jitter (minMinDelay : Nat) : (JitterBuffer.initial minMinDelay).Sound where
  owned := by
    have unused : (fun buffer => (JitterBuffer.initial minMinDelay).bufferPool.used buffer = true) =
        fun _ => False := by
      funext buffer
      unfold JitterBuffer.initial BufferPool.empty BufferPool.used
      simp
    rw [unused]
    exact Ownership.Owned.none
  distinct _ _ impossible := by cases impossible

theorem JitterBuffer.Sound.unique (sound : self.Sound) {timestamp : Timestamp}
    {data data' : Bytes} {isEC isEC' : Bool} (holds : self.Holds timestamp data isEC)
    (holds' : self.Holds timestamp data' isEC') : data = data' ∧ isEC = isEC' := by
  obtain ⟨i, ⟨buffer, used, content⟩, filed, sort⟩ := holds
  obtain ⟨j, ⟨buffer', used', content'⟩, filed', sort'⟩ := holds'
  have same : i = j := by
    apply sound.distinct
    · rw [used]
      rfl
    · rw [used']
      rfl
    · rw [filed, filed']
  subst same
  rw [used] at used'
  cases used'
  exact ⟨content.symm.trans content', sort.symm.trans sort'⟩

structure Narrows (source target : JitterBuffer) : Prop where
  sound : source.Sound → target.Sound
  has : ∀ {i timestamp data isEC}, target.Has i timestamp data isEC →
    source.Has i timestamp data isEC

theorem Narrows.holds (narrows : Narrows source target) {timestamp : Timestamp} {data : Bytes}
    {isEC : Bool} (holds : target.Holds timestamp data isEC) :
    source.Holds timestamp data isEC := by
  obtain ⟨i, has⟩ := holds
  exact ⟨i, narrows.has has⟩

theorem Narrows.refl (self : JitterBuffer) : Narrows self self := ⟨id, id⟩

theorem Narrows.trans {middle : JitterBuffer} (first : Narrows source middle)
    (second : Narrows middle target) : Narrows source target :=
  ⟨fun sound => second.sound (first.sound sound), fun has => first.has (second.has has)⟩

theorem Narrows.of_same (pools : target.bufferPool = source.bufferPool)
    (memories : target.memory = source.memory) (slots : target.slots = source.slots) :
    Narrows source target := by
  constructor
  · intro sound
    constructor
    · rw [pools, slots]
      exact sound.owned
    · rw [slots]
      exact sound.distinct
  · rintro i timestamp data isEC ⟨buffer, filed, sort⟩
    rw [slots] at buffer filed sort
    rw [memories] at buffer
    exact ⟨buffer, filed, sort⟩

theorem released_slot (self : JitterBuffer) (i : Fin 64) :
    ((self.release i).slots i).buffer = none := by
  unfold JitterBuffer.release
  split
  · assumption
  · dsimp only
    rw [Function.update_self]

theorem released_other (self : JitterBuffer) {i j : Fin 64} (different : j ≠ i) :
    (self.release i).slots j = self.slots j := by
  unfold JitterBuffer.release
  split
  · rfl
  · dsimp only
    rw [Function.update_of_ne different]

theorem released_memory (self : JitterBuffer) (i : Fin 64) :
    (self.release i).memory = self.memory := by
  unfold JitterBuffer.release
  split <;> rfl

theorem release_narrows (self : JitterBuffer) (i : Fin 64) : Narrows self (self.release i) := by
  constructor
  · intro sound
    constructor
    · cases held : (self.slots i).buffer with
      | none =>
          have same : self.release i = self := by
            unfold JitterBuffer.release
            rw [held]
          rw [same]
          exact sound.owned
      | some buffer =>
          have owned := sound.owned.release held
          have used : (fun other => (self.release i).bufferPool.used other = true) =
              fun other => self.bufferPool.used other = true ∧ other ≠ buffer := by
            funext other
            unfold JitterBuffer.release
            rw [held]
            dsimp only
            rw [used_reuse (Nat.le_refl 64), Bool.and_eq_true, Bool.not_eq_true',
              decide_eq_false_iff_not]
          have buffers : (fun j => ((self.release i).slots j).buffer) =
              Function.update (fun j => (self.slots j).buffer) i none := by
            funext j
            by_cases same : j = i
            · rw [same, released_slot, Function.update_self]
            · rw [released_other self same, Function.update_of_ne same]
          rw [used, buffers]
          exact owned
    · intro first second inUse inUse' filed
      have firstOther : first ≠ i := by
        rintro rfl
        rw [released_slot] at inUse
        cases inUse
      have secondOther : second ≠ i := by
        rintro rfl
        rw [released_slot] at inUse'
        cases inUse'
      rw [released_other self firstOther] at inUse filed
      rw [released_other self secondOther] at inUse' filed
      exact sound.distinct first second inUse inUse' filed
  · rintro j timestamp data isEC ⟨⟨buffer, used, content⟩, filed, sort⟩
    have other : j ≠ i := by
      rintro rfl
      rw [released_slot] at used
      cases used
    rw [released_other self other] at used content filed sort
    rw [released_memory] at content
    exact ⟨⟨buffer, used, content⟩, filed, sort⟩

theorem releaseWhere_narrows (self : JitterBuffer) (chosen : JitterSlot → Bool) :
    Narrows self (self.releaseWhere chosen) := by
  unfold JitterBuffer.releaseWhere
  generalize List.finRange 64 = slots
  induction slots generalizing self with
  | nil => exact .refl self
  | cons i rest ih =>
      rw [List.foldl_cons]
      split
      · exact (release_narrows self i).trans (ih _)
      · exact ih self

theorem advance_narrows (self : JitterBuffer) : Narrows self (self.advance config) :=
  .of_same rfl rfl rfl

theorem restart_narrows (self : JitterBuffer) : Narrows self self.restart := .of_same rfl rfl rfl

theorem reset_narrows (self : JitterBuffer) : Narrows self self.reset :=
  (releaseWhere_narrows self _).trans (restart_narrows _)

theorem resync_narrows (self : JitterBuffer) (timestamp : Timestamp) :
    Narrows self (self.resync config timestamp) := by
  unfold JitterBuffer.resync
  dsimp only
  split
  · exact .of_same rfl rfl rfl
  · exact .of_same rfl rfl rfl

theorem noteLate_narrows (self : JitterBuffer) (timestamp : Timestamp) :
    Narrows self (self.noteLate timestamp) := by
  unfold JitterBuffer.noteLate
  split
  · exact .of_same rfl rfl rfl
  · exact .refl self

theorem prepare_narrows (self : JitterBuffer) (timestamp : Timestamp) :
    Narrows self (self.prepare config timestamp) :=
  ((resync_narrows self timestamp).trans (releaseWhere_narrows _ _)).trans
    (noteLate_narrows _ timestamp)

theorem dropNext_narrows (self : JitterBuffer) : Narrows self (self.dropNext config) := by
  unfold JitterBuffer.dropNext
  dsimp only
  split
  · exact (release_narrows self _).trans (advance_narrows _)
  · exact advance_narrows self

theorem iterate_narrows (rounds : Nat) (self : JitterBuffer) :
    Narrows self ((JitterBuffer.dropNext config)^[rounds] self) := by
  induction rounds generalizing self with
  | zero => exact .refl self
  | succ rounds ih =>
      rw [Function.iterate_succ_apply]
      exact (dropNext_narrows self).trans (ih _)

theorem start_narrows (self : JitterBuffer) : Narrows self (self.start config) := by
  have started : Narrows self self.started := .of_same rfl rfl rfl
  unfold JitterBuffer.start
  split
  · split
    · exact started.trans (iterate_narrows _ _)
    · exact started
  · exact .refl self

theorem miss_narrows (self : JitterBuffer) (offset : Int) :
    Narrows self (self.miss config offset) := by
  have counted : Narrows self (self.countLoss offset) := .of_same rfl rfl rfl
  have givenUp : Narrows (self.countLoss offset) (self.countLoss offset).giveUp :=
    .of_same rfl rfl rfl
  unfold JitterBuffer.miss
  split
  · exact (counted.trans givenUp).trans (reset_narrows _)
  · exact counted

theorem scale_narrows (self : JitterBuffer) (advance : Bool) :
    Narrows self (self.scale advance).2 := by
  unfold JitterBuffer.scale
  split
  · exact .of_same rfl rfl rfl
  · split
    · exact .of_same rfl rfl rfl
    · split
      · exact .refl self
      · exact .refl self

theorem adapt_narrows (self : JitterBuffer) (stddevDelay : Nat) :
    Narrows self (self.adapt stddevDelay) := by
  unfold JitterBuffer.adapt
  split
  · dsimp only
    split
    · exact .of_same rfl rfl rfl
    · exact .of_same rfl rfl rfl
  · split
    · exact .of_same rfl rfl rfl
    · exact .refl self

theorem correct_narrows (self : JitterBuffer) (drift : Drift) :
    Narrows self (self.correct drift) := by
  cases drift <;> exact .of_same rfl rfl rfl

theorem settle_narrows (self : JitterBuffer) (drift : Drift) :
    Narrows self (self.settle drift) := by
  unfold JitterBuffer.settle
  dsimp only
  split
  · exact (correct_narrows self drift).trans (.of_same rfl rfl rfl)
  · exact .of_same rfl rfl rfl

theorem tick_narrows (self : JitterBuffer) (measured : Measured) :
    Narrows self (self.tick config measured) := by
  have noted : Narrows self (self.noteMeasured measured) := .of_same rfl rfl rfl
  exact (noted.trans (adapt_narrows _ _)).trans (settle_narrows _ _)

theorem find_some {timestamp : Int} {i : Fin 64} (found : self.find timestamp = some i) :
    ∃ buffer, (self.slots i).buffer = some buffer ∧
      ((self.slots i).timestamp.toNat : Int) = timestamp := by
  have matching := List.find?_some found
  rw [Bool.and_eq_true, decide_eq_true_eq] at matching
  obtain ⟨buffer, used⟩ := Option.isSome_iff_exists.mp matching.1
  exact ⟨buffer, used, matching.2⟩

theorem find_none {timestamp : Timestamp} (absent : self.find timestamp.toNat = none)
    {data : Bytes} {isEC : Bool} : ¬self.Holds timestamp data isEC := by
  rintro ⟨i, ⟨buffer, used, _⟩, filed, _⟩
  have unmatched := List.find?_eq_none.mp absent i (List.mem_finRange i)
  rw [used, filed] at unmatched
  simp at unmatched

theorem holds_of_used {i buffer : Fin 64} (used : (self.slots i).buffer = some buffer) :
    self.Holds (self.slots i).timestamp
      ((self.memory buffer).take (self.slots i).size) (self.slots i).isEC :=
  ⟨i, ⟨buffer, used, rfl⟩, rfl, rfl⟩

/-! ### Output -/

/-- What is played was held and is given up. -/
structure Plays (source : JitterBuffer) (played : Played) (target : JitterBuffer) : Prop where
  narrows : Narrows source target
  held : ∀ {timestamp data isEC}, played = .frame timestamp data isEC →
    source.Holds timestamp data isEC
  once : ∀ {timestamp data isEC}, played = .frame timestamp data isEC → source.Sound →
    ∀ data' isEC', ¬target.Holds timestamp data' isEC'

theorem Plays.between {middle final : JitterBuffer} {played : Played}
    (before : Narrows source middle) (plays : Plays middle played target)
    (behind : Narrows target final) : Plays source played final where
  narrows := (before.trans plays.narrows).trans behind
  held same := before.holds (plays.held same)
  once same sound data' isEC' holds :=
    plays.once same (before.sound sound) data' isEC' (behind.holds holds)

theorem Plays.nothing {played : Played} (silent : ∀ timestamp data isEC,
    played ≠ .frame timestamp data isEC) (narrows : Narrows source target) :
    Plays source played target where
  narrows := narrows
  held same := absurd same (silent _ _ _)
  once same := absurd same (silent _ _ _)

theorem released_gone (sound : self.Sound) {i buffer : Fin 64}
    (used : (self.slots i).buffer = some buffer) (data : Bytes) (isEC : Bool) :
    ¬(self.release i).Holds (self.slots i).timestamp data isEC := by
  rintro ⟨j, has⟩
  have other : j ≠ i := by
    rintro rfl
    obtain ⟨_, held, _⟩ := has.buffer
    rw [released_slot] at held
    cases held
  obtain ⟨⟨_, held, _⟩, filed, _⟩ := (release_narrows self i).has has
  apply other
  apply sound.distinct
  · rw [held]
    rfl
  · rw [used]
    rfl
  · exact filed

theorem getSlot_plays {i buffer : Fin 64} (used : (self.slots i).buffer = some buffer) (len : Nat)
    (offset : Int) :
    Plays self (self.getSlot config i buffer len offset).1
      (self.getSlot config i buffer len offset).2 := by
  have behind : Narrows (self.release i) (self.getSlot config i buffer len offset).2 := by
    unfold JitterBuffer.getSlot
    dsimp only
    split
    · exact .of_same rfl rfl rfl
    · exact .of_same rfl rfl rfl
  have shape : ∀ {timestamp data isEC},
      (self.getSlot config i buffer len offset).1 = .frame timestamp data isEC →
      timestamp = (self.slots i).timestamp ∧
        data = (self.memory buffer).take (self.slots i).size ∧ isEC = (self.slots i).isEC := by
    intro timestamp data isEC same
    unfold JitterBuffer.getSlot at same
    dsimp only at same
    split at same
    · cases same
    · cases same
      exact ⟨rfl, rfl, rfl⟩
  constructor
  · exact (release_narrows self i).trans behind
  · intro timestamp data isEC same
    obtain ⟨rfl, rfl, rfl⟩ := shape same
    exact holds_of_used used
  · intro timestamp data isEC same sound data' isEC' holds
    obtain ⟨rfl, rfl, rfl⟩ := shape same
    exact released_gone sound used data' isEC' (behind.holds holds)

theorem getInternal_plays (self : JitterBuffer) (len : Nat) (offset : Int) (advance : Bool) :
    Plays self (self.getInternal config len offset advance).1
      (self.getInternal config len offset advance).2 := by
  have moved : Narrows self (if advance then self.advance config else self) := by
    split
    · exact advance_narrows self
    · exact .refl self
  unfold JitterBuffer.getInternal
  split
  · split
    · rename_i used
      exact getSlot_plays used len offset
    · exact .nothing (fun _ _ _ => Played.noConfusion) (.refl self)
  · dsimp only
    generalize (if advance then self.advance config else self) = after at moved ⊢
    split
    · exact .nothing (fun _ _ _ => Played.noConfusion) moved
    · exact .nothing (fun _ _ _ => Played.noConfusion) (moved.trans (miss_narrows _ offset))

theorem handleOutput_plays (self : JitterBuffer) (len : Nat) (offset : Int) (advance : Bool) :
    Plays self (self.handleOutput config len offset advance).1
      (self.handleOutput config len offset advance).2.2 :=
  (getInternal_plays (self.start config) len offset advance).between (start_narrows self)
    (scale_narrows _ advance)

/-- The packet is held, and every other packet was held before. -/
structure Stored (source target : JitterBuffer) (timestamp : Timestamp) (data : Bytes)
    (isEC : Bool) : Prop where
  sound : source.Sound → target.Sound
  held : source.Sound → target.Holds timestamp data isEC
  others : source.Sound → ∀ {other data' isEC'}, other ≠ timestamp →
    target.Holds other data' isEC' → source.Holds other data' isEC'

theorem Stored.behind {middle : JitterBuffer} {timestamp : Timestamp} {data : Bytes}
    {isEC : Bool} (narrows : Narrows source middle)
    (stored : Stored middle target timestamp data isEC) :
    Stored source target timestamp data isEC where
  sound sound := stored.sound (narrows.sound sound)
  held sound := stored.held (narrows.sound sound)
  others sound _ _ _ different holds :=
    narrows.holds (stored.others (narrows.sound sound) different holds)

theorem take_copyInto (old data : Bytes) : (copyInto old data).take data.length = data := by
  unfold copyInto
  rw [List.take_left]

theorem overwrite_stored {i buffer : Fin 64} (used : (self.slots i).buffer = some buffer)
    (data : Bytes) (isEC : Bool) :
    Stored self (self.overwrite i buffer data isEC) (self.slots i).timestamp data isEC := by
  have buffers : ∀ j, ((self.overwrite i buffer data isEC).slots j).buffer =
      (self.slots j).buffer := by
    intro j
    unfold JitterBuffer.overwrite
    dsimp only
    by_cases same : j = i
    · rw [same, Function.update_self]
    · rw [Function.update_of_ne same]
  have filed : ∀ j, ((self.overwrite i buffer data isEC).slots j).timestamp =
      (self.slots j).timestamp := by
    intro j
    unfold JitterBuffer.overwrite
    dsimp only
    by_cases same : j = i
    · rw [same, Function.update_self]
    · rw [Function.update_of_ne same]
  constructor
  · intro sound
    constructor
    · have same : (fun j => ((self.overwrite i buffer data isEC).slots j).buffer) =
          fun j => (self.slots j).buffer := funext buffers
      rw [same]
      exact sound.owned
    · intro first second inUse inUse' alike
      rw [buffers] at inUse inUse'
      rw [filed, filed] at alike
      exact sound.distinct first second inUse inUse' alike
  · intro _
    refine ⟨i, ⟨buffer, (buffers i).trans used, ?_⟩, filed i, ?_⟩
    · unfold JitterBuffer.overwrite
      dsimp only
      rw [Function.update_self, Function.update_self]
      exact take_copyInto _ _
    · unfold JitterBuffer.overwrite
      dsimp only
      rw [Function.update_self]
  · rintro sound other data' isEC' different ⟨j, ⟨buffer', used', content⟩, alike, sort⟩
    rw [buffers] at used'
    rw [filed] at alike
    have elsewhere : j ≠ i := by
      rintro rfl
      exact different alike.symm
    have apart : buffer' ≠ buffer := by
      rintro rfl
      exact elsewhere (sound.owned.once j i buffer' used' used)
    unfold JitterBuffer.overwrite at content sort
    dsimp only at content sort
    rw [Function.update_of_ne elsewhere] at content sort
    rw [Function.update_of_ne apart] at content
    exact ⟨j, ⟨buffer', used', content⟩, alike, sort⟩

theorem stored_slot (self : JitterBuffer) (i : Fin 64) (timestamp : Timestamp) (data : Bytes)
    (isEC : Bool) : (self.store i timestamp data isEC).slots i =
      ⟨self.bufferPool.get.1, timestamp, data.length, isEC⟩ := by
  unfold JitterBuffer.store
  dsimp only
  rw [Function.update_self]

theorem stored_other (self : JitterBuffer) {i j : Fin 64} (different : j ≠ i)
    (timestamp : Timestamp) (data : Bytes) (isEC : Bool) :
    (self.store i timestamp data isEC).slots j = self.slots j := by
  unfold JitterBuffer.store
  dsimp only
  rw [Function.update_of_ne different]

theorem JitterBuffer.Sound.free (sound : self.Sound) {i : Fin 64}
    (vacant : (self.slots i).buffer = none) : ∃ buffer, self.bufferPool.get.1 = some buffer := by
  obtain ⟨buffer, unused⟩ := sound.owned.exists_free (Nat.le_refl _) vacant
  exact get_some (Bool.eq_false_iff.mpr unused)

theorem store_stored {i : Fin 64} (vacant : (self.slots i).buffer = none) {timestamp : Timestamp}
    (absent : ∀ data isEC, ¬self.Holds timestamp data isEC) (data : Bytes) (isEC : Bool) :
    Stored self (self.store i timestamp data isEC) timestamp data isEC := by
  have fresh : ∀ j, (self.slots j).buffer.isSome → (self.slots j).timestamp ≠ timestamp := by
    rintro j inUse rfl
    obtain ⟨buffer, used⟩ := Option.isSome_iff_exists.mp inUse
    exact absent _ _ (holds_of_used used)
  constructor
  · intro sound
    obtain ⟨buffer, got⟩ := sound.free vacant
    obtain ⟨unused, used⟩ := used_get (Nat.le_refl 64) got buffer
    constructor
    · have owned := sound.owned.take vacant (Bool.eq_false_iff.mp unused)
      have bits : (fun other => (self.store i timestamp data isEC).bufferPool.used other = true) =
          fun other => self.bufferPool.used other = true ∨ other = buffer := by
        funext other
        unfold JitterBuffer.store
        dsimp only
        rw [(used_get (Nat.le_refl 64) got other).2, Bool.or_eq_true, decide_eq_true_eq]
      have buffers : (fun j => ((self.store i timestamp data isEC).slots j).buffer) =
          Function.update (fun j => (self.slots j).buffer) i (some buffer) := by
        funext j
        by_cases same : j = i
        · rw [same, stored_slot, Function.update_self]
          exact got
        · rw [stored_other self same, Function.update_of_ne same]
      rw [bits, buffers]
      exact owned
    · intro first second inUse inUse' alike
      by_cases atFirst : first = i
      · by_cases atSecond : second = i
        · rw [atFirst, atSecond]
        · rw [stored_other self atSecond] at inUse' alike
          rw [atFirst, stored_slot] at alike
          exact absurd alike.symm (fresh second inUse')
      · rw [stored_other self atFirst] at inUse alike
        by_cases atSecond : second = i
        · rw [atSecond, stored_slot] at alike
          exact absurd alike (fresh first inUse)
        · rw [stored_other self atSecond] at inUse' alike
          exact sound.distinct first second inUse inUse' alike
  · intro sound
    obtain ⟨buffer, got⟩ := sound.free vacant
    refine ⟨i, ⟨buffer, ?_, ?_⟩, ?_, ?_⟩
    · rw [stored_slot]
      exact got
    · rw [stored_slot]
      unfold JitterBuffer.store
      dsimp only
      rw [got]
      dsimp only
      rw [Function.update_self]
      exact take_copyInto _ _
    · rw [stored_slot]
    · rw [stored_slot]
  · rintro sound other data' isEC' different ⟨j, ⟨buffer', used', content⟩, alike, sort⟩
    have elsewhere : j ≠ i := by
      rintro rfl
      rw [stored_slot] at alike
      exact different alike.symm
    rw [stored_other self elsewhere] at used' content alike sort
    obtain ⟨buffer, got⟩ := sound.free vacant
    have apart : buffer' ≠ buffer := by
      rintro rfl
      have unused := (used_get (Nat.le_refl 64) got buffer').1
      rw [sound.owned.inUse j buffer' used'] at unused
      cases unused
    unfold JitterBuffer.store at content
    dsimp only at content
    rw [got] at content
    dsimp only at content
    rw [Function.update_of_ne apart] at content
    exact ⟨j, ⟨buffer', used', content⟩, alike, sort⟩

/-! ### A slot for a packet -/

/-- One round of the loop that looks for the oldest packet. -/
def JitterBuffer.older (self : JitterBuffer) (best : Option (Fin 64) × Nat) (i : Fin 64) :
    Option (Fin 64) × Nat :=
  if (self.slots i).buffer.isSome && decide ((self.slots i).timestamp.toNat < best.2) then
    (some i, (self.slots i).timestamp.toNat)
  else best

theorem oldest_eq (self : JitterBuffer) :
    self.oldest = (List.finRange 64).foldl self.older (none, 0xFFFFFFFF) := rfl

theorem older_some {slots : List (Fin 64)} {best : Option (Fin 64) × Nat}
    (found : best.1.isSome) : (slots.foldl self.older best).1.isSome := by
  induction slots generalizing best with
  | nil => exact found
  | cons i rest ih =>
      rw [List.foldl_cons]
      apply ih
      unfold JitterBuffer.older
      split
      · rfl
      · exact found

theorem older_finds {slots : List (Fin 64)} {best : Option (Fin 64) × Nat} {i : Fin 64}
    (member : i ∈ slots) (inUse : (self.slots i).buffer.isSome)
    (lower : (self.slots i).timestamp.toNat < best.2) :
    (slots.foldl self.older best).1.isSome := by
  induction slots generalizing best with
  | nil => cases member
  | cons first rest ih =>
      rw [List.foldl_cons]
      by_cases taken : (self.slots first).buffer.isSome &&
          decide ((self.slots first).timestamp.toNat < best.2)
      · apply older_some
        unfold JitterBuffer.older
        rw [if_pos taken]
        rfl
      · have passed : self.older best first = best := by
          unfold JitterBuffer.older
          rw [if_neg taken]
        rw [passed]
        rcases List.mem_cons.mp member with rfl | later
        · rw [inUse, decide_eq_true lower] at taken
          exact absurd rfl taken
        · exact ih later lower

theorem count_le_one {Item : Type} {property : Item → Bool} {items : List Item}
    (nodup : items.Nodup)
    (same : ∀ first ∈ items, ∀ second ∈ items, property first → property second →
      first = second) : items.countP property ≤ 1 := by
  induction items with
  | nil => exact Nat.zero_le _
  | cons first rest ih =>
      obtain ⟨fresh, restNodup⟩ := List.nodup_cons.mp nodup
      have restSame := ih restNodup (fun one inside other inside' =>
        same one (List.mem_cons_of_mem _ inside) other (List.mem_cons_of_mem _ inside'))
      by_cases holds : property first
      · have none : rest.countP property = 0 := by
          apply List.countP_eq_zero.mpr
          intro other inside also
          apply fresh
          rw [same first List.mem_cons_self other (List.mem_cons_of_mem _ inside) holds also]
          exact inside
        rw [List.countP_cons_of_pos holds, none]
      · rw [List.countP_cons_of_neg holds]
        exact restSame

theorem oldest_some (sound : self.Sound) (enough : 2 ≤ self.currentDelay) :
    ∃ i, self.oldest.1 = some i := by
  apply Option.isSome_iff_exists.mp
  rw [oldest_eq]
  by_cases some : ∃ i, (self.slots i).buffer.isSome ∧
      (self.slots i).timestamp.toNat < 0xFFFFFFFF
  · obtain ⟨i, inUse, lower⟩ := some
    exact older_finds (List.mem_finRange i) inUse lower
  · have largest : ∀ i, (self.slots i).buffer.isSome →
        (self.slots i).timestamp = 0xFFFFFFFF := by
      intro i inUse
      have high : ¬(self.slots i).timestamp.toNat < 0xFFFFFFFF :=
        fun lower => some ⟨i, inUse, lower⟩
      have bound := (self.slots i).timestamp.isLt
      apply BitVec.eq_of_toNat_eq
      exact Nat.le_antisymm (Nat.le_of_lt_succ bound) (Nat.le_of_not_lt high)
    have few : self.currentDelay ≤ 1 := by
      apply count_le_one (List.nodup_finRange 64)
      intro first _ second _ inUse inUse'
      apply sound.distinct first second inUse inUse'
      rw [largest first inUse, largest second inUse']
    omega

theorem evict_narrows (self : JitterBuffer) (i : Fin 64) :
    Narrows self ((self.advance config).release i) :=
  (advance_narrows self).trans (release_narrows _ i)

theorem place_vacant {placed : JitterBuffer × Fin 64} (found : self.place config = some placed) :
    Narrows self placed.1 ∧ (placed.1.slots placed.2).buffer = none := by
  have evicted : ∀ {best : Option (Fin 64)},
      best.map (fun oldest => ((self.advance config).release oldest, oldest)) = some placed →
      Narrows self placed.1 ∧ (placed.1.slots placed.2).buffer = none := by
    intro best chosen
    obtain ⟨i, _, rfl⟩ := Option.map_eq_some_iff.mp chosen
    exact ⟨evict_narrows self i, released_slot _ i⟩
  unfold JitterBuffer.place at found
  split at found
  · rename_i empty
    split at found
    · exact evicted found
    · have vacant := List.find?_some empty
      cases found
      exact ⟨.refl self, Option.isNone_iff_eq_none.mp vacant⟩
  · exact evicted found

theorem place_some (sound : self.Sound) (room : 2 ≤ config.maxUsedSlots) :
    ∃ placed, self.place config = some placed := by
  unfold JitterBuffer.place
  split
  · split
    · rename_i full
      obtain ⟨i, oldest⟩ := oldest_some sound (Nat.le_trans room full)
      exact ⟨_, by rw [oldest]; rfl⟩
    · exact ⟨_, rfl⟩
  · rename_i full
    have everyOne : self.currentDelay = 64 := by
      unfold JitterBuffer.currentDelay
      rw [List.countP_eq_length.mpr, List.length_finRange]
      intro i member
      have inUse := List.find?_eq_none.mp full i member
      cases held : (self.slots i).buffer with
      | none =>
          rw [held] at inUse
          exact absurd rfl inUse
      | some => rfl
    obtain ⟨i, oldest⟩ := oldest_some sound (by omega)
    exact ⟨_, by rw [oldest]; rfl⟩

/-- A packet that fits is stored, unless it only repeats one that is there. -/
theorem handleInput_cases {data : Bytes} {timestamp : Timestamp} {isEC : Bool}
    (handled : self.handleInput config data timestamp isEC = some target) :
    (target = self ∧ (jitterSlotSize < data.length ∨
        isEC = true ∧ ∃ data' isEC', self.Holds timestamp data' isEC')) ∨
      data.length ≤ jitterSlotSize ∧ Stored self target timestamp data isEC := by
  unfold JitterBuffer.handleInput at handled
  split at handled
  · rename_i big
    cases handled
    exact .inl ⟨rfl, .inl big⟩
  · rename_i fits
    have small := Nat.le_of_not_gt fits
    split at handled
    · rename_i i found
      obtain ⟨buffer, used, filed⟩ := find_some found
      have same : (self.slots i).timestamp = timestamp :=
        BitVec.eq_of_toNat_eq (Int.ofNat_inj.mp filed)
      rw [used] at handled
      dsimp only at handled
      split at handled
      · rename_i repeated
        cases handled
        refine .inl ⟨rfl, .inr ⟨repeated, ?_⟩⟩
        rw [← same]
        exact ⟨_, _, holds_of_used used⟩
      · cases handled
        rw [← same]
        exact .inr ⟨small, overwrite_stored used data isEC⟩
    · rename_i absent
      obtain ⟨placed, found, rfl⟩ := Option.map_eq_some_iff.mp handled
      obtain ⟨narrows, vacant⟩ := place_vacant found
      have behind := (prepare_narrows self timestamp).trans narrows
      refine .inr ⟨small, Stored.behind behind (store_stored vacant ?_ data isEC)⟩
      intro data' isEC' holds
      exact find_none absent (behind.holds holds)

theorem handleInput_some (sound : self.Sound) (room : 2 ≤ config.maxUsedSlots) (data : Bytes)
    (timestamp : Timestamp) (isEC : Bool) :
    ∃ target, self.handleInput config data timestamp isEC = some target := by
  unfold JitterBuffer.handleInput
  split
  · exact ⟨self, rfl⟩
  · split
    · split
      · split
        · exact ⟨_, rfl⟩
        · exact ⟨_, rfl⟩
      · exact ⟨_, rfl⟩
    · obtain ⟨placed, found⟩ := place_some ((prepare_narrows self timestamp).sound sound) room
      exact ⟨_, by rw [found]; rfl⟩

abbrev Jittered := LabelledMachine.Transition JitterBuffer JitterCall Played

abbrev JitterRun (config : JitterConfig) (minMinDelay : Nat) (taken : List Jittered)
    (state : JitterBuffer) : Prop :=
  LabelledMachine.Run (JitterBuffer.step config) (.initial minMinDelay) taken state

/-- The packet under the timestamp is played, or another one is put there. -/
def Replaces (timestamp : Timestamp) (jittered : Jittered) : Prop :=
  (∃ data isEC, jittered.output = [.frame timestamp data isEC]) ∨
    ∃ data, jittered.label = .handleInput data timestamp false ∧ data.length ≤ jitterSlotSize

/-- The packet was put last under its timestamp, and it was not yet played. -/
def LastPut (taken : List Jittered) (timestamp : Timestamp) (data : Bytes) (isEC : Bool) : Prop :=
  ∃ before put after, taken = before ++ put :: after ∧
    put.label = .handleInput data timestamp isEC ∧ data.length ≤ jitterSlotSize ∧
    ∀ later ∈ after, ¬Replaces timestamp later

theorem LastPut.later {taken : List Jittered} {timestamp : Timestamp} {data : Bytes}
    {isEC : Bool} (put : LastPut taken timestamp data isEC) {jittered : Jittered}
    (kept : ¬Replaces timestamp jittered) :
    LastPut (taken ++ [jittered]) timestamp data isEC := by
  obtain ⟨before, transition, after, rfl, label, small, unplayed⟩ := put
  refine ⟨before, transition, after ++ [jittered], ?_, label, small, ?_⟩
  · rw [List.append_assoc, List.cons_append]
  · intro later member
    rcases List.mem_append.mp member with inside | last
    · exact unplayed later inside
    · rw [List.mem_singleton.mp last]
      exact kept

/-- A call gives packets up, plays one, or stores one. -/
inductive Handled (source : JitterBuffer) : JitterCall → List Played → JitterBuffer → Prop where
  | ignored {data : Bytes} {timestamp : Timestamp} {isEC : Bool} :
      (jitterSlotSize < data.length ∨
        isEC = true ∧ ∃ data' isEC', source.Holds timestamp data' isEC') →
      Handled source (.handleInput data timestamp isEC) [] source
  | stored {data : Bytes} {timestamp : Timestamp} {isEC : Bool} {target : JitterBuffer} :
      data.length ≤ jitterSlotSize → Stored source target timestamp data isEC →
      Handled source (.handleInput data timestamp isEC) [] target
  | played {len : Nat} {offset : Int} {advance : Bool} {played : Played}
      {target : JitterBuffer} : Plays source played target →
      Handled source (.handleOutput len offset advance) [played] target
  | adjusted {call : JitterCall} {target : JitterBuffer} :
      (∀ data timestamp isEC, call ≠ .handleInput data timestamp isEC) →
      Narrows source target → Handled source call [] target

theorem step_handled {call : JitterCall} {output : List Played}
    (fired : source.step config call = some (output, target)) :
    Handled source call output target := by
  cases call with
  | handleInput data timestamp isEC =>
      obtain ⟨after, handled, same⟩ := Option.map_eq_some_iff.mp fired
      cases same
      rcases handleInput_cases handled with ⟨rfl, ignored⟩ | ⟨small, stored⟩
      · exact .ignored ignored
      · exact .stored small stored
  | handleOutput len offset advance =>
      cases fired
      exact .played (handleOutput_plays source len offset advance)
  | tick measured =>
      cases fired
      exact .adjusted (fun _ _ _ => JitterCall.noConfusion) (tick_narrows source measured)
  | setMinPacketCount count =>
      cases fired
      exact .adjusted (fun _ _ _ => JitterCall.noConfusion) (.of_same rfl rfl rfl)
  | getAndResetLostPacketCount =>
      cases fired
      exact .adjusted (fun _ _ _ => JitterCall.noConfusion) (.of_same rfl rfl rfl)

structure Keeping (taken : List Jittered) (state : JitterBuffer) : Prop where
  sound : state.Sound
  put : ∀ {timestamp data isEC}, state.Holds timestamp data isEC →
    LastPut taken timestamp data isEC

theorem initial_keeping (minMinDelay : Nat) : Keeping [] (.initial minMinDelay) where
  sound := initial_sound_jitter minMinDelay
  put := by
    rintro timestamp data isEC ⟨i, ⟨buffer, impossible, _⟩, _, _⟩
    cases impossible

theorem Handled.keeping {taken : List Jittered} {call : JitterCall} {output : List Played}
    (handled : Handled source call output target) (keeping : Keeping taken source) :
    Keeping (taken ++ [⟨source, call, output, target⟩]) target := by
  cases handled with
  | @ignored data timestamp isEC ignored =>
      refine ⟨keeping.sound, ?_⟩
      intro other data' isEC' holds
      apply (keeping.put holds).later
      rintro (⟨_, _, impossible⟩ | ⟨data'', same, small⟩)
      · cases impossible
      · cases same
        rcases ignored with big | ⟨impossible, _⟩
        · omega
        · cases impossible
  | @stored data timestamp isEC _ small stored =>
      refine ⟨stored.sound keeping.sound, ?_⟩
      intro other data' isEC' holds
      by_cases same : other = timestamp
      · subst same
        obtain ⟨rfl, rfl⟩ := (stored.sound keeping.sound).unique holds (stored.held keeping.sound)
        exact ⟨taken, _, [], rfl, rfl, small, List.forall_mem_nil _⟩
      · apply (keeping.put (stored.others keeping.sound same holds)).later
        rintro (⟨_, _, impossible⟩ | ⟨_, label, _⟩)
        · cases impossible
        · cases label
          exact same rfl
  | played plays =>
      refine ⟨plays.narrows.sound keeping.sound, ?_⟩
      intro other data' isEC' holds
      apply (keeping.put (plays.narrows.holds holds)).later
      rintro (⟨_, _, same⟩ | ⟨_, impossible, _⟩)
      · exact plays.once (List.cons.inj same).1 keeping.sound _ _ holds
      · cases impossible
  | adjusted different narrows =>
      refine ⟨narrows.sound keeping.sound, ?_⟩
      intro other data' isEC' holds
      apply (keeping.put (narrows.holds holds)).later
      rintro (⟨_, _, impossible⟩ | ⟨_, same, _⟩)
      · cases impossible
      · exact different _ _ _ same

theorem keeping_of_run {minMinDelay : Nat} {taken : List Jittered} {state : JitterBuffer}
    (run : JitterRun config minMinDelay taken state) : Keeping taken state := by
  induction run with
  | nil => exact initial_keeping minMinDelay
  | snoc _ fired ih => exact (step_handled fired).keeping ih

def JitterConfig.sample : JitterConfig := ⟨60, 10, 20, 20⟩

/-- With room for two packets no call fails, every slot in use has a buffer of
its own and a timestamp of its own, and a packet that fits is stored whatever
the buffer holds, unless it only repeats one that is there. -/
theorem packets_are_stored (room : 2 ≤ config.maxUsedSlots) {minMinDelay : Nat}
    {taken : List Jittered} {state : JitterBuffer}
    (run : JitterRun config minMinDelay taken state) :
    state.Sound ∧ (∀ call, (state.step config call).isSome) ∧
      ∀ {data timestamp isEC output target}, data.length ≤ jitterSlotSize →
        state.step config (.handleInput data timestamp isEC) = some (output, target) →
        (∀ other data' isEC', other ≠ timestamp → target.Holds other data' isEC' →
          state.Holds other data' isEC') ∧
        (target.Holds timestamp data isEC ∨
          isEC = true ∧ target = state ∧ ∃ data' isEC', state.Holds timestamp data' isEC') := by
  have sound := (keeping_of_run run).sound
  refine ⟨sound, ?_, ?_⟩
  · intro call
    cases call with
    | handleInput data timestamp isEC =>
        obtain ⟨after, handled⟩ := handleInput_some sound room data timestamp isEC
        unfold JitterBuffer.step
        dsimp only
        rw [handled]
        rfl
    | handleOutput len offset advance => rfl
    | tick measured => rfl
    | setMinPacketCount count => rfl
    | getAndResetLostPacketCount => rfl
  · intro data timestamp isEC output target small fired
    cases step_handled fired with
    | ignored ignored =>
        refine ⟨fun _ _ _ _ holds => holds, .inr ?_⟩
        rcases ignored with big | ⟨repeated, there⟩
        · omega
        · exact ⟨repeated, rfl, there⟩
    | stored _ stored =>
        exact ⟨fun _ _ _ different holds => stored.others sound different holds,
          .inl (stored.held sound)⟩
    | adjusted different => exact absurd rfl (different _ _ _)

theorem second_packet_is_stored :
    ∃ taken state target, JitterRun .sample 2 taken state ∧ state.Holds 5 [1] false ∧
      state.step .sample (.handleInput [2] 65 false) = some ([], target) ∧
      target.Holds 65 [2] false := by
  have replayed : (LabelledMachine.replay (JitterBuffer.step .sample) (.initial 2)
      [.setMinPacketCount 0]).map (fun _ => ()) = some () := rfl
  obtain ⟨before, empty, begun, _⟩ := LabelledMachine.Run.of_replay_map replayed
  have room : 2 ≤ JitterConfig.sample.maxUsedSlots := by decide
  have stores : ∀ {taken state}, JitterRun .sample 2 taken state → ∀ data timestamp,
      data.length ≤ jitterSlotSize → ∃ target,
        state.step .sample (.handleInput data timestamp false) = some ([], target) ∧
          target.Holds timestamp data false := by
    intro taken state run data timestamp small
    obtain ⟨_, answers, stores⟩ := packets_are_stored room run
    obtain ⟨⟨output, target⟩, fired⟩ := Option.isSome_iff_exists.mp
      (answers (.handleInput data timestamp false))
    obtain ⟨after, _, same⟩ := Option.map_eq_some_iff.mp fired
    cases same
    exact ⟨_, fired, (stores small fired).2.resolve_right (fun repeated => by cases repeated.1)⟩
  obtain ⟨middle, first, held⟩ := stores begun [1] 5 (by decide)
  have run := begun.snoc first
  obtain ⟨last, second, held'⟩ := stores run [2] 65 (by decide)
  exact ⟨_, middle, last, run, held, second, held'⟩

end Tg2Sip.Voip
