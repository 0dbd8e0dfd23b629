/-
The delay of the jitter buffer is raised once.

`dontIncMinDelay` keeps `Tick` from raising `minDelay`, and nothing sets
it back to zero.  Behind the first raise, or the first reset after losses, the delay is only
lowered by `Tick` or set from outside.
-/

import Tg2Sip.Voip.JitterRuns

namespace Tg2Sip.Voip

variable {config : JitterConfig} {self source target : JitterBuffer}

/-- The delay is not to be raised any more. -/
def JitterBuffer.Settled (state : JitterBuffer) : Prop := 0 < state.dontIncMinDelay

theorem release_dontInc (self : JitterBuffer) (i : Fin 64) :
    (self.release i).dontIncMinDelay = self.dontIncMinDelay := by
  unfold JitterBuffer.release
  split <;> rfl

theorem releaseWhere_dontInc (self : JitterBuffer) (chosen : JitterSlot → Bool) :
    (self.releaseWhere chosen).dontIncMinDelay = self.dontIncMinDelay := by
  unfold JitterBuffer.releaseWhere
  generalize List.finRange 64 = slots
  induction slots generalizing self with
  | nil => rfl
  | cons i rest ih =>
      rw [List.foldl_cons, ih]
      split
      · exact release_dontInc self i
      · rfl

theorem reset_dontInc (self : JitterBuffer) :
    self.reset.dontIncMinDelay = self.dontIncMinDelay := by
  have restarted (state : JitterBuffer) :
      state.restart.dontIncMinDelay = state.dontIncMinDelay := rfl
  unfold JitterBuffer.reset
  rw [restarted, releaseWhere_dontInc]

theorem prepare_dontInc (self : JitterBuffer) (timestamp : Timestamp) :
    (self.prepare config timestamp).dontIncMinDelay = self.dontIncMinDelay := by
  have synced : (self.resync config timestamp).dontIncMinDelay = self.dontIncMinDelay := by
    unfold JitterBuffer.resync
    dsimp only
    split <;> rfl
  have dropped : (self.resync config timestamp).dropLate.dontIncMinDelay =
      (self.resync config timestamp).dontIncMinDelay := releaseWhere_dontInc _ _
  rw [← synced, ← dropped]
  unfold JitterBuffer.prepare JitterBuffer.noteLate
  split <;> rfl

theorem place_dontInc {placed : JitterBuffer × Fin 64} (found : self.place config = some placed) :
    placed.1.dontIncMinDelay = self.dontIncMinDelay := by
  have evicted : ∀ {best : Option (Fin 64)},
      best.map (fun oldest => ((self.advance config).release oldest, oldest)) = some placed →
      placed.1.dontIncMinDelay = self.dontIncMinDelay := by
    intro best chosen
    obtain ⟨i, _, rfl⟩ := Option.map_eq_some_iff.mp chosen
    exact release_dontInc _ i
  unfold JitterBuffer.place at found
  split at found
  · split at found
    · exact evicted found
    · cases found
      rfl
  · exact evicted found

theorem handleInput_dontInc {data : Bytes} {timestamp : Timestamp} {isEC : Bool}
    (handled : self.handleInput config data timestamp isEC = some target) :
    target.dontIncMinDelay = self.dontIncMinDelay := by
  unfold JitterBuffer.handleInput at handled
  split at handled
  · cases handled
    rfl
  · split at handled
    · split at handled
      · split at handled
        · cases handled
          rfl
        · cases handled
          rfl
      · cases handled
        rfl
    · obtain ⟨placed, found, rfl⟩ := Option.map_eq_some_iff.mp handled
      exact (place_dontInc found).trans (prepare_dontInc self timestamp)

theorem start_dontInc (self : JitterBuffer) :
    (self.start config).dontIncMinDelay = self.dontIncMinDelay := by
  have dropped (state : JitterBuffer) :
      (state.dropNext config).dontIncMinDelay = state.dontIncMinDelay := by
    unfold JitterBuffer.dropNext
    dsimp only
    split
    · exact release_dontInc state _
    · rfl
  have iterated (rounds : Nat) (state : JitterBuffer) :
      ((JitterBuffer.dropNext config)^[rounds] state).dontIncMinDelay = state.dontIncMinDelay := by
    induction rounds generalizing state with
    | zero => rfl
    | succ rounds ih => rw [Function.iterate_succ_apply, ih, dropped]
  unfold JitterBuffer.start
  split
  · split
    · exact iterated _ _
    · rfl
  · rfl

theorem miss_settled (settled : self.Settled) (offset : Int) :
    (self.miss config offset).Settled := by
  unfold JitterBuffer.miss
  split
  · unfold JitterBuffer.Settled
    rw [reset_dontInc]
    exact Nat.succ_pos 15
  · exact settled

theorem getInternal_settled (settled : self.Settled) (len : Nat) (offset : Int)
    (advance : Bool) : (self.getInternal config len offset advance).2.Settled := by
  have moved : (if advance then self.advance config else self).Settled := by
    split <;> exact settled
  unfold JitterBuffer.getInternal
  split
  · rename_i i _
    split
    · unfold JitterBuffer.Settled JitterBuffer.getSlot
      dsimp only
      have released := release_dontInc self i
      split
      · exact Nat.lt_of_lt_of_eq settled released.symm
      · exact Nat.lt_of_lt_of_eq settled released.symm
    · exact settled
  · dsimp only
    generalize (if advance then self.advance config else self) = after at moved ⊢
    split
    · exact moved
    · exact miss_settled moved offset

theorem scale_dontInc (self : JitterBuffer) (advance : Bool) :
    (self.scale advance).2.dontIncMinDelay = self.dontIncMinDelay := by
  unfold JitterBuffer.scale
  split
  · rfl
  · split
    · rfl
    · split <;> rfl

/-- `Tick` raises the delay only while it is not settled, and settles it. -/
theorem tick_raises (self : JitterBuffer) (measured : Measured) :
    (self.Settled → (self.tick config measured).Settled) ∧
      (self.minDelay < (self.tick config measured).minDelay →
        ¬self.Settled ∧ (self.tick config measured).Settled) := by
  have noted : (self.noteMeasured measured).dontIncMinDelay = self.dontIncMinDelay ∧
      (self.noteMeasured measured).minDelay = self.minDelay := ⟨rfl, rfl⟩
  have corrected (state : JitterBuffer) (drift : Drift) :
      (state.correct drift).dontIncMinDelay = state.dontIncMinDelay ∧
        (state.correct drift).minDelay = state.minDelay := by
    cases drift <;> exact ⟨rfl, rfl⟩
  have settles (state : JitterBuffer) (drift : Drift) :
      (state.settle drift).dontIncMinDelay = state.dontIncMinDelay ∧
        (state.settle drift).minDelay = state.minDelay := by
    unfold JitterBuffer.settle
    dsimp only
    split
    · exact corrected state drift
    · exact ⟨rfl, rfl⟩
  have adapts (state : JitterBuffer) (stddevDelay : Nat) :
      (state.Settled → (state.adapt stddevDelay).Settled) ∧
        (state.minDelay < (state.adapt stddevDelay).minDelay →
          ¬state.Settled ∧ (state.adapt stddevDelay).Settled) := by
    unfold JitterBuffer.adapt JitterBuffer.Settled
    dsimp only
    split
    · split
      · rename_i raisable
        exact ⟨fun _ => Nat.succ_pos 24, fun _ => ⟨by omega, Nat.succ_pos 24⟩⟩
      · exact ⟨id, fun impossible => absurd impossible (Nat.lt_irrefl _)⟩
    · split
      · exact ⟨id, fun impossible => absurd impossible (by dsimp only; omega)⟩
      · exact ⟨id, fun impossible => absurd impossible (Nat.lt_irrefl _)⟩
  unfold JitterBuffer.tick JitterBuffer.Settled
  dsimp only
  obtain ⟨sameInc, sameDelay⟩ := settles ((self.noteMeasured measured).adapt
    (min (max measured.stddevDelay self.minMinDelay) config.maxMinDelay)) measured.drift
  rw [sameInc, sameDelay, ← noted.1, ← noted.2]
  exact adapts _ _

theorem step_settled {call : JitterCall} {output : List Played}
    (fired : source.step config call = some (output, target)) (settled : source.Settled) :
    target.Settled := by
  cases call with
  | handleInput data timestamp isEC =>
      obtain ⟨after, handled, same⟩ := Option.map_eq_some_iff.mp fired
      cases same
      exact Nat.lt_of_lt_of_eq settled (handleInput_dontInc handled).symm
  | handleOutput len offset advance =>
      cases fired
      have started : (source.start config).Settled :=
        Nat.lt_of_lt_of_eq settled (start_dontInc source).symm
      exact Nat.lt_of_lt_of_eq (getInternal_settled started len offset advance)
        (scale_dontInc _ advance).symm
  | tick measured =>
      cases fired
      exact (tick_raises source measured).1 settled
  | setMinPacketCount count =>
      cases fired
      exact settled
  | getAndResetLostPacketCount =>
      cases fired
      exact settled

def raises (jittered : Jittered) : Bool :=
  match jittered.label with
  | .tick _ => decide (jittered.source.minDelay < jittered.target.minDelay)
  | _ => false

theorem raises_settles {call : JitterCall} {output : List Played}
    (fired : source.step config call = some (output, target))
    (raised : raises ⟨source, call, output, target⟩ = true) :
    ¬source.Settled ∧ target.Settled := by
  cases call with
  | tick measured =>
      cases fired
      exact (tick_raises source measured).2 (of_decide_eq_true raised)
  | handleInput => cases raised
  | handleOutput => cases raised
  | setMinPacketCount => cases raised
  | getAndResetLostPacketCount => cases raised

/-- In the life of a jitter buffer `Tick` raises the delay at most once. -/
theorem delay_is_raised_once {minMinDelay : Nat} {taken : List Jittered} {state : JitterBuffer}
    (run : JitterRun config minMinDelay taken state) : taken.countP raises ≤ 1 := by
  have counted : taken.countP raises = 0 ∨ taken.countP raises = 1 ∧ state.Settled := by
    induction run with
    | nil => exact .inl rfl
    | @snoc taken source target call output _ fired ih =>
        rw [List.countP_append, List.countP_singleton]
        cases raised : raises ⟨source, call, output, target⟩ with
        | true =>
            obtain ⟨unsettled, settled⟩ := raises_settles fired raised
            rcases ih with none | ⟨_, impossible⟩
            · rw [none]
              exact .inr ⟨rfl, settled⟩
            · exact absurd impossible unsettled
        | false =>
            rcases ih with none | ⟨one, settled⟩
            · rw [none]
              exact .inl rfl
            · rw [one]
              exact .inr ⟨rfl, step_settled fired settled⟩
  rcases counted with none | ⟨one, _⟩
  · omega
  · omega

/-- The second tick asks for more delay as well. -/
theorem second_raise_is_refused :
    ∃ taken state, JitterRun .sample 2 taken state ∧ state.minDelay = 7 ∧
      taken.countP raises ≤ 1 := by
  have replayed : (LabelledMachine.replay (JitterBuffer.step .sample) (.initial 2)
      [.tick ⟨false, true, 10, .near⟩, .tick ⟨false, true, 10, .near⟩]).map
        (fun reached => reached.2.minDelay) = some 7 := by
    decide +kernel
  obtain ⟨taken, state, run, delay⟩ := LabelledMachine.Run.of_replay_map replayed
  exact ⟨taken, state, run, delay, delay_is_raised_once run⟩

end Tg2Sip.Voip
