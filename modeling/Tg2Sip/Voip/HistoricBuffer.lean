/-
`HistoricBuffer`: the last values of a quantity.

The buffer is an array with a place where the next value goes.  `operator[]`
counts back from there, and the averages go through the array in its own
order; both see the last values that were added, and zeros behind them.
-/

import Mathlib.Data.BitVec
import Tg2Sip.Lib.RecentValues
import Tg2Sip.Voip.Protocol

namespace Tg2Sip.Voip

abbrev HistoricBuffer (T : Type) (size : Nat) := RecentValues.Ring T size

namespace HistoricBuffer

variable {T : Type} {size : Nat}

def create [Zero T] (positive : 0 < size) : HistoricBuffer T size :=
  { data := List.replicate size 0
    data_length := List.length_replicate
    offset := 0
    inside := positive }

def add (self : HistoricBuffer T size) (el : T) : HistoricBuffer T size :=
  { data := self.data.set self.offset el
    data_length := by rw [List.length_set, self.data_length]
    offset := (self.offset + 1) % size
    inside := Nat.mod_lt _ (Nat.zero_lt_of_lt self.inside) }

def reset [Zero T] (self : HistoricBuffer T size) : HistoricBuffer T size :=
  create (Nat.zero_lt_of_lt self.inside)

/-- `operator[]`. -/
def get [Zero T] (self : HistoricBuffer T size) (i : Nat) : T :=
  let back : Int := (self.offset : Int) - i - 1
  let place : Int := if back < 0 then size + back else back
  self.data[place.toNat]?.getD 0

section Averages

variable {width : Nat}

def average (self : HistoricBuffer (BitVec width) size) : BitVec width :=
  self.data.foldl (fun avg el => avg + el) 0 / BitVec.ofNat width size

def averageOf (self : HistoricBuffer (BitVec width) size) (firstN : Nat) : BitVec width :=
  (List.range firstN).foldl (fun avg i => avg + self.get i) 0 / BitVec.ofNat width firstN

end Averages

end HistoricBuffer

inductive HistoryStep (T : Type) where
  | add (el : T)
  | reset
  deriving DecidableEq, Repr

section Histories

variable {T : Type} [Zero T] {size : Nat}

def HistoricBuffer.step (self : HistoricBuffer T size) : HistoryStep T → HistoricBuffer T size
  | .add el => self.add el
  | .reset => self.reset

/-- The values since the last reset, the newest one first. -/
def valuesBehind (values : List T) : HistoryStep T → List T
  | .add el => el :: values
  | .reset => []

theorem get_eq (self : HistoricBuffer T size) (i : Nat) (inside : i < size) :
    self.get i = self.data[RecentValues.Ring.place self i]?.getD 0 := by
  have below := self.inside
  unfold HistoricBuffer.get RecentValues.Ring.place
  dsimp only
  congr 2
  by_cases near : i < self.offset
  · rw [if_pos near, if_neg (by omega)]
    omega
  · rw [if_neg near, if_pos (by omega)]
    omega

theorem shows_step {self : HistoricBuffer T size} {values : List T}
    (shows : RecentValues.Ring.Shows self 0 values) (step : HistoryStep T) :
    RecentValues.Ring.Shows (self.step step) 0 (valuesBehind values step) := by
  cases step with
  | add el => exact shows.put el
  | reset => exact RecentValues.Ring.shows_fill 0 _

theorem shows_steps (positive : 0 < size) (steps : List (HistoryStep T)) :
    RecentValues.Ring.Shows (steps.foldl HistoricBuffer.step (HistoricBuffer.create positive)) 0
      (steps.foldl valuesBehind []) := by
  have start : RecentValues.Ring.Shows (HistoricBuffer.create positive : HistoricBuffer T size)
      0 [] := RecentValues.Ring.shows_fill 0 positive
  revert start
  generalize (HistoricBuffer.create positive : HistoricBuffer T size) = self
  generalize ([] : List T) = values
  intro start
  induction steps generalizing self values with
  | nil => exact start
  | cons step steps ih => exact ih _ _ (shows_step start step)

theorem historic_values (positive : 0 < size) (steps : List (HistoryStep T)) {i : Nat}
    (inside : i < size) :
    (steps.foldl HistoricBuffer.step (HistoricBuffer.create positive)).get i =
      (steps.foldl valuesBehind [])[i]?.getD 0 := by
  rw [get_eq _ i inside, (shows_steps positive steps).get inside]
  rfl

end Histories

theorem average_eq {width size : Nat} (self : HistoricBuffer (BitVec width) size) :
    self.average = self.data.sum / BitVec.ofNat width size := by
  unfold HistoricBuffer.average
  rw [List.sum_eq_foldl]

theorem averageOf_eq {width size : Nat} (self : HistoricBuffer (BitVec width) size)
    (firstN : Nat) :
    self.averageOf firstN =
      ((List.range firstN).map self.get).sum / BitVec.ofNat width firstN := by
  unfold HistoricBuffer.averageOf
  rw [List.sum_eq_foldl, List.foldl_map]

/-- Whatever was added and reset: the buffer counts back over the values since
the last reset, zeros behind them, and the averages are over these. -/
theorem history_is_kept {width size : Nat} (positive : 0 < size)
    (steps : List (HistoryStep (BitVec width))) :
    let self := steps.foldl HistoricBuffer.step
      (HistoricBuffer.create positive : HistoricBuffer (BitVec width) size)
    let values := steps.foldl valuesBehind []
    (∀ i < size, self.get i = values[i]?.getD 0) ∧
      self.average = (values.take size).sum / BitVec.ofNat width size ∧
      ∀ firstN ≤ size, self.averageOf firstN =
        (values.take firstN).sum / BitVec.ofNat width firstN := by
  intro self values
  have kept : ∀ i < size, self.get i = values[i]?.getD 0 := fun i inside =>
    historic_values positive steps inside
  refine ⟨kept, ?_, ?_⟩
  · rw [average_eq, (shows_steps positive steps).sum]
  · intro firstN few
    rw [averageOf_eq]
    congr 1
    have shown : (List.range firstN).map self.get =
        values.take firstN ++ List.replicate (firstN - values.length) 0 := by
      rw [← RecentValues.read_eq]
      apply List.map_congr_left
      intro i member
      exact kept i (Nat.lt_of_lt_of_le (List.mem_range.mp member) few)
    rw [shown, List.sum_append, List.sum_replicate, nsmul_zero, add_zero]

example :
    let self := [HistoryStep.add (9#32), .reset, .add 1, .add 2, .add 3, .add 7].foldl
      HistoricBuffer.step (HistoricBuffer.create (Nat.succ_pos 2) : HistoricBuffer (BitVec 32) 3)
    (∀ i < 3, self.get i = [7#32, 3, 2, 1][i]?.getD 0) ∧ self.average = 4 ∧
      ∀ firstN ≤ 3, self.averageOf firstN =
        ([7#32, 3, 2, 1].take firstN).sum / BitVec.ofNat 32 firstN :=
  history_is_kept (Nat.succ_pos 2) [.add (9#32), .reset, .add 1, .add 2, .add 3, .add 7]

end Tg2Sip.Voip
