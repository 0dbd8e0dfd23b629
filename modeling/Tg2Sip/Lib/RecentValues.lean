/-
A ring that keeps the last values that were put into it.

The values lie in a list of a fixed length; the next one replaces the oldest
one.  Read backwards from where the next value goes, the ring is the last
values that were put, newest first, and what it held at the start behind them.  A
list that grows at its end shows the same with its last elements.
-/

import Mathlib.Algebra.BigOperators.Group.List.Basic
import Mathlib.Data.List.Basic

namespace RecentValues

variable {Value : Type}

theorem read_eq (values : List Value) (blank : Value) (count : Nat) :
    (List.range count).map (fun back => values[back]?.getD blank) =
      values.take count ++ List.replicate (count - values.length) blank := by
  apply List.ext_getElem
  · rw [List.length_map, List.length_range, List.length_append, List.length_take,
      List.length_replicate]
    omega
  · intro back first second
    rw [List.length_map, List.length_range] at first
    rw [List.getElem_map, List.getElem_range]
    by_cases known : back < values.length
    · rw [List.getElem_append_left (by rw [List.length_take]; omega), List.getElem_take,
        List.getElem?_eq_getElem known]
      rfl
    · rw [List.getElem_append_right (by rw [List.length_take]; omega), List.getElem_replicate,
        List.getElem?_eq_none (Nat.le_of_not_lt known)]
      rfl

/-- `offset` is where the next value goes. -/
structure Ring (Value : Type) (size : Nat) where
  data : List Value
  data_length : data.length = size
  offset : Nat
  inside : offset < size

variable {size : Nat}

namespace Ring

/-- Everything the ring holds, the newest value first. -/
def recent (ring : Ring Value size) : List Value :=
  (ring.data.take ring.offset).reverse ++ (ring.data.drop ring.offset).reverse

def put (ring : Ring Value size) (value : Value) : Ring Value size where
  data := ring.data.set ring.offset value
  data_length := by rw [List.length_set, ring.data_length]
  offset := (ring.offset + 1) % size
  inside := Nat.mod_lt _ (Nat.zero_lt_of_lt ring.inside)

def fill (value : Value) (positive : 0 < size) : Ring Value size where
  data := List.replicate size value
  data_length := List.length_replicate
  offset := 0
  inside := positive

/-- Where the value before the last `back` ones lies. -/
def place (ring : Ring Value size) (back : Nat) : Nat :=
  if back < ring.offset then ring.offset - 1 - back else size + ring.offset - 1 - back

theorem recent_length (ring : Ring Value size) : ring.recent.length = size := by
  have inside := ring.inside
  have length := ring.data_length
  unfold recent
  rw [List.length_append, List.length_reverse, List.length_reverse, List.length_take,
    List.length_drop]
  omega

theorem recent_perm (ring : Ring Value size) : ring.recent.Perm ring.data := by
  have perm := (List.reverse_perm (ring.data.take ring.offset)).append
    (List.reverse_perm (ring.data.drop ring.offset))
  rw [List.take_append_drop] at perm
  exact perm

theorem getElem?_place (ring : Ring Value size) {back : Nat} (inside : back < size) :
    ring.data[ring.place back]? = ring.recent[back]? := by
  have below := ring.inside
  have length := ring.data_length
  have first : (ring.data.take ring.offset).reverse.length = ring.offset := by
    rw [List.length_reverse, List.length_take]
    omega
  unfold recent place
  by_cases near : back < ring.offset
  · rw [if_pos near, List.getElem?_append_left (by omega), List.getElem?_reverse (by
      rw [List.length_take]; omega), List.length_take, List.getElem?_take_of_lt (by omega)]
    congr 1
    omega
  · rw [if_neg near, List.getElem?_append_right (by omega), first, List.getElem?_reverse (by
      rw [List.length_drop]; omega), List.length_drop, List.getElem?_drop]
    congr 1
    omega

theorem recent_put (ring : Ring Value size) (value : Value) :
    (ring.put value).recent = value :: ring.recent.dropLast := by
  have inside := ring.inside
  have length := ring.data_length
  have known : ring.offset < ring.data.length := by omega
  have split : ring.data.drop ring.offset =
      ring.data[ring.offset] :: ring.data.drop (ring.offset + 1) :=
    List.drop_eq_getElem_cons known
  have old : ring.recent.dropLast =
      (ring.data.take ring.offset).reverse ++ (ring.data.drop (ring.offset + 1)).reverse := by
    unfold recent
    rw [split, List.reverse_cons, ← List.append_assoc, List.dropLast_concat]
  have set : ring.data.set ring.offset value =
      (ring.data.take ring.offset ++ [value]) ++ ring.data.drop (ring.offset + 1) := by
    rw [List.set_eq_take_append_cons_drop, if_pos known, List.append_assoc]
    rfl
  have before : (ring.data.take ring.offset ++ [value]).length = ring.offset + 1 := by
    rw [List.length_append, List.length_take, List.length_singleton]
    omega
  rw [old]
  unfold recent put
  dsimp only
  rw [set]
  by_cases last : ring.offset + 1 = size
  · have none : ring.data.drop (ring.offset + 1) = [] := List.drop_eq_nil_of_le (by omega)
    have first : (ring.offset + 1) % size = 0 := by
      rw [last]
      exact Nat.mod_self size
    rw [first, none]
    simp only [List.take_zero, List.drop_zero, List.reverse_nil, List.nil_append, List.append_nil,
      List.reverse_append, List.reverse_singleton, List.singleton_append]
  · rw [Nat.mod_eq_of_lt (by omega), List.take_left' before, List.drop_left' before]
    simp only [List.reverse_append, List.reverse_singleton, List.nil_append, List.cons_append]

theorem recent_fill (value : Value) (positive : 0 < size) :
    (fill value positive : Ring Value size).recent = List.replicate size value := by
  unfold recent fill
  dsimp only
  rw [List.take_zero, List.drop_zero, List.reverse_nil, List.nil_append, List.reverse_replicate]

/-- The ring shows the given values, and nothing but `blank` behind them. -/
def Shows (ring : Ring Value size) (blank : Value) (values : List Value) : Prop :=
  ring.recent = (values ++ List.replicate size blank).take size

theorem shows_fill (blank : Value) (positive : 0 < size) :
    (fill blank positive : Ring Value size).Shows blank [] := by
  unfold Shows
  rw [recent_fill, List.nil_append, List.take_of_length_le]
  exact Nat.le_of_eq List.length_replicate

theorem Shows.put {ring : Ring Value size} {blank : Value} {values : List Value}
    (shows : ring.Shows blank values) (value : Value) :
    (ring.put value).Shows blank (value :: values) := by
  obtain ⟨others, one⟩ := Nat.exists_eq_add_one_of_ne_zero
    (Nat.ne_of_gt (Nat.zero_lt_of_lt ring.inside))
  have enough : size ≤ (values ++ List.replicate size blank).length := by
    rw [List.length_append, List.length_replicate]
    exact Nat.le_add_left _ _
  have dropped : ring.recent.dropLast = (values ++ List.replicate size blank).take others := by
    rw [List.dropLast_eq_take, ring.recent_length, shows, List.take_take]
    congr 1
    omega
  have grown : value :: (values ++ List.replicate size blank).take others =
      (value :: (values ++ List.replicate size blank)).take size := by
    rw [← List.take_succ_cons, ← one]
  unfold Shows
  rw [recent_put, dropped, grown]
  rfl

theorem Shows.get {ring : Ring Value size} {blank : Value} {values : List Value}
    (shows : ring.Shows blank values) {back : Nat} (inside : back < size) :
    ring.data[ring.place back]? = some (values[back]?.getD blank) := by
  rw [getElem?_place ring inside, shows, List.getElem?_take_of_lt inside]
  by_cases known : back < values.length
  · rw [List.getElem?_append_left known, List.getElem?_eq_getElem known]
    rfl
  · rw [List.getElem?_append_right (by omega), List.getElem?_replicate, if_pos (by omega),
      List.getElem?_eq_none (by omega)]
    rfl

/-- The order of the places does not matter for a sum. -/
theorem Shows.sum [AddCommMonoid Value] {ring : Ring Value size} {values : List Value}
    (shows : ring.Shows 0 values) : ring.data.sum = (values.take size).sum := by
  rw [← ring.recent_perm.sum_eq, shows, List.take_append, List.take_replicate, List.sum_append,
    List.sum_replicate, nsmul_zero, add_zero]

end Ring

section Newest

variable {Element Other : Type}

def newest (count : Nat) (list : List Element) : List Element :=
  list.drop (list.length - count)

theorem newest_append {first second : List Element} {count : Nat} (enough : count ≤ second.length) :
    newest count (first ++ second) = newest count second := by
  unfold newest
  rw [List.drop_append, List.length_append, List.drop_eq_nil_of_le (by omega), List.nil_append]
  congr 1
  omega

theorem newest_all {list : List Element} {count : Nat} (few : list.length ≤ count) :
    newest count list = list := by
  unfold newest
  rw [Nat.sub_eq_zero_of_le few, List.drop_zero]

theorem newest_split (count : Nat) (list : List Element) :
    list.take (list.length - count) ++ newest count list = list :=
  List.take_append_drop _ list

theorem newest_length (count : Nat) (list : List Element) :
    (newest count list).length = min count list.length := by
  unfold newest
  rw [List.length_drop]
  omega

theorem newest_newest {count kept : Nat} {list behind : List Element}
    (enough : count ≤ kept + behind.length) :
    newest count (newest kept list ++ behind) = newest count (list ++ behind) := by
  by_cases few : list.length ≤ kept
  · rw [newest_all few]
  · have split := newest_split kept list
    have length := newest_length kept list
    rw [Nat.min_eq_left (Nat.le_of_not_le few)] at length
    have whole : newest count (list ++ behind) = newest count
        (list.take (list.length - kept) ++ (newest kept list ++ behind)) := by
      rw [← List.append_assoc, split]
    have behind : count ≤ (newest kept list ++ behind).length := by
      rw [List.length_append, length]
      exact enough
    rw [whole, newest_append behind]

theorem newest_filterMap {count : Nat} {list : List Element} {give : Element → Option Other}
    (all : ∀ element ∈ newest count list, (give element).isSome) :
    newest count (list.filterMap give) = (newest count list).filterMap give ∧
      ((newest count list).filterMap give).length = (newest count list).length := by
  have length : ((newest count list).filterMap give).length = (newest count list).length :=
    List.filterMap_length_eq_length.mpr all
  refine ⟨?_, length⟩
  have split := congrArg (List.filterMap give) (newest_split count list)
  rw [List.filterMap_append] at split
  rw [newest_length] at length
  by_cases few : list.length ≤ count
  · rw [newest_all few]
    exact newest_all (Nat.le_trans (List.length_filterMap_le _ _) few)
  · rw [← split, newest_append (by omega), newest_all (by omega)]

end Newest

end RecentValues
