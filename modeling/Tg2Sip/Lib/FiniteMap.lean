/-
Ordered maps as lookup functions.

The lookup function is the whole observable content of an ordered map: the
iteration order is determined by the keys.  `emplace` is the insertion that
leaves an existing entry alone, `insert` the one that replaces it.
-/

import Mathlib.Logic.Function.Basic

namespace FiniteMap

abbrev Map (Key Value : Type) := Key → Option Value

variable {Key Value : Type} [DecidableEq Key]

def empty : Map Key Value := fun _ => none

def insert (map : Map Key Value) (key : Key) (value : Value) : Map Key Value :=
  Function.update map key (some value)

def erase (map : Map Key Value) (key : Key) : Map Key Value :=
  Function.update map key none

/-- A key that is already present keeps its value. -/
def emplace (map : Map Key Value) (key : Key) (value : Value) : Map Key Value :=
  if (map key).isSome then map else insert map key value

@[simp] theorem insert_self (map : Map Key Value) (key : Key) (value : Value) :
    insert map key value key = some value := by
  simp only [insert, Function.update_self]

@[simp] theorem insert_of_ne (map : Map Key Value) {key other : Key} (value : Value)
    (different : other ≠ key) : insert map key value other = map other := by
  simp only [insert, Function.update_of_ne different]

@[simp] theorem erase_self (map : Map Key Value) (key : Key) : erase map key key = none := by
  simp only [erase, Function.update_self]

@[simp] theorem erase_of_ne (map : Map Key Value) {key other : Key}
    (different : other ≠ key) : erase map key other = map other := by
  simp only [erase, Function.update_of_ne different]

theorem erase_absent {map : Map Key Value} {key : Key} (absent : map key = none) :
    erase map key = map := by
  unfold erase
  rw [← absent, Function.update_eq_self]

@[simp] theorem emplace_of_ne (map : Map Key Value) {key other : Key} (value : Value)
    (different : other ≠ key) : emplace map key value other = map other := by
  unfold emplace
  split
  · rfl
  · exact insert_of_ne map value different

theorem emplace_absent {map : Map Key Value} {key : Key} (value : Value)
    (absent : map key = none) : emplace map key value key = some value := by
  simp only [emplace, absent, Option.isSome_none, Bool.false_eq_true, if_false, insert_self]

def insertAll (map : Map Key Value) (entries : List (Key × Value)) : Map Key Value :=
  entries.foldl (fun known entry => insert known entry.1 entry.2) map

/-- No key comes with two values. -/
def Functional (entries : List (Key × Value)) : Prop :=
  ∀ key first second, (key, first) ∈ entries → (key, second) ∈ entries → first = second

theorem insertAll_cons (map : Map Key Value) (entry : Key × Value) (rest : List (Key × Value)) :
    insertAll map (entry :: rest) = insertAll (insert map entry.1 entry.2) rest := rfl

theorem insertAll_append (map : Map Key Value) (first second : List (Key × Value)) :
    insertAll map (first ++ second) = insertAll (insertAll map first) second :=
  List.foldl_append

theorem mem_of_insertAll {map : Map Key Value} {entries : List (Key × Value)} {key : Key}
    {value : Value} (found : insertAll map entries key = some value) :
    (key, value) ∈ entries ∨ map key = some value := by
  induction entries generalizing map with
  | nil => exact .inr found
  | cons entry rest ih =>
      rw [insertAll_cons] at found
      rcases ih found with later | earlier
      · exact .inl (List.mem_cons_of_mem _ later)
      · by_cases same : key = entry.1
        · subst same
          rw [insert_self] at earlier
          cases earlier
          exact .inl List.mem_cons_self
        · rw [insert_of_ne _ _ same] at earlier
          exact .inr earlier

theorem insertAll_kept {map : Map Key Value} {entries : List (Key × Value)} {key : Key}
    {value : Value} (present : map key = some value)
    (only : ∀ other, (key, other) ∈ entries → other = value) :
    insertAll map entries key = some value := by
  induction entries generalizing map with
  | nil => exact present
  | cons entry rest ih =>
      rw [insertAll_cons]
      apply ih
      · by_cases same : key = entry.1
        · subst same
          rw [insert_self, only entry.2 List.mem_cons_self]
        · rw [insert_of_ne _ _ same]
          exact present
      · intro other inside
        exact only other (List.mem_cons_of_mem _ inside)

theorem insertAll_of_mem {map : Map Key Value} {entries : List (Key × Value)} {key : Key}
    {value : Value} (member : (key, value) ∈ entries)
    (only : ∀ other, (key, other) ∈ entries → other = value) :
    insertAll map entries key = some value := by
  obtain ⟨before, after, rfl⟩ := List.append_of_mem member
  rw [insertAll_append, insertAll_cons]
  apply insertAll_kept (insert_self _ _ _)
  intro other inside
  exact only other (List.mem_append_right _ (List.mem_cons_of_mem _ inside))

theorem insertAll_eq_some {entries : List (Key × Value)} (functional : Functional entries)
    {key : Key} {value : Value} :
    insertAll empty entries key = some value ↔ (key, value) ∈ entries := by
  constructor
  · intro found
    rcases mem_of_insertAll found with member | impossible
    · exact member
    · cases impossible
  · intro member
    exact insertAll_of_mem member (fun other inside => functional key other value inside member)

/-- The order of the pairs does not matter. -/
theorem insertAll_perm {entries others : List (Key × Value)} (functional : Functional entries)
    (perm : entries.Perm others) : insertAll empty others = insertAll empty entries := by
  have otherFunctional : Functional others := by
    intro key first second firstIn secondIn
    exact functional key first second (perm.mem_iff.mpr firstIn) (perm.mem_iff.mpr secondIn)
  funext key
  apply Option.ext
  intro value
  rw [insertAll_eq_some otherFunctional, insertAll_eq_some functional, perm.mem_iff]

end FiniteMap
