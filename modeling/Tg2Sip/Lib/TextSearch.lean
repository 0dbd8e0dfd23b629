/-
Searching in texts.

`regexSearch` is the leftmost search of a regular expression, given the
function that matches it at the start of a text.
-/

import Mathlib.Logic.Function.Basic

namespace TextSearch

theorem toNat_toLower (char : Char) : char.toLower.toNat =
    if 65 ≤ char.toNat ∧ char.toNat ≤ 90 then char.toNat + 32 else char.toNat := by
  unfold Char.toLower
  by_cases upper : char.val ≥ 'A'.val ∧ char.val ≤ 'Z'.val
  · have low : 65 ≤ char.toNat := UInt32.le_iff_toNat_le.mp upper.1
    have high : char.toNat ≤ 90 := UInt32.le_iff_toNat_le.mp upper.2
    rw [dif_pos upper, if_pos ⟨low, high⟩]
    change (char.toNat + 32) % 2 ^ 32 = _
    omega
  · rw [dif_neg upper, if_neg]
    intro upper
    obtain ⟨low, high⟩ := upper
    exact upper ⟨UInt32.le_iff_toNat_le.mpr low, UInt32.le_iff_toNat_le.mpr high⟩

def decimalValue (digits : List Char) : Nat :=
  digits.foldl (fun value digit => 10 * value + (digit.toNat - '0'.toNat)) 0

/-- The leftmost suffix on which `matcher` succeeds. -/
def regexSearch {Result : Type} (matcher : List Char → Option Result) :
    List Char → Option Result
  | [] => matcher []
  | head :: tail =>
      match matcher (head :: tail) with
      | some result => some result
      | none => regexSearch matcher tail

def afterLiteral : List Char → List Char → Option (List Char)
  | [], text => some text
  | _ :: _, [] => none
  | expected :: literal, actual :: text =>
      if expected = actual then afterLiteral literal text else none

def numberHere (literal text : List Char) : Option (List Char) :=
  match afterLiteral literal text with
  | none => none
  | some rest =>
      match rest.takeWhile Char.isDigit with
      | [] => none
      | digit :: digits => some (digit :: digits)

/-- The digits are the whole number behind the first literal that a number
follows. -/
structure FirstNumber (literal text digits : List Char) (before after : List Char) : Prop where
  shape : text = before ++ (literal ++ (digits ++ after))
  nonempty : digits ≠ []
  digits : ∀ char ∈ digits, char.isDigit = true
  whole : ∀ char ∈ after.head?, char.isDigit = false
  first : ∀ earlier digit later, text = earlier ++ (literal ++ digit :: later) →
    digit.isDigit = true → before.length ≤ earlier.length

def NumberBehind (literal text digits : List Char) : Prop :=
  ∃ before after, FirstNumber literal text digits before after

section Search

variable {Result : Type} {matcher : List Char → Option Result} {text : List Char}

theorem afterLiteral_eq_some {literal rest : List Char} :
    afterLiteral literal text = some rest ↔ text = literal ++ rest := by
  induction literal generalizing text with
  | nil => exact Option.some.injEq text rest ▸ Iff.rfl
  | cons expected literal ih =>
      cases text with
      | nil => simp [afterLiteral]
      | cons actual text =>
          by_cases same : expected = actual
          · simp [afterLiteral, same, ih]
          · simp [afterLiteral, same, Ne.symm same]

theorem regexSearch_eq_none :
    regexSearch matcher text = none ↔
      ∀ before after, text = before ++ after → matcher after = none := by
  induction text with
  | nil =>
      constructor
      · intro nothing before after shape
        obtain ⟨_, rfl⟩ := List.append_eq_nil_iff.mp shape.symm
        exact nothing
      · intro nowhere
        exact nowhere [] [] rfl
  | cons head tail ih =>
      unfold regexSearch
      constructor
      · intro nothing before after shape
        cases here : matcher (head :: tail) with
        | some result =>
            rw [here] at nothing
            cases nothing
        | none =>
            rw [here] at nothing
            cases before with
            | nil =>
                rw [List.nil_append] at shape
                rw [← shape]
                exact here
            | cons first rest => exact ih.mp nothing rest after (List.cons.inj shape).2
      · intro nowhere
        rw [nowhere [] (head :: tail) rfl]
        apply ih.mpr
        intro before after shape
        apply nowhere (head :: before) after
        rw [shape, List.cons_append]

theorem regexSearch_eq_some {result : Result} :
    regexSearch matcher text = some result ↔
      ∃ before after, text = before ++ after ∧ matcher after = some result ∧
        ∀ earlier later, text = earlier ++ later → earlier.length < before.length →
          matcher later = none := by
  induction text with
  | nil =>
      constructor
      · intro found
        exact ⟨[], [], rfl, found, fun _ _ _ less => absurd less (Nat.not_lt_zero _)⟩
      · intro matched
        obtain ⟨before, after, shape, found, _⟩ := matched
        obtain ⟨_, rfl⟩ := List.append_eq_nil_iff.mp shape.symm
        exact found
  | cons head tail ih =>
      unfold regexSearch
      cases here : matcher (head :: tail) with
      | some other =>
          constructor
          · intro found
            refine ⟨[], head :: tail, rfl, here.trans found, ?_⟩
            intro earlier later _ less
            exact absurd less (Nat.not_lt_zero _)
          · intro matched
            obtain ⟨before, after, shape, found, first⟩ := matched
            cases before with
            | nil =>
                rw [List.nil_append] at shape
                rw [← shape, here] at found
                exact found
            | cons _ rest =>
                have missing := first [] (head :: tail) rfl (Nat.zero_lt_succ _)
                rw [here] at missing
                cases missing
      | none =>
          dsimp only
          rw [ih]
          constructor
          · intro matched
            obtain ⟨before, after, shape, found, first⟩ := matched
            refine ⟨head :: before, after, congrArg (List.cons head) shape, found, ?_⟩
            intro earlier later other less
            cases earlier with
            | nil =>
                rw [List.nil_append] at other
                rw [← other]
                exact here
            | cons _ rest =>
                exact first rest later (List.cons.inj other).2 (Nat.lt_of_succ_lt_succ less)
          · intro matched
            obtain ⟨before, after, shape, found, first⟩ := matched
            cases before with
            | nil =>
                rw [List.nil_append] at shape
                rw [← shape, here] at found
                cases found
            | cons start rest =>
                obtain ⟨rfl, behind⟩ := List.cons.inj shape
                refine ⟨rest, after, behind, found, ?_⟩
                intro earlier later other less
                apply first (head :: earlier) later (congrArg (List.cons head) other)
                exact Nat.succ_lt_succ less

theorem regexSearch_literal (literal : List Char) :
    (regexSearch (afterLiteral literal) text).isSome = true ↔ literal <:+: text := by
  rw [← Option.ne_none_iff_isSome, Ne, regexSearch_eq_none]
  constructor
  · intro found
    by_contra missing
    apply found
    intro before after shape
    rw [Option.eq_none_iff_forall_ne_some]
    intro rest here
    rw [afterLiteral_eq_some.mp here] at shape
    exact missing ⟨before, rest, by rw [shape, List.append_assoc]⟩
  · intro inside
    obtain ⟨before, rest, shape⟩ := inside
    intro nowhere
    have here : afterLiteral literal (literal ++ rest) = some rest := afterLiteral_eq_some.mpr rfl
    rw [nowhere before (literal ++ rest) (by rw [← shape, List.append_assoc])] at here
    cases here

end Search

/-! ### A number behind a literal -/

section Number

variable {literal text digits : List Char}

theorem takeWhile_eq_iff {test : Char → Bool} {rest : List Char} :
    rest.takeWhile test = digits ↔ ∃ after, rest = digits ++ after ∧
      (∀ char ∈ digits, test char = true) ∧ ∀ char ∈ after.head?, test char = false := by
  constructor
  · rintro rfl
    refine ⟨rest.dropWhile test, List.takeWhile_append_dropWhile.symm, ?_, ?_⟩
    · exact List.all_eq_true.mp List.all_takeWhile
    · intro char member
      have stopped := List.head?_dropWhile_not test rest
      rw [Option.mem_def.mp member] at stopped
      exact stopped
  · intro run
    obtain ⟨after, rfl, inside, behind⟩ := run
    rw [List.takeWhile_append_of_pos inside]
    cases after with
    | nil => simp
    | cons head tail => simp [behind head rfl]

theorem numberHere_eq_some :
    numberHere literal text = some digits ↔ digits ≠ [] ∧
      ∃ after, text = literal ++ (digits ++ after) ∧ (∀ char ∈ digits, char.isDigit = true) ∧
        ∀ char ∈ after.head?, char.isDigit = false := by
  have behind : numberHere literal text = some digits ↔ digits ≠ [] ∧
      ∃ rest, text = literal ++ rest ∧ rest.takeWhile Char.isDigit = digits := by
    unfold numberHere
    cases found : afterLiteral literal text with
    | none =>
        constructor
        · nofun
        · intro matched
          obtain ⟨_, rest, shape, _⟩ := matched
          rw [afterLiteral_eq_some.mpr shape] at found
          cases found
    | some rest =>
        have shape := afterLiteral_eq_some.mp found
        constructor
        · intro taken
          cases run : rest.takeWhile Char.isDigit with
          | nil => simp [run] at taken
          | cons digit more =>
              simp only [run, Option.some.injEq] at taken
              exact ⟨by rw [← taken]; exact List.cons_ne_nil _ _, rest, shape, run.trans taken⟩
        · intro matched
          obtain ⟨nonempty, other, otherShape, run⟩ := matched
          have same : rest = other := List.append_cancel_left (shape.symm.trans otherShape)
          rw [same]
          cases digits with
          | nil => exact absurd rfl nonempty
          | cons digit more => simp only [run]
  rw [behind]
  apply and_congr_right
  intro _
  constructor
  · intro matched
    obtain ⟨rest, shape, run⟩ := matched
    obtain ⟨after, rfl, inside, stopped⟩ := takeWhile_eq_iff.mp run
    exact ⟨after, shape, inside, stopped⟩
  · intro matched
    obtain ⟨after, shape, inside, stopped⟩ := matched
    exact ⟨digits ++ after, shape, takeWhile_eq_iff.mpr ⟨after, rfl, inside, stopped⟩⟩

theorem numberHere_eq_none :
    numberHere literal text = none ↔
      ∀ digit later, text = literal ++ digit :: later → digit.isDigit = false := by
  constructor
  · intro nothing digit later shape
    by_contra isDigit
    rw [Bool.not_eq_false] at isDigit
    have found : numberHere literal text =
        some (digit :: later.takeWhile Char.isDigit) := by
      apply numberHere_eq_some.mpr
      obtain ⟨after, rest, inside, stopped⟩ := takeWhile_eq_iff.mp
        (rfl : (digit :: later).takeWhile Char.isDigit = _)
      rw [List.takeWhile_cons_of_pos isDigit] at rest inside
      exact ⟨List.cons_ne_nil _ _, after, by rw [shape, rest], inside, stopped⟩
    rw [nothing] at found
    cases found
  · intro nowhere
    rw [Option.eq_none_iff_forall_ne_some]
    intro digits found
    obtain ⟨nonempty, after, shape, inside, _⟩ := numberHere_eq_some.mp found
    cases digits with
    | nil => exact absurd rfl nonempty
    | cons digit more =>
        have wrong := nowhere digit (more ++ after) shape
        rw [inside digit List.mem_cons_self] at wrong
        cases wrong

theorem regexSearch_number :
    regexSearch (numberHere literal) text = some digits ↔ NumberBehind literal text digits := by
  rw [regexSearch_eq_some]
  constructor
  · intro matched
    obtain ⟨before, rest, shape, found, first⟩ := matched
    obtain ⟨nonempty, after, restShape, inside, stopped⟩ := numberHere_eq_some.mp found
    refine ⟨before, after, by rw [shape, restShape], nonempty, inside, stopped, ?_⟩
    intro earlier digit later otherShape isDigit
    by_contra less
    have nothing := first earlier _ otherShape (by omega)
    rw [numberHere_eq_none.mp nothing digit later rfl] at isDigit
    cases isDigit
  · intro number
    obtain ⟨before, after, shape, nonempty, inside, stopped, first⟩ := number
    refine ⟨before, _, shape, numberHere_eq_some.mpr ⟨nonempty, after, rfl, inside, stopped⟩, ?_⟩
    intro earlier later otherShape less
    apply numberHere_eq_none.mpr
    intro digit rest laterShape
    by_contra isDigit
    rw [Bool.not_eq_false] at isDigit
    rw [laterShape] at otherShape
    have most := first earlier digit rest otherShape isDigit
    omega

end Number

end TextSearch
