/-
`INIReader`: the values of an INI file and how they are asked for.

A character stands for a byte of the file.  The values are kept under the lower
case text `section=name`; a key that is given again gets its values joined by
line breaks.  Numbers are converted by `strtol` with the base taken from the
text, and anything that is no number or no truth value counts as the default.
-/

import Mathlib.Algebra.Group.Int.Defs
import Mathlib.Algebra.Group.Nat.Defs
import Tg2Sip.Lib.FiniteMap
import Tg2Sip.Lib.TextSearch

namespace Tg2Sip.Config

open FiniteMap TextSearch

/-- `isspace` of the C locale. -/
def isSpace (char : Char) : Bool := char == ' ' || ('\t' ≤ char && char ≤ '\x0d')

def lskip (text : List Char) : List Char := text.dropWhile isSpace

/-- What a C string keeps of a buffer. -/
def cString (text : List Char) : List Char := text.takeWhile (· != '\x00')

/-- `std::transform(…, ::tolower)`. -/
def toLower (text : String) : String := String.ofList (text.toList.map Char.toLower)

structure Key where
  sect : String
  name : String
  deriving DecidableEq, Repr

def makeKey (sect name : String) : String := toLower (sect ++ "=" ++ name)

structure INIReader where
  parseError : Int
  values : Map String String

/-- `INIReader::ValueHandler`, as far as the values are concerned. -/
def valueHandler (values : Map String String) (sect name value : String) :
    Map String String :=
  let known := (values (makeKey sect name)).getD ""
  FiniteMap.insert values (makeKey sect name)
    (if known.isEmpty then known ++ value else known ++ "\n" ++ value)

def longMax : Int := 2 ^ 63 - 1

def longMin : Int := -2 ^ 63

/-- The digit that a character stands for in a base above its value. -/
def digitValue (char : Char) : Nat :=
  if '0' ≤ char && char ≤ '9' then char.toNat - '0'.toNat
  else if 'a' ≤ char && char ≤ 'z' then char.toNat - 'a'.toNat + 10
  else if 'A' ≤ char && char ≤ 'Z' then char.toNat - 'A'.toNat + 10
  else 36

def digitsOf (base : Nat) (text : List Char) : List Nat :=
  (text.map digitValue).takeWhile (· < base)

/-- The base of a number and its text without the prefix. -/
def basePrefix : List Char → Nat × List Char
  | '0' :: mark :: rest =>
      if (mark == 'x' || mark == 'X') && !(digitsOf 16 rest).isEmpty then (16, rest)
      else (8, '0' :: mark :: rest)
  | '0' :: rest => (8, '0' :: rest)
  | text => (10, text)

def signPrefix : List Char → Bool × List Char
  | '-' :: rest => (true, rest)
  | '+' :: rest => (false, rest)
  | text => (false, text)

/-- `strtol(text, &end, 0)`; `none` when nothing was converted. -/
def strtol (text : List Char) : Option Int :=
  let (negative, unsigned) := signPrefix (lskip text)
  let (base, rest) := basePrefix unsigned
  match digitsOf base rest with
  | [] => none
  | digits =>
      let number : Int := (digits.foldl (fun value digit => value * base + digit) 0 : Nat)
      some (if negative then max longMin (-number) else min longMax number)

section Getters

variable (reader : INIReader) (sect name : String)

def INIReader.get (defaultValue : String) : String :=
  (reader.values (makeKey sect name)).getD defaultValue

def INIReader.getInteger (defaultValue : Int) : Int :=
  (strtol (cString (reader.get sect name "").toList)).getD defaultValue

def INIReader.getBoolean (defaultValue : Bool) : Bool :=
  let value := toLower (reader.get sect name "")
  if value == "true" || value == "yes" || value == "on" || value == "1" then true
  else if value == "false" || value == "no" || value == "off" || value == "0" then false
  else defaultValue

end Getters

@[simp] theorem toList_toLower (text : String) :
    (toLower text).toList = text.toList.map Char.toLower :=
  String.toList_ofList

theorem toList_makeKey (sect name : String) :
    (makeKey sect name).toList =
      (toLower sect).toList ++ '=' :: (toLower name).toList := by
  unfold makeKey
  rw [toList_toLower, String.toList_append, String.toList_append, List.map_append,
    List.map_append, List.append_assoc, toList_toLower, toList_toLower]
  exact rfl

theorem toLower_eq_mark (char : Char) : char.toLower = '=' ↔ char = '=' := by
  rw [← Char.toNat_inj, ← Char.toNat_inj, toNat_toLower]
  change _ = 61 ↔ _ = 61
  split <;> omega

theorem mark_notMem_toLower {text : String} (unmarked : '=' ∉ text.toList) :
    '=' ∉ (toLower text).toList := by
  rw [toList_toLower, List.mem_map]
  intro marked
  obtain ⟨char, member, same⟩ := marked
  rw [(toLower_eq_mark char).mp same] at member
  exact unmarked member

/-- The last mark separates what is in front of it from what is behind it. -/
theorem append_mark_inj {Item : Type} {mark : Item} {front back front' back' : List Item}
    (unmarked : mark ∉ back) (unmarked' : mark ∉ back')
    (same : front ++ mark :: back = front' ++ mark :: back') : front = front' ∧ back = back' := by
  rcases List.append_eq_append_iff.mp same with ⟨between, shape, rest⟩ | ⟨between, shape, rest⟩
  · cases between with
    | nil =>
        rw [List.append_nil] at shape
        exact ⟨shape.symm, (List.cons.inj rest).2⟩
    | cons head tail =>
        apply absurd _ unmarked
        rw [(List.cons.inj rest).2]
        exact List.mem_append_right _ List.mem_cons_self
  · cases between with
    | nil =>
        rw [List.append_nil] at shape
        exact ⟨shape, (List.cons.inj rest).2.symm⟩
    | cons head tail =>
        apply absurd _ unmarked'
        rw [(List.cons.inj rest).2]
        exact List.mem_append_right _ List.mem_cons_self

/-- Without a mark in the names, two keys share their text only up to case. -/
theorem makeKey_inj {sect name sect' name' : String} (unmarked : '=' ∉ name.toList)
    (unmarked' : '=' ∉ name'.toList) :
    makeKey sect name = makeKey sect' name' ↔
      toLower sect = toLower sect' ∧ toLower name = toLower name' := by
  constructor
  · intro same
    have texts := congrArg String.toList same
    rw [toList_makeKey, toList_makeKey] at texts
    obtain ⟨sects, names⟩ :=
      append_mark_inj (mark_notMem_toLower unmarked) (mark_notMem_toLower unmarked') texts
    exact ⟨String.toList_inj.mp sects, String.toList_inj.mp names⟩
  · intro same
    apply String.toList_inj.mp
    rw [toList_makeKey, toList_makeKey, same.1, same.2]

end Tg2Sip.Config
