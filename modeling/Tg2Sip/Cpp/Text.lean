/-
The string functions that guards and actions call: `is_digits`, the numeric
conversions of the standard library on digit strings, and the three regular
expressions.  `std::regex_match` requires the whole text to match, while
`std::regex_search` takes the leftmost position at which a match exists and
extends a repetition as far as it goes.
-/

import Mathlib.Algebra.Group.Nat.Defs
import Tg2Sip.Lib.TextSearch

namespace Tg2Sip.Cpp

open TextSearch

/-- `is_digits` in `utils.cpp`; the empty string passes. -/
def isDigits (text : String) : Bool :=
  text.toList.all Char.isDigit

inductive Conversion where
  | value (number : Nat)
  | invalidArgument
  | outOfRange
  deriving DecidableEq, Repr

/-- `std::stoi` and `std::stol` on a string of digits, for the largest value
`limit` of the result type. -/
def convertDigits (limit : Nat) (digits : List Char) : Conversion :=
  if digits = [] then .invalidArgument
  else if decimalValue digits ≤ limit then .value (decimalValue digits)
  else .outOfRange

def stoi (digits : List Char) : Conversion := convertDigits (2 ^ 31 - 1) digits

def stol (digits : List Char) : Conversion := convertDigits (2 ^ 63 - 1) digits

def retryAfterText : List Char := "Too Many Requests: retry after ".toList

/-- The nonempty run of digits behind the literal, `(\d+)` being greedy. -/
def retryAfterHere (text : List Char) : Option (List Char) :=
  match afterLiteral "Too Many Requests: retry after ".toList text with
  | none => none
  | some rest =>
      match rest.takeWhile Char.isDigit with
      | [] => none
      | digit :: digits => some (digit :: digits)

/-- `delay_regex` in `DialTg::parse_error`: the captured digits. -/
def searchRetryAfter (message : String) : Option (List Char) :=
  regexSearch retryAfterHere message.toList

theorem searchRetryAfter_eq_some {message : String} {digits : List Char} :
    searchRetryAfter message = some digits ↔
      NumberBehind retryAfterText message.toList digits :=
  regexSearch_number

def searchPeerFlood (message : String) : Bool :=
  (regexSearch (afterLiteral "PEER_FLOOD".toList) message.toList).isSome

/-- The class `[0-9A-D*#]`. -/
def isDtmfChar (char : Char) : Bool :=
  char.isDigit || ('A' ≤ char && char ≤ 'D') || char == '*' || char == '#'

def matchesDtmf (text : String) : Bool :=
  1 ≤ text.length && text.length ≤ 32 && text.toList.all isDtmfChar

end Tg2Sip.Cpp
