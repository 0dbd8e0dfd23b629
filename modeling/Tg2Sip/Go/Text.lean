/-
The string functions of the Go gateway: the flood errors of TDLib, the digits
of a text message and the headers that describe a Telegram user.

The patterns fold only ASCII letters that have no other case variant, and a
character outside ASCII is in none of the classes, so that the ASCII case
functions decide the same matches as the Unicode ones.
-/

import Mathlib.Algebra.Group.Nat.Defs
import Tg2Sip.Go.Types
import Tg2Sip.Lib.TextSearch

namespace Tg2Sip.Go

open TextSearch

/-- The two's complement value of an `int64` result. -/
def wrap64 (value : Int) : Int := value.bmod (2 ^ 64)

def second : Int := 1000000000

/-- `strconv.Atoi` on a string of digits. -/
def atoi (digits : List Char) : Option Int :=
  if decimalValue digits < 2 ^ 63 then some (decimalValue digits) else none

/-- `(\d+)` behind the literal, at the start of a text in lower case. -/
def retryAfterHere (text : List Char) : Option (List Char) :=
  match afterLiteral "retry after ".toList text with
  | none => none
  | some rest =>
      match rest.takeWhile Char.isDigit with
      | [] => none
      | digit :: digits => some (digit :: digits)

/-- `retryAfterRe.FindStringSubmatch`: the captured digits. -/
def findRetryAfter (message : String) : Option (List Char) :=
  regexSearch retryAfterHere (message.toList.map Char.toLower)

def matchPeerFlood (message : String) : Bool :=
  (regexSearch (afterLiteral "peer_flood".toList) (message.toList.map Char.toLower)).isSome

structure Flood where
  wait : Int
  peer : Bool
  deriving DecidableEq, Repr

/-- `parseFloodError`: `none` is an error that does not match. -/
def parseFloodError (error : TgError) : Option Flood :=
  match error with
  | .other => none
  | .response message =>
      match (findRetryAfter message).bind atoi with
      | some seconds => some ⟨wrap64 (seconds * second), false⟩
      | none => if matchPeerFlood message then some ⟨0, true⟩ else none

def isSpace (char : Char) : Bool :=
  char ∈ ['\t', '\n', '\x0b', '\x0c', '\r', ' ', '\u0085', '\u00a0', '\u1680', '\u2028',
    '\u2029', '\u202f', '\u205f', '\u3000'] || ('\u2000' ≤ char && char ≤ '\u200a')

def trimSpace (text : List Char) : List Char :=
  ((text.dropWhile isSpace).reverse.dropWhile isSpace).reverse

def isDtmfChar (char : Char) : Bool :=
  char.isDigit || ('A' ≤ char && char ≤ 'D') || char == '*' || char == '#'

/-- The digits that `handleTelegramMessage` takes from a text. -/
def dtmfDigits (text : String) : Option String :=
  let upper := (trimSpace text.toList).map Char.toUpper
  if upper = [] || !upper.all isDtmfChar then none
  else some (String.ofList (upper.take 32))

def formatE164 (phone : String) : String :=
  match trimSpace phone.toList with
  | [] => ""
  | '+' :: rest => String.ofList ('+' :: rest)
  | digits => String.ofList ('+' :: digits)

def getUsername (user : User) : String :=
  match user.usernames with
  | none => ""
  | some (editable, active) => if editable ≠ "" then editable else active.headD ""

/-- A header that is left out when its value is empty. -/
def optionalHeader (name value : String) : List (String × String) :=
  if value = "" then [] else [(name, value)]

/-- `buildUserHeaders`; a Go map has no order. -/
def buildUserHeaders (callID : Int) (user : User) : List (String × String) :=
  [("X-GW-Context", toString callID), ("X-TG-ID", toString user.id)] ++
    (optionalHeader "X-TG-FirstName" user.firstName ++
      (optionalHeader "X-TG-LastName" user.lastName ++
        (optionalHeader "X-TG-Username" (getUsername user) ++
          optionalHeader "X-TG-Phone" (formatE164 user.phoneNumber))))

end Tg2Sip.Go
