/-
How long `handleInvite` blocks after a flood error.

The number of seconds goes through `strconv.Atoi`, a multiplication to a
`time.Duration` and the addition of the extra time, all of them in 64 bits.
-/

import Mathlib.Algebra.Group.Int.Defs
import Tg2Sip.Go.Gateway

namespace Tg2Sip.Go

open TextSearch

def retryAfterText : List Char := "retry after ".toList

/-- A message in lower case, as the patterns of `parseFloodError` see it. -/
def lowerCase (message : String) : List Char := message.toList.map Char.toLower

def maxDuration : Int := 2 ^ 63 - 1

/-- The wait that was asked for, as far as a duration can express it. -/
def wantedWait (seconds : Nat) : Int := min (seconds * second) maxDuration

def year : Int := 366 * 24 * 3600 * second

def Answers.failure (answers : Answers) : Stage → Option TgError
  | .parsing => match answers.parse with
      | .error error => some error
      | .ok _ => none
  | .resolving => match answers.resolve with
      | .error error => some error
      | .ok _ => none
  | .creating _ => match answers.createCall with
      | .error error => some error
      | .ok _ => none
  | _ => none

/-- The error matches, and whichever stage meets it, the next step of the
handler blocks for the given time at least. -/
structure Gateway.Blocks (gateway : Gateway) (error : TgError) (wanted : Int) : Prop where
  matched : parseFloodError error ≠ none
  blocked : ∀ handler answers, answers.failure handler.stage = some error →
    ∃ output stage target, gateway.handle answers handler = some (output, stage, target) ∧
      ∀ (later : Gateway) (clock : Answers), ∃ output stage' target',
        later.handle clock { handler with stage := stage } = some (output, stage', target') ∧
          ∃ deadline, target'.blockUntil = some deadline ∧ clock.now + wanted ≤ deadline

/-- What the message asks for is kept: the number behind the first "retry
after ", or the time for PEER_FLOOD when there is no such number. -/
structure Gateway.KeepsWait (gateway : Gateway) (message : String) : Prop where
  retry : ∀ digits, NumberBehind retryAfterText (lowerCase message) digits →
    gateway.Blocks (.response message) (wantedWait (decimalValue digits))
  peer : (∀ digits, ¬NumberBehind retryAfterText (lowerCase message) digits) →
    "peer_flood".toList <:+: lowerCase message →
      gateway.Blocks (.response message) gateway.peerFlood

/-- The whole wait is a duration, or it is none and the sum happens to wrap to
the longest one. -/
def RetryFits (extraWait : Int) (seconds : Nat) : Prop :=
  seconds * second + extraWait < 2 ^ 63 ∨
    seconds < 2 ^ 63 ∧ 2 ^ 63 ≤ seconds * second ∧
      (seconds * second + extraWait) % 2 ^ 64 = maxDuration

theorem wrap64_spec (value : Int) :
    -2 ^ 63 ≤ wrap64 value ∧ wrap64 value < 2 ^ 63 ∧ wrap64 value % 2 ^ 64 = value % 2 ^ 64 := by
  refine ⟨?_, ?_, Int.bmod_emod⟩
  · have low := Int.le_bmod (x := value) (m := 2 ^ 64) (by decide)
    exact low
  · have high := Int.bmod_lt (x := value) (m := 2 ^ 64) (by decide)
    exact high

theorem retryFits_iff {extraWait : Int} {seconds : Nat} (positive : 0 ≤ extraWait)
    (short : extraWait ≤ year) (converted : seconds < 2 ^ 63) :
    wantedWait seconds ≤ wrap64 (wrap64 (seconds * second) + extraWait) ↔
      RetryFits extraWait seconds := by
  have wrapped : wrap64 (wrap64 (seconds * second) + extraWait) =
      wrap64 (seconds * second + extraWait) := Int.bmod_add_bmod
  obtain ⟨low, high, same⟩ := wrap64_spec (seconds * second + extraWait)
  rw [wrapped]
  unfold wantedWait RetryFits maxDuration
  unfold year second at short
  unfold second at *
  omega

theorem wantedWait_of_large {seconds : Nat} (large : ¬seconds < 2 ^ 63) :
    wantedWait seconds = maxDuration := by
  unfold wantedWait maxDuration second
  omega

theorem peerWait_eq {extraWait peerFlood : Int} (positive : 0 ≤ extraWait)
    (short : extraWait ≤ year) (peerPositive : 0 ≤ peerFlood) (peerShort : peerFlood ≤ year) :
    wrap64 (peerFlood + extraWait) = peerFlood + extraWait := by
  obtain ⟨low, high, same⟩ := wrap64_spec (peerFlood + extraWait)
  unfold year second at short peerShort
  omega

section Blocking

variable {gateway : Gateway} {message : String} {digits : List Char}

theorem handle_of_failure (gateway : Gateway) {handler : Handler} {answers : Answers}
    {error : TgError} (failed : answers.failure handler.stage = some error) {flood : Flood}
    (matched : parseFloodError error = some flood) :
    ∃ output, gateway.handle answers handler =
      some (output, .blocking (gateway.floodWait flood), gateway) := by
  have blocks (otherwise : Stage) :
      gateway.onError error otherwise = .blocking (gateway.floodWait flood) := by
    unfold Gateway.onError
    rw [matched]
  obtain ⟨request, stage⟩ := handler
  cases stage with
  | parsing =>
      cases parsed : answers.parse with
      | ok found => simp [Answers.failure, parsed] at failed
      | error refusal =>
          simp only [Answers.failure, parsed, Option.some.injEq] at failed
          simp only [Gateway.handle, parsed, failed, blocks]
          exact ⟨_, rfl⟩
  | resolving =>
      cases resolved : answers.resolve with
      | ok found => simp [Answers.failure, resolved] at failed
      | error refusal =>
          simp only [Answers.failure, resolved, Option.some.injEq] at failed
          simp only [Gateway.handle, resolved, failed, blocks]
          exact ⟨_, rfl⟩
  | creating userID =>
      cases created : answers.createCall with
      | ok found => simp [Answers.failure, created] at failed
      | error refusal =>
          simp only [Answers.failure, created, Option.some.injEq] at failed
          simp only [Gateway.handle, created, failed, blocks]
          exact ⟨_, rfl⟩
  | _ => cases failed

theorem blocks_iff {error : TgError} {wanted : Int} :
    gateway.Blocks error wanted ↔
      ∃ flood, parseFloodError error = some flood ∧ wanted ≤ gateway.floodWait flood := by
  constructor
  · intro blocks
    obtain ⟨flood, matched⟩ := Option.ne_none_iff_exists'.mp blocks.matched
    refine ⟨flood, matched, ?_⟩
    let handler : Handler := ⟨{ method := .invite, callID := "" }, .parsing⟩
    let answers : Answers := { parse := .error error }
    have failed : answers.failure handler.stage = some error := rfl
    obtain ⟨output, stage, target, handled, later⟩ := blocks.blocked handler answers failed
    obtain ⟨_, same⟩ := handle_of_failure gateway failed matched
    rw [handled] at same
    cases same
    obtain ⟨_, _, _, blocking, deadline, lasts, enough⟩ := later gateway {}
    cases blocking
    cases lasts
    omega
  · intro blocks
    obtain ⟨flood, matched, enough⟩ := blocks
    constructor
    · rw [matched]
      nofun
    · intro handler answers failed
      obtain ⟨output, handled⟩ := handle_of_failure gateway failed matched
      refine ⟨output, _, gateway, handled, ?_⟩
      intro later clock
      exact ⟨_, _, _, rfl, _, rfl, by omega⟩

theorem findRetryAfter_eq_some :
    findRetryAfter message = some digits ↔
      NumberBehind retryAfterText (lowerCase message) digits :=
  regexSearch_number

theorem blocks_retry_iff (positive : 0 ≤ gateway.extraWait) (short : gateway.extraWait ≤ year)
    (peerShort : gateway.peerFlood ≤ year) (peerPositive : 0 ≤ gateway.peerFlood)
    (asked : NumberBehind retryAfterText (lowerCase message) digits) :
    gateway.Blocks (.response message) (wantedWait (decimalValue digits)) ↔
      RetryFits gateway.extraWait (decimalValue digits) := by
  have found := findRetryAfter_eq_some.mpr asked
  rw [blocks_iff]
  unfold parseFloodError
  dsimp only
  rw [found, Option.bind_some]
  by_cases converted : decimalValue digits < 2 ^ 63
  · have number : atoi digits = some (decimalValue digits : Int) := if_pos converted
    rw [number]
    simp only [Option.some.injEq, exists_eq_left', Gateway.floodWait, Bool.false_eq_true, if_false]
    exact retryFits_iff positive short converted
  · have number : atoi digits = none := if_neg converted
    rw [number, wantedWait_of_large converted]
    constructor
    · intro blocks
      obtain ⟨flood, matched, enough⟩ := blocks
      dsimp only at matched
      split at matched
      · cases matched
        have sum := peerWait_eq positive short peerPositive peerShort
        unfold Gateway.floodWait maxDuration at enough
        rw [if_pos rfl, sum] at enough
        unfold year second at short peerShort
        omega
      · cases matched
    · intro fits
      unfold RetryFits second at fits
      omega

theorem blocks_peer (positive : 0 ≤ gateway.extraWait) (short : gateway.extraWait ≤ year)
    (peerPositive : 0 ≤ gateway.peerFlood) (peerShort : gateway.peerFlood ≤ year)
    (unasked : ∀ digits, ¬NumberBehind retryAfterText (lowerCase message) digits)
    (peer : "peer_flood".toList <:+: lowerCase message) :
    gateway.Blocks (.response message) gateway.peerFlood := by
  have missing : findRetryAfter message = none := by
    rw [Option.eq_none_iff_forall_ne_some]
    intro digits found
    exact unasked digits (findRetryAfter_eq_some.mp found)
  have matched : matchPeerFlood message = true := (regexSearch_literal _).mpr peer
  rw [blocks_iff]
  refine ⟨⟨0, true⟩, ?_, ?_⟩
  · unfold parseFloodError
    dsimp only
    rw [missing, Option.bind_none, if_pos matched]
  · unfold Gateway.floodWait
    rw [if_pos rfl, peerWait_eq positive short peerPositive peerShort]
    omega

/-- The wait is kept exactly when the number of the message survives the
arithmetic; the time for PEER_FLOOD always does. -/
theorem flood_error_blocks_iff (positive : 0 ≤ gateway.extraWait)
    (short : gateway.extraWait ≤ year) (peerPositive : 0 ≤ gateway.peerFlood)
    (peerShort : gateway.peerFlood ≤ year) :
    gateway.KeepsWait message ↔
      ∀ digits, NumberBehind retryAfterText (lowerCase message) digits →
        RetryFits gateway.extraWait (decimalValue digits) := by
  constructor
  · intro keeps digits asked
    have lasts := blocks_retry_iff positive short peerShort peerPositive asked
    exact lasts.mp (keeps.retry digits asked)
  · intro fits
    constructor
    · intro digits asked
      exact (blocks_retry_iff positive short peerShort peerPositive asked).mpr (fits digits asked)
    · intro unasked peer
      exact blocks_peer positive short peerPositive peerShort unasked peer

end Blocking

theorem numberBehind_unique {message : String} {first second : List Char}
    (one : NumberBehind retryAfterText (lowerCase message) first)
    (other : NumberBehind retryAfterText (lowerCase message) second) : first = second := by
  have found := findRetryAfter_eq_some.mpr one
  rw [findRetryAfter_eq_some.mpr other] at found
  exact (Option.some.inj found).symm

theorem flood_error_blocks_for_minutes :
    (Gateway.initial (30 * second) (86400 * second)).KeepsWait
      "Too Many Requests: Retry After 300" := by
  apply (flood_error_blocks_iff (by decide) (by decide) (by decide) (by decide)).mpr
  intro digits asked
  have here : NumberBehind retryAfterText (lowerCase "Too Many Requests: Retry After 300")
      ['3', '0', '0'] := findRetryAfter_eq_some.mp rfl
  rw [numberBehind_unique asked here]
  exact .inl (by decide)

/-- The product of 9300000000 and 10^9 is a negative duration. -/
theorem flood_error_blocks_nothing :
    ¬ ∀ (gateway : Gateway) (message : String), 0 ≤ gateway.extraWait →
      gateway.extraWait ≤ year → 0 ≤ gateway.peerFlood → gateway.peerFlood ≤ year →
        gateway.KeepsWait message := by
  intro keeps
  have here : NumberBehind retryAfterText
      (lowerCase "Too Many Requests: retry after 9300000000") "9300000000".toList :=
    findRetryAfter_eq_some.mp rfl
  have blocks := (keeps (Gateway.initial (30 * second) (86400 * second))
    "Too Many Requests: retry after 9300000000" (by decide) (by decide) (by decide)
    (by decide)).retry _ here
  have fits := (blocks_retry_iff (by decide) (by decide) (by decide) (by decide) here).mp blocks
  revert fits
  unfold RetryFits
  decide

end Tg2Sip.Go
