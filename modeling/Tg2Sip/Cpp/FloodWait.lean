/-
How long `DialTg::parse_error` waits.

The number of seconds comes from the error text through `std::stoi`, and the
extra time from the settings through a cast to `unsigned int`.  The sum of the
two is reduced modulo 2^32 before it becomes a duration.
-/

import Mathlib.Algebra.Group.Int.Defs
import Tg2Sip.Cpp.Dispatch

namespace Tg2Sip.Cpp

open TextSearch

/-- `static_cast<unsigned int>(reader.GetInteger("other", "extra_wait_time", 30))`. -/
def Settings.withExtraWaitTime (settings : Settings) (value : Int) : Settings :=
  { settings with extraWaitTime := UInt32.ofInt value }

def Env.withExtraWaitTime (env : Env) (value : Int) : Env :=
  { env with settings := env.settings.withExtraWaitTime value }

/-- The steady clock counts its nanoseconds in 64 bits. -/
def clockMax : Int := 2 ^ 63 - 1

/-- The call returns, and the block lasts for the seconds from now on. -/
def KeepsWait (env : Env) (error : TdError) (world : World) (seconds : Nat) : Prop :=
  ∃ last, (parseError env error).run world = .ok () last ∧
    env.later + second * seconds ≤ last.blockUntil ∧ last.blockUntil ≤ clockMax

/-- Neither the conversion, nor the sum of the seconds, nor the clock overflows. -/
structure WaitFits (env : Env) (value : Int) (seconds : Nat) : Prop where
  number : seconds ≤ 2 ^ 31 - 1
  sum : seconds + value % 2 ^ 32 < 2 ^ 32
  clock : env.later + second * (seconds + value % 2 ^ 32) ≤ clockMax

theorem retryWait_withExtraWaitTime (seconds : Nat) (settings : Settings) (value : Int) :
    (retryWait seconds (settings.withExtraWaitTime value) : Int) =
      (seconds + value % 2 ^ 32) % 2 ^ 32 := by
  have extra : (UInt32.ofInt value).toNat = (value % 2 ^ 32).toNat := by
    unfold UInt32.ofInt
    rw [UInt32.toNat_ofNat']
    omega
  unfold retryWait Settings.withExtraWaitTime
  rw [UInt32.toNat_add, UInt32.toNat_ofNat', extra]
  omega

/-- A sum that wraps round is smaller than each of its parts. -/
theorem retryWait_ge_iff {seconds : Nat} (number : seconds ≤ 2 ^ 31 - 1) (settings : Settings)
    (value : Int) :
    seconds ≤ retryWait seconds (settings.withExtraWaitTime value) ↔
      seconds + value % 2 ^ 32 < 2 ^ 32 := by
  have sum := retryWait_withExtraWaitTime seconds settings value
  omega

section Block

variable {env : Env} {error : TdError} {world : World} {digits : List Char}

theorem parseError_of_number (asked : NumberBehind retryAfterText error.message.toList digits) :
    (parseError env error).run world =
      if decimalValue digits ≤ 2 ^ 31 - 1 then
        .ok () { world with
          blockUntil := env.later + second * retryWait (decimalValue digits) env.settings }
      else .error (.outOfRange "stoi") world := by
  have found := searchRetryAfter_eq_some.mpr asked
  obtain ⟨_, _, first⟩ := asked
  unfold parseError
  rw [found]
  by_cases number : decimalValue digits ≤ 2 ^ 31 - 1
  · have converted : stoi digits = .value (decimalValue digits) := by
      unfold stoi convertDigits
      rw [if_neg first.nonempty, if_pos number]
    simp only [converted]
    rw [if_pos number]
    rfl
  · have converted : stoi digits = .outOfRange := by
      unfold stoi convertDigits
      rw [if_neg first.nonempty, if_neg number]
    simp only [converted]
    rw [if_neg number]
    rfl

/-- The wait that Telegram asks for is kept exactly when the arithmetic fits. -/
theorem flood_wait_kept_iff (asked : NumberBehind retryAfterText error.message.toList digits)
    (value : Int) :
    KeepsWait (env.withExtraWaitTime value) error world (decimalValue digits) ↔
      WaitFits env value (decimalValue digits) := by
  have sum := retryWait_withExtraWaitTime (decimalValue digits) env.settings value
  unfold KeepsWait
  rw [parseError_of_number asked]
  constructor
  · intro keeps
    obtain ⟨last, returned, kept, inRange⟩ := keeps
    by_cases number : decimalValue digits ≤ 2 ^ 31 - 1
    · rw [if_pos number] at returned
      cases returned
      have enough : decimalValue digits ≤
          retryWait (decimalValue digits) (env.settings.withExtraWaitTime value) := by
        unfold Env.withExtraWaitTime second at kept
        dsimp only at kept
        omega
      have fits := (retryWait_ge_iff number env.settings value).mp enough
      refine ⟨number, fits, ?_⟩
      unfold Env.withExtraWaitTime at inRange
      dsimp only at inRange
      rw [sum, Int.emod_eq_of_lt (by omega) fits] at inRange
      exact inRange
    · rw [if_neg number] at returned
      cases returned
  · intro fitting
    obtain ⟨number, fits, inRange⟩ := fitting
    have enough := (retryWait_ge_iff number env.settings value).mpr fits
    rw [if_pos number]
    refine ⟨_, rfl, ?_, ?_⟩
    · unfold Env.withExtraWaitTime second
      dsimp only
      omega
    · unfold Env.withExtraWaitTime
      dsimp only
      rw [sum, Int.emod_eq_of_lt (by omega) fits]
      exact inRange

end Block

def TdError.retryAfterFive : TdError := ⟨429, "Too Many Requests: retry after 5"⟩

theorem retryAfterFive_asks :
    NumberBehind retryAfterText TdError.retryAfterFive.message.toList ['5'] :=
  searchRetryAfter_eq_some.mp rfl

theorem flood_wait_kept_with_default :
    KeepsWait (Env.sample.withExtraWaitTime 30) .retryAfterFive
      (Gateway.sample.world { id := "1-1" }) 5 :=
  (flood_wait_kept_iff retryAfterFive_asks 30).mpr ⟨by decide, by decide, by decide⟩

/-- With an extra time of -1 the block lasts for four seconds. -/
theorem flood_wait_cut_short :
    ¬ ∀ (env : Env) (value : Int) (error : TdError) (world : World) (digits : List Char),
      NumberBehind retryAfterText error.message.toList digits →
        KeepsWait (env.withExtraWaitTime value) error world (decimalValue digits) := by
  intro kept
  obtain ⟨last, returned, enough, _⟩ := kept Env.sample (-1) .retryAfterFive
    (Gateway.sample.world { id := "1-1" }) ['5'] retryAfterFive_asks
  rw [parseError_of_number retryAfterFive_asks, if_pos (by decide)] at returned
  cases returned
  exact absurd enough (by decide)

end Tg2Sip.Cpp
