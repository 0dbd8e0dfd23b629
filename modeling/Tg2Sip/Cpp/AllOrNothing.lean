/-
`DialTg` is all or nothing.

With answers of the classes that TDLib documents, every dial returns.  It has
then stored the id of the call that was created and queued nothing, or stored
nothing and queued one error.  The cache grows by the entry that a successful
lookup found, and the flood block moves only with an error that asks for it.
-/

import Tg2Sip.Cpp.Faults

namespace Tg2Sip.Cpp

open TextSearch
open Exceptions (fault_eq_none_iff)

/-- The number behind "retry after", if there is one, fits in an `int`. -/
def TdError.RetryFits (error : TdError) : Prop :=
  ∀ digits, searchRetryAfter error.message = some digits → decimalValue digits ≤ 2 ^ 31 - 1

/-- An answer is of the class that TDLib documents for its request, or an error. -/
def Object.Answers (reply : Object) (expected : Object → Prop) : Prop :=
  expected reply ∨ ∃ error, reply = .error error ∧ error.RetryFits

/-- The answers that a dial may get; `importContacts` has one id per contact. -/
structure Env.Documented (env : Env) : Prop where
  createCall : env.createCall.Answers (fun reply => ∃ id, reply = .callId id)
  importContacts : env.importContacts.Answers (fun reply => ∃ id, reply = .importedContacts [id])
  searchPublicChat : env.searchPublicChat.Answers (fun reply => ∃ chat, reply = .chat chat)

theorem searchRetryAfter_nonempty {message : String} {digits : List Char}
    (found : searchRetryAfter message = some digits) : digits ≠ [] := by
  obtain ⟨_, _, first⟩ := searchRetryAfter_eq_some.mp found
  exact first.nonempty

theorem TdError.RetryFits.not_overflow {error : TdError} (fits : error.RetryFits)
    (settings : Settings) : flood settings error.message ≠ .overflow := by
  unfold flood
  cases found : searchRetryAfter error.message with
  | none => dsimp only; split <;> simp only [ne_eq, reduceCtorEq, not_false_eq_true]
  | some digits =>
      have converted : stoi digits = .value (decimalValue digits) := by
        unfold stoi convertDigits
        rw [if_neg (searchRetryAfter_nonempty found), if_pos (fits digits found)]
      simp only [converted, ne_eq, reduceCtorEq, not_false_eq_true]

theorem TdError.RetryFits.retryFault {error : TdError} (fits : error.RetryFits) (env : Env) :
    retryFault env error = none :=
  if_neg (fits.not_overflow env.settings)

theorem Env.Documented.createFault {env : Env} (documented : env.Documented) :
    createFault env = none := by
  unfold Cpp.createFault
  rcases documented.createCall with ⟨id, reply⟩ | ⟨error, reply, fits⟩
  · rw [reply]
  · rw [reply]
    exact fits.retryFault env

theorem Env.Documented.usernameFault {env : Env} (documented : env.Documented) (ctx : Context)
    (cache : Cache) : usernameFault env ctx cache = none := by
  unfold Cpp.usernameFault
  cases cache.usernameCache ctx.extUsername with
  | some userId => exact documented.createFault
  | none =>
      rcases documented.searchPublicChat with ⟨chat, reply⟩ | ⟨error, reply, fits⟩
      · rw [reply]
        dsimp only
        cases chat.type with
        | other => rfl
        | «private» => exact documented.createFault
      · rw [reply]
        exact fits.retryFault env

theorem Env.Documented.phoneFault {env : Env} (documented : env.Documented) (ctx : Context)
    (cache : Cache) : phoneFault env ctx cache = none := by
  unfold Cpp.phoneFault
  cases cache.phoneCache ctx.extPhone with
  | some userId => exact documented.createFault
  | none =>
      rcases documented.importContacts with ⟨userId, reply⟩ | ⟨error, reply, fits⟩
      · rw [reply]
        dsimp only
        split
        · rfl
        · exact documented.createFault
      · rw [reply]
        exact fits.retryFault env

theorem Env.Documented.dialTg_returns {env : Env} (documented : env.Documented) (world : World) :
    ∃ last, (dialTg env).run world = .ok () last := by
  have quiet : Exceptions.fault (dialTg env) world = none := by
    rw [fault_dialTg]
    unfold dialFault
    split
    · rfl
    · split
      · exact documented.usernameFault world.ctx world.cache
      · split
        · exact documented.phoneFault world.ctx world.cache
        · exact documented.createFault
  obtain ⟨value, last, ran⟩ := fault_eq_none_iff.mp quiet
  exact ⟨last, ran⟩

/-! ### What a dial leaves behind -/

def Query.isLookup : Query → Bool
  | .importContacts _ => true
  | .searchPublicChat _ => true
  | _ => false

def Query.isCreate : Query → Bool
  | .createCall _ _ _ => true
  | _ => false

def Effect.isLookup : Effect → Bool
  | .query request _ => request.isLookup
  | _ => false

def Effect.isCreate : Effect → Bool
  | .query request _ => request.isCreate
  | _ => false

def DialSucceeded (env : Env) (world last : World) (effects : List Effect) : Prop :=
  (∃ userId callId, .query (createQuery env userId) (.callId callId) ∈ effects ∧
    last.ctx = { world.ctx with tgCallId := callId }) ∧
    last.internalEvents = world.internalEvents

def DialFailed (world last : World) : Prop :=
  last.ctx = world.ctx ∧
    ∃ prm, last.internalEvents = world.internalEvents ++ [⟨world.ctx.id, prm⟩]

def CacheExtended (ctx : Context) (before after : Cache) (effects : List Effect) : Prop :=
  (∃ chat, .query (usernameQuery ctx) (.chat chat) ∈ effects ∧ chat.type = .private ∧
    before.usernameCache ctx.extUsername = none ∧
    after = { before with
      usernameCache := FiniteMap.insert before.usernameCache ctx.extUsername chat.id }) ∨
  ∃ userId, .query (phoneQuery ctx) (.importedContacts [userId]) ∈ effects ∧ userId ≠ 0 ∧
    before.phoneCache ctx.extPhone = none ∧
    after = { before with
      phoneCache := FiniteMap.insert before.phoneCache ctx.extPhone userId }

def FloodAnswered (effects : List Effect) : Prop :=
  ∃ query error, .query query (.error error) ∈ effects ∧
    ((searchRetryAfter error.message).isSome = true ∨ searchPeerFlood error.message = true)

theorem CacheExtended.later {ctx : Context} {before after : Cache} {effects : List Effect}
    (extended : CacheExtended ctx before after effects) (announced : List Effect) :
    CacheExtended ctx before after (announced ++ effects) := by
  rcases extended with ⟨chat, member, rest⟩ | ⟨userId, member, rest⟩
  · exact .inl ⟨chat, List.mem_append_right _ member, rest⟩
  · exact .inr ⟨userId, List.mem_append_right _ member, rest⟩

theorem flood_until_changed {env : Env} {block : Int} {error : TdError}
    (changed : (flood env.settings error.message).until env block ≠ block) :
    (searchRetryAfter error.message).isSome = true ∨ searchPeerFlood error.message = true := by
  unfold flood at changed
  cases found : searchRetryAfter error.message with
  | some digits => exact .inl rfl
  | none =>
      rw [found] at changed
      by_cases peerFlood : searchPeerFlood error.message = true
      · exact .inr peerFlood
      · simp only [peerFlood, if_false, Bool.false_eq_true, Flood.until, ne_eq,
          not_true_eq_false] at changed

section OneDial

variable {env : Env} {ctx : Context} {cache cacheAfter : Cache} {block blockAfter : Int}
  {effects lookup create : List Effect} {userId : Int} {tg : Option Int}
  {errors : List CallOpParam} {prm : CallOpParam}

theorem Resolved.counts (resolved : Resolved env ctx cache lookup userId cacheAfter) :
    lookup.countP Effect.isLookup ≤ 1 ∧ lookup.countP Effect.isCreate = 0 := by
  cases resolved <;> simp [List.countP_cons, Effect.isLookup, Effect.isCreate, Query.isLookup,
    Query.isCreate, usernameQuery, phoneQuery]

theorem CreateTrace.counts (created : CreateTrace env userId block create tg errors blockAfter) :
    create.countP Effect.isLookup = 0 ∧ create.countP Effect.isCreate ≤ 1 := by
  cases created <;> simp [List.countP_cons, Effect.isLookup, Effect.isCreate, Query.isLookup,
    Query.isCreate, createQuery]

theorem Unresolved.counts (unresolved : Unresolved env ctx cache block effects prm blockAfter) :
    effects.countP Effect.isLookup ≤ 1 ∧ effects.countP Effect.isCreate = 0 := by
  cases unresolved <;> simp [List.countP_cons, Effect.isLookup, Effect.isCreate, Query.isLookup,
    Query.isCreate, usernameQuery, phoneQuery]

theorem DialTrace.counts
    (traced : DialTrace env ctx cache block effects tg errors cacheAfter blockAfter) :
    effects.countP Effect.isLookup ≤ 1 ∧ effects.countP Effect.isCreate ≤ 1 := by
  cases traced with
  | blocked early => exact ⟨Nat.zero_le 1, Nat.zero_le 1⟩
  | unresolved free unresolved =>
      have counts := unresolved.counts
      omega
  | dialled free resolved created =>
      have looked := resolved.counts
      have dialled := created.counts
      rw [List.countP_append, List.countP_append]
      omega

/-- The stored id and the queued errors exclude each other. -/
theorem DialTrace.outcome
    (traced : DialTrace env ctx cache block effects tg errors cacheAfter blockAfter) :
    (∃ userId callId, .query (createQuery env userId) (.callId callId) ∈ effects ∧
      tg = some callId ∧ errors = []) ∨ tg = none ∧ ∃ prm, errors = [prm] := by
  cases traced with
  | blocked early => exact .inr ⟨rfl, _, rfl⟩
  | unresolved free unresolved => exact .inr ⟨rfl, _, rfl⟩
  | @dialled lookup create userId cacheAfter tg errors blockAfter free resolved created =>
      cases created with
      | @created callId reply =>
          exact .inl ⟨userId, callId, List.mem_append_right _ List.mem_cons_self, rfl, rfl⟩
      | failed reply fits => exact .inr ⟨rfl, _, rfl⟩

theorem DialTrace.cacheExtended
    (traced : DialTrace env ctx cache block effects tg errors cacheAfter blockAfter)
    (documented : env.Documented) :
    cacheAfter = cache ∨ CacheExtended ctx cache cacheAfter effects := by
  cases traced with
  | blocked early => exact .inl rfl
  | unresolved free unresolved => exact .inl rfl
  | dialled free resolved created =>
      cases resolved with
      | usernameHit named cached => exact .inl rfl
      | @usernameFound chat named missing reply kind =>
          refine .inr (.inl ⟨chat, List.mem_append_left _ (List.mem_singleton.mpr rfl), kind,
            missing, ?_⟩)
          rw [FiniteMap.emplace, missing]
          rfl
      | phoneHit unnamed numbered cached => exact .inl rfl
      | @phoneFound _ rest unnamed numbered missing reply registered =>
          have alone : rest = [] := by
            rcases documented.importContacts with ⟨id, single⟩ | ⟨error, failed, _⟩
            · rw [reply] at single
              cases single
              rfl
            · rw [reply] at failed
              cases failed
          subst alone
          refine .inr (.inr ⟨_, List.mem_append_left _ (List.mem_singleton.mpr rfl),
            registered, missing, ?_⟩)
          rw [FiniteMap.emplace, missing]
          rfl
      | byId unnamed unnumbered => exact .inl rfl

theorem DialTrace.floodAnswered
    (traced : DialTrace env ctx cache block effects tg errors cacheAfter blockAfter)
    (changed : blockAfter ≠ block) : FloodAnswered effects := by
  cases traced with
  | blocked early => exact absurd rfl changed
  | unresolved free unresolved =>
      cases unresolved with
      | usernameError named missing reply fits =>
          exact ⟨_, _, List.mem_cons_self, flood_until_changed changed⟩
      | notAUser named missing reply kind => exact absurd rfl changed
      | phoneError unnamed numbered missing reply fits =>
          exact ⟨_, _, List.mem_cons_self, flood_until_changed changed⟩
      | notRegistered unnamed numbered missing reply => exact absurd rfl changed
  | dialled free resolved created =>
      cases created with
      | created reply => exact absurd rfl changed
      | failed reply fits =>
          exact ⟨_, _, List.mem_append_right _ List.mem_cons_self, flood_until_changed changed⟩

end OneDial

theorem DialFailed.not_succeeded {env : Env} {world last : World} {effects : List Effect}
    (failed : DialFailed world last) : ¬DialSucceeded env world last effects := by
  intro succeeded
  obtain ⟨_, prm, queued⟩ := failed
  have grown := congrArg List.length (succeeded.2.symm.trans queued)
  rw [List.length_append, List.length_singleton] at grown
  omega

theorem dialTg_all_or_nothing (env : Env) (world : World) (documented : env.Documented) :
    ∃ last effects, (dialTg env).run world = .ok () last ∧
      last.trace = world.trace ++ effects ∧
      (DialSucceeded env world last effects ∧ ¬DialFailed world last ∨
        DialFailed world last ∧ ¬DialSucceeded env world last effects) ∧
      effects.countP Effect.isLookup ≤ 1 ∧ effects.countP Effect.isCreate ≤ 1 ∧
      (last.cache = world.cache ∨ CacheExtended world.ctx world.cache last.cache effects) ∧
      (last.blockUntil ≠ world.blockUntil → FloodAnswered effects) := by
  obtain ⟨last, returned⟩ := documented.dialTg_returns world
  obtain ⟨effects, tg, errors, cache, block, traced, rfl⟩ := dialTg_returned returned
  refine ⟨_, [Effect.action .dialTg] ++ effects, returned, rfl, ?_, ?_, ?_, ?_, ?_⟩
  · rcases traced.outcome with ⟨userId, callId, member, rfl, rfl⟩ | ⟨rfl, prm, rfl⟩
    · have succeeded : DialSucceeded env world
          ((world.after (world.ctx.withTg (some callId)) ([Effect.action .dialTg] ++ effects)
            []).withBlock cache block) ([Effect.action .dialTg] ++ effects) :=
        ⟨⟨userId, callId, List.mem_append_right _ member, rfl⟩, List.append_nil _⟩
      exact .inl ⟨succeeded, fun failed => failed.not_succeeded succeeded⟩
    · have failed : DialFailed world
          ((world.after (world.ctx.withTg none) ([Effect.action .dialTg] ++ effects)
            [prm]).withBlock cache block) := ⟨rfl, prm, rfl⟩
      exact .inr ⟨failed, failed.not_succeeded⟩
  · rw [List.countP_append]
    exact le_of_eq_of_le (Nat.zero_add _) traced.counts.1
  · rw [List.countP_append]
    exact le_of_eq_of_le (Nat.zero_add _) traced.counts.2
  · rcases traced.cacheExtended documented with same | extended
    · exact .inl same
    · exact .inr (extended.later _)
  · intro changed
    obtain ⟨query, error, member, asks⟩ := traced.floodAnswered changed
    exact ⟨query, error, List.mem_append_right _ member, asks⟩

/-- Ask for a phone number that Telegram knows, and create the call. -/
theorem dialTg_by_phone_succeeds :
    Env.sample.Documented ∧
      ∃ last effects, (dialTg Env.sample).run
          (Gateway.sample.world { id := "1-1", extPhone := "123" }) = .ok () last ∧
        last.trace = (Gateway.sample.world { id := "1-1", extPhone := "123" }).trace ++ effects ∧
        (DialSucceeded Env.sample (Gateway.sample.world { id := "1-1", extPhone := "123" }) last
              effects ∧
            ¬DialFailed (Gateway.sample.world { id := "1-1", extPhone := "123" }) last ∨
          DialFailed (Gateway.sample.world { id := "1-1", extPhone := "123" }) last ∧
            ¬DialSucceeded Env.sample (Gateway.sample.world { id := "1-1", extPhone := "123" })
              last effects) := by
  have documented : Env.sample.Documented :=
    ⟨.inl ⟨7, rfl⟩, .inl ⟨42, rfl⟩, .inl ⟨⟨42, .private⟩, rfl⟩⟩
  obtain ⟨last, effects, ran, trace, outcome, _⟩ := dialTg_all_or_nothing Env.sample
    (Gateway.sample.world { id := "1-1", extPhone := "123" }) documented
  exact ⟨documented, last, effects, ran, trace, outcome⟩

end Tg2Sip.Cpp
