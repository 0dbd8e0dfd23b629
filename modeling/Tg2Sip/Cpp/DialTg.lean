/-
What `DialTg` does when it returns.

A dial is refused by the flood block, or it resolves the extension, from the
cache or with one lookup request, and sends one `createCall`.  The relation
`DialTrace` lists the ways in which this ends, with the effects, the Telegram
call id that was stored, the queued errors, the cache and the flood block
behind the dial.
-/

import Tg2Sip.Cpp.Effects

namespace Tg2Sip.Cpp

inductive Flood where
  | unrelated
  | wait (seconds : Nat)
  | overflow
  deriving DecidableEq, Repr

def flood (settings : Settings) (message : String) : Flood :=
  match searchRetryAfter message with
  | some digits =>
      match stoi digits with
      | .value seconds => .wait (retryWait seconds settings)
      | .outOfRange => .overflow
      | .invalidArgument => .overflow
  | none => if searchPeerFlood message then .wait settings.peerFloodTime.toNat else .unrelated

def Flood.until (env : Env) (current : Int) : Flood → Int
  | .unrelated => current
  | .wait seconds => env.later + second * seconds
  | .overflow => current

theorem run_parseError (env : Env) (error : TdError) (world : World) :
    (parseError env error).run world =
      if flood env.settings error.message = .overflow then .error (.outOfRange "stoi") world
      else
        .ok () { world with
          blockUntil := (flood env.settings error.message).until env world.blockUntil } := by
  unfold parseError flood
  cases searchRetryAfter error.message with
  | none =>
      by_cases peerFlood : searchPeerFlood error.message = true
      · simp [peerFlood, setBlockUntil, Flood.until]
      · simp [peerFlood, Flood.until]
  | some digits =>
      cases converted : stoi digits <;> simp [converted, setBlockUntil, Flood.until]

def World.withBlock (world : World) (cache : Cache) (blockUntil : Int) : World :=
  { world with cache := cache, blockUntil := blockUntil }

theorem run_dialFailed (env : Env) (error : TdError) (world : World) :
    (dialFailed env error).run world =
      if flood env.settings error.message = .overflow then
        .error (.outOfRange "stoi")
          (world.after world.ctx [.logError]
            [dialError scInternalServerError (errorReason error)])
      else
        .ok () ((world.after world.ctx [.logError]
          [dialError scInternalServerError (errorReason error)]).withBlock world.cache
            ((flood env.settings error.message).until env world.blockUntil)) := by
  unfold dialFailed
  simp only [EStateM.run_bind, run_emit, run_enqueue, run_parseError]
  by_cases overflows : flood env.settings error.message = .overflow
  · simp [overflows, World.emit, World.enqueue, World.after, SipClient.apply]
  · simp [overflows, World.emit, World.enqueue, World.after, World.withBlock, SipClient.apply]

def createQuery (env : Env) (userId : Int) : Query :=
  .createCall userId (callProtocol env.settings) false

inductive CreateTrace (env : Env) (userId : Int) (block : Int) :
    List Effect → Option Int → List CallOpParam → Int → Prop where
  | created {callId : Int} : env.createCall = .callId callId →
      CreateTrace env userId block
        [.query (createQuery env userId) (.callId callId), .associatedTg callId]
        (some callId) [] block
  | failed {error : TdError} : env.createCall = .error error →
      flood env.settings error.message ≠ .overflow →
      CreateTrace env userId block
        [.query (createQuery env userId) (.error error), .logError] none
        [dialError scInternalServerError (errorReason error)]
        ((flood env.settings error.message).until env block)

/-- The context behind a dial that stored `tg`, if it stored one. -/
def Context.withTg (ctx : Context) : Option Int → Context
  | none => ctx
  | some tg => { ctx with tgCallId := tg }

@[simp] theorem Context.withTg_id (ctx : Context) (tg : Option Int) :
    (ctx.withTg tg).id = ctx.id := by
  cases tg <;> rfl

@[simp] theorem Context.withTg_sipCallId (ctx : Context) (tg : Option Int) :
    (ctx.withTg tg).sipCallId = ctx.sipCallId := by
  cases tg <;> rfl

@[simp] theorem Context.withTg_controller (ctx : Context) (tg : Option Int) :
    (ctx.withTg tg).controller = ctx.controller := by
  cases tg <;> rfl

theorem dialById_returned {env : Env} {userId : Int} {world last : World}
    (returned : (dialById env userId).run world = .ok () last) :
    ∃ effects tg errors block, CreateTrace env userId world.blockUntil effects tg errors block ∧
      last = (world.after (world.ctx.withTg tg) effects errors).withBlock world.cache block := by
  unfold dialById at returned
  cases reply : env.createCall <;>
    simp only [reply, Object.error?, Object.callId?, EStateM.run_bind, run_emit,
      Exceptions.run_throw_any, run_dialFailed, run_setCtx, reduceCtorEq] at returned
  case error failure =>
    split at returned
    · cases returned
    · rename_i fits
      cases returned
      refine ⟨_, none, _, _, .failed reply fits, ?_⟩
      simp [World.emit, World.after, World.withBlock, SipClient.apply, Context.withTg,
        createQuery]
  case callId callId =>
    cases returned
    refine ⟨_, some callId, _, _, .created reply, ?_⟩
    simp [World.emit, World.setCtx, World.after, World.withBlock, SipClient.apply,
      Context.withTg, createQuery]

/-! ### Resolving the extension -/

def usernameQuery (ctx : Context) : Query := .searchPublicChat ctx.extUsername

def phoneQuery (ctx : Context) : Query := .importContacts [ctx.extPhone]

/-- The user that an extension resolves to, with the lookup it needed. -/
inductive Resolved (env : Env) (ctx : Context) (cache : Cache) :
    List Effect → Int → Cache → Prop where
  | usernameHit {userId : Int} : ctx.extUsername.isEmpty = false →
      cache.usernameCache ctx.extUsername = some userId →
      Resolved env ctx cache [] userId cache
  | usernameFound {chat : Chat} : ctx.extUsername.isEmpty = false →
      cache.usernameCache ctx.extUsername = none →
      env.searchPublicChat = .chat chat → chat.type = .private →
      Resolved env ctx cache [.query (usernameQuery ctx) (.chat chat)] chat.id
        { cache with
          usernameCache := FiniteMap.emplace cache.usernameCache ctx.extUsername chat.id }
  | phoneHit {userId : Int} : ctx.extUsername.isEmpty = true → ctx.extPhone.isEmpty = false →
      cache.phoneCache ctx.extPhone = some userId →
      Resolved env ctx cache [] userId cache
  | phoneFound {userId : Int} {rest : List Int} : ctx.extUsername.isEmpty = true →
      ctx.extPhone.isEmpty = false → cache.phoneCache ctx.extPhone = none →
      env.importContacts = .importedContacts (userId :: rest) → userId ≠ 0 →
      Resolved env ctx cache
        [.query (phoneQuery ctx) (.importedContacts (userId :: rest))] userId
        { cache with phoneCache := FiniteMap.emplace cache.phoneCache ctx.extPhone userId }
  | byId : ctx.extUsername.isEmpty = true → ctx.extPhone.isEmpty = true →
      Resolved env ctx cache [] ctx.userId cache

/-- A lookup that was answered but names no user. -/
inductive Unresolved (env : Env) (ctx : Context) (cache : Cache) (block : Int) :
    List Effect → CallOpParam → Int → Prop where
  | usernameError {error : TdError} : ctx.extUsername.isEmpty = false →
      cache.usernameCache ctx.extUsername = none →
      env.searchPublicChat = .error error →
      flood env.settings error.message ≠ .overflow →
      Unresolved env ctx cache block [.query (usernameQuery ctx) (.error error), .logError]
        (dialError scInternalServerError (errorReason error))
        ((flood env.settings error.message).until env block)
  | notAUser {chat : Chat} : ctx.extUsername.isEmpty = false →
      cache.usernameCache ctx.extUsername = none →
      env.searchPublicChat = .chat chat → chat.type = .other →
      Unresolved env ctx cache block [.query (usernameQuery ctx) (.chat chat)]
        (dialError scInternalServerError "not a user") block
  | phoneError {error : TdError} : ctx.extUsername.isEmpty = true →
      ctx.extPhone.isEmpty = false → cache.phoneCache ctx.extPhone = none →
      env.importContacts = .error error → flood env.settings error.message ≠ .overflow →
      Unresolved env ctx cache block [.query (phoneQuery ctx) (.error error), .logError]
        (dialError scInternalServerError (errorReason error))
        ((flood env.settings error.message).until env block)
  | notRegistered {rest : List Int} : ctx.extUsername.isEmpty = true →
      ctx.extPhone.isEmpty = false → cache.phoneCache ctx.extPhone = none →
      env.importContacts = .importedContacts (0 :: rest) →
      Unresolved env ctx cache block
        [.query (phoneQuery ctx) (.importedContacts (0 :: rest)), .logError]
        (dialError scNotFound "not registered in telegram") block

def floodWaitPrm (env : Env) (block : Int) : CallOpParam :=
  serverError ("FLOOD_WAIT " ++ toString ((block - env.later).tdiv second))

inductive DialTrace (env : Env) (ctx : Context) (cache : Cache) (block : Int) :
    List Effect → Option Int → List CallOpParam → Cache → Int → Prop where
  | blocked : env.now < block →
      DialTrace env ctx cache block [] none [floodWaitPrm env block] cache block
  | unresolved {effects : List Effect} {prm : CallOpParam} {blockAfter : Int} :
      ¬env.now < block → Unresolved env ctx cache block effects prm blockAfter →
      DialTrace env ctx cache block effects none [prm] cache blockAfter
  | dialled {lookup create : List Effect} {userId : Int} {cacheAfter : Cache}
      {tg : Option Int} {errors : List CallOpParam} {blockAfter : Int} :
      ¬env.now < block → Resolved env ctx cache lookup userId cacheAfter →
      CreateTrace env userId block create tg errors blockAfter →
      DialTrace env ctx cache block (lookup ++ create) tg errors cacheAfter blockAfter

/-- The shape that every returning dial has. -/
def DialReturned (env : Env) (world last : World) (announced : List Effect) : Prop :=
  ∃ effects tg errors cache block,
    DialTrace env world.ctx world.cache world.blockUntil effects tg errors cache block ∧
      last = (world.after (world.ctx.withTg tg) (announced ++ effects) errors).withBlock cache
        block

theorem DialReturned.of_resolved {env : Env} {world middle last : World}
    {lookup : List Effect} {userId : Int} {cache : Cache}
    (free : ¬env.now < world.blockUntil)
    (resolved : Resolved env world.ctx world.cache lookup userId cache)
    (looked : middle = (world.after world.ctx lookup []).withBlock cache world.blockUntil)
    (returned : (dialById env userId).run middle = .ok () last) :
    DialReturned env world last [] := by
  subst looked
  obtain ⟨create, tg, errors, block, created, rfl⟩ := dialById_returned returned
  refine ⟨lookup ++ create, tg, errors, cache, block, .dialled free resolved created, ?_⟩
  simp [World.after, World.withBlock]

theorem dialByUsername_returned {env : Env} {world last : World}
    (free : ¬env.now < world.blockUntil) (named : world.ctx.extUsername.isEmpty = false)
    (returned : (dialByUsername env).run world = .ok () last) :
    DialReturned env world last [] := by
  unfold dialByUsername at returned
  cases cached : world.cache.usernameCache world.ctx.extUsername with
  | some userId =>
      simp only [EStateM.run_bind, EStateM.run_get, cached] at returned
      refine DialReturned.of_resolved free (.usernameHit named cached) ?_ returned
      simp [World.after, World.withBlock]
  | none =>
      simp only [EStateM.run_bind, EStateM.run_get, cached, run_emit] at returned
      cases reply : env.searchPublicChat <;>
        simp only [reply, Object.error?, Object.chat?, Exceptions.run_throw_any, run_dialFailed,
          reduceCtorEq] at returned
      case error failure =>
        split at returned
        · cases returned
        · rename_i fits
          cases returned
          refine ⟨_, none, _, _, _,
            .unresolved free (.usernameError named cached reply fits), ?_⟩
          simp [World.emit, World.after, World.withBlock, SipClient.apply, Context.withTg,
            usernameQuery]
      case chat chat =>
        cases kind : chat.type with
        | other =>
            simp only [kind, run_enqueue] at returned
            cases returned
            refine ⟨_, none, _, _, _, .unresolved free (.notAUser named cached reply kind), ?_⟩
            simp [World.emit, World.enqueue, World.after, World.withBlock, SipClient.apply,
              Context.withTg, usernameQuery]
        | «private» =>
            simp only [kind, EStateM.run_bind, addUsername, EStateM.run_modify] at returned
            refine DialReturned.of_resolved free (.usernameFound named cached reply kind) ?_
              returned
            simp [World.emit, World.after, World.withBlock, SipClient.apply, usernameQuery]

theorem dialByPhone_returned {env : Env} {world last : World}
    (free : ¬env.now < world.blockUntil) (unnamed : world.ctx.extUsername.isEmpty = true)
    (numbered : world.ctx.extPhone.isEmpty = false)
    (returned : (dialByPhone env).run world = .ok () last) :
    DialReturned env world last [] := by
  unfold dialByPhone at returned
  cases cached : world.cache.phoneCache world.ctx.extPhone with
  | some userId =>
      simp only [EStateM.run_bind, EStateM.run_get, cached] at returned
      refine DialReturned.of_resolved free (.phoneHit unnamed numbered cached) ?_ returned
      simp [World.after, World.withBlock]
  | none =>
      simp only [EStateM.run_bind, EStateM.run_get, cached, run_emit] at returned
      cases reply : env.importContacts <;>
        simp only [reply, Object.error?, Object.importedContacts?, Exceptions.run_throw_any,
          run_dialFailed, reduceCtorEq] at returned
      case error failure =>
        split at returned
        · cases returned
        · rename_i fits
          cases returned
          refine ⟨_, none, _, _, _,
            .unresolved free (.phoneError unnamed numbered cached reply fits), ?_⟩
          simp [World.emit, World.after, World.withBlock, SipClient.apply, Context.withTg,
            phoneQuery]
      case importedContacts userIds =>
        cases userIds with
        | nil => simp only [Exceptions.run_throw_any, reduceCtorEq] at returned
        | cons userId rest =>
            by_cases unregistered : userId = 0
            · subst unregistered
              simp only [if_true, EStateM.run_bind, run_emit, run_enqueue] at returned
              cases returned
              refine ⟨_, none, _, _, _,
                .unresolved free (.notRegistered unnamed numbered cached reply), ?_⟩
              simp [World.emit, World.enqueue, World.after, World.withBlock, SipClient.apply,
                Context.withTg, phoneQuery]
            · simp only [if_neg unregistered, EStateM.run_bind, addPhone, EStateM.run_modify]
                at returned
              refine DialReturned.of_resolved free
                (.phoneFound unnamed numbered cached reply unregistered) ?_ returned
              simp [World.emit, World.after, World.withBlock, SipClient.apply, phoneQuery]

/-- Every dial that returns ends in one of the ways of `DialTrace`. -/
theorem dialTg_returned {env : Env} {world last : World}
    (returned : (dialTg env).run world = .ok () last) :
    DialReturned env world last [.action .dialTg] := by
  -- The announcement changes neither the context nor what the dial reads.
  have announced : ∀ {after : World},
      DialReturned env (world.emit (.action .dialTg)) after [] →
        DialReturned env world after [.action .dialTg] := by
    rintro after ⟨effects, tg, errors, cache, block, traced, rfl⟩
    refine ⟨effects, tg, errors, cache, block, traced, ?_⟩
    simp [World.emit, World.after, World.withBlock, SipClient.apply]
  unfold dialTg at returned
  simp only [EStateM.run_bind, run_emit, EStateM.run_get] at returned
  by_cases blocked : env.now < world.blockUntil
  · have gate : (world.emit (.action .dialTg)).blockUntil > env.now := blocked
    simp only [if_pos gate, run_enqueue] at returned
    cases returned
    refine ⟨[], none, _, _, _, .blocked blocked, ?_⟩
    simp [World.emit, World.enqueue, World.after, World.withBlock, SipClient.apply,
      Context.withTg, floodWaitPrm]
  · have gate : ¬(world.emit (.action .dialTg)).blockUntil > env.now := blocked
    simp only [if_neg gate, EStateM.run_bind, EStateM.run_get] at returned
    apply announced
    by_cases named : (world.emit (.action .dialTg)).ctx.extUsername.isEmpty = true
    · simp only [named, Bool.not_true, Bool.false_eq_true, if_false, EStateM.run_bind,
        EStateM.run_get] at returned
      by_cases numbered : (world.emit (.action .dialTg)).ctx.extPhone.isEmpty = true
      · simp only [numbered, Bool.not_true, Bool.false_eq_true, if_false, EStateM.run_bind,
          EStateM.run_get] at returned
        refine DialReturned.of_resolved blocked (.byId named numbered) ?_ returned
        simp [World.after, World.withBlock]
      · rw [Bool.not_eq_true] at numbered
        simp only [numbered, Bool.not_false, if_true] at returned
        exact dialByPhone_returned blocked named numbered returned
    · rw [Bool.not_eq_true] at named
      simp only [named, Bool.not_false, if_true] at returned
      exact dialByUsername_returned blocked named returned

end Tg2Sip.Cpp
