/-
The contact cache does not change who is called.

Telegram resolves names by two fixed partial functions.  A cache that agrees
with them answers what the lookup would have answered, so that every dial is
the dial that asks the two functions themselves, and every entry that a dial
adds agrees as well.  The gateway and the same gateway with a cache that is
always empty therefore create the same calls and queue the same errors.
-/

import Tg2Sip.Cpp.AllOrNothing
import Tg2Sip.Cpp.CacheFree
import Tg2Sip.Cpp.LoadCache

namespace Tg2Sip.Cpp

open Exceptions (mapState mapState_bind_pure)

/-- The users that the names resolve to, and the answers of the two lookups.
A name that resolves to nobody is answered with anything but a user. -/
structure Directory where
  usernames : String → Option Int
  phones : String → Option Int
  chat : String → Object
  contact : String → Object
  chat_known : ∀ {name : String} {id : Int}, usernames name = some id →
    chat name = .chat ⟨id, .private⟩
  chat_unknown : ∀ {name : String}, usernames name = none →
    ∀ id, chat name ≠ .chat ⟨id, .private⟩
  contact_known : ∀ {phone : String} {id : Int}, phones phone = some id →
    id ≠ 0 ∧ contact phone = .importedContacts [id]
  contact_unknown : ∀ {phone : String}, phones phone = none →
    ∀ id rest, contact phone = .importedContacts (id :: rest) → id = 0

def Directory.answering (directory : Directory) (ctx : Context) (env : Env) : Env :=
  { env with
    searchPublicChat := directory.chat ctx.extUsername
    importContacts := directory.contact ctx.extPhone }

structure Cache.Agrees (cache : Cache) (directory : Directory) : Prop where
  usernames : ∀ name id, cache.usernameCache name = some id →
    directory.usernames name = some id
  phones : ∀ phone id, cache.phoneCache phone = some id → directory.phones phone = some id

theorem emptyCache_agrees (directory : Directory) : emptyCache.Agrees directory :=
  ⟨nofun, nofun⟩

theorem emplace_agrees {names : String → Option Int} {map : FiniteMap.Map String Int}
    {name : String} {id : Int} (agrees : ∀ other found, map other = some found →
      names other = some found) (right : names name = some id) {other : String} {found : Int}
    (present : FiniteMap.emplace map name id other = some found) :
    names other = some found := by
  unfold FiniteMap.emplace at present
  split at present
  · exact agrees _ _ present
  · by_cases same : other = name
    · subst same
      rw [FiniteMap.insert_self] at present
      rw [right, present]
    · rw [FiniteMap.insert_of_ne _ _ same] at present
      exact agrees _ _ present

/-- The names of the record resolve to it. -/
structure Directory.Lists (directory : Directory) (user : User) : Prop where
  username : user.username ≠ "" → directory.usernames user.username = some user.id
  phone : user.phoneNumber ≠ "" → directory.phones user.phoneNumber = some user.id

theorem Cache.Agrees.add {cache : Cache} {directory : Directory} {user : User}
    (agrees : cache.Agrees directory) (listed : directory.Lists user) :
    (cache.add user).Agrees directory := by
  unfold Cache.add
  constructor
  · intro name id present
    dsimp only at present
    split at present
    · exact agrees.usernames _ _ present
    · rename_i named
      rw [String.isEmpty_iff] at named
      exact emplace_agrees agrees.usernames (listed.username named) present
  · intro phone id present
    dsimp only at present
    split at present
    · exact agrees.phones _ _ present
    · rename_i numbered
      rw [String.isEmpty_iff] at numbered
      exact emplace_agrees agrees.phones (listed.phone numbered) present

theorem loadReplies_agrees {directory : Directory} {replies : List Object} {cache loaded : Cache}
    (agrees : cache.Agrees directory)
    (listed : ∀ user ∈ replies.filterMap Object.accessible?, directory.Lists user)
    (loads : loadReplies cache replies = .ok loaded) : loaded.Agrees directory := by
  induction replies generalizing cache with
  | nil =>
      cases loads
      exact agrees
  | cons reply rest ih =>
      cases reply with
      | error error => exact ih agrees listed loads
      | user record =>
          simp only [loadReplies, Object.error?, Object.user?] at loads
          cases access : record.haveAccess with
          | false =>
              simp only [access, Bool.not_false, if_true] at loads
              cases loads
              exact agrees
          | true =>
              simp only [access, Bool.not_true, Bool.false_eq_true, if_false] at loads
              have head : Object.accessible? (.user record) = some record := by
                simp only [Object.accessible?, access, if_true]
              rw [List.filterMap_cons_some head] at listed
              have recordListed := listed record List.mem_cons_self
              exact ih (agrees.add recordListed)
                (fun user member => listed user (List.mem_cons_of_mem _ member)) loads
      | _ => cases loads

theorem loadCache_agrees {directory : Directory} {search : Object} {replies : List Object}
    {loaded : Cache}
    (listed : ∀ user ∈ replies.filterMap Object.accessible?, directory.Lists user)
    (loads : loadCache search replies emptyCache = .ok loaded) : loaded.Agrees directory := by
  unfold loadCache at loads
  split at loads
  · cases loads
    exact emptyCache_agrees directory
  · split at loads
    · cases loads
    · refine loadReplies_agrees (emptyCache_agrees directory) (fun user member => ?_) loads
      exact listed user (((List.take_sublist _ replies).filterMap _).subset member)

def usernameMissed (env : Env) : Act Unit :=
  match env.searchPublicChat.error? with
  | some error => dialFailed env error
  | none =>
      match env.searchPublicChat.chat? with
      | none => throw .wrongObject
      | some _ => enqueue (dialError scInternalServerError "not a user")

def phoneMissed (env : Env) : Act Unit :=
  match env.importContacts.error? with
  | some error => dialFailed env error
  | none =>
      match env.importContacts.importedContacts? with
      | none => throw .wrongObject
      | some [] => throw .emptyVector
      | some (_ :: _) => do
          emit .logError
          enqueue (dialError scNotFound "not registered in telegram")

def Directory.dialByUsername (directory : Directory) (env : Env) (ctx : Context) : Act Unit :=
  match directory.usernames ctx.extUsername with
  | some id => dialById env id
  | none => usernameMissed env

def Directory.dialByPhone (directory : Directory) (env : Env) (ctx : Context) : Act Unit :=
  match directory.phones ctx.extPhone with
  | some id => dialById env id
  | none => phoneMissed env

/-- `DialTg` with the directory in the place of the cache and the lookups. -/
def Directory.dialTg (directory : Directory) (env : Env) (ctx : Context) (blockUntil : Int) :
    Act Unit := do
  emit (.action .dialTg)
  if blockUntil > env.now then enqueue (floodWaitPrm env blockUntil)
  else if !ctx.extUsername.isEmpty then directory.dialByUsername env ctx
  else if !ctx.extPhone.isEmpty then directory.dialByPhone env ctx
  else dialById env ctx.userId

theorem Directory.dialByUsername_cacheFree (directory : Directory) (env : Env) (ctx : Context) :
    CacheFree (directory.dialByUsername env ctx) := by
  unfold Directory.dialByUsername usernameMissed
  cases directory.usernames ctx.extUsername with
  | some id => exact dialById_cacheFree env id
  | none =>
      cases env.searchPublicChat.error? with
      | some error => exact dialFailed_cacheFree env error
      | none =>
          cases env.searchPublicChat.chat? with
          | none => exact .throw _
          | some chat => exact enqueue_cacheFree _

theorem Directory.dialByPhone_cacheFree (directory : Directory) (env : Env) (ctx : Context) :
    CacheFree (directory.dialByPhone env ctx) := by
  unfold Directory.dialByPhone phoneMissed
  cases directory.phones ctx.extPhone with
  | some id => exact dialById_cacheFree env id
  | none =>
      cases env.importContacts.error? with
      | some error => exact dialFailed_cacheFree env error
      | none =>
          rcases env.importContacts.importedContacts? with _ | _ | _
          · exact .throw _
          · exact .throw _
          · exact (emit_cacheFree _).bind (fun _ => enqueue_cacheFree _)

theorem Directory.dialTg_cacheFree (directory : Directory) (env : Env) (ctx : Context)
    (blockUntil : Int) : CacheFree (directory.dialTg env ctx blockUntil) := by
  unfold Directory.dialTg
  apply (emit_cacheFree _).bind
  intro _
  split
  · exact enqueue_cacheFree _
  · split
    · exact directory.dialByUsername_cacheFree env ctx
    · split
      · exact directory.dialByPhone_cacheFree env ctx
      · exact dialById_cacheFree env ctx.userId

def World.shown (world : World) : World :=
  { world with
    cache := emptyCache
    trace := world.trace.filter (fun effect => !effect.isLookup) }

theorem World.shown_given (world : World) (cache : Cache) (earlier : List Effect) :
    (world.given cache earlier).shown =
      { world.shown with
        trace := earlier.filter (fun effect => !effect.isLookup) ++ world.shown.trace } := by
  simp only [World.given, World.shown, List.filter_append]

theorem World.eq_given (world : World) :
    world =
      World.given { world with trace := [], cache := emptyCache } world.cache world.trace := by
  simp only [World.given, List.append_nil]

/-- A free action cannot tell worlds apart that differ in the cache and in
earlier lookups. -/
theorem CacheFree.shown {Value : Type} {action : Act Value} (free : CacheFree action)
    {first second : World} (same : first.shown = second.shown) :
    mapState World.shown (action.run first) = mapState World.shown (action.run second) := by
  have blank : ({ first with trace := [], cache := emptyCache } : World) =
      { second with trace := [], cache := emptyCache } := by
    have fields := congrArg (fun world : World => { world with trace := [] }) same
    exact fields
  have traces : first.trace.filter (fun effect => !effect.isLookup) =
      second.trace.filter (fun effect => !effect.isLookup) := congrArg World.trace same
  rw [first.eq_given, second.eq_given, free, free, blank]
  cases action.run { second with trace := [], cache := emptyCache } with
  | ok value last =>
      apply congrArg (EStateM.Result.ok value)
      rw [World.shown_given, World.shown_given, traces]
  | error thrown last =>
      apply congrArg (EStateM.Result.error thrown)
      rw [World.shown_given, World.shown_given, traces]

/-! ### The gateway dials as the directory does -/

section Settled

variable {directory : Directory} {env : Env} {world : World}

theorem dialByUsername_settled (agrees : world.cache.Agrees directory)
    (answered : env.searchPublicChat = directory.chat world.ctx.extUsername) :
    mapState World.shown ((dialByUsername env).run world) =
      mapState World.shown ((directory.dialByUsername env world.ctx).run world) := by
  unfold dialByUsername Directory.dialByUsername
  cases known : directory.usernames world.ctx.extUsername with
  | some id =>
      cases cached : world.cache.usernameCache world.ctx.extUsername with
      | some found =>
          obtain rfl : id = found :=
            Option.some.inj (known.symm.trans (agrees.usernames _ _ cached))
          simp only [EStateM.run_bind, EStateM.run_get, cached]
      | none =>
          rw [directory.chat_known known] at answered
          simp only [EStateM.run_bind, EStateM.run_get, cached, run_emit, answered,
            Object.error?, Object.chat?, addUsername, EStateM.run_modify]
          apply (dialById_cacheFree env id).shown
          simp [World.shown, World.emit, Effect.isLookup, Query.isLookup]
  | none =>
      have cached : world.cache.usernameCache world.ctx.extUsername = none := by
        by_contra present
        obtain ⟨id, found⟩ := Option.ne_none_iff_exists'.mp present
        rw [agrees.usernames _ _ found] at known
        cases known
      have unknown := directory.chat_unknown known
      rw [← answered] at unknown
      simp only [EStateM.run_bind, EStateM.run_get, cached, run_emit]
      have same : (world.emit (.query (.searchPublicChat world.ctx.extUsername)
          env.searchPublicChat)).shown = world.shown := by
        simp [World.shown, World.emit, Effect.isLookup, Query.isLookup]
      have free := directory.dialByUsername_cacheFree env world.ctx
      simp only [Directory.dialByUsername, known] at free
      refine Eq.trans ?_ (free.shown same)
      unfold usernameMissed
      cases reply : env.searchPublicChat with
      | chat chat =>
          simp only [Object.error?, Object.chat?]
          cases kind : chat.type with
          | other => rfl
          | «private» =>
              obtain ⟨id, type⟩ := chat
              cases kind
              exact absurd reply (unknown id)
      | _ => rfl

theorem dialByPhone_settled (agrees : world.cache.Agrees directory)
    (answered : env.importContacts = directory.contact world.ctx.extPhone) :
    mapState World.shown ((dialByPhone env).run world) =
      mapState World.shown ((directory.dialByPhone env world.ctx).run world) := by
  unfold dialByPhone Directory.dialByPhone
  cases known : directory.phones world.ctx.extPhone with
  | some id =>
      cases cached : world.cache.phoneCache world.ctx.extPhone with
      | some found =>
          obtain rfl : id = found :=
            Option.some.inj (known.symm.trans (agrees.phones _ _ cached))
          simp only [EStateM.run_bind, EStateM.run_get, cached]
      | none =>
          obtain ⟨registered, contact⟩ := directory.contact_known known
          rw [contact] at answered
          simp only [EStateM.run_bind, EStateM.run_get, cached, run_emit, answered,
            Object.error?, Object.importedContacts?, if_neg registered, addPhone,
            EStateM.run_modify]
          apply (dialById_cacheFree env id).shown
          simp [World.shown, World.emit, Effect.isLookup, Query.isLookup]
  | none =>
      have cached : world.cache.phoneCache world.ctx.extPhone = none := by
        by_contra present
        obtain ⟨id, found⟩ := Option.ne_none_iff_exists'.mp present
        rw [agrees.phones _ _ found] at known
        cases known
      have unknown := directory.contact_unknown known
      rw [← answered] at unknown
      simp only [EStateM.run_bind, EStateM.run_get, cached, run_emit]
      have same : (world.emit (.query (.importContacts [world.ctx.extPhone])
          env.importContacts)).shown = world.shown := by
        simp [World.shown, World.emit, Effect.isLookup, Query.isLookup]
      have free := directory.dialByPhone_cacheFree env world.ctx
      simp only [Directory.dialByPhone, known] at free
      refine Eq.trans ?_ (free.shown same)
      unfold phoneMissed
      cases reply : env.importContacts with
      | importedContacts userIds =>
          simp only [Object.error?, Object.importedContacts?]
          cases userIds with
          | nil => rfl
          | cons id rest =>
              obtain rfl := unknown id rest reply
              rfl
      | _ => rfl

theorem dialTg_settled (agrees : world.cache.Agrees directory)
    (answered : env = directory.answering world.ctx env) :
    mapState World.shown ((dialTg env).run world) =
      mapState World.shown
        ((directory.dialTg env world.ctx world.blockUntil).run world) := by
  have chats : env.searchPublicChat = directory.chat world.ctx.extUsername :=
    congrArg Env.searchPublicChat answered
  have contacts : env.importContacts = directory.contact world.ctx.extPhone :=
    congrArg Env.importContacts answered
  have announced : (world.emit (.action .dialTg)).cache.Agrees directory := agrees
  unfold dialTg Directory.dialTg
  simp only [EStateM.run_bind, run_emit, EStateM.run_get]
  by_cases blocked : world.blockUntil > env.now
  · have gate : (world.emit (.action .dialTg)).blockUntil > env.now := blocked
    simp only [if_pos gate, if_pos blocked]
    rfl
  · have gate : ¬(world.emit (.action .dialTg)).blockUntil > env.now := blocked
    simp only [if_neg gate, if_neg blocked, EStateM.run_bind, EStateM.run_get]
    have sameCtx : (world.emit (.action .dialTg)).ctx = world.ctx := rfl
    simp only [sameCtx]
    split
    · exact dialByUsername_settled announced chats
    · simp only [EStateM.run_bind, EStateM.run_get, sameCtx]
      split
      · exact dialByPhone_settled announced contacts
      · rfl

theorem Resolved.agrees {ctx : Context} {cache cacheAfter : Cache} {lookup : List Effect}
    {userId : Int} (resolved : Resolved env ctx cache lookup userId cacheAfter)
    (agrees : cache.Agrees directory) (answered : env = directory.answering ctx env) :
    cacheAfter.Agrees directory := by
  cases resolved with
  | usernameHit named cached => exact agrees
  | @usernameFound chat named missing reply kind =>
      have chats : env.searchPublicChat = directory.chat ctx.extUsername :=
        congrArg Env.searchPublicChat answered
      have known : directory.usernames ctx.extUsername = some chat.id := by
        cases known : directory.usernames ctx.extUsername with
        | none =>
            obtain ⟨id, type⟩ := chat
            cases kind
            exact absurd (chats.symm.trans reply) (directory.chat_unknown known id)
        | some id =>
            rw [directory.chat_known known, reply] at chats
            cases chats
            rfl
      exact ⟨fun _ _ => emplace_agrees agrees.usernames known, agrees.phones⟩
  | phoneHit unnamed numbered cached => exact agrees
  | @phoneFound _ rest unnamed numbered missing reply registered =>
      have contacts : env.importContacts = directory.contact ctx.extPhone :=
        congrArg Env.importContacts answered
      have known : directory.phones ctx.extPhone = some userId := by
        cases known : directory.phones ctx.extPhone with
        | none =>
            exact absurd (directory.contact_unknown known userId rest
              (contacts.symm.trans reply)) registered
        | some id =>
            rw [(directory.contact_known known).2, reply] at contacts
            cases contacts
            rfl
      exact ⟨agrees.usernames, fun _ _ => emplace_agrees agrees.phones known⟩
  | byId unnamed unnumbered => exact agrees

theorem dialTg_agrees {last : World} (agrees : world.cache.Agrees directory)
    (answered : env = directory.answering world.ctx env)
    (returned : (dialTg env).run world = .ok () last) : last.cache.Agrees directory := by
  obtain ⟨effects, tg, errors, cache, block, traced, rfl⟩ := dialTg_returned returned
  cases traced with
  | blocked early => exact agrees
  | unresolved free unresolved => exact agrees
  | dialled free resolved created => exact resolved.agrees agrees answered

/-- Whatever a machine does for an event, it does for any cache that agrees
with the directory, and the cache behind it agrees as well. -/
theorem machine_settled (env : Env) (world : World) (state : SmState) (event : Event)
    (agrees : world.cache.Agrees directory)
    (answered : ∀ id callState, event = .callStateUpdate id callState →
      env = directory.answering world.ctx env) :
    mapState World.shown (((machine env).processEvent state event).run world) =
      mapState World.shown
        (((machine env).processEvent state event).run (world.given emptyCache [])) ∧
      ∀ reached last, ((machine env).processEvent state event).run world = .ok reached last →
        last.cache.Agrees directory := by
  have same : world.shown = (world.given emptyCache []).shown := rfl
  rcases machine_free_or_dials env state event with free | ⟨⟨id, callState, rfl⟩, dials⟩
  · constructor
    · exact free.shown same
    · intro reached last returned
      have kept : ((machine env).processEvent state event).run world = mapState _ _ :=
        free world.cache [] world
      rw [returned] at kept
      have cached := congrArg World.cache (EStateM.Result.ok.inj kept).2
      rw [cached]
      exact agrees
  · have resolves := answered id callState rfl
    rw [dials]
    constructor
    · have uncached : mapState World.shown ((dialTg env).run (world.given emptyCache [])) =
          mapState World.shown ((directory.dialTg env world.ctx world.blockUntil).run
            (world.given emptyCache [])) :=
        dialTg_settled (emptyCache_agrees directory) resolves
      have settled : mapState World.shown ((dialTg env).run world) =
          mapState World.shown ((dialTg env).run (world.given emptyCache [])) :=
        calc
          _ = _ := dialTg_settled agrees resolves
          _ = _ := (directory.dialTg_cacheFree env world.ctx world.blockUntil).shown same
          _ = _ := uncached.symm
      exact mapState_bind_pure settled _
    · intro reached last returned
      obtain ⟨_, between, ran, done⟩ := Exceptions.bind_ok returned
      cases done
      exact dialTg_agrees agrees resolves ran

end Settled

def Gateway.uncached (gateway : Gateway) : Gateway := { gateway with cache := emptyCache }

def shownLog (effects : List Logged) : List Logged :=
  effects.filter (fun logged => !logged.2.isLookup)

theorem shownLog_append (first second : List Logged) :
    shownLog (first ++ second) = shownLog first ++ shownLog second :=
  List.filter_append ..

theorem shownLog_tagged (ctxId : String) (effects : List Effect) :
    shownLog (tagged ctxId effects) =
      tagged ctxId (effects.filter (fun effect => !effect.isLookup)) := by
  unfold shownLog tagged
  rw [List.filter_map]
  rfl

def Outcome.Alike (directory : Directory) : Outcome → Outcome → Prop
  | .returned cached effects, .returned plain others =>
      cached.cache.Agrees directory ∧ cached.uncached = plain.uncached ∧
        shownLog effects = shownLog others
  | .terminated fault effects, .terminated other others =>
      fault = other ∧ shownLog effects = shownLog others
  | _, _ => False

theorem Outcome.Alike.after {directory : Directory} {cached plain : Outcome}
    (alike : cached.Alike directory plain) (effects : List Logged) :
    (cached.after effects).Alike directory (plain.after effects) := by
  cases cached <;> cases plain
  · obtain ⟨agrees, same, shown⟩ := alike
    refine ⟨agrees, same, ?_⟩
    rw [shownLog_append, shownLog_append, shown]
  · cases alike
  · cases alike
  · obtain ⟨same, shown⟩ := alike
    refine ⟨same, ?_⟩
    rw [shownLog_append, shownLog_append, shown]

theorem World.ctx_of_shown {first second : World} (same : first.shown = second.shown) :
    first.ctx = second.ctx := by
  simp only [World.shown, World.mk.injEq] at same
  exact same.1

theorem absorb_uncached (gateway : Gateway) {first second : World}
    (same : first.shown = second.shown) (bridges : List Bridge) :
    (gateway.absorb first bridges).uncached =
      (gateway.uncached.absorb second bridges).uncached := by
  simp only [World.shown, World.mk.injEq] at same
  obtain ⟨_, _, block, queue, sip, _⟩ := same
  simp only [Gateway.absorb, Gateway.uncached, block, queue, sip]

section Deliver

variable {directory : Directory} {gateway : Gateway} {env : Env}

theorem shownLog_of_shown {first second : World} (same : first.shown = second.shown)
    (ctxId : String) (earlier later : List Effect) :
    shownLog (tagged ctxId (earlier ++ first.trace ++ later)) =
      shownLog (tagged ctxId (earlier ++ second.trace ++ later)) := by
  have traces : first.trace.filter (fun effect => !effect.isLookup) =
      second.trace.filter (fun effect => !effect.isLookup) := congrArg World.trace same
  rw [shownLog_tagged, shownLog_tagged]
  simp only [List.filter_append, traces]

/-- The machine of a bridge ends alike with the cache and without it: both
times in the same state, or both times with the same exception. -/
theorem machine_alike (gateway : Gateway) (bridge : Bridge) (event : Event)
    (agrees : gateway.cache.Agrees directory)
    (answered : ∀ id callState, event = .callStateUpdate id callState →
      env = directory.answering bridge.ctx env) :
    (∃ state first second,
      ((machine env).processEvent bridge.state event).run (gateway.world bridge.ctx) =
        .ok state first ∧
      ((machine env).processEvent bridge.state event).run (gateway.uncached.world bridge.ctx) =
        .ok state second ∧
      first.shown = second.shown ∧ first.cache.Agrees directory) ∨
    ∃ fault first second,
      ((machine env).processEvent bridge.state event).run (gateway.world bridge.ctx) =
        .error fault first ∧
      ((machine env).processEvent bridge.state event).run (gateway.uncached.world bridge.ctx) =
        .error fault second ∧
      first.shown = second.shown := by
  have emptied : gateway.uncached.world bridge.ctx =
      (gateway.world bridge.ctx).given emptyCache [] := rfl
  obtain ⟨alike, kept⟩ := machine_settled env (gateway.world bridge.ctx) bridge.state event
    agrees answered
  rw [← emptied] at alike
  cases left : ((machine env).processEvent bridge.state event).run
      (gateway.world bridge.ctx) <;>
    cases right : ((machine env).processEvent bridge.state event).run
      (gateway.uncached.world bridge.ctx) <;> rw [left, right] at alike
  · obtain ⟨rfl, same⟩ := EStateM.Result.ok.inj alike
    exact .inl ⟨_, _, _, rfl, rfl, same, kept _ _ left⟩
  · cases alike
  · cases alike
  · obtain ⟨rfl, same⟩ := EStateM.Result.error.inj alike
    exact .inr ⟨_, _, _, rfl, rfl, same⟩

theorem deliver_alike (gateway : Gateway) {event : Event} {bridge : Bridge}
    (before after : List Bridge) (agrees : gateway.cache.Agrees directory)
    (answered : ∀ id callState, event = .callStateUpdate id callState →
      env = directory.answering bridge.ctx env) :
    (gateway.deliver env event before bridge after).Alike directory
      (gateway.uncached.deliver env event before bridge after) := by
  unfold Gateway.deliver
  rcases machine_alike gateway bridge event agrees answered with
    ⟨state, first, second, left, right, same, cacheKept⟩ | ⟨fault, first, second, left, right, same⟩
  · rw [left, right]
    dsimp only
    split
    · exact ⟨cacheKept, absorb_uncached gateway same _,
        shownLog_of_shown same _ [.handled event] [.deleted]⟩
    · refine ⟨cacheKept, ?_, ?_⟩
      · rw [World.ctx_of_shown same]
        exact absorb_uncached gateway same _
      · simpa using shownLog_of_shown same bridge.ctx.id [.handled event] []
  · rw [left, right]
    refine ⟨rfl, ?_⟩
    simpa using shownLog_of_shown same bridge.ctx.id [.handled event] []

theorem searchCall_alike (event : Event) (agrees : gateway.cache.Agrees directory)
    (answered : ∀ id callState, event = .callStateUpdate id callState →
      env = directory.answering
        ((gateway.bridges.find? (Bridge.owns env event)).getD gateway.newBridge).ctx env) :
    (gateway.searchCall env event (Bridge.owns env event)).Alike directory
      (gateway.uncached.searchCall env event (Bridge.owns env event)) := by
  rw [← firstMatch_find?] at answered
  unfold Gateway.searchCall
  have sameBridges : gateway.uncached.bridges = gateway.bridges := rfl
  rw [sameBridges]
  cases found : firstMatch (Bridge.owns env event) gateway.bridges with
  | none =>
      rw [found] at answered
      apply Outcome.Alike.after
      exact deliver_alike { gateway with ctxCounter := gateway.ctxCounter + 1 } _ _ agrees answered
  | some split =>
      rw [found] at answered
      exact deliver_alike gateway _ _ agrees answered

theorem processInternalError_alike (gateway : Gateway) (agrees : gateway.cache.Agrees directory)
    (error : InternalError) :
    (gateway.processInternalError env error).Alike directory
      (gateway.uncached.processInternalError env error) := by
  unfold Gateway.processInternalError
  have sameBridges : gateway.uncached.bridges = gateway.bridges := rfl
  rw [sameBridges]
  cases firstMatch (fun bridge => bridge.ctx.id == error.ctxId) gateway.bridges with
  | none => exact ⟨agrees, rfl, rfl⟩
  | some split => exact deliver_alike gateway _ _ agrees nofun

theorem deliverMessage_alike {message : Message} {owns : Bridge → Bool} {bridge : Bridge}
    (agrees : gateway.cache.Agrees directory) :
    (gateway.deliverMessage env message owns bridge).Alike directory
      (gateway.uncached.deliverMessage env message owns bridge) := by
  unfold Gateway.deliverMessage
  rcases machine_alike gateway bridge (.updateNewMessage message) agrees nofun with
    ⟨state, first, second, left, right, same, cacheKept⟩ | ⟨fault, first, second, left, right, same⟩
  · rw [left, right]
    refine ⟨cacheKept, ?_, ?_⟩
    · rw [World.ctx_of_shown same]
      exact absorb_uncached gateway same _
    · simpa using shownLog_of_shown same bridge.ctx.id [.handled (.updateNewMessage message)] []
  · rw [left, right]
    refine ⟨rfl, ?_⟩
    simpa using shownLog_of_shown same bridge.ctx.id [.handled (.updateNewMessage message)] []

theorem processMessage_alike (agrees : gateway.cache.Agrees directory) (message : Message) :
    (gateway.processMessage env message).Alike directory
      (gateway.uncached.processMessage env message) := by
  unfold Gateway.processMessage
  have sameBridges : gateway.uncached.bridges = gateway.bridges := rfl
  rw [sameBridges]
  split
  · exact ⟨agrees, rfl, rfl⟩
  · dsimp only
    split
    · exact ⟨agrees, rfl, rfl⟩
    · exact deliverMessage_alike agrees
    · exact ⟨agrees, rfl, rfl⟩

theorem processEvent_alike {event : Event} (agrees : gateway.cache.Agrees directory)
    (answered : ∀ bridge, gateway.receiver env event = some bridge →
      env = directory.answering bridge.ctx env) :
    (gateway.processEvent env event).Alike directory
      (gateway.uncached.processEvent env event) := by
  cases event with
  | updateCall call => exact searchCall_alike (.updateCall call) agrees nofun
  | incomingCall id ext => exact searchCall_alike (.incomingCall id ext) agrees nofun
  | callStateUpdate id state =>
      exact searchCall_alike (.callStateUpdate id state) agrees
        (fun _ _ _ => answered _ rfl)
  | callMediaStateUpdate id hasMedia =>
      exact searchCall_alike (.callMediaStateUpdate id hasMedia) agrees nofun
  | internalError error => exact processInternalError_alike gateway agrees error
  | updateNewMessage message => exact processMessage_alike agrees message

end Deliver

/-! ### Whole runs -/

/-- What comes of a label, also when the process ends with it. -/
def Gateway.outcome (gateway : Gateway) : Label → Outcome
  | .dispatch env event => gateway.processEvent env event
  | .popInternal env =>
      match gateway.internalEvents with
      | [] => .returned gateway []
      | error :: rest =>
          Gateway.processInternalError { gateway with internalEvents := rest } env error
  | .pjsip client => .returned { gateway with sip := client } []

theorem Gateway.step_eq_outcome (gateway : Gateway) (label : Label) :
    gateway.step label = (gateway.outcome label).toStep := by
  cases label with
  | dispatch env event => rfl
  | popInternal env =>
      unfold Gateway.step Gateway.outcome
      cases gateway.internalEvents <;> rfl
  | pjsip client => rfl

def Directory.answer (directory : Directory) (gateway : Gateway) : Label → Label
  | .dispatch env event =>
      match gateway.receiver env event with
      | none => .dispatch env event
      | some bridge => .dispatch (directory.answering bridge.ctx env) event
  | label => label

def Directory.outcome (directory : Directory) (gateway : Gateway) (label : Label) : Outcome :=
  gateway.outcome (directory.answer gateway label)

def Directory.outcomeUncached (directory : Directory) (gateway : Gateway) (label : Label) :
    Outcome :=
  directory.outcome gateway.uncached label

/-- The `createCall` requests of each step with the contexts they were sent
for, and the queue of internal errors behind it unless the process ended. -/
def callsAndErrors (outcome : Gateway → Label → Outcome) :
    Gateway → List Label → List (List Logged × Option (List InternalError))
  | _, [] => []
  | gateway, label :: rest =>
      match outcome gateway label with
      | .terminated _ effects => [(effects.filter (fun logged => logged.2.isCreate), none)]
      | .returned next effects =>
          (effects.filter (fun logged => logged.2.isCreate), some next.internalEvents) ::
            callsAndErrors outcome next rest

theorem Directory.outcome_alike {directory : Directory} {cached plain : Gateway}
    (agrees : cached.cache.Agrees directory) (same : cached.uncached = plain.uncached)
    (label : Label) :
    (directory.outcome cached label).Alike directory
      (directory.outcomeUncached plain label) := by
  unfold Directory.outcomeUncached
  rw [← same]
  cases label with
  | dispatch env event =>
      have sameReceiver : cached.uncached.receiver env event = cached.receiver env event := rfl
      unfold Directory.outcome Directory.answer
      dsimp only
      rw [sameReceiver]
      cases received : cached.receiver env event with
      | none =>
          refine processEvent_alike agrees (fun bridge receives => ?_)
          rw [received] at receives
          cases receives
      | some bridge =>
          refine processEvent_alike agrees (fun other receives => ?_)
          have again : cached.receiver (directory.answering bridge.ctx env) event =
              cached.receiver env event := rfl
          rw [again, received] at receives
          cases receives
          rfl
  | popInternal env =>
      have sameQueue : cached.uncached.internalEvents = cached.internalEvents := rfl
      unfold Directory.outcome Directory.answer Gateway.outcome
      dsimp only
      rw [sameQueue]
      cases cached.internalEvents with
      | nil => exact ⟨agrees, rfl, rfl⟩
      | cons error rest =>
          exact processInternalError_alike { cached with internalEvents := rest } agrees error
  | pjsip client => exact ⟨agrees, rfl, rfl⟩

theorem filter_isCreate_of_shownLog {effects others : List Logged}
    (same : shownLog effects = shownLog others) :
    effects.filter (fun logged => logged.2.isCreate) =
      others.filter (fun logged => logged.2.isCreate) := by
  have creates : ∀ list : List Logged, (shownLog list).filter (fun logged => logged.2.isCreate) =
      list.filter (fun logged => logged.2.isCreate) := by
    intro list
    unfold shownLog
    rw [List.filter_filter]
    congr 1
    funext logged
    obtain ⟨ctxId, effect⟩ := logged
    cases effect with
    | query request reply => cases request <;> rfl
    | _ => rfl
  rw [← creates effects, same, creates]

theorem callsAndErrors_uncached {directory : Directory} {cached plain : Gateway}
    (agrees : cached.cache.Agrees directory) (same : cached.uncached = plain.uncached)
    (labels : List Label) :
    callsAndErrors directory.outcome cached labels =
      callsAndErrors directory.outcomeUncached plain labels := by
  induction labels generalizing cached plain with
  | nil => rfl
  | cons label rest ih =>
      have alike := directory.outcome_alike agrees same label
      unfold callsAndErrors
      cases left : directory.outcome cached label <;>
        cases right : directory.outcomeUncached plain label <;> rw [left, right] at alike
      · obtain ⟨nextAgrees, nextSame, shown⟩ := alike
        have queue := congrArg Gateway.internalEvents nextSame
        dsimp only
        rw [filter_isCreate_of_shownLog shown, ih nextAgrees nextSame]
        exact congrArg (fun errors => (_, some errors) :: _) queue
      · cases alike
      · cases alike
      · dsimp only
        rw [filter_isCreate_of_shownLog alike.2]

/-- The loaded gateway and the gateway without a cache create the same calls
and queue the same errors. -/
theorem cache_does_not_change_calls (directory : Directory) (search : Object)
    (replies : List Object) (cache : Cache)
    (listed : ∀ user ∈ replies.filterMap Object.accessible?, directory.Lists user)
    (loads : loadCache search replies emptyCache = .ok cache)
    (pid : Nat) (started : Int) (client : SipClient) (labels : List Label) :
    callsAndErrors directory.outcome (Gateway.initial pid cache started client) labels =
      callsAndErrors directory.outcomeUncached
        (Gateway.initial pid cache started client) labels := by
  have agrees : (Gateway.initial pid cache started client).cache.Agrees directory :=
    loadCache_agrees listed loads
  exact callsAndErrors_uncached agrees rfl labels

/-- One user, with a username and a phone number. -/
def Directory.sample : Directory where
  usernames name := if name = "ann" then some 42 else none
  phones phone := if phone = "123" then some 42 else none
  chat name := if name = "ann" then .chat ⟨42, .private⟩ else .error ⟨404, "USERNAME_INVALID"⟩
  contact phone := .importedContacts [if phone = "123" then 42 else 0]
  chat_known := by
    intro name id known
    by_cases same : name = "ann"
    · rw [if_pos same] at known ⊢
      cases known
      rfl
    · rw [if_neg same] at known
      cases known
  chat_unknown := by
    intro name unknown id
    by_cases same : name = "ann"
    · rw [if_pos same] at unknown
      cases unknown
    · rw [if_neg same]
      nofun
  contact_known := by
    intro phone id known
    by_cases same : phone = "123"
    · rw [if_pos same] at known ⊢
      cases known
      exact ⟨by decide, rfl⟩
    · rw [if_neg same] at known
      cases known
  contact_unknown := by
    intro phone unknown id rest answered
    by_cases same : phone = "123"
    · rw [if_pos same] at unknown
      cases unknown
    · rw [if_neg same] at answered
      cases answered
      rfl

/-- A call by the phone number that was loaded, and two calls by the username
that was not. -/
theorem cache_does_not_change_sample_calls :
    ∃ cache labels,
      loadCache (.users [42]) [.user ⟨"Ann", "", "", "123", 42, true⟩] emptyCache = .ok cache ∧
      (callsAndErrors Directory.sample.outcome
        (Gateway.initial 1 cache 0 ⟨FiniteMap.empty, 0⟩) labels).map (fun seen => seen.1.length) =
        [0, 1, 0, 1, 0, 1] ∧
      callsAndErrors Directory.sample.outcome
          (Gateway.initial 1 cache 0 ⟨FiniteMap.empty, 0⟩) labels =
        callsAndErrors Directory.sample.outcomeUncached
          (Gateway.initial 1 cache 0 ⟨FiniteMap.empty, 0⟩) labels := by
  refine ⟨_, [.dispatch .sample (.incomingCall 1 "+123"),
    .dispatch .sample (.callStateUpdate 1 .early), .dispatch .sample (.incomingCall 2 "tg#ann"),
    .dispatch .sample (.callStateUpdate 2 .early), .dispatch .sample (.incomingCall 3 "tg#ann"),
    .dispatch .sample (.callStateUpdate 3 .early)], rfl, rfl,
    cache_does_not_change_calls _ (.users [42]) [.user ⟨"Ann", "", "", "123", 42, true⟩] _ ?_ rfl
      1 0 _ _⟩
  intro user member
  obtain rfl := List.mem_singleton.mp member
  exact ⟨fun named => absurd rfl named, fun _ => rfl⟩

end Tg2Sip.Cpp
