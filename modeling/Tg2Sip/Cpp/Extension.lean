/-
What an extension asks for, and what is then dialled.

`Names` is the grammar of the extensions: a username behind "tg#", a phone
number behind "+", or the number of a user.  `AcceptIncomingSip` stores what
the extension names and nothing else, and `DialTg` finds it again in the
fields that are not empty.
-/

import Tg2Sip.Cpp.DialTg
import Tg2Sip.Cpp.Dispatch

namespace Tg2Sip.Cpp

open TextSearch

inductive Asked where
  | username (name : String)
  | phone (digits : String)
  | user (id : Nat)
  deriving DecidableEq, Repr

inductive Names : String → Asked → Prop where
  | username {name : String} : name ≠ "" → Names ("tg#" ++ name) (.username name)
  | phone {digits : String} : digits ≠ "" → (∀ digit ∈ digits.toList, digit.isDigit = true) →
      Names ("+" ++ digits) (.phone digits)
  | user {digits : String} : digits ≠ "" → (∀ digit ∈ digits.toList, digit.isDigit = true) →
      decimalValue digits.toList ≤ 2 ^ 63 - 1 →
      Names digits (.user (decimalValue digits.toList))

def Asked.store (ctx : Context) : Asked → Context
  | .username name => { ctx with extUsername := name }
  | .phone digits => { ctx with extPhone := digits }
  | .user id => { ctx with userId := id }

theorem isDigits_iff {text : String} :
    isDigits text = true ↔ ∀ digit ∈ text.toList, digit.isDigit = true := by
  unfold isDigits
  exact List.all_eq_true

theorem stol_eq {digits : List Char} (nonempty : digits ≠ []) :
    stol digits =
      if decimalValue digits ≤ 2 ^ 63 - 1 then .value (decimalValue digits) else .outOfRange := by
  unfold stol convertDigits
  rw [if_neg nonempty]

theorem ofList_ne_empty {text : List Char} (nonempty : text ≠ []) : String.ofList text ≠ "" := by
  intro empty
  apply nonempty
  have same := congrArg String.toList empty
  rw [String.toList_ofList] at same
  exact same

theorem isTgExtension_iff {ext : String} :
    (3 < ext.length && ext.toList.take 3 == "tg#".toList) = true ↔
      ∃ name, name ≠ "" ∧ ext = "tg#" ++ name := by
  rw [Bool.and_eq_true, decide_eq_true_iff, beq_iff_eq, ← String.length_toList]
  constructor
  · intro tests
    refine ⟨String.ofList (ext.toList.drop 3), ?_, ?_⟩
    · apply ofList_ne_empty
      rw [ne_eq, List.drop_eq_nil_iff]
      omega
    · apply String.toList_inj.mp
      rw [String.toList_append]
      refine (List.take_append_drop 3 ext.toList).symm.trans ?_
      rw [tests.2]
      exact congrArg _ String.toList_ofList.symm
  · intro named
    obtain ⟨name, nonempty, rfl⟩ := named
    have long := List.length_pos_iff.mpr (mt String.toList_eq_nil_iff.mp nonempty)
    rw [String.toList_append]
    constructor
    · rw [List.length_append]
      change 3 < 3 + name.toList.length
      omega
    · rfl

theorem isPhoneExtension_iff {ext : String} :
    (1 < ext.length && ext.toList.head? == some '+' &&
        isDigits (String.ofList (ext.toList.drop 1))) = true ↔
      ∃ digits, digits ≠ "" ∧ (∀ digit ∈ digits.toList, digit.isDigit = true) ∧
        ext = "+" ++ digits := by
  rw [Bool.and_eq_true, Bool.and_eq_true, decide_eq_true_iff, beq_iff_eq, isDigits_iff,
    ← String.length_toList]
  constructor
  · intro tests
    obtain ⟨⟨long, plus⟩, allDigits⟩ := tests
    obtain ⟨tail, shape⟩ := List.head?_eq_some_iff.mp plus
    refine ⟨_, ?_, allDigits, ?_⟩
    · apply ofList_ne_empty
      rw [ne_eq, List.drop_eq_nil_iff]
      omega
    · apply String.toList_inj.mp
      rw [String.toList_append]
      rw [shape]
      exact congrArg (List.cons '+') String.toList_ofList.symm
  · intro named
    obtain ⟨digits, nonempty, allDigits, rfl⟩ := named
    have long := List.length_pos_iff.mpr (mt String.toList_eq_nil_iff.mp nonempty)
    rw [String.toList_append]
    refine ⟨⟨?_, rfl⟩, ?_⟩
    · rw [List.length_append]
      change 1 < 1 + digits.toList.length
      omega
    · change ∀ digit ∈ (String.ofList digits.toList).toList, _
      rw [String.toList_ofList]
      exact allDigits

theorem not_isDigits_of_head {head : Char} {rest : List Char} {ext : String}
    (other : head.isDigit = false)
    (starts : ext.toList = head :: rest) : isDigits ext = false := by
  rw [Bool.eq_false_iff, ne_eq, isDigits_iff, starts]
  intro allDigits
  rw [allDigits head List.mem_cons_self] at other
  cases other

theorem tg_isDigits (name : String) : isDigits ("tg#" ++ name) = false := by
  apply not_isDigits_of_head (show 't'.isDigit = false by decide)
  rw [String.toList_append]
  rfl

theorem plus_isDigits (digits : String) : isDigits ("+" ++ digits) = false := by
  apply not_isDigits_of_head (show '+'.isDigit = false by decide)
  rw [String.toList_append]
  rfl

theorem plus_ne_tg (digits name : String) : "+" ++ digits ≠ "tg#" ++ name := by
  intro same
  have heads := congrArg String.toList same
  rw [String.toList_append, String.toList_append] at heads
  cases heads

theorem Names.parsed {ext : String} {asked : Asked} (names : Names ext asked) (ctx : Context) :
    parseExtension ext ctx = some (asked.store ctx) := by
  unfold parseExtension
  cases names with
  | @username name nonempty =>
      rw [if_pos (isTgExtension_iff.mpr ⟨name, nonempty, rfl⟩), String.toList_append]
      exact congrArg (fun text => some { ctx with extUsername := text }) String.ofList_toList
  | @phone digits nonempty allDigits =>
      have other : ¬(3 < ("+" ++ digits).length &&
          ("+" ++ digits).toList.take 3 == "tg#".toList) = true := by
        rw [isTgExtension_iff]
        intro named
        obtain ⟨name, _, same⟩ := named
        exact plus_ne_tg digits name same
      rw [if_neg other, if_pos (isPhoneExtension_iff.mpr ⟨digits, nonempty, allDigits, rfl⟩),
        String.toList_append]
      exact congrArg (fun text => some { ctx with extPhone := text }) String.ofList_toList
  | user nonempty allDigits fits =>
      have numeric : isDigits ext = true := isDigits_iff.mpr allDigits
      have unnamed : ¬(3 < ext.length && ext.toList.take 3 == "tg#".toList) = true := by
        rw [isTgExtension_iff]
        intro named
        obtain ⟨name, _, rfl⟩ := named
        rw [tg_isDigits] at numeric
        cases numeric
      have unsigned : ¬(1 < ext.length && ext.toList.head? == some '+' &&
          isDigits (String.ofList (ext.toList.drop 1))) = true := by
        rw [isPhoneExtension_iff]
        intro named
        obtain ⟨other, _, _, rfl⟩ := named
        rw [plus_isDigits] at numeric
        cases numeric
      rw [if_neg unnamed, if_neg unsigned, if_pos numeric,
        stol_eq (mt String.toList_eq_nil_iff.mp nonempty), if_pos fits]
      rfl

theorem parsed_names {ext : String} {ctx parsed : Context}
    (accepted : parseExtension ext ctx = some parsed) : ∃ asked, Names ext asked := by
  unfold parseExtension at accepted
  split at accepted
  · rename_i username
    obtain ⟨name, nonempty, rfl⟩ := isTgExtension_iff.mp username
    exact ⟨_, .username nonempty⟩
  · split at accepted
    · rename_i phone
      obtain ⟨digits, nonempty, allDigits, rfl⟩ := isPhoneExtension_iff.mp phone
      exact ⟨_, .phone nonempty allDigits⟩
    · split at accepted
      · rename_i numeric
        by_cases empty : ext = ""
        · subst empty
          cases accepted
        · rw [stol_eq (mt String.toList_eq_nil_iff.mp empty)] at accepted
          by_cases fits : decimalValue ext.toList ≤ 2 ^ 63 - 1
          · exact ⟨_, .user empty (isDigits_iff.mp numeric) fits⟩
          · rw [if_neg fits] at accepted
            cases accepted
      · cases accepted

theorem parseExtension_eq_none {ext : String} (unnamed : ¬∃ asked, Names ext asked)
    (ctx : Context) : parseExtension ext ctx = none := by
  cases accepted : parseExtension ext ctx with
  | none => rfl
  | some parsed => exact absurd (parsed_names accepted) unnamed

/-! ### The dial -/

/-- The world that an action leaves, whether it returns or throws. -/
def behind : EStateM.Result Fault World Unit → World
  | .ok _ world => world
  | .error _ world => world

/-- The first request of a dial: the cache is asked before Telegram. -/
def Asked.request (env : Env) (cache : Cache) : Asked → Query
  | .username name =>
      match cache.usernameCache name with
      | some userId => createQuery env userId
      | none => .searchPublicChat name
  | .phone digits =>
      match cache.phoneCache digits with
      | some userId => createQuery env userId
      | none => .importContacts [digits]
  | .user id => createQuery env id

def Object.found? : Object → Option Int
  | .chat record => if record.type = .private then some record.id else none
  | .importedContacts (userId :: _) => if userId = 0 then none else some userId
  | _ => none

/-- The request is sent, and after it at most a `createCall` for the user that
its answer names. -/
def Dials (env : Env) (world last : World) (first : Query) : Prop :=
  ∃ reply rest, last.trace = world.trace ++ Effect.query first reply :: rest ∧
    ∀ request answer, .query request answer ∈ rest →
      ∃ userId, reply.found? = some userId ∧ request = createQuery env userId

theorem behind_dialFailed (env : Env) (error : TdError) (world : World) :
    (behind ((dialFailed env error).run world)).trace = world.trace ++ [Effect.logError] := by
  rw [run_dialFailed]
  split <;> rfl

theorem dialById_trace (env : Env) (userId : Int) (world : World) :
    ∃ rest, (behind ((dialById env userId).run world)).trace =
        world.trace ++ Effect.query (createQuery env userId) env.createCall :: rest ∧
      ∀ request answer, .query request answer ∉ rest := by
  unfold dialById
  simp only [EStateM.run_bind, run_emit]
  cases reply : env.createCall with
  | error error =>
      refine ⟨[.logError], ?_, by simp⟩
      refine (behind_dialFailed env error _).trans ?_
      simp only [World.emit, List.append_assoc, List.singleton_append, createQuery]
  | callId callId =>
      refine ⟨[.associatedTg callId], ?_, by simp⟩
      simp [Object.error?, Object.callId?, behind, World.emit, World.setCtx, createQuery]
  | _ =>
      refine ⟨[], ?_, by simp⟩
      simp [Object.error?, Object.callId?, behind, World.emit, createQuery]

theorem dialById_dials (env : Env) (userId : Int) (world : World) :
    Dials env world (behind ((dialById env userId).run world)) (createQuery env userId) := by
  obtain ⟨rest, trace, quiet⟩ := dialById_trace env userId world
  exact ⟨_, rest, trace, fun request answer member => absurd member (quiet request answer)⟩

theorem Dials.of_found {env : Env} {world middle : World} {first : Query} (reply : Object)
    {userId : Int} (found : reply.found? = some userId)
    (looked : middle.trace = world.trace ++ [Effect.query first reply]) :
    Dials env world (behind ((dialById env userId).run middle)) first := by
  obtain ⟨rest, trace, quiet⟩ := dialById_trace env userId middle
  refine ⟨reply, .query (createQuery env userId) env.createCall :: rest, ?_, ?_⟩
  · rw [trace, looked, List.append_assoc]
    rfl
  · intro request answer member
    rcases List.mem_cons.mp member with here | later
    · cases here
      exact ⟨userId, found, rfl⟩
    · exact absurd later (quiet request answer)

theorem Dials.of_last {env : Env} {world last : World} {first : Query} (reply : Object)
    (rest : List Effect) (trace : last.trace = world.trace ++ Effect.query first reply :: rest)
    (quiet : ∀ request answer, .query request answer ∉ rest) : Dials env world last first :=
  ⟨reply, rest, trace, fun request answer member => absurd member (quiet request answer)⟩

theorem dialByUsername_dials (env : Env) (world : World) :
    Dials env world (behind ((dialByUsername env).run world))
      (Asked.request env world.cache (.username world.ctx.extUsername)) := by
  unfold dialByUsername Asked.request
  simp only [EStateM.run_bind, EStateM.run_get]
  cases cached : world.cache.usernameCache world.ctx.extUsername with
  | some userId => exact dialById_dials env userId world
  | none =>
      simp only [EStateM.run_bind, run_emit]
      cases reply : env.searchPublicChat with
      | error error =>
          refine Dials.of_last (.error error) [.logError]
            ((behind_dialFailed env error _).trans ?_) (by simp)
          exact List.append_assoc _ _ _
      | chat chat =>
          simp only [Object.error?, Object.chat?]
          cases kind : chat.type with
          | other => exact Dials.of_last _ [] rfl (by simp)
          | «private» =>
              refine Dials.of_found (.chat chat) ?_ rfl
              simp only [Object.found?, kind, if_true]
      | _ => exact Dials.of_last _ [] rfl (by simp)

theorem dialByPhone_dials (env : Env) (world : World) :
    Dials env world (behind ((dialByPhone env).run world))
      (Asked.request env world.cache (.phone world.ctx.extPhone)) := by
  unfold dialByPhone Asked.request
  simp only [EStateM.run_bind, EStateM.run_get]
  cases cached : world.cache.phoneCache world.ctx.extPhone with
  | some userId => exact dialById_dials env userId world
  | none =>
      simp only [EStateM.run_bind, run_emit]
      cases reply : env.importContacts with
      | error error =>
          refine Dials.of_last (.error error) [.logError]
            ((behind_dialFailed env error _).trans ?_) (by simp)
          exact List.append_assoc _ _ _
      | importedContacts userIds =>
          simp only [Object.error?, Object.importedContacts?]
          cases userIds with
          | nil => exact Dials.of_last _ [] rfl (by simp)
          | cons userId others =>
              by_cases unregistered : userId = 0
              · simp only [if_pos unregistered]
                exact Dials.of_last _ [.logError] (List.append_assoc _ _ _) (by simp)
              · simp only [if_neg unregistered]
                refine Dials.of_found (.importedContacts (userId :: others)) ?_ rfl
                simp only [Object.found?, if_neg unregistered]
      | _ => exact Dials.of_last _ [] rfl (by simp)

/-- A dial that is not blocked starts from the field that is not empty. -/
theorem dialTg_dials {env : Env} {world : World} (free : ¬env.now < world.blockUntil)
    {ctx : Context} (fresh : ctx.extUsername = "" ∧ ctx.extPhone = "") {ext : String}
    {asked : Asked} (names : Names ext asked) (stored : world.ctx = asked.store ctx) :
    Dials env (world.emit (.action .dialTg)) (behind ((dialTg env).run world))
      (asked.request env world.cache) := by
  have gate : ¬(world.emit (.action .dialTg)).blockUntil > env.now := free
  have shared : (world.emit (.action .dialTg)).ctx = asked.store ctx := stored
  have empty : "".isEmpty = true := String.isEmpty_iff.mpr rfl
  unfold dialTg
  simp only [EStateM.run_bind, run_emit, EStateM.run_get, if_neg gate, shared]
  cases names with
  | @username name nonempty =>
      have named : name.isEmpty = false := by
        rw [Bool.eq_false_iff, ne_eq, String.isEmpty_iff]
        exact nonempty
      have dials := dialByUsername_dials env (world.emit (.action .dialTg))
      rw [shared] at dials
      simp only [Asked.store, named, Bool.not_false, if_true]
      exact dials
  | @phone digits nonempty allDigits =>
      have numbered : digits.isEmpty = false := by
        rw [Bool.eq_false_iff, ne_eq, String.isEmpty_iff]
        exact nonempty
      have dials := dialByPhone_dials env (world.emit (.action .dialTg))
      rw [shared] at dials
      simp only [Asked.store, fresh.1, empty, Bool.not_true, Bool.false_eq_true,
        if_false, EStateM.run_bind, EStateM.run_get, shared, numbered, Bool.not_false, if_true]
      exact dials
  | user nonempty allDigits fits =>
      simp only [Asked.store, fresh.1, fresh.2, empty, Bool.not_true,
        Bool.false_eq_true, if_false, EStateM.run_bind, EStateM.run_get, shared]
      exact dialById_dials env _ _

/-- The parser accepts its grammar, rings, and leaves to the dial what was
asked; everything else is one bad extension. -/
theorem extension_is_dialled_as_asked (env : Env) (world : World) (ext : String)
    {call : CallRef}
    (fresh : world.ctx.extUsername = "" ∧ world.ctx.extPhone = "" ∧ world.ctx.userId = 0)
    (registered : world.sip.calls world.ctx.sipCallId = some call)
    (works : env.answer = .ok ()) :
    (∀ asked, Names ext asked →
      (acceptIncomingSip env ext).run world = .ok () (world.after (asked.store world.ctx)
        [.action .acceptIncomingSip,
          .sip (.answer world.ctx.sipCallId ringingPrm) (some call) none] []) ∧
      ∀ (dialEnv : Env) (later : World), later.ctx = asked.store world.ctx →
        ¬dialEnv.now < later.blockUntil →
        Dials dialEnv (later.emit (.action .dialTg)) (behind ((dialTg dialEnv).run later))
          (asked.request dialEnv later.cache)) ∧
    ((¬∃ asked, Names ext asked) →
      (acceptIncomingSip env ext).run world = .ok () (world.after world.ctx
        [.action .acceptIncomingSip] [{ statusCode := scBadExtension }])) := by
  constructor
  · intro asked names
    constructor
    · have failure : opFailure world world.ctx.sipCallId env.answer.fault = none := by
        unfold opFailure
        rw [registered, works]
        rfl
      rw [run_acceptIncomingSip, names.parsed, failure, registered]
      rfl
    · intro dialEnv later stored free
      exact dialTg_dials free ⟨fresh.1, fresh.2.1⟩ names stored
  · intro unnamed
    rw [run_acceptIncomingSip, parseExtension_eq_none unnamed]

def World.ringing : World :=
  { ctx := { id := "1-1", sipCallId := 3 }
    cache := ⟨FiniteMap.empty, FiniteMap.empty⟩
    blockUntil := 0
    internalEvents := []
    sip := ⟨FiniteMap.insert FiniteMap.empty 3 0, 1⟩
    trace := [] }

theorem extension_of_phone_is_dialled :
    Names "+123" (.phone "123") ∧
      (acceptIncomingSip Env.sample "+123").run World.ringing = .ok () (World.ringing.after
        { World.ringing.ctx with extPhone := "123" }
        [.action .acceptIncomingSip, .sip (.answer 3 ringingPrm) (some 0) none] []) := by
  have names : Names "+123" (.phone "123") := by
    rw [show "+123" = "+" ++ "123" by decide]
    exact .phone (by decide) (isDigits_iff.mp (by decide))
  have registered : World.ringing.sip.calls World.ringing.ctx.sipCallId = some 0 := rfl
  have dialled := extension_is_dialled_as_asked Env.sample World.ringing "+123"
    ⟨rfl, rfl, rfl⟩ registered rfl
  exact ⟨names, (dialled.1 _ names).1⟩

end Tg2Sip.Cpp
