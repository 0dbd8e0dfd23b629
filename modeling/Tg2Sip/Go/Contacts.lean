/-
`ContactCache` and `resolveUser`.

Telegram is what TDLib answers, together with the records of its users: a
record that `GetUser` returns is the user's own, `ImportContacts` finds the
user by the phone number, and `SearchContacts` looks for the query in the names
of the contacts.  `unicode.ToLower` is any map of the runes that changes
nothing when it is applied twice, and no digits.
-/

import Tg2Sip.Go.Text
import Tg2Sip.Lib.FiniteMap

namespace Tg2Sip.Go

open TextSearch

/-- `unicode.ToLower`. -/
structure Runes where
  lower : Char → Char
  lower_lower : ∀ char, lower (lower char) = lower char
  lower_isDigit : ∀ char, (lower char).isDigit = char.isDigit

/-- `strings.ToLower`. -/
def Runes.toLower (runes : Runes) (text : String) : String :=
  String.ofList (text.toList.map runes.lower)

@[simp] theorem Runes.toLower_toLower (runes : Runes) (text : String) :
    runes.toLower (runes.toLower text) = runes.toLower text := by
  unfold Runes.toLower
  rw [String.toList_ofList, List.map_map]
  congr 1
  apply List.map_congr_left
  intro char _
  exact runes.lower_lower char

def Runes.ascii : Runes where
  lower := Char.toLower
  lower_lower char := by
    apply Char.toNat_inj.mp
    rw [toNat_toLower char.toLower, toNat_toLower char]
    repeat' split
    all_goals omega
  lower_isDigit char := by
    rw [Bool.eq_iff_iff, Char.isDigit_iff_toNat, Char.isDigit_iff_toNat, toNat_toLower]
    have zero : '0'.toNat = 48 := rfl
    have nine : '9'.toNat = 57 := rfl
    split <;> omega

structure ContactCache where
  usernameToID : FiniteMap.Map String Int
  phoneToID : FiniteMap.Map String Int

def newContactCache : ContactCache := ⟨FiniteMap.empty, FiniteMap.empty⟩

/-- The editable username, unless it is empty, and the active ones. -/
def User.names (user : User) : List String :=
  match user.usernames with
  | none => []
  | some (editable, active) => (if editable = "" then [] else [editable]) ++ active

section Cache

variable (runes : Runes)

def insertNames (id : Int) (names : List String) (map : FiniteMap.Map String Int) :
    FiniteMap.Map String Int :=
  names.foldl (fun known name => FiniteMap.insert known (runes.toLower name) id) map

/-- A nil user is left out. -/
def ContactCache.addLocked (cache : ContactCache) : Option User → ContactCache
  | none => cache
  | some user =>
      { usernameToID := insertNames runes user.id user.names cache.usernameToID
        phoneToID :=
          if user.phoneNumber = "" then cache.phoneToID
          else FiniteMap.insert cache.phoneToID user.phoneNumber user.id }

def ContactCache.set (users : List (Option User)) : ContactCache :=
  users.foldl (ContactCache.addLocked runes) newContactCache

def ContactCache.update (cache : ContactCache) (user : Option User) : ContactCache :=
  cache.addLocked runes user

def ContactCache.resolve (cache : ContactCache) (ext : String) : Option Int :=
  match cache.usernameToID (runes.toLower ext) with
  | some id => some id
  | none => cache.phoneToID ext

theorem insertNames_apply (id : Int) (names : List String) (map : FiniteMap.Map String Int)
    (key : String) :
    insertNames runes id names map key =
      if key ∈ names.map runes.toLower then some id else map key := by
  unfold insertNames
  induction names generalizing map with
  | nil => rfl
  | cons name rest ih =>
      rw [List.foldl_cons, ih, List.map_cons]
      by_cases later : key ∈ rest.map runes.toLower
      · rw [if_pos later, if_pos (List.mem_cons_of_mem _ later)]
      · rw [if_neg later]
        by_cases here : key = runes.toLower name
        · rw [if_pos (by rw [here]; exact List.mem_cons_self), here, FiniteMap.insert_self]
        · rw [if_neg (by simp only [List.mem_cons, here, later, or_self, not_false_eq_true]),
            FiniteMap.insert_of_ne _ _ here]

theorem addLocked_username (cache : ContactCache) (user : User) (key : String) :
    (cache.addLocked runes (some user)).usernameToID key =
      if key ∈ user.names.map runes.toLower then some user.id else cache.usernameToID key :=
  insertNames_apply runes user.id user.names cache.usernameToID key

theorem addLocked_phone (cache : ContactCache) (user : User) (key : String) :
    (cache.addLocked runes (some user)).phoneToID key =
      if user.phoneNumber ≠ "" ∧ key = user.phoneNumber then some user.id
      else cache.phoneToID key := by
  unfold ContactCache.addLocked
  dsimp only
  by_cases empty : user.phoneNumber = ""
  · rw [if_pos empty, if_neg (fun both => both.1 empty)]
  · rw [if_neg empty]
    by_cases same : key = user.phoneNumber
    · rw [if_pos ⟨empty, same⟩, same, FiniteMap.insert_self]
    · rw [if_neg (fun both => same both.2), FiniteMap.insert_of_ne _ _ same]

end Cache

def User.searched (user : User) : List String := user.firstName :: user.lastName :: user.names

/-- The records of the users, and the answers of TDLib.  `finds` says whether
the search finds a query in a field. -/
structure Telegram where
  users : Int → Option User
  getUser : Int → Except TgError User
  searchContacts : String → Except TgError (List Int)
  importContacts : String → Except TgError (List Int)
  finds : String → String → Bool
  users_id : ∀ {id user}, users id = some user → user.id = id
  getUser_exact : ∀ {id user}, getUser id = .ok user → users id = some user
  searchContacts_finds : ∀ {query ids}, searchContacts query = .ok ids → ∀ id ∈ ids,
    ∃ user, users id = some user ∧ ∃ field ∈ user.searched, finds query field = true
  importContacts_exact : ∀ {phone id rest}, importContacts phone = .ok (id :: rest) → id ≠ 0 →
    ∃ user, users id = some user ∧ user.phoneNumber = phone

def digitsOnly (text : String) : Bool := !text.toList.isEmpty && text.toList.all Char.isDigit

theorem digitsOnly_toLower (runes : Runes) (text : String) :
    digitsOnly (runes.toLower text) = digitsOnly text := by
  unfold digitsOnly Runes.toLower
  rw [String.toList_ofList, List.isEmpty_map, List.all_map]
  congr 2
  funext char
  exact runes.lower_isDigit char

/-- `strconv.ParseInt` with base 10 and 64 bits. -/
def parseInt (text : List Char) : Option Int :=
  let value (digits : List Char) : Option Nat :=
    if digits.isEmpty || !digits.all Char.isDigit then none else some (decimalValue digits)
  match text with
  | '-' :: digits =>
      (value digits).bind (fun size => if size ≤ 2 ^ 63 then some (-(size : Int)) else none)
  | '+' :: digits =>
      (value digits).bind (fun size => if size < 2 ^ 63 then some (size : Int) else none)
  | digits => (value digits).bind (fun size => if size < 2 ^ 63 then some (size : Int) else none)

section Resolve

variable (runes : Runes) (telegram : Telegram)

def ContactCache.addFound (cache : ContactCache) (id : Int) :
    Except TgError (Option Int) × ContactCache :=
  match telegram.getUser id with
  | .error error => (.error error, cache)
  | .ok user => (.ok (some user.id), cache.update runes (some user))

def ContactCache.searchAndAdd (cache : ContactCache) (query : String) :
    Except TgError (Option Int) × ContactCache :=
  match telegram.searchContacts query with
  | .error error => (.error error, cache)
  | .ok [] =>
      if digitsOnly query then
        match telegram.importContacts query with
        | .error error => (.error error, cache)
        | .ok [] => (.ok none, cache)
        | .ok (id :: _) => if id = 0 then (.ok none, cache) else cache.addFound runes telegram id
      else (.ok none, cache)
  | .ok (id :: _) => cache.addFound runes telegram id

/-- `Resolve`, and `SearchAndAdd` when it finds nothing. -/
def ContactCache.resolveOrSearch (cache : ContactCache) (key query : String) :
    Except TgError (Option Int) × ContactCache :=
  match cache.resolve runes key with
  | some id => (.ok (some id), cache)
  | none => cache.searchAndAdd runes telegram query

def resolveUser (cache : ContactCache) (ext : String) :
    Except TgError (Option Int) × ContactCache :=
  match ext.toList with
  | [] => (.ok none, cache)
  | 't' :: 'g' :: '#' :: name =>
      cache.resolveOrSearch runes telegram (runes.toLower (String.ofList name))
        (String.ofList name)
  | '+' :: phone =>
      cache.resolveOrSearch runes telegram (String.ofList phone) (String.ofList phone)
  | text =>
      match parseInt text with
      | some id => (.ok (some id), cache)
      | none => cache.resolveOrSearch runes telegram ext ext

def Telegram.HasUsername (id : Int) (name : String) : Prop :=
  ∃ user, telegram.users id = some user ∧ runes.toLower name ∈ user.names.map runes.toLower

def Telegram.HasPhone (id : Int) (phone : String) : Prop :=
  ∃ user, telegram.users id = some user ∧ user.phoneNumber = phone

/-- Every key leads to a user who has it. -/
structure ContactCache.Sound (cache : ContactCache) : Prop where
  usernames : ∀ key id, cache.usernameToID key = some id →
    ∃ user, telegram.users id = some user ∧ key ∈ user.names.map runes.toLower
  phones : ∀ key id, cache.phoneToID key = some id → telegram.HasPhone id key

/-- The user whose record `SearchAndAdd` asks for: the first one that the
search finds, or the one that a number is imported for. -/
inductive Telegram.Finds (query : String) : Int → Prop where
  | searched {id : Int} {rest : List Int} : telegram.searchContacts query = .ok (id :: rest) →
      Telegram.Finds query id
  | imported {id : Int} {rest : List Int} : telegram.searchContacts query = .ok [] →
      digitsOnly query = true → telegram.importContacts query = .ok (id :: rest) → id ≠ 0 →
      Telegram.Finds query id

end Resolve

section Named

variable {runes : Runes} {telegram : Telegram} {cache : ContactCache}

theorem addFound_eq_some {id found : Int} :
    (cache.addFound runes telegram id).1 = .ok (some found) ↔
      found = id ∧ ∃ user, telegram.getUser id = .ok user := by
  unfold ContactCache.addFound
  cases answer : telegram.getUser id with
  | error error => simp
  | ok user =>
      have named : user.id = id := telegram.users_id (telegram.getUser_exact answer)
      simp [named, eq_comm]

theorem searchAndAdd_eq_some {query : String} {id : Int} :
    (cache.searchAndAdd runes telegram query).1 = .ok (some id) ↔
      telegram.Finds query id ∧ ∃ user, telegram.getUser id = .ok user := by
  unfold ContactCache.searchAndAdd
  constructor
  · intro returned
    cases searched : telegram.searchContacts query with
    | error error => simp [searched] at returned
    | ok ids =>
        cases ids with
        | cons first rest =>
            simp only [searched] at returned
            obtain ⟨rfl, answered⟩ := addFound_eq_some.mp returned
            exact ⟨.searched searched, answered⟩
        | nil =>
            simp only [searched] at returned
            split at returned
            · rename_i digits
              cases imported : telegram.importContacts query with
              | error error => simp [imported] at returned
              | ok found =>
                  cases found with
                  | nil => simp [imported] at returned
                  | cons first rest =>
                      simp only [imported] at returned
                      split at returned
                      · cases returned
                      · rename_i nonzero
                        obtain ⟨rfl, answered⟩ := addFound_eq_some.mp returned
                        exact ⟨.imported searched digits imported nonzero, answered⟩
            · cases returned
  · intro finds
    obtain ⟨found, answered⟩ := finds
    cases found with
    | searched searched =>
        simp only [searched]
        exact addFound_eq_some.mpr ⟨rfl, answered⟩
    | imported searched digits imported nonzero =>
        simp only [searched, digits, imported, if_true, if_neg nonzero]
        exact addFound_eq_some.mpr ⟨rfl, answered⟩

theorem resolve_eq_some {ext : String} {id : Int} :
    cache.resolve runes ext = some id ↔
      cache.usernameToID (runes.toLower ext) = some id ∨
        cache.usernameToID (runes.toLower ext) = none ∧ cache.phoneToID ext = some id := by
  unfold ContactCache.resolve
  cases cache.usernameToID (runes.toLower ext) <;> simp

theorem resolve_eq_none {ext : String} :
    cache.resolve runes ext = none ↔
      cache.usernameToID (runes.toLower ext) = none ∧ cache.phoneToID ext = none := by
  unfold ContactCache.resolve
  cases cache.usernameToID (runes.toLower ext) <;> simp

theorem resolveOrSearch_eq_some {key query : String} {id : Int} :
    (cache.resolveOrSearch runes telegram key query).1 = .ok (some id) ↔
      cache.usernameToID (runes.toLower key) = some id ∨
      cache.usernameToID (runes.toLower key) = none ∧ cache.phoneToID key = some id ∨
      (cache.usernameToID (runes.toLower key) = none ∧ cache.phoneToID key = none) ∧
        telegram.Finds query id ∧ ∃ user, telegram.getUser id = .ok user := by
  unfold ContactCache.resolveOrSearch
  rw [← or_assoc, ← resolve_eq_some, ← resolve_eq_none]
  cases cache.resolve runes key with
  | some found => simp [eq_comm]
  | none => simp [searchAndAdd_eq_some]

/-! ### The cache behind the call -/

theorem ContactCache.Sound.update (sound : cache.Sound runes telegram) {id : Int} {user : User}
    (known : telegram.users id = some user) :
    (cache.update runes (some user)).Sound runes telegram := by
  have named : user.id = id := telegram.users_id known
  constructor
  · intro key other present
    unfold ContactCache.update at present
    rw [addLocked_username] at present
    split at present
    · cases present
      rw [named]
      exact ⟨user, known, ‹_›⟩
    · exact sound.usernames key other present
  · intro key other present
    unfold ContactCache.update at present
    rw [addLocked_phone] at present
    split at present
    · rename_i here
      cases present
      rw [named, here.2]
      exact ⟨user, known, rfl⟩
    · exact sound.phones key other present

theorem ContactCache.Sound.addFound (sound : cache.Sound runes telegram) (id : Int) :
    (cache.addFound runes telegram id).2.Sound runes telegram := by
  unfold ContactCache.addFound
  cases answer : telegram.getUser id with
  | error error => exact sound
  | ok user => exact sound.update (telegram.getUser_exact answer)

theorem ContactCache.Sound.resolveOrSearch (sound : cache.Sound runes telegram)
    (key query : String) :
    (cache.resolveOrSearch runes telegram key query).2.Sound runes telegram := by
  unfold ContactCache.resolveOrSearch
  split
  · exact sound
  · unfold ContactCache.searchAndAdd
    split
    · exact sound
    · split
      · split
        · exact sound
        · exact sound
        · split
          · exact sound
          · exact sound.addFound _
      · exact sound
    · exact sound.addFound _

theorem ContactCache.Sound.resolveUser (sound : cache.Sound runes telegram) (ext : String) :
    (resolveUser runes telegram cache ext).2.Sound runes telegram := by
  unfold Go.resolveUser
  split
  · exact sound
  · exact sound.resolveOrSearch _ _
  · exact sound.resolveOrSearch _ _
  · split
    · exact sound
    · exact sound.resolveOrSearch _ _

theorem resolveUser_tg (name : String) :
    resolveUser runes telegram cache ("tg#" ++ name) =
      cache.resolveOrSearch runes telegram (runes.toLower name) name := by
  have text : ("tg#" ++ name).toList = 't' :: 'g' :: '#' :: name.toList :=
    String.toList_append ..
  unfold resolveUser
  rw [text]
  simp only [String.ofList_toList]

theorem resolveUser_plus (phone : String) :
    resolveUser runes telegram cache ("+" ++ phone) =
      cache.resolveOrSearch runes telegram phone phone := by
  have text : ("+" ++ phone).toList = '+' :: phone.toList := String.toList_append ..
  unfold resolveUser
  rw [text]
  simp only [String.ofList_toList]

end Named

section Called

variable (runes : Runes) (telegram : Telegram) (cache : ContactCache)

/-- Unless the name is a cached username, neither the owner of a cached phone
number that reads like it nor the user that TDLib finds for it is someone else. -/
structure UsernameSafe (name : String) : Prop where
  cached : cache.usernameToID (runes.toLower name) = none →
    ∀ id, cache.phoneToID (runes.toLower name) = some id → telegram.HasUsername runes id name
  found : cache.usernameToID (runes.toLower name) = none →
    cache.phoneToID (runes.toLower name) = none →
    ∀ id user, telegram.Finds name id → telegram.getUser id = .ok user →
      telegram.HasUsername runes id name

/-- The owner of a cached username that reads like the number is not someone
else, and neither is, for a number that is not cached, the first user that the
search finds. -/
structure PhoneSafe (phone : String) : Prop where
  cached : ∀ id, cache.usernameToID (runes.toLower phone) = some id → telegram.HasPhone id phone
  found : cache.usernameToID (runes.toLower phone) = none → cache.phoneToID phone = none →
    ∀ id rest user, telegram.searchContacts phone = .ok (id :: rest) →
      telegram.getUser id = .ok user → telegram.HasPhone id phone

variable {runes telegram cache}

theorem username_called_iff (sound : cache.Sound runes telegram) (name : String) :
    (∀ id, (resolveUser runes telegram cache ("tg#" ++ name)).1 = .ok (some id) →
      telegram.HasUsername runes id name) ↔ UsernameSafe runes telegram cache name := by
  simp only [resolveUser_tg, resolveOrSearch_eq_some, Runes.toLower_toLower]
  constructor
  · intro named
    constructor
    · intro uncached id owned
      exact named id (.inr (.inl ⟨uncached, owned⟩))
    · intro uncached unowned id user finds answered
      exact named id (.inr (.inr ⟨⟨uncached, unowned⟩, finds, user, answered⟩))
  · rintro safe id (hit | ⟨uncached, owned⟩ | ⟨⟨uncached, unowned⟩, finds, user, answered⟩)
    · exact sound.usernames _ id hit
    · exact safe.cached uncached id owned
    · exact safe.found uncached unowned id user finds answered

theorem phone_called_iff (sound : cache.Sound runes telegram) (phone : String) :
    (∀ id, (resolveUser runes telegram cache ("+" ++ phone)).1 = .ok (some id) →
      telegram.HasPhone id phone) ↔ PhoneSafe runes telegram cache phone := by
  simp only [resolveUser_plus, resolveOrSearch_eq_some]
  constructor
  · intro named
    constructor
    · intro id owned
      exact named id (.inl owned)
    · intro unowned uncached id rest user searched answered
      exact named id (.inr (.inr ⟨⟨unowned, uncached⟩, .searched searched, user, answered⟩))
  · rintro safe id (owned | ⟨unowned, hit⟩ | ⟨⟨unowned, uncached⟩, finds, user, answered⟩)
    · exact safe.cached id owned
    · exact sound.phones phone id hit
    · cases finds with
      | @searched rest searched =>
          exact safe.found unowned uncached id rest user searched answered
      | imported searched digits imported nonzero =>
          exact telegram.importContacts_exact imported nonzero

/-- Whom `resolveUser` returns, and what it leaves in the cache. -/
theorem resolveUser_named_iff (sound : cache.Sound runes telegram) :
    (∀ name, (∀ id, (resolveUser runes telegram cache ("tg#" ++ name)).1 = .ok (some id) →
      telegram.HasUsername runes id name) ↔ UsernameSafe runes telegram cache name) ∧
    (∀ phone, (∀ id, (resolveUser runes telegram cache ("+" ++ phone)).1 = .ok (some id) →
      telegram.HasPhone id phone) ↔ PhoneSafe runes telegram cache phone) ∧
    ∀ ext, (resolveUser runes telegram cache ext).2.Sound runes telegram :=
  ⟨username_called_iff sound, phone_called_iff sound, sound.resolveUser⟩

end Called

/-- A Telegram with one contact; the search looks for prefixes. -/
def Telegram.single (user : User) : Telegram where
  users id := if id = user.id then some user else none
  getUser id := if id = user.id then .ok user else .error (.response "Not Found")
  finds query field :=
    (query.toList.map Char.toLower).isPrefixOf (field.toList.map Char.toLower)
  searchContacts query :=
    .ok (if user.searched.any (fun field => (query.toList.map Char.toLower).isPrefixOf
      (field.toList.map Char.toLower)) then [user.id] else [])
  importContacts phone := .ok [if phone = user.phoneNumber then user.id else 0]
  users_id := by
    intro id found known
    split at known
    · cases known
      exact Eq.symm ‹_›
    · cases known
  getUser_exact := by
    intro id found answered
    by_cases same : id = user.id
    · rw [if_pos same] at answered ⊢
      cases answered
      rfl
    · rw [if_neg same] at answered
      cases answered
  searchContacts_finds := by
    intro query ids answered id member
    cases answered
    split at member
    · rename_i found
      obtain rfl := List.mem_singleton.mp member
      obtain ⟨field, inside, matching⟩ := List.any_eq_true.mp found
      exact ⟨user, if_pos rfl, field, inside, matching⟩
    · cases member
  importContacts_exact := by
    intro phone id rest answered nonzero
    cases answered
    by_cases same : phone = user.phoneNumber
    · refine ⟨user, ?_, same.symm⟩
      rw [if_pos same, if_pos rfl]
    · exact absurd (if_neg same) nonzero

def sampleBob : User :=
  { id := 7, firstName := "Bob", lastName := "", usernames := some ("rob", ["rob"]),
    phoneNumber := "123" }

theorem newContactCache_sound (runes : Runes) (telegram : Telegram) :
    newContactCache.Sound runes telegram :=
  ⟨nofun, nofun⟩

theorem resolveUser_finds_rob :
    (resolveUser .ascii (.single sampleBob) newContactCache "tg#rob").1 = .ok (some 7) ∧
      (Telegram.single sampleBob).HasUsername .ascii 7 "rob" := by
  have returned : (resolveUser .ascii (.single sampleBob) newContactCache "tg#rob").1 =
      .ok (some 7) := rfl
  have sound := newContactCache_sound .ascii (.single sampleBob)
  have own : (Telegram.single sampleBob).HasUsername .ascii 7 "rob" :=
    ⟨sampleBob, rfl, by decide⟩
  refine ⟨returned, ((resolveUser_named_iff sound).1 "rob").mpr ⟨nofun, ?_⟩ 7 returned⟩
  intro _ _ id user _ answered
  have known := (Telegram.single sampleBob).getUser_exact answered
  change (if id = 7 then some sampleBob else none) = some user at known
  split at known
  · rename_i same
    rw [same]
    exact own
  · cases known

/-- The search finds Bob by his first name. -/
theorem resolveUser_calls_bob_for_bob :
    ¬∀ runes telegram cache, ContactCache.Sound runes telegram cache → ∀ name id,
      (resolveUser runes telegram cache ("tg#" ++ name)).1 = .ok (some id) →
        telegram.HasUsername runes id name := by
  intro always
  obtain ⟨user, known, named⟩ := always .ascii (.single sampleBob) newContactCache
    (newContactCache_sound _ _) "bob" 7 rfl
  cases known
  revert named
  decide

end Tg2Sip.Go
