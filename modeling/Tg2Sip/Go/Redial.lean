/-
Dialling back what `buildUserHeaders` announces.

The username and the phone number of a user go into headers, and come back as
an extension or as the same headers.  In between the phone number is trimmed
and given a `+`, and stored in the cache as it is.
-/

import Tg2Sip.Go.Contacts

namespace Tg2Sip.Go

inductive TgRequest where
  | searchContacts (query : String)
  | importContacts (phone : String)
  | getUser (id : Int)
  deriving DecidableEq, Repr

section Requests

variable (runes : Runes) (telegram : Telegram)

def Telegram.searchRequests (query : String) : List TgRequest :=
  .searchContacts query ::
    match telegram.searchContacts query with
    | .error _ => []
    | .ok [] =>
        if digitsOnly query then
          .importContacts query ::
            match telegram.importContacts query with
            | .error _ => []
            | .ok [] => []
            | .ok (id :: _) => if id = 0 then [] else [.getUser id]
        else []
    | .ok (id :: _) => [.getUser id]

def ContactCache.requests (cache : ContactCache) (key query : String) : List TgRequest :=
  match cache.resolve runes key with
  | some _ => []
  | none => telegram.searchRequests query

def resolveUserRequests (cache : ContactCache) (ext : String) : List TgRequest :=
  match ext.toList with
  | [] => []
  | 't' :: 'g' :: '#' :: name =>
      cache.requests runes telegram (runes.toLower (String.ofList name)) (String.ofList name)
  | '+' :: phone => cache.requests runes telegram (String.ofList phone) (String.ofList phone)
  | text =>
      match parseInt text with
      | some _ => []
      | none => cache.requests runes telegram ext ext

def phoneExtension (phone : String) : String :=
  if phone.toList.head? = some '+' then phone else "+" ++ phone

/-- `getHeaders` is `req.GetHeaders` with the values of the headers. -/
def parseUserFromHeaders (cache : ContactCache) (getHeaders : String → List String) :
    Except TgError (Option Int) × ContactCache :=
  match getHeaders "X-TG-ID" with
  | id :: _ =>
      match parseInt id.toList with
      | some id => (.ok (some id), cache)
      | none => (.error .other, cache)
  | [] =>
      match getHeaders "X-TG-Username" with
      | name :: _ => resolveUser runes telegram cache ("tg#" ++ name)
      | [] =>
          match getHeaders "X-TG-Phone" with
          | phone :: _ => resolveUser runes telegram cache (phoneExtension phone)
          | [] => (.ok none, cache)

def parseUserRequests (cache : ContactCache) (getHeaders : String → List String) :
    List TgRequest :=
  match getHeaders "X-TG-ID" with
  | _ :: _ => []
  | [] =>
      match getHeaders "X-TG-Username" with
      | name :: _ => resolveUserRequests runes telegram cache ("tg#" ++ name)
      | [] =>
          match getHeaders "X-TG-Phone" with
          | phone :: _ => resolveUserRequests runes telegram cache (phoneExtension phone)
          | [] => []

def onlyPhone (value name : String) : List String := if name = "X-TG-Phone" then [value] else []

/-- The extension leads to the user, from the cache alone. -/
structure Reaches (cache : ContactCache) (ext : String) (id : Int) : Prop where
  found : resolveUser runes telegram cache ext = (.ok (some id), cache)
  silent : resolveUserRequests runes telegram cache ext = []

structure DialsBack (cache : ContactCache) (callID : Int) (user : User) : Prop where
  username : ∀ value, ("X-TG-Username", value) ∈ buildUserHeaders callID user →
    Reaches runes telegram cache ("tg#" ++ value) user.id
  phone : ∀ value, ("X-TG-Phone", value) ∈ buildUserHeaders callID user →
    Reaches runes telegram cache value user.id
  header : ∀ value, ("X-TG-Phone", value) ∈ buildUserHeaders callID user →
    parseUserFromHeaders runes telegram cache (onlyPhone value) = (.ok (some user.id), cache) ∧
      parseUserRequests runes telegram cache (onlyPhone value) = []

end Requests

/-- Digits, with or without a `+` in front and with spaces around them. -/
structure PhoneShape (phone : String) (before plus digits after : List Char) : Prop where
  shape : phone.toList = before ++ (plus ++ digits ++ after)
  before : ∀ char ∈ before, isSpace char = true
  plus : plus = [] ∨ plus = ['+'] ∧ digits ≠ []
  digits : ∀ char ∈ digits, char.isDigit = true
  after : ∀ char ∈ after, isSpace char = true

structure NoDigitNames (cache : ContactCache) (user : User) : Prop where
  cached : ∀ key id, cache.usernameToID key = some id → digitsOnly key = false
  own : ∀ name ∈ user.names, digitsOnly name = false

section Silent

variable {runes : Runes} {telegram : Telegram} {cache : ContactCache}

/-- Without a request, the answer is that of the cache. -/
theorem resolveOrSearch_silent_iff {key query : String} {id : Int} :
    (cache.resolveOrSearch runes telegram key query = (.ok (some id), cache) ∧
      cache.requests runes telegram key query = []) ↔ cache.resolve runes key = some id := by
  unfold ContactCache.resolveOrSearch ContactCache.requests
  cases found : cache.resolve runes key with
  | some other => simp
  | none =>
      constructor
      · intro both
        obtain ⟨_, silent⟩ := both
        cases silent
      · intro impossible
        cases impossible

theorem reaches_iff_of_search {ext key query : String} {id : Int}
    (resolved : resolveUser runes telegram cache ext =
      cache.resolveOrSearch runes telegram key query)
    (asked : resolveUserRequests runes telegram cache ext =
      cache.requests runes telegram key query) :
    Reaches runes telegram cache ext id ↔ cache.resolve runes key = some id := by
  rw [← resolveOrSearch_silent_iff, ← resolved, ← asked]
  constructor
  · intro reaches
    exact ⟨reaches.found, reaches.silent⟩
  · intro both
    exact ⟨both.1, both.2⟩

theorem reaches_tg_iff {name : String} {id : Int} :
    Reaches runes telegram cache ("tg#" ++ name) id ↔
      cache.resolve runes (runes.toLower name) = some id := by
  have text : ("tg#" ++ name).toList = 't' :: 'g' :: '#' :: name.toList :=
    String.toList_append ..
  apply reaches_iff_of_search (resolveUser_tg name)
  unfold resolveUserRequests
  rw [text]
  simp only [String.ofList_toList]

theorem reaches_plus_iff {phone : String} {id : Int} :
    Reaches runes telegram cache ("+" ++ phone) id ↔ cache.resolve runes phone = some id := by
  have text : ("+" ++ phone).toList = '+' :: phone.toList := String.toList_append ..
  apply reaches_iff_of_search (resolveUser_plus phone)
  unfold resolveUserRequests
  rw [text]
  simp only [String.ofList_toList]

theorem header_reaches_iff {phone : String} {id : Int} :
    (parseUserFromHeaders runes telegram cache (onlyPhone ("+" ++ phone)) =
        (.ok (some id), cache) ∧
      parseUserRequests runes telegram cache (onlyPhone ("+" ++ phone)) = []) ↔
      Reaches runes telegram cache ("+" ++ phone) id := by
  have extension : phoneExtension ("+" ++ phone) = "+" ++ phone := by
    have text : ("+" ++ phone).toList = '+' :: phone.toList := String.toList_append ..
    unfold phoneExtension
    rw [text, if_pos (List.head?_cons)]
  have parsed : parseUserFromHeaders runes telegram cache (onlyPhone ("+" ++ phone)) =
      resolveUser runes telegram cache (phoneExtension ("+" ++ phone)) := rfl
  have asked : parseUserRequests runes telegram cache (onlyPhone ("+" ++ phone)) =
      resolveUserRequests runes telegram cache (phoneExtension ("+" ++ phone)) := rfl
  rw [parsed, asked, extension]
  constructor
  · intro both
    exact ⟨both.1, both.2⟩
  · intro reaches
    exact ⟨reaches.found, reaches.silent⟩

end Silent

theorem mem_optionalHeader {header name value text : String} :
    (header, text) ∈ optionalHeader name value ↔ header = name ∧ text = value ∧ value ≠ "" := by
  unfold optionalHeader
  by_cases empty : value = ""
  · simp [empty]
  · simp [empty]

theorem username_header_iff {callID : Int} {user : User} {value : String} :
    ("X-TG-Username", value) ∈ buildUserHeaders callID user ↔
      value = getUsername user ∧ getUsername user ≠ "" := by
  unfold buildUserHeaders
  simp [mem_optionalHeader]

theorem phone_header_iff {callID : Int} {user : User} {value : String} :
    ("X-TG-Phone", value) ∈ buildUserHeaders callID user ↔
      value = formatE164 user.phoneNumber ∧ formatE164 user.phoneNumber ≠ "" := by
  unfold buildUserHeaders
  simp [mem_optionalHeader]

theorem getUsername_mem {user : User} (nonempty : getUsername user ≠ "") :
    getUsername user ∈ user.names := by
  unfold getUsername User.names at *
  cases usernames : user.usernames with
  | none =>
      rw [usernames] at nonempty
      exact absurd rfl nonempty
  | some pair =>
      obtain ⟨editable, active⟩ := pair
      rw [usernames] at nonempty
      dsimp only at nonempty ⊢
      by_cases empty : editable = ""
      · rw [if_neg (not_not.mpr empty)] at nonempty ⊢
        rw [if_pos empty]
        cases active with
        | nil => exact absurd rfl nonempty
        | cons first rest => exact List.mem_cons_self
      · rw [if_pos empty, if_neg empty]
        exact List.mem_cons_self

/-! ### The phone number of a user -/

section Phone

variable {phone : String} {before plus digits after : List Char}

theorem isSpace_of_isDigit {char : Char} (digit : char.isDigit = true) : isSpace char = false := by
  rw [Bool.eq_false_iff]
  intro space
  unfold isSpace at space
  rw [Bool.or_eq_true, decide_eq_true_eq, Bool.and_eq_true, decide_eq_true_eq,
    decide_eq_true_eq] at space
  rcases space with listed | ⟨low, _⟩
  · have none : (['\t', '\n', '\x0b', '\x0c', '\r', ' ', '\u0085', '\u00a0', '\u1680', '\u2028',
        '\u2029', '\u202f', '\u205f', '\u3000'].all (fun other => !other.isDigit)) = true := by
      decide
    have noDigit := List.all_eq_true.mp none char listed
    rw [digit] at noDigit
    cases noDigit
  · have large : 8192 ≤ char.toNat := UInt32.le_iff_toNat_le.mp low
    have small : char.toNat ≤ 57 := (Char.isDigit_iff_toNat.mp digit).2
    omega

theorem trimSpace_of_spaces {core : List Char} (leading : ∀ char ∈ before, isSpace char = true)
    (inside : ∀ char ∈ core, isSpace char = false)
    (trailing : ∀ char ∈ after, isSpace char = true) :
    trimSpace (before ++ (core ++ after)) = core := by
  have kept : ∀ text : List Char, (∀ char ∈ text, isSpace char = false) →
      text.dropWhile isSpace = text := by
    intro text none
    cases text with
    | nil => rfl
    | cons head tail => rw [List.dropWhile_cons_of_neg (by simp [none head List.mem_cons_self])]
  unfold trimSpace
  rw [List.dropWhile_append_of_pos leading]
  cases core with
  | nil =>
      have gone : after.dropWhile isSpace = [] := by
        rw [← List.append_nil after, List.dropWhile_append_of_pos trailing]
        rfl
      rw [List.nil_append, gone]
      rfl
  | cons head tail =>
      rw [List.cons_append, List.dropWhile_cons_of_neg (by simp [inside head List.mem_cons_self]),
        ← List.cons_append, List.reverse_append, List.dropWhile_append_of_pos, kept,
        List.reverse_reverse]
      · intro char member
        exact inside char (List.mem_reverse.mp member)
      · intro char member
        exact trailing char (List.mem_reverse.mp member)

theorem PhoneShape.formatE164 (number : PhoneShape phone before plus digits after) :
    formatE164 phone = if digits = [] then "" else "+" ++ String.ofList digits := by
  have trimmed : trimSpace phone.toList = plus ++ digits := by
    rw [number.shape]
    apply trimSpace_of_spaces number.before _ number.after
    intro char member
    rcases List.mem_append.mp member with inside | inside
    · rcases number.plus with none | ⟨sign, _⟩
      · rw [none] at inside
        cases inside
      · rw [sign] at inside
        rw [List.mem_singleton.mp inside]
        decide
    · exact isSpace_of_isDigit (number.digits char inside)
  have signed : "+" ++ String.ofList digits = String.ofList ('+' :: digits) := by
    apply String.toList_inj.mp
    rw [String.toList_append, String.toList_ofList, String.toList_ofList, String.toList_ofList]
    rfl
  unfold Go.formatE164
  rw [trimmed, signed]
  rcases number.plus with none | ⟨sign, nonempty⟩
  · rw [none, List.nil_append]
    cases digits with
    | nil => rfl
    | cons digit rest =>
        have unsigned : digit ≠ '+' := by
          intro same
          have isDigit := number.digits digit List.mem_cons_self
          rw [same] at isDigit
          cases isDigit
        rw [if_neg (List.cons_ne_nil _ _)]
        split
        · cases List.cons_ne_nil _ _ ‹_›
        · rename_i same
          exact absurd (List.cons.inj same).1 unsigned
        · rfl
  · rw [sign, if_neg nonempty]
    rfl

end Phone

section Updated

variable {runes : Runes} {telegram : Telegram} {cache : ContactCache} {user : User}

theorem resolve_name {name : String} (named : name ∈ user.names) :
    (cache.update runes (some user)).resolve runes (runes.toLower name) = some user.id := by
  apply resolve_eq_some.mpr
  left
  unfold ContactCache.update
  rw [addLocked_username, Runes.toLower_toLower, if_pos (List.mem_map_of_mem named)]

theorem resolve_number (noDigits : NoDigitNames cache user) {number : String}
    (digits : digitsOnly number = true) :
    (cache.update runes (some user)).resolve runes number =
      if user.phoneNumber ≠ "" ∧ number = user.phoneNumber then some user.id
      else cache.phoneToID number := by
  have unnamed : (cache.update runes (some user)).usernameToID (runes.toLower number) = none := by
    unfold ContactCache.update
    rw [addLocked_username, if_neg]
    · rw [Option.eq_none_iff_forall_ne_some]
      intro id known
      have wrong := noDigits.cached _ id known
      rw [digitsOnly_toLower, digits] at wrong
      cases wrong
    · intro member
      obtain ⟨name, named, same⟩ := List.mem_map.mp member
      have wrong := noDigits.own name named
      rw [← digitsOnly_toLower runes, same, digitsOnly_toLower, digits] at wrong
      cases wrong
  unfold ContactCache.resolve
  rw [unnamed]
  exact addLocked_phone runes cache user number

/-- The record has no number, or it is stored as its bare digits, which may
also be known from an earlier record of the same user. -/
def StoredBare (cache : ContactCache) (user : User) (digits : List Char) : Prop :=
  digits = [] ∨ user.phoneNumber = String.ofList digits ∨
    cache.phoneToID (String.ofList digits) = some user.id

section Number

variable {before plus digits after : List Char}

theorem phone_header_value (number : PhoneShape user.phoneNumber before plus digits after)
    {callID : Int} {value : String} :
    ("X-TG-Phone", value) ∈ buildUserHeaders callID user ↔
      digits ≠ [] ∧ value = "+" ++ String.ofList digits := by
  rw [phone_header_iff, number.formatE164]
  by_cases empty : digits = []
  · rw [if_pos empty]
    constructor
    · intro both
      exact absurd rfl both.2
    · intro both
      exact absurd empty both.1
  · rw [if_neg empty]
    have nonempty : "+" ++ String.ofList digits ≠ "" := by
      intro none
      have length := congrArg (fun text => text.toList.length) none
      simp at length
    exact ⟨fun both => ⟨empty, both.1⟩, fun both => ⟨both.2, nonempty⟩⟩

theorem reaches_number_iff (number : PhoneShape user.phoneNumber before plus digits after)
    (noDigits : NoDigitNames cache user) (nonempty : digits ≠ []) :
    Reaches runes telegram (cache.update runes (some user)) ("+" ++ String.ofList digits)
      user.id ↔ StoredBare cache user digits := by
  have isNumber : digitsOnly (String.ofList digits) = true := by
    unfold digitsOnly
    rw [String.toList_ofList, Bool.and_eq_true, Bool.not_eq_true', List.isEmpty_eq_false_iff]
    exact ⟨nonempty, List.all_eq_true.mpr number.digits⟩
  rw [reaches_plus_iff, resolve_number noDigits isNumber]
  unfold StoredBare
  rw [or_iff_right nonempty]
  by_cases same : String.ofList digits = user.phoneNumber
  · have named : user.phoneNumber ≠ "" := by
      rw [← same]
      intro empty
      exact nonempty (String.ofList_eq_empty_iff.mp empty)
    simp [same, named]
  · simp [same, Ne.symm same]

/-- The headers can be dialled back exactly when the number is stored bare. -/
theorem headers_dial_back_iff
    (number : PhoneShape user.phoneNumber before plus digits after)
    (noDigits : NoDigitNames cache user) (callID : Int) :
    DialsBack runes telegram (cache.update runes (some user)) callID user ↔
      StoredBare cache user digits := by
  constructor
  · intro dials
    by_cases empty : digits = []
    · exact .inl empty
    · have announced : ("X-TG-Phone", "+" ++ String.ofList digits) ∈
          buildUserHeaders callID user := (phone_header_value number).mpr ⟨empty, rfl⟩
      exact (reaches_number_iff number noDigits empty).mp (dials.phone _ announced)
  · intro stored
    constructor
    · intro value announced
      obtain ⟨rfl, nonempty⟩ := username_header_iff.mp announced
      exact reaches_tg_iff.mpr (resolve_name (getUsername_mem nonempty))
    · intro value announced
      obtain ⟨nonempty, rfl⟩ := (phone_header_value number).mp announced
      exact (reaches_number_iff number noDigits nonempty).mpr stored
    · intro value announced
      obtain ⟨nonempty, rfl⟩ := (phone_header_value number).mp announced
      exact header_reaches_iff.mpr ((reaches_number_iff number noDigits nonempty).mpr stored)

end Number

end Updated

theorem sampleBob_shape : PhoneShape sampleBob.phoneNumber [] [] ['1', '2', '3'] [] :=
  ⟨by decide, nofun, .inl rfl, List.all_eq_true.mp rfl, nofun⟩

theorem newContactCache_noDigitNames {user : User}
    (own : ∀ name ∈ user.names, digitsOnly name = false) : NoDigitNames newContactCache user :=
  ⟨nofun, own⟩

theorem headers_dial_back_to_bob :
    DialsBack .ascii (.single sampleBob) (newContactCache.update .ascii (some sampleBob)) 5
      sampleBob :=
  (headers_dial_back_iff sampleBob_shape (newContactCache_noDigitNames (by decide)) 5).mpr
    (.inr (.inl rfl))

/-- The number `+123` is announced as it is, and looked up as `123`. -/
theorem headers_do_not_dial_back :
    ¬ ∀ (runes : Runes) (telegram : Telegram) (cache : ContactCache) (user : User)
      (before plus digits after : List Char) (callID : Int),
      PhoneShape user.phoneNumber before plus digits after → NoDigitNames cache user →
        DialsBack runes telegram (cache.update runes (some user)) callID user := by
  intro always
  let user : User := { sampleBob with phoneNumber := "+123" }
  have shape : PhoneShape user.phoneNumber [] ['+'] ['1', '2', '3'] [] :=
    ⟨by decide, nofun, .inr ⟨rfl, by decide⟩, List.all_eq_true.mp rfl, nofun⟩
  have dials := always .ascii (.single sampleBob) newContactCache user [] ['+'] _ [] 5 shape
    (newContactCache_noDigitNames (by decide))
  have reaches := dials.phone "+123" (by decide)
  have silent := reaches.silent
  revert silent
  decide

end Tg2Sip.Go
