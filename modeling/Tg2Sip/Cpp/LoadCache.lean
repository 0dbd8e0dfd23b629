/-
`Gateway::load_cache`.

The contacts are asked for one by one and their answers are read in order.
An answer that is an error is skipped, but the first record without access
ends the loop, and with it the reading of everything behind it.
-/

import Tg2Sip.Cpp.Actions

namespace Tg2Sip.Cpp

def Object.users? : Object → Option (List Int)
  | .users userIds => some userIds
  | _ => none

/-- The two insertions for one record. -/
def Cache.add (cache : Cache) (user : User) : Cache :=
  { usernameCache :=
      if user.username.isEmpty then cache.usernameCache
      else FiniteMap.emplace cache.usernameCache user.username user.id
    phoneCache :=
      if user.phoneNumber.isEmpty then cache.phoneCache
      else FiniteMap.emplace cache.phoneCache user.phoneNumber user.id }

/-- The loop over the answers of `getUser`. -/
def loadReplies (cache : Cache) : List Object → Except Fault Cache
  | [] => .ok cache
  | reply :: rest =>
      match reply.error? with
      | some _ => loadReplies cache rest
      | none =>
          match reply.user? with
          | none => .error .wrongObject
          | some user =>
              if !user.haveAccess then .ok cache else loadReplies (cache.add user) rest

/-- `load_cache` with the answer of `searchContacts` and the answers of the
`getUser` requests, one for each id of the former. -/
def loadCache (search : Object) (replies : List Object) (cache : Cache) : Except Fault Cache :=
  match search.error? with
  | some _ => .ok cache
  | none =>
      match search.users? with
      | none => .error .wrongObject
      | some userIds => loadReplies cache (replies.take userIds.length)

def Object.accessible? : Object → Option User
  | .user record => if record.haveAccess then some record else none
  | _ => none

def Object.isInaccessible : Object → Bool
  | .user record => !record.haveAccess
  | _ => false

/-- The answers of the classes that TDLib documents for `getUser`. -/
def Object.isUserReply : Object → Bool
  | .user _ => true
  | .error _ => true
  | _ => false

/-- The accessible records up to the first inaccessible one. -/
def readUsers (replies : List Object) : List User :=
  (replies.takeWhile (fun reply => !reply.isInaccessible)).filterMap Object.accessible?

def unreadUsers (replies : List Object) : List User :=
  (replies.dropWhile (fun reply => !reply.isInaccessible)).filterMap Object.accessible?

theorem readUsers_append_unreadUsers (replies : List Object) :
    readUsers replies ++ unreadUsers replies = replies.filterMap Object.accessible? := by
  unfold readUsers unreadUsers
  rw [← List.filterMap_append, List.takeWhile_append_dropWhile]

theorem loadReplies_eq {replies : List Object}
    (documented : ∀ reply ∈ replies, reply.isUserReply = true) (cache : Cache) :
    loadReplies cache replies = .ok ((readUsers replies).foldl Cache.add cache) := by
  induction replies generalizing cache with
  | nil => rfl
  | cons reply rest ih =>
      have later := ih (fun later member => documented later (List.mem_cons_of_mem _ member))
      cases reply with
      | error error => exact later cache
      | user record =>
          cases access : record.haveAccess with
          | false =>
              simp [loadReplies, Object.error?, Object.user?, readUsers, Object.isInaccessible,
                access]
          | true =>
              have read : readUsers (.user record :: rest) = record :: readUsers rest := by
                simp [readUsers, Object.isInaccessible, Object.accessible?, access]
              simp only [loadReplies, Object.error?, Object.user?, access, Bool.not_true,
                Bool.false_eq_true, if_false, read, List.foldl_cons]
              exact later (cache.add record)
      | _ => cases documented _ List.mem_cons_self

section FirstWins

variable (key : User → String)

def firstId (users : List User) (name : String) : Option Int :=
  (users.find? (fun user => key user == name)).map User.id

theorem firstId_append (first second : List User) (name : String) :
    firstId key (first ++ second) name = (firstId key first name).or (firstId key second name) := by
  unfold firstId
  rw [List.find?_append]
  cases first.find? (fun user => key user == name) <;> rfl

theorem firstId_eq_none {users : List User} {name : String} :
    firstId key users name = none ↔ ∀ user ∈ users, key user ≠ name := by
  unfold firstId
  rw [Option.map_eq_none_iff, List.find?_eq_none]
  simp only [beq_iff_eq]

/-- Insertions that keep what is there, for the nonempty keys. -/
def insertFirst (map : FiniteMap.Map String Int) (user : User) : FiniteMap.Map String Int :=
  if (key user).isEmpty then map else FiniteMap.emplace map (key user) user.id

theorem insertFirst_eq (map : FiniteMap.Map String Int) (user : User) {name : String}
    (nonempty : name ≠ "") :
    insertFirst key map user name = (map name).or (firstId key [user] name) := by
  unfold insertFirst firstId
  by_cases same : key user = name
  · have named : (key user).isEmpty = false := by
      rw [Bool.eq_false_iff, ne_eq, String.isEmpty_iff, same]
      exact nonempty
    have found : [user].find? (fun other => key other == name) = some user := by
      simp only [List.find?_cons, same, beq_self_eq_true]
    rw [found, named, same]
    cases present : map name with
    | none => exact FiniteMap.emplace_absent _ present
    | some id => simp [FiniteMap.emplace, present]
  · have missing : [user].find? (fun other => key other == name) = none := by
      simp only [List.find?_cons, beq_eq_false_iff_ne.mpr same, List.find?_nil]
    rw [missing, Option.map_none, Option.or_none]
    split
    · rfl
    · exact FiniteMap.emplace_of_ne map _ (Ne.symm same)

theorem foldl_insertFirst (users : List User) (map : FiniteMap.Map String Int) {name : String}
    (nonempty : name ≠ "") :
    users.foldl (insertFirst key) map name = (map name).or (firstId key users name) := by
  induction users generalizing map with
  | nil => exact (Option.or_none).symm
  | cons user rest ih =>
      rw [List.foldl_cons, ih, insertFirst_eq key map user nonempty, Option.or_assoc,
        ← firstId_append]
      rfl

end FirstWins

theorem foldl_add (users : List User) (cache : Cache) :
    users.foldl Cache.add cache =
      { usernameCache := users.foldl (insertFirst User.username) cache.usernameCache
        phoneCache := users.foldl (insertFirst User.phoneNumber) cache.phoneCache } := by
  induction users generalizing cache with
  | nil => rfl
  | cons user rest ih => exact ih (cache.add user)

def emptyCache : Cache := ⟨FiniteMap.empty, FiniteMap.empty⟩

def MapComplete (key : User → String) (replies : List Object)
    (map : FiniteMap.Map String Int) : Prop :=
  ∀ name, name ≠ "" → ∀ id,
    map name = some id ↔ firstId key (replies.filterMap Object.accessible?) name = some id

def CacheComplete (replies : List Object) (cache : Cache) : Prop :=
  MapComplete User.username replies cache.usernameCache ∧
    MapComplete User.phoneNumber replies cache.phoneCache

/-- Every nonempty key behind the first inaccessible record was read before it. -/
def NothingLost (key : User → String) (replies : List Object) : Prop :=
  ∀ user ∈ unreadUsers replies, key user ≠ "" →
    ∃ earlier ∈ readUsers replies, key earlier = key user

theorem mapComplete_iff (key : User → String) (replies : List Object) :
    MapComplete key replies ((readUsers replies).foldl (insertFirst key) FiniteMap.empty) ↔
      NothingLost key replies := by
  have read {name : String} (nonempty : name ≠ "") :
      (readUsers replies).foldl (insertFirst key) FiniteMap.empty name =
        firstId key (readUsers replies) name :=
    (foldl_insertFirst key _ _ nonempty).trans (Option.none_or)
  unfold MapComplete NothingLost
  rw [← readUsers_append_unreadUsers]
  constructor
  · intro complete user member nonempty
    by_contra unread
    have missing : firstId key (readUsers replies) (key user) = none := by
      rw [firstId_eq_none]
      intro earlier early same
      exact unread ⟨earlier, early, same⟩
    have known : firstId key (unreadUsers replies) (key user) ≠ none := by
      rw [ne_eq, firstId_eq_none]
      intro absent
      exact absent user member rfl
    obtain ⟨id, found⟩ := Option.ne_none_iff_exists'.mp known
    have loaded := (complete (key user) nonempty id).mpr (by
      rw [firstId_append, missing, found]
      rfl)
    rw [read nonempty, missing] at loaded
    cases loaded
  · intro nothingLost name nonempty id
    rw [read nonempty, firstId_append]
    cases found : firstId key (readUsers replies) name with
    | some first => rfl
    | none =>
        have absent : firstId key (unreadUsers replies) name = none := by
          rw [firstId_eq_none]
          intro user member same
          obtain ⟨earlier, early, equal⟩ := nothingLost user member (same.trans_ne nonempty)
          exact (firstId_eq_none key).mp found earlier early (equal.trans same)
        rw [absent]
        rfl

/-- Loading is complete exactly when nothing new stands behind the first
record without access. -/
theorem loadCache_complete_iff {userIds : List Int} {replies : List Object}
    (answered : replies.length = userIds.length)
    (documented : ∀ reply ∈ replies, reply.isUserReply = true) :
    ∃ cache, loadCache (.users userIds) replies emptyCache = .ok cache ∧
      (CacheComplete replies cache ↔
        NothingLost User.username replies ∧ NothingLost User.phoneNumber replies) := by
  have loaded : loadCache (.users userIds) replies emptyCache =
      .ok ((readUsers replies).foldl Cache.add emptyCache) := by
    unfold loadCache
    simp only [Object.error?, Object.users?]
    rw [List.take_of_length_le (Nat.le_of_eq answered)]
    exact loadReplies_eq documented emptyCache
  refine ⟨_, loaded, ?_⟩
  rw [foldl_add]
  exact and_congr (mapComplete_iff User.username replies) (mapComplete_iff User.phoneNumber replies)

def User.sample (id : Int) (username : String) (haveAccess : Bool) : User :=
  { firstName := "", lastName := "", username := username, phoneNumber := "", id := id,
    haveAccess := haveAccess }

theorem loadCache_complete_behind_error :
    ∃ cache, loadCache (.users [1, 2]) [.error ⟨400, ""⟩, .user (.sample 2 "ada" true)]
        emptyCache = .ok cache ∧
      CacheComplete [.error ⟨400, ""⟩, .user (.sample 2 "ada" true)] cache := by
  have answered : [Object.error ⟨400, ""⟩, .user (.sample 2 "ada" true)].length =
      [(1 : Int), 2].length := rfl
  obtain ⟨cache, loaded, complete⟩ := loadCache_complete_iff answered (by decide)
  refine ⟨cache, loaded, complete.mpr ⟨?_, ?_⟩⟩
  · exact List.forall_mem_nil _
  · exact List.forall_mem_nil _

/-- The record of user 1 cannot be accessed, and user 2 is not loaded. -/
theorem inaccessible_record_hides_rest :
    ¬∀ userIds replies cache, replies.length = userIds.length →
      (∀ reply ∈ replies, reply.isUserReply = true) →
      loadCache (.users userIds) replies emptyCache = .ok cache → CacheComplete replies cache := by
  intro always
  have complete := always [1, 2] [.user (.sample 1 "bob" false), .user (.sample 2 "ada" true)]
    emptyCache rfl (by decide) rfl
  have found := (complete.1 "ada" (by decide) 2).mpr rfl
  cases found

end Tg2Sip.Cpp
