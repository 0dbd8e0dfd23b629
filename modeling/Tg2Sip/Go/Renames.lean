/-
Names that a user has given up.

`Update` adds the names of a record and deletes none, so that a name under
which the cache files a user outlives a record without it.  As long as every
record that is stored still has the names under which the cache files its
user, whatever the cache resolves is a name of the user's latest record.
-/

import Tg2Sip.Go.Contacts
import Tg2Sip.Lib.Run

namespace Tg2Sip.Go

inductive CacheCall where
  | set (users : List (Option User))
  | update (user : Option User)

def CacheCall.records : CacheCall → List User
  | .set users => users.filterMap id
  | .update user => user.toList

/-- The cache behind a call, and the records that it was given. -/
def ContactCache.call (runes : Runes) :
    LabelledMachine.Step ContactCache CacheCall User := fun cache call =>
  match call with
  | .set users => some (call.records, ContactCache.set runes users)
  | .update user => some (call.records, cache.update runes user)

def latest (records : List User) (id : Int) : Option User :=
  records.reverse.find? (fun user => user.id == id)

theorem latest_append (records : List User) (user : User) (id : Int) :
    latest (records ++ [user]) id = if user.id = id then some user else latest records id := by
  unfold latest
  rw [List.reverse_append, List.reverse_singleton, List.singleton_append, List.find?_cons]
  by_cases same : user.id = id
  · simp only [same, beq_self_eq_true, if_true]
  · rw [beq_eq_false_iff_ne.mpr same, if_neg same]

section Names

variable (runes : Runes)

/-- The record has the extension as a username, up to letter case, or as its
phone number. -/
def User.Has (user : User) (ext : String) : Prop :=
  runes.toLower ext ∈ user.names.map runes.toLower ∨ ext = user.phoneNumber

/-- Whatever resolves to a user is a name of the user's latest record. -/
def NoStaleName (records : List User) (cache : ContactCache) : Prop :=
  ∀ ext id, cache.resolve runes ext = some id →
    ∃ user, latest records id = some user ∧ user.Has runes ext

/-- The record has every name under which the cache files its user: the
usernames, and the phone numbers that are no username of anyone. -/
def User.Retains (user : User) (cache : ContactCache) : Prop :=
  ∀ ext, cache.usernameToID (runes.toLower ext) = some user.id ∨
      cache.usernameToID (runes.toLower ext) = none ∧ cache.phoneToID ext = some user.id →
    user.Has runes ext

/-- The records that are stored one after the other, each with the names under
which its user is filed by then. -/
def RetainsAll (cache : ContactCache) : List (Option User) → Prop
  | [] => True
  | none :: rest => RetainsAll cache rest
  | some user :: rest =>
      user.Retains runes cache ∧ RetainsAll (cache.addLocked runes (some user)) rest

def Retaining (transition : LabelledMachine.Transition ContactCache CacheCall User) : Prop :=
  match transition.label with
  | .set users => RetainsAll runes newContactCache users
  | .update user => RetainsAll runes transition.source [user]

end Names

section Store

variable {runes : Runes} {records : List User} {cache : ContactCache}

theorem resolve_addLocked {user : User} {ext : String} {id : Int}
    (resolved : (cache.addLocked runes (some user)).resolve runes ext = some id) :
    id = user.id ∧ user.Has runes ext ∨ cache.resolve runes ext = some id := by
  rw [resolve_eq_some, addLocked_username, addLocked_phone] at resolved
  rw [resolve_eq_some]
  by_cases named : runes.toLower ext ∈ user.names.map runes.toLower
  · rw [if_pos named] at resolved
    rcases resolved with same | ⟨none, _⟩
    · exact .inl ⟨(Option.some.inj same).symm, .inl named⟩
    · cases none
  · rw [if_neg named] at resolved
    rcases resolved with username | ⟨unnamed, phone⟩
    · exact .inr (.inl username)
    · split at phone
      · rename_i called
        exact .inl ⟨(Option.some.inj phone).symm, .inr called.2⟩
      · exact .inr (.inr ⟨unnamed, phone⟩)

theorem NoStaleName.add (fresh : NoStaleName runes records cache) {user : User}
    (retains : user.Retains runes cache) :
    NoStaleName runes (records ++ [user]) (cache.addLocked runes (some user)) := by
  intro ext id resolved
  rw [latest_append]
  rcases resolve_addLocked resolved with ⟨rfl, has⟩ | earlier
  · exact ⟨user, if_pos rfl, has⟩
  · by_cases same : user.id = id
    · subst same
      exact ⟨user, if_pos rfl, retains ext (resolve_eq_some.mp earlier)⟩
    · rw [if_neg same]
      exact fresh ext id earlier

theorem NoStaleName.addAll (fresh : NoStaleName runes records cache)
    {users : List (Option User)} (retained : RetainsAll runes cache users) :
    NoStaleName runes (records ++ users.filterMap id)
      (users.foldl (ContactCache.addLocked runes) cache) := by
  induction users generalizing records cache with
  | nil =>
      rw [List.filterMap_nil, List.append_nil]
      exact fresh
  | cons user rest ih =>
      cases user with
      | none => exact ih fresh retained
      | some user =>
          have later := ih (fresh.add retained.1) retained.2
          rw [List.append_assoc] at later
          exact later

theorem newContactCache_noStaleName (records : List User) :
    NoStaleName runes records newContactCache := by
  intro ext id resolved
  rcases resolve_eq_some.mp resolved with username | ⟨_, phone⟩
  · cases username
  · cases phone

theorem call_noStaleName {call : CacheCall} {given : List User} {target : ContactCache}
    (fresh : NoStaleName runes records cache)
    (called : cache.call runes call = some (given, target))
    (retaining : Retaining runes ⟨cache, call, given, target⟩) :
    NoStaleName runes (records ++ given) target := by
  cases call with
  | set users =>
      cases called
      exact (newContactCache_noStaleName records).addAll retaining
  | update user =>
      cases called
      have stored := fresh.addAll retaining
      rw [List.foldl_cons, List.foldl_nil] at stored
      cases user <;> exact stored

end Store

section Distinct

variable {runes : Runes}

theorem retainsAll_of_distinct {users : List (Option User)} {cache : ContactCache}
    (earlier : List Int) (filed : ∀ ext id, cache.resolve runes ext = some id → id ∈ earlier)
    (distinct : (earlier ++ (users.filterMap id).map User.id).Nodup) :
    RetainsAll runes cache users := by
  induction users generalizing cache earlier with
  | nil => trivial
  | cons user rest ih =>
      cases user with
      | none => exact ih earlier filed distinct
      | some user =>
          have shape : ((some user :: rest).filterMap id).map User.id =
              user.id :: (rest.filterMap id).map User.id := rfl
          rw [shape] at distinct
          have unfiled : user.id ∉ earlier := by
            intro member
            exact (List.disjoint_of_nodup_append distinct) member List.mem_cons_self
          constructor
          · intro ext resolved
            exact absurd (filed ext user.id (resolve_eq_some.mpr resolved)) unfiled
          · rw [List.append_cons] at distinct
            refine ih (earlier ++ [user.id]) ?_ distinct
            intro ext id resolved
            rcases resolve_addLocked resolved with ⟨rfl, _⟩ | before
            · exact List.mem_append_right _ (List.mem_singleton.mpr rfl)
            · exact List.mem_append_left _ (filed ext id before)

/-- A `Set` with one record for each user, as `Refresh` makes it. -/
theorem retainsAll_set {users : List (Option User)}
    (distinct : ((users.filterMap id).map User.id).Nodup) :
    RetainsAll runes newContactCache users := by
  apply retainsAll_of_distinct [] _ distinct
  intro ext id resolved
  obtain ⟨user, known, _⟩ := newContactCache_noStaleName [] ext id resolved
  cases known

end Distinct

theorem contactCache_noStaleName {runes : Runes}
    {taken : List (LabelledMachine.Transition ContactCache CacheCall User)} {cache : ContactCache}
    (run : LabelledMachine.Run (ContactCache.call runes) newContactCache taken cache)
    (retaining : ∀ transition ∈ taken, Retaining runes transition) :
    NoStaleName runes (LabelledMachine.history taken) cache := by
  apply LabelledMachine.Run.invariant _ _ run retaining
  · exact newContactCache_noStaleName _
  · intro taken source call given target _ fresh called allowed
    rw [LabelledMachine.history_append, LabelledMachine.history_cons,
      LabelledMachine.history_nil, List.append_nil]
    exact call_noStaleName fresh called allowed

def sampleNamed (names : List String) : User :=
  { id := 7, firstName := "Ann", lastName := "", usernames := some ("", names),
    phoneNumber := "" }

/-- A user who takes a second username. -/
theorem noStaleName_behind_second_name :
    ∃ taken cache, LabelledMachine.Run (ContactCache.call .ascii) newContactCache taken cache ∧
      (∀ transition ∈ taken, Retaining .ascii transition) ∧
      cache.resolve .ascii "Ann2" = some 7 ∧
      NoStaleName .ascii (LabelledMachine.history taken) cache := by
  have replayed : LabelledMachine.replay (ContactCache.call .ascii) newContactCache
      [.set [some (sampleNamed ["ann"])], .update (some (sampleNamed ["ann", "ann2"]))] =
        some (_, _) := rfl
  have run := LabelledMachine.Run.of_replay replayed
  have wider : (sampleNamed ["ann", "ann2"]).Retains .ascii
      (newContactCache.addLocked .ascii (some (sampleNamed ["ann"]))) := by
    intro ext filed
    rcases resolve_addLocked (resolve_eq_some.mpr filed) with ⟨_, named | phone⟩ | unfiled
    · obtain ⟨name, inside, same⟩ := List.mem_map.mp named
      have kept : name ∈ (sampleNamed ["ann", "ann2"]).names :=
        List.mem_cons.mpr (.inl (List.mem_singleton.mp inside))
      exact .inl (List.mem_map.mpr ⟨name, kept, same⟩)
    · exact .inr phone
    · obtain ⟨_, known, _⟩ := newContactCache_noStaleName [] ext _ unfiled
      cases known
  have setRetains : RetainsAll .ascii newContactCache [some (sampleNamed ["ann"])] :=
    retainsAll_set (by decide)
  have updateRetains : RetainsAll .ascii
      (newContactCache.addLocked .ascii (some (sampleNamed ["ann"])))
      [some (sampleNamed ["ann", "ann2"])] := ⟨wider, trivial⟩
  refine ⟨_, _, run, ?retaining, rfl, contactCache_noStaleName run ?retaining⟩
  exact List.forall_mem_cons.mpr ⟨setRetains, List.forall_mem_singleton.mpr updateRetains⟩

/-- No two users own a username or a phone number at the same time. -/
def Exclusive (runes : Runes) (records : List User) : Prop :=
  ∀ earlier, earlier <+: records → ∀ first second user other, first ≠ second →
    latest earlier first = some user → latest earlier second = some other →
    (∀ name ∈ user.names.map runes.toLower, name ∉ other.names.map runes.toLower) ∧
      (user.phoneNumber ≠ "" → user.phoneNumber ≠ other.phoneNumber)

theorem exclusive_of_single {runes : Runes} {records : List User} (id : Int)
    (single : ∀ user ∈ records, user.id = id) : Exclusive runes records := by
  have own {earlier : List User} (part : earlier <+: records) {key : Int} {user : User}
      (found : latest earlier key = some user) : key = id := by
    have member := List.mem_reverse.mp (List.mem_of_find?_eq_some found)
    have named := List.find?_some found
    rw [← eq_of_beq named]
    exact single user (part.subset member)
  intro earlier part first second user other different firstFound secondFound
  exact absurd ((own part firstFound).trans (own part secondFound).symm) different

/-- A user who takes another username keeps the old one in the cache. -/
theorem staleName_behind_rename :
    ¬∀ runes taken cache,
      LabelledMachine.Run (ContactCache.call runes) newContactCache taken cache →
      Exclusive runes (LabelledMachine.history taken) →
      NoStaleName runes (LabelledMachine.history taken) cache := by
  intro always
  have replayed : LabelledMachine.replay (ContactCache.call .ascii) newContactCache
      [.update (some (sampleNamed ["old"])), .update (some (sampleNamed ["new"]))] =
        some (_, _) := rfl
  have exclusive : Exclusive .ascii [sampleNamed ["old"], sampleNamed ["new"]] := by
    apply exclusive_of_single 7
    decide
  obtain ⟨user, known, has⟩ := always .ascii _ _ (LabelledMachine.Run.of_replay replayed) exclusive
    "old" 7 rfl
  cases known
  revert has
  unfold User.Has
  decide

end Tg2Sip.Go
