/-
The order of the records in a refresh.

`Refresh` hands the records to `Set` in the random order of a Go map.  `Set`
writes one pair for each name of each record into its two maps, so that the
order is forgotten as soon as no name has two owners.
-/

import Tg2Sip.Go.Contacts

namespace Tg2Sip.Go

variable {runes : Runes} {users : List (Option User)}

def User.HasName (runes : Runes) (user : User) (ext : String) : Prop :=
  ∃ name ∈ user.names, runes.toLower name = runes.toLower ext

instance (runes : Runes) (user : User) (ext : String) : Decidable (user.HasName runes ext) :=
  inferInstanceAs (Decidable (∃ name ∈ user.names, runes.toLower name = runes.toLower ext))

/-- No username, up to letter case, and no phone number has two owners. -/
structure OneOwner (runes : Runes) (users : List (Option User)) : Prop where
  usernames : ∀ first second, some first ∈ users → some second ∈ users →
    ∀ name ∈ first.names, second.HasName runes name → first.id = second.id
  phones : ∀ first second, some first ∈ users → some second ∈ users →
    first.phoneNumber ≠ "" → first.phoneNumber = second.phoneNumber → first.id = second.id

def usernameEntries (runes : Runes) : Option User → List (String × Int)
  | none => []
  | some user => user.names.map (fun name => (runes.toLower name, user.id))

def phoneEntries : Option User → List (String × Int)
  | none => []
  | some user => if user.phoneNumber = "" then [] else [(user.phoneNumber, user.id)]

theorem addLocked_eq (cache : ContactCache) (user : Option User) :
    cache.addLocked runes user =
      { usernameToID := FiniteMap.insertAll cache.usernameToID (usernameEntries runes user)
        phoneToID := FiniteMap.insertAll cache.phoneToID (phoneEntries user) } := by
  cases user with
  | none => rfl
  | some user =>
      have names : insertNames runes user.id user.names cache.usernameToID =
          FiniteMap.insertAll cache.usernameToID (usernameEntries runes (some user)) := by
        unfold insertNames usernameEntries FiniteMap.insertAll
        rw [List.foldl_map]
      unfold ContactCache.addLocked
      dsimp only
      rw [names]
      by_cases nameless : user.phoneNumber = ""
      · rw [phoneEntries, if_pos nameless, if_pos nameless]
        rfl
      · rw [phoneEntries, if_neg nameless, if_neg nameless]
        rfl

theorem set_eq (users : List (Option User)) :
    ContactCache.set runes users =
      { usernameToID :=
          FiniteMap.insertAll FiniteMap.empty (users.flatMap (usernameEntries runes))
        phoneToID := FiniteMap.insertAll FiniteMap.empty (users.flatMap phoneEntries) } := by
  have folded : ∀ (rest : List (Option User)) (cache : ContactCache),
      rest.foldl (ContactCache.addLocked runes) cache =
        { usernameToID :=
            FiniteMap.insertAll cache.usernameToID (rest.flatMap (usernameEntries runes))
          phoneToID := FiniteMap.insertAll cache.phoneToID (rest.flatMap phoneEntries) } := by
    intro rest
    induction rest with
    | nil => exact fun cache => rfl
    | cons user rest ih =>
        intro cache
        rw [List.foldl_cons, ih, addLocked_eq, List.flatMap_cons, List.flatMap_cons,
          FiniteMap.insertAll_append, FiniteMap.insertAll_append]
  exact folded users newContactCache

theorem mem_usernameEntries {key : String} {id : Int} :
    (key, id) ∈ users.flatMap (usernameEntries runes) ↔
      ∃ user, some user ∈ users ∧ user.id = id ∧ ∃ name ∈ user.names, runes.toLower name = key := by
  rw [List.mem_flatMap]
  constructor
  · intro owned
    obtain ⟨record, member, inside⟩ := owned
    cases record with
    | none => cases inside
    | some user =>
        obtain ⟨name, named, same⟩ := List.mem_map.mp inside
        cases same
        exact ⟨user, member, rfl, name, named, rfl⟩
  · intro owned
    obtain ⟨user, member, rfl, name, named, rfl⟩ := owned
    exact ⟨some user, member, List.mem_map.mpr ⟨name, named, rfl⟩⟩

theorem mem_phoneEntries {key : String} {id : Int} :
    (key, id) ∈ users.flatMap phoneEntries ↔
      ∃ user, some user ∈ users ∧ user.id = id ∧ user.phoneNumber ≠ "" ∧
        user.phoneNumber = key := by
  rw [List.mem_flatMap]
  constructor
  · intro owned
    obtain ⟨record, member, inside⟩ := owned
    cases record with
    | none => cases inside
    | some user =>
        by_cases nameless : user.phoneNumber = ""
        · rw [phoneEntries, if_pos nameless] at inside
          cases inside
        · rw [phoneEntries, if_neg nameless] at inside
          cases List.mem_singleton.mp inside
          exact ⟨user, member, rfl, nameless, rfl⟩
  · intro owned
    obtain ⟨user, member, rfl, nonempty, rfl⟩ := owned
    refine ⟨some user, member, ?_⟩
    rw [phoneEntries, if_neg nonempty]
    exact List.mem_singleton.mpr rfl

theorem OneOwner.usernames_functional (owner : OneOwner runes users) :
    FiniteMap.Functional (users.flatMap (usernameEntries runes)) := by
  intro key first second firstIn secondIn
  obtain ⟨one, oneIn, rfl, name, named, rfl⟩ := mem_usernameEntries.mp firstIn
  obtain ⟨two, twoIn, rfl, other, otherNamed, same⟩ := mem_usernameEntries.mp secondIn
  exact owner.usernames one two oneIn twoIn name named ⟨other, otherNamed, same⟩

theorem OneOwner.phones_functional (owner : OneOwner runes users) :
    FiniteMap.Functional (users.flatMap phoneEntries) := by
  intro key first second firstIn secondIn
  obtain ⟨one, oneIn, rfl, nonempty, rfl⟩ := mem_phoneEntries.mp firstIn
  obtain ⟨two, twoIn, rfl, _, same⟩ := mem_phoneEntries.mp secondIn
  exact owner.phones one two oneIn twoIn nonempty same.symm

theorem set_perm (owner : OneOwner runes users) {permuted : List (Option User)}
    (perm : users.Perm permuted) :
    ContactCache.set runes permuted = ContactCache.set runes users := by
  rw [set_eq, set_eq,
    FiniteMap.insertAll_perm owner.usernames_functional (perm.flatMap_right _),
    FiniteMap.insertAll_perm owner.phones_functional (perm.flatMap_right _)]

theorem set_username_eq_some (owner : OneOwner runes users) {ext : String} {id : Int} :
    (ContactCache.set runes users).usernameToID (runes.toLower ext) = some id ↔
      ∃ user, some user ∈ users ∧ user.id = id ∧ user.HasName runes ext := by
  rw [set_eq, FiniteMap.insertAll_eq_some owner.usernames_functional, mem_usernameEntries]
  rfl

theorem set_phone_eq_some (owner : OneOwner runes users) {ext : String} {id : Int} :
    (ContactCache.set runes users).phoneToID ext = some id ↔
      ∃ user, some user ∈ users ∧ user.id = id ∧ user.phoneNumber ≠ "" ∧
        user.phoneNumber = ext := by
  rw [set_eq, FiniteMap.insertAll_eq_some owner.phones_functional, mem_phoneEntries]

theorem set_username_eq_none (owner : OneOwner runes users) {ext : String} :
    (ContactCache.set runes users).usernameToID (runes.toLower ext) = none ↔
      ¬∃ user, some user ∈ users ∧ user.HasName runes ext := by
  rw [Option.eq_none_iff_forall_ne_some]
  constructor
  · intro nothing owned
    obtain ⟨user, member, named⟩ := owned
    exact nothing user.id ((set_username_eq_some owner).mpr ⟨user, member, rfl, named⟩)
  · intro nobody id found
    obtain ⟨user, member, _, named⟩ := (set_username_eq_some owner).mp found
    exact nobody ⟨user, member, named⟩

/-- `Set` forgets the order of the records, and `Resolve` finds exactly their
owners. -/
theorem set_order_irrelevant (owner : OneOwner runes users) :
    (∀ permuted, users.Perm permuted → ∀ ext,
      (ContactCache.set runes permuted).resolve runes ext =
        (ContactCache.set runes users).resolve runes ext) ∧
    ∀ ext id, (ContactCache.set runes users).resolve runes ext = some id ↔
      (∃ user, some user ∈ users ∧ user.id = id ∧ user.HasName runes ext) ∨
      (¬∃ user, some user ∈ users ∧ user.HasName runes ext) ∧
        ∃ user, some user ∈ users ∧ user.id = id ∧ user.phoneNumber ≠ "" ∧
          user.phoneNumber = ext := by
  constructor
  · intro permuted perm ext
    rw [set_perm owner perm]
  · intro ext id
    rw [resolve_eq_some, set_username_eq_some owner, set_username_eq_none owner,
      set_phone_eq_some owner]

def sampleAnn : User :=
  { id := 8, firstName := "Ann", lastName := "", usernames := some ("", ["Ann", "annie"]),
    phoneNumber := "124" }

/-- Two records and a nil one; the extension is an active username of the second. -/
theorem set_order_irrelevant_for_two :
    (ContactCache.set .ascii [some sampleAnn, none, some sampleBob]).resolve .ascii "ANNIE" =
      (ContactCache.set .ascii [none, some sampleBob, some sampleAnn]).resolve .ascii "ANNIE" ∧
    (ContactCache.set .ascii [none, some sampleBob, some sampleAnn]).resolve .ascii "ANNIE" =
      some 8 := by
  have owner : OneOwner .ascii [none, some sampleBob, some sampleAnn] := by
    constructor
    · intro first second firstIn secondIn name named
      simp only [List.mem_cons, Option.some.injEq, reduceCtorEq, List.not_mem_nil, or_false,
        false_or] at firstIn secondIn
      rcases firstIn with rfl | rfl <;> rcases secondIn with rfl | rfl <;>
        revert name <;> decide
    · intro first second firstIn secondIn
      simp only [List.mem_cons, Option.some.injEq, reduceCtorEq, List.not_mem_nil, or_false,
        false_or] at firstIn secondIn
      rcases firstIn with rfl | rfl <;> rcases secondIn with rfl | rfl <;> decide
  have result := set_order_irrelevant owner
  constructor
  · apply result.1
    decide
  · apply (result.2 "ANNIE" 8).mpr
    exact .inl ⟨sampleAnn, by decide, rfl, "annie", by decide, by decide⟩

end Tg2Sip.Go
