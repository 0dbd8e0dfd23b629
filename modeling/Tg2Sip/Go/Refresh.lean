/-
`Refresh` beside `Update`.

A `Refresh` reads the ids of the contacts, then one record after the other,
and stores what it has read in one `Set`, without the lock in between.  The
records that Telegram has may change at any time, and an `Update` stores the
newest record of its user.  A `Set` undoes an `Update` whose record is newer
than the one that was read; without such a `Set`, the names of the newest
record lead to its user.
-/

import Tg2Sip.Go.Contacts
import Tg2Sip.Lib.Run

namespace Tg2Sip.Go

/-- Two records share neither a username, up to letter case, nor a phone number. -/
def User.Apart (runes : Runes) (user other : User) : Prop :=
  (∀ key ∈ user.names.map runes.toLower, key ∉ other.names.map runes.toLower) ∧
    (user.phoneNumber ≠ "" → user.phoneNumber ≠ other.phoneNumber)

def User.Formed (user : User) : Prop :=
  (∀ name ∈ user.names, digitsOnly name = false) ∧
    (user.phoneNumber ≠ "" → digitsOnly user.phoneNumber = true)

structure Records (runes : Runes) where
  contacts : List Int
  newest : Int → Option User
  own : ∀ {id user}, newest id = some user → user.id = id
  apart : ∀ {first second user other}, newest first = some user →
    newest second = some other → first ≠ second → user.Apart runes other
  formed : ∀ {id user}, newest id = some user → user.Formed

/-- The position of a `Refresh`: the ids that it has still to read and the
records that it has read. -/
inductive Refresh where
  | started
  | reading (remaining : List Int) (users : List User)
  | finished

structure Contacts (runes : Runes) where
  telegram : Records runes
  cache : ContactCache
  refreshes : List Refresh

/-- `change` lets Telegram's records change, `update` is an `Update` of the
event loop or of `SearchAndAdd`, and the other labels are the steps of a
`Refresh`; the ids of the contacts come in the order in which the map is
iterated. -/
inductive ContactsLabel (runes : Runes) where
  | change (records : Records runes)
  | update (id : Int)
  | refresh
  | readIDs (index : Nat) (ids : Except TgError (List Int))
  | readUser (index : Nat) (answered : Bool)
  | set (index : Nat)

def ContactsLabel.isSet {runes : Runes} : ContactsLabel runes → Bool
  | .set _ => true
  | _ => false

def Contacts.step (runes : Runes) :
    LabelledMachine.Step (Contacts runes) (ContactsLabel runes) User := fun contacts label =>
  match label with
  | .change records => some ([], { contacts with telegram := records })
  | .update id =>
      some ((contacts.telegram.newest id).toList,
        { contacts with cache := contacts.cache.update runes (contacts.telegram.newest id) })
  | .refresh => some ([], { contacts with refreshes := contacts.refreshes ++ [Refresh.started] })
  | .readIDs index answer =>
      match contacts.refreshes[index]?, answer with
      | some .started, .error _ =>
          some ([], { contacts with refreshes := contacts.refreshes.set index .finished })
      | some .started, .ok ids =>
          if ids.Perm contacts.telegram.contacts then
            some ([], { contacts with refreshes := contacts.refreshes.set index (.reading ids []) })
          else none
      | _, _ => none
  | .readUser index answered =>
      match contacts.refreshes[index]? with
      | some (.reading (id :: rest) users) =>
          let read := if answered then (contacts.telegram.newest id).toList else []
          some ([],
            { contacts with
              refreshes := contacts.refreshes.set index (.reading rest (users ++ read)) })
      | _ => none
  | .set index =>
      match contacts.refreshes[index]? with
      | some (.reading [] users) =>
          some (users,
            { contacts with
              cache := ContactCache.set runes (users.map some)
              refreshes := contacts.refreshes.set index .finished })
      | _ => none

def Contacts.initial {runes : Runes} (records : Records runes) : Contacts runes :=
  ⟨records, newContactCache, []⟩

abbrev ContactsTransition (runes : Runes) :=
  LabelledMachine.Transition (Contacts runes) (ContactsLabel runes) User

section Property

variable {runes : Runes}

def Tells (contact : Int) (transition : ContactsTransition runes) : Prop :=
  ∃ user ∈ transition.output, transition.source.telegram.newest contact = some user

/-- The transition changes neither the record of the user nor makes the user a
contact. -/
def Leaves (contact : Int) (transition : ContactsTransition runes) : Prop :=
  transition.source.telegram.newest contact = transition.target.telegram.newest contact ∧
    (contact ∈ transition.target.telegram.contacts →
      contact ∈ transition.source.telegram.contacts)

def Told (contact : Int) (taken : List (ContactsTransition runes)) : Prop :=
  ∃ before told after, taken = before ++ told :: after ∧ Tells contact told ∧
    ∀ later ∈ after, Leaves contact later

def NeverFailed (contact : Int) (taken : List (ContactsTransition runes)) : Prop :=
  ∀ transition ∈ taken, ∀ index rest users, transition.label = .readUser index false →
    transition.source.refreshes[index]? ≠ some (.reading (contact :: rest) users)

def Contacts.Resolves (contacts : Contacts runes) (contact : Int) : Prop :=
  ∀ user, contacts.telegram.newest contact = some user →
    (∀ name ∈ user.names, contacts.cache.resolve runes name = some contact) ∧
      (user.phoneNumber ≠ "" →
        contacts.cache.resolve runes user.phoneNumber = some contact)

/-- A `Set` stores the newest record of every contact of which the cache was
given that record, and beside the newest record of a contact no record of
another one that carries one of its names. -/
def UndoesNothing (before : List (ContactsTransition runes))
    (transition : ContactsTransition runes) : Prop :=
  ∀ index, transition.label = .set index →
    ∀ contact ∈ transition.source.telegram.contacts, NeverFailed contact before →
      ∀ user, transition.source.telegram.newest contact = some user →
        (Told contact before → user ∈ transition.output) ∧
          (user ∈ transition.output →
            ∀ other ∈ transition.output, other.id ≠ contact → user.Apart runes other)

end Property

section Files

variable {runes : Runes} {cache : ContactCache} {user other : User}

variable (runes) in
def ContactCache.Files (cache : ContactCache) (user : User) : Prop :=
  (∀ key ∈ user.names.map runes.toLower, cache.usernameToID key = some user.id) ∧
    (user.phoneNumber ≠ "" → cache.phoneToID user.phoneNumber = some user.id)

theorem files_addLocked_self (cache : ContactCache) (user : User) :
    (cache.addLocked runes (some user)).Files runes user := by
  constructor
  · intro key named
    rw [addLocked_username, if_pos named]
  · intro called
    rw [addLocked_phone, if_pos ⟨called, rfl⟩]

theorem ContactCache.Files.addLocked (files : cache.Files runes user)
    (harmless : other.id ≠ user.id → user.Apart runes other) :
    (cache.addLocked runes (some other)).Files runes user := by
  constructor
  · intro key named
    rw [addLocked_username]
    by_cases taken : key ∈ other.names.map runes.toLower
    · have same : other.id = user.id := by
        by_contra different
        exact (harmless different).1 key named taken
      rw [if_pos taken, same]
    · rw [if_neg taken]
      exact files.1 key named
  · intro called
    rw [addLocked_phone]
    by_cases taken : other.phoneNumber ≠ "" ∧ user.phoneNumber = other.phoneNumber
    · have same : other.id = user.id := by
        by_contra different
        exact (harmless different).2 called taken.2
      rw [if_pos taken, same]
    · rw [if_neg taken]
      exact files.2 called

theorem files_foldl {users : List User}
    (harmless : ∀ other ∈ users, other.id ≠ user.id → user.Apart runes other)
    (stored : cache.Files runes user ∨ user ∈ users) :
    ((users.map some).foldl (ContactCache.addLocked runes) cache).Files runes user := by
  induction users generalizing cache with
  | nil =>
      rcases stored with files | member
      · exact files
      · cases member
  | cons first rest ih =>
      have later := fun other member => harmless other (List.mem_cons_of_mem first member)
      rw [List.map_cons, List.foldl_cons]
      rcases stored with files | member
      · exact ih later (.inl (files.addLocked (harmless first List.mem_cons_self)))
      · rcases List.mem_cons.mp member with rfl | behind
        · exact ih later (.inl (files_addLocked_self cache user))
        · exact ih later (.inr behind)

def ContactCache.Lettered (cache : ContactCache) : Prop :=
  ∀ key id, cache.usernameToID key = some id → digitsOnly key = false

theorem newContactCache_lettered : newContactCache.Lettered := nofun

theorem ContactCache.Lettered.addLocked (lettered : cache.Lettered) (formed : user.Formed) :
    (cache.addLocked runes (some user)).Lettered := by
  intro key id present
  rw [addLocked_username] at present
  split at present
  · rename_i named
    obtain ⟨name, inside, rfl⟩ := List.mem_map.mp named
    rw [digitsOnly_toLower]
    exact formed.1 name inside
  · exact lettered key id present

theorem ContactCache.Lettered.foldl {users : List User} (lettered : cache.Lettered)
    (formed : ∀ user ∈ users, user.Formed) :
    ((users.map some).foldl (ContactCache.addLocked runes) cache).Lettered := by
  induction users generalizing cache with
  | nil => exact lettered
  | cons first rest ih =>
      exact ih (lettered.addLocked (formed first List.mem_cons_self))
        (fun user member => formed user (List.mem_cons_of_mem first member))

theorem ContactCache.Files.resolves (files : cache.Files runes user) (lettered : cache.Lettered)
    (formed : user.Formed) :
    (∀ name ∈ user.names, cache.resolve runes name = some user.id) ∧
      (user.phoneNumber ≠ "" → cache.resolve runes user.phoneNumber = some user.id) := by
  constructor
  · intro name inside
    exact resolve_eq_some.mpr (.inl (files.1 _ (List.mem_map_of_mem inside)))
  · intro called
    have unnamed : cache.usernameToID (runes.toLower user.phoneNumber) = none := by
      by_contra present
      obtain ⟨id, found⟩ := Option.ne_none_iff_exists'.mp present
      have letters := lettered _ id found
      rw [digitsOnly_toLower, formed.2 called] at letters
      cases letters
    exact resolve_eq_some.mpr (.inr ⟨unnamed, files.2 called⟩)

end Files

/-! ### Steps -/

section Steps

variable {runes : Runes} {taken : List (ContactsTransition runes)} {source target : Contacts runes}
  {label : ContactsLabel runes} {output : List User}

structure Contacts.WellRead (contacts : Contacts runes) : Prop where
  lettered : contacts.cache.Lettered
  formed : ∀ remaining users, .reading remaining users ∈ contacts.refreshes →
    ∀ user ∈ users, user.Formed

inductive ContactsStepped (source : Contacts runes) :
    ContactsLabel runes → List User → Contacts runes → Prop where
  | changed {records : Records runes} :
      ContactsStepped source (.change records) [] { source with telegram := records }
  | updated {id : Int} {user : User} : source.telegram.newest id = some user →
      ContactsStepped source (.update id) [user]
        { source with cache := source.cache.addLocked runes (some user) }
  | unknown {id : Int} : source.telegram.newest id = none →
      ContactsStepped source (.update id) [] source
  | read {label : ContactsLabel runes} {refreshes : List Refresh} :
      (∀ index, label ≠ .set index) →
      (source.WellRead → ∀ remaining users, .reading remaining users ∈ refreshes →
        ∀ user ∈ users, user.Formed) →
      ContactsStepped source label [] { source with refreshes := refreshes }
  | set {index : Nat} {users : List User} :
      source.refreshes[index]? = some (.reading [] users) →
      ContactsStepped source (.set index) users
        { source with
          cache := (users.map some).foldl (ContactCache.addLocked runes) newContactCache
          refreshes := source.refreshes.set index .finished }

theorem formed_set {refreshes : List Refresh} {index : Nat} {next : Refresh}
    (formed : ∀ remaining users, .reading remaining users ∈ refreshes →
      ∀ user ∈ users, user.Formed)
    (nextFormed : ∀ remaining users, next = .reading remaining users →
      ∀ user ∈ users, user.Formed) :
    ∀ remaining users, .reading remaining users ∈ refreshes.set index next →
      ∀ user ∈ users, user.Formed := by
  intro remaining users member
  rcases List.mem_or_eq_of_mem_set member with earlier | same
  · exact formed remaining users earlier
  · exact nextFormed remaining users same.symm

theorem contacts_stepped (fired : source.step runes label = some (output, target)) :
    ContactsStepped source label output target := by
  cases label with
  | change records =>
      cases fired
      exact .changed
  | update id =>
      simp only [Contacts.step] at fired
      cases known : source.telegram.newest id with
      | none =>
          rw [known] at fired
          cases fired
          exact .unknown known
      | some user =>
          rw [known] at fired
          cases fired
          exact .updated known
  | refresh =>
      cases fired
      refine .read nofun (fun wellRead remaining users member => ?_)
      rcases List.mem_append.mp member with earlier | last
      · exact wellRead.formed remaining users earlier
      · cases List.mem_singleton.mp last
  | readIDs index answer =>
      simp only [Contacts.step] at fired
      split at fired
      · cases fired
        exact .read nofun (fun wellRead => formed_set wellRead.formed nofun)
      · split at fired
        · cases fired
          refine .read nofun (fun wellRead => formed_set wellRead.formed ?_)
          rintro _ _ ⟨rfl⟩ user member
          cases member
        · cases fired
      · cases fired
  | readUser index answered =>
      simp only [Contacts.step] at fired
      split at fired
      · rename_i id rest users position
        cases fired
        refine .read nofun (fun wellRead => formed_set wellRead.formed ?_)
        rintro _ _ ⟨rfl⟩ user member
        rcases List.mem_append.mp member with earlier | last
        · exact wellRead.formed _ _ (List.mem_of_getElem? position) user earlier
        · split at last
          · exact source.telegram.formed (Option.mem_toList.mp last)
          · cases last
      · cases fired
  | set index =>
      simp only [Contacts.step] at fired
      split at fired
      · cases fired
        exact .set ‹_›
      · cases fired

theorem ContactsStepped.wellRead (stepped : ContactsStepped source label output target)
    (wellRead : source.WellRead) : target.WellRead := by
  cases stepped with
  | changed => exact ⟨wellRead.lettered, wellRead.formed⟩
  | updated newest =>
      exact ⟨wellRead.lettered.addLocked (source.telegram.formed newest), wellRead.formed⟩
  | unknown _ => exact wellRead
  | read _ formed => exact ⟨wellRead.lettered, formed wellRead⟩
  | set position =>
      have usersFormed := wellRead.formed _ _ (List.mem_of_getElem? position)
      exact ⟨newContactCache_lettered.foldl usersFormed, formed_set wellRead.formed nofun⟩

end Steps

section Runs

variable {runes : Runes} {taken : List (ContactsTransition runes)} {state : Contacts runes}

theorem told_snoc {contact : Int} {transition : ContactsTransition runes}
    (told : Told contact (taken ++ [transition])) :
    Tells contact transition ∨ Told contact taken ∧ Leaves contact transition := by
  obtain ⟨before, telling, after, shape, tells, left⟩ := told
  rcases List.eq_nil_or_concat after with rfl | ⟨rest, last, rfl⟩
  · obtain ⟨rfl, same⟩ := List.append_inj' shape rfl
    cases same
    exact .inl tells
  · rw [List.concat_eq_append, ← List.cons_append, ← List.append_assoc] at shape
    obtain ⟨rfl, same⟩ := List.append_inj' shape rfl
    cases same
    rw [List.concat_eq_append, List.forall_mem_append] at left
    exact .inr ⟨⟨before, telling, rest, rfl, tells, left.1⟩,
      left.2 transition (List.mem_singleton.mpr rfl)⟩

theorem NeverFailed.earlier {contact : Int} {later : List (ContactsTransition runes)}
    (never : NeverFailed contact (taken ++ later)) : NeverFailed contact taken :=
  fun transition member => never transition (List.mem_append_left later member)

/-- The cache files every contact under the names of the newest record that it
was given. -/
def UpToDate (taken : List (ContactsTransition runes)) (state : Contacts runes) : Prop :=
  ∀ contact ∈ state.telegram.contacts, NeverFailed contact taken → Told contact taken →
    ∀ user, state.telegram.newest contact = some user → state.cache.Files runes user

theorem UpToDate.silent {source target : Contacts runes} {label : ContactsLabel runes}
    (upToDate : UpToDate taken source) (sameCache : target.cache = source.cache) :
    UpToDate (taken ++ [⟨source, label, [], target⟩]) target := by
  intro contact isContact never told user newest
  rcases told_snoc told with ⟨_, member, _⟩ | ⟨toldBefore, sameRecord, wasContact⟩
  · cases member
  · rw [sameCache]
    exact upToDate contact (wasContact isContact) never.earlier toldBefore user
      (sameRecord.trans newest)

theorem UpToDate.step {source target : Contacts runes} {label : ContactsLabel runes}
    {output : List User} (upToDate : UpToDate taken source)
    (stepped : ContactsStepped source label output target)
    (undoesNothing : UndoesNothing taken ⟨source, label, output, target⟩) :
    UpToDate (taken ++ [⟨source, label, output, target⟩]) target := by
  cases stepped with
  | changed => exact upToDate.silent rfl
  | unknown _ => exact upToDate.silent rfl
  | read _ _ => exact upToDate.silent rfl
  | @updated id stored known =>
      intro contact isContact never told user newest
      by_cases same : id = contact
      · subst same
        cases known.symm.trans newest
        exact files_addLocked_self source.cache stored
      · rcases told_snoc told with ⟨given, member, givenNewest⟩ | ⟨toldBefore, _⟩
        · cases List.mem_singleton.mp member
          have sameId := (source.telegram.own known).symm.trans (source.telegram.own givenNewest)
          exact absurd sameId same
        · have files := upToDate contact isContact never.earlier toldBefore user newest
          exact files.addLocked
            (fun _ => source.telegram.apart newest known (fun equal => same equal.symm))
  | @set index _ position =>
      intro contact isContact never told user newest
      obtain ⟨stores, keepsApart⟩ :=
        undoesNothing index rfl contact isContact never.earlier user newest
      have stored : user ∈ output := by
        rcases told_snoc told with ⟨given, member, givenNewest⟩ | ⟨toldBefore, _⟩
        · cases newest.symm.trans givenNewest
          exact member
        · exact stores toldBefore
      apply files_foldl _ (.inr stored)
      intro other member different
      rw [source.telegram.own newest] at different
      exact keepsApart stored other member different

/-- As long as no `Set` undoes anything, every contact of which the cache was
given the newest record is found under all its names. -/
theorem refresh_loses_no_update {records : Records runes}
    (run : LabelledMachine.Run (Contacts.step runes) (Contacts.initial records) taken state)
    (undoesNothing : LabelledMachine.AdmittedAlong UndoesNothing taken) :
    ∀ contact ∈ state.telegram.contacts, NeverFailed contact taken → Told contact taken →
      state.Resolves contact := by
  have invariant : state.WellRead ∧ UpToDate taken state := by
    apply LabelledMachine.Run.invariantAlong _ _ run undoesNothing
    · refine ⟨⟨newContactCache_lettered, nofun⟩, ?_⟩
      intro contact _ _ told
      obtain ⟨before, telling, after, shape, _⟩ := told
      cases List.append_ne_nil_of_right_ne_nil before (List.cons_ne_nil _ _) shape.symm
    · intro taken source label output target _ ⟨wellRead, upToDate⟩ fired admitted
      have stepped := contacts_stepped fired
      exact ⟨stepped.wellRead wellRead, upToDate.step stepped admitted⟩
  obtain ⟨wellRead, upToDate⟩ := invariant
  intro contact isContact never told user newest
  have files := upToDate contact isContact never told user newest
  have resolves := files.resolves wellRead.lettered (state.telegram.formed newest)
  rw [state.telegram.own newest] at resolves
  exact resolves

/-- When it stores its records, a `Refresh` has the newest ones of all contacts
and no others. -/
def StoresNewest (transition : ContactsTransition runes) : Prop :=
  transition.label.isSet = true →
    transition.output.Perm
      (transition.source.telegram.contacts.filterMap transition.source.telegram.newest)

instance (transition : ContactsTransition runes) : Decidable (StoresNewest transition) :=
  inferInstanceAs (Decidable (_ → _))

theorem StoresNewest.undoesNothing {transition : ContactsTransition runes}
    (storesNewest : StoresNewest transition) : UndoesNothing taken transition := by
  intro index label contact isContact _ user newest
  have isSet : transition.label.isSet = true := by rw [label]; rfl
  have stored {other : User} : other ∈ transition.output ↔
      ∃ id ∈ transition.source.telegram.contacts,
        transition.source.telegram.newest id = some other :=
    (storesNewest isSet).mem_iff.trans List.mem_filterMap
  constructor
  · intro _
    exact stored.mpr ⟨contact, isContact, newest⟩
  · intro _ other member different
    obtain ⟨id, _, otherNewest⟩ := stored.mp member
    rw [transition.source.telegram.own otherNewest] at different
    exact transition.source.telegram.apart newest otherNewest (fun equal => different equal.symm)

theorem undoesNothing_of_storesNewest
    (storesNewest : ∀ transition ∈ taken, StoresNewest transition) :
    LabelledMachine.AdmittedAlong UndoesNothing taken := by
  intro before transition after shape
  apply StoresNewest.undoesNothing
  apply storesNewest
  rw [shape]
  exact List.mem_append_right before List.mem_cons_self

theorem neverFailed_of_labels (contact : Int) {labels : List (ContactsLabel runes)}
    {first : Contacts runes}
    (replayed : LabelledMachine.replay (Contacts.step runes) first labels = some (taken, state))
    (answered : ∀ label ∈ labels, ∀ index, label ≠ .readUser index false) :
    NeverFailed contact taken := by
  intro transition member index rest users label
  have unlike := LabelledMachine.replay_forall_labels
    (fun label => ∀ index, label ≠ .readUser index false) replayed answered transition member
  exact absurd label (unlike index)

end Runs

def sampleRecords (name : String) (letters : digitsOnly name = false) : Records .ascii where
  contacts := [7]
  newest id :=
    if id = 7 then
      some { id := 7, firstName := "Ann", lastName := "", usernames := some ("", [name]),
             phoneNumber := "" }
    else none
  own := by
    intro id user found
    split at found
    · rename_i same
      cases found
      exact same.symm
    · cases found
  apart := by
    intro first second user other found otherFound different
    split at found
    · split at otherFound
      · omega
      · cases otherFound
    · cases found
  formed := by
    intro id user found
    split at found
    · cases found
      constructor
      · intro given member
        cases List.mem_singleton.mp member
        exact letters
      · exact absurd rfl
    · cases found

/-- A contact who takes another username between two refreshes. -/
theorem newest_username_found_behind_refresh :
    ∃ taken state,
      LabelledMachine.Run (Contacts.step .ascii)
        (Contacts.initial (sampleRecords "old" (by decide))) taken state ∧
      LabelledMachine.AdmittedAlong UndoesNothing taken ∧
      7 ∈ state.telegram.contacts ∧ NeverFailed 7 taken ∧ Told 7 taken ∧ state.Resolves 7 := by
  have replayed : LabelledMachine.replay (Contacts.step .ascii)
      (Contacts.initial (sampleRecords "old" (by decide)))
      [.refresh, .readIDs 0 (.ok [7]), .readUser 0 true, .set 0,
        .change (sampleRecords "new" (by decide)), .update 7,
        .refresh, .readIDs 1 (.ok [7]), .readUser 1 true, .set 1] = some (_, _) := rfl
  have run := LabelledMachine.Run.of_replay replayed
  have storesNewest := LabelledMachine.replay_forall StoresNewest replayed (by decide)
  have neverFailed := neverFailed_of_labels 7 replayed (by simp)
  refine ⟨_, _, run, ?undoesNothing, List.mem_singleton.mpr rfl, neverFailed, ?told,
    refresh_loses_no_update run ?undoesNothing 7 (List.mem_singleton.mpr rfl) neverFailed ?told⟩
  · exact undoesNothing_of_storesNewest storesNewest
  · exact ⟨[_, _, _, _, _], _, [_, _, _, _], rfl, ⟨_, List.mem_singleton.mpr rfl, rfl⟩,
      by simp [Leaves]⟩

/-- A contact takes another username, and the `Update` that brings it runs
between the `GetUser` and the `Set` of the hourly `Refresh`. -/
theorem update_undone_by_refresh :
    ¬∀ (runes : Runes) (records : Records runes) taken state,
      LabelledMachine.Run (Contacts.step runes) (Contacts.initial records) taken state →
      (∀ refresh ∈ state.refreshes, refresh = .finished) →
      ∀ contact ∈ state.telegram.contacts, NeverFailed contact taken → Told contact taken →
        state.Resolves contact := by
  intro always
  have replayed : LabelledMachine.replay (Contacts.step .ascii)
      (Contacts.initial (sampleRecords "old" (by decide)))
      [.refresh, .readIDs 0 (.ok [7]), .readUser 0 true, .set 0,
        .refresh, .readIDs 1 (.ok [7]), .readUser 1 true,
        .change (sampleRecords "new" (by decide)), .update 7, .set 1] = some (_, _) := rfl
  have resolves := always .ascii _ _ _ (LabelledMachine.Run.of_replay replayed)
    (List.forall_mem_cons.mpr ⟨rfl, List.forall_mem_singleton.mpr rfl⟩) 7
    (List.mem_singleton.mpr rfl) (neverFailed_of_labels 7 replayed (by simp))
    ⟨[_, _, _, _, _, _, _, _], _, [_], rfl, ⟨_, List.mem_singleton.mpr rfl, rfl⟩, by simp [Leaves]⟩
  have found := (resolves _ rfl).1 "new" List.mem_cons_self
  revert found
  decide

end Tg2Sip.Go
