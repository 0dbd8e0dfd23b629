/-
Which settings follow which keys of the file.

Each field is computed from what is stored under a single key.  All keys but one
are asked for by one field; the database folder is also taken for the language
of the system, so that a change of the folder changes both fields, unless one of
them sees no change because the folder was missing and its default is put in.
-/

import Mathlib.Data.List.Nodup
import Tg2Sip.Config.Settings
import Tg2Sip.Config.Written

namespace Tg2Sip.Config

open Dependence FiniteMap

def Key.mapKey (key : Key) : String := makeKey key.sect key.name

def loaded (values : Map String String) (field : Field) : Value :=
  (Settings.assigned { parseError := 0, values := values }).value field

section OneKey

variable (reader : INIReader) (sect name : String)

theorem get_uniform (defaultValue : String) :
    reader.get sect name defaultValue =
      INIReader.get ⟨0, fun _ => reader.values (makeKey sect name)⟩ sect name defaultValue := rfl

theorem getInteger_uniform (defaultValue : Int) :
    reader.getInteger sect name defaultValue =
      INIReader.getInteger ⟨0, fun _ => reader.values (makeKey sect name)⟩ sect name
        defaultValue := by
  unfold INIReader.getInteger
  rw [get_uniform]

theorem getBoolean_uniform (defaultValue : Bool) :
    reader.getBoolean sect name defaultValue =
      INIReader.getBoolean ⟨0, fun _ => reader.values (makeKey sect name)⟩ sect name
        defaultValue := by
  unfold INIReader.getBoolean
  rw [get_uniform]

end OneKey

/-- Each assignment asks for the key of its field alone. -/
theorem assigned_value (reader : INIReader) (field : Field) :
    (Settings.assigned reader).value field =
      loaded (fun _ => reader.values field.key.mapKey) field := by
  unfold loaded Settings.assigned
  cases field <;> simp only [Settings.value, Field.key, Key.mapKey] <;>
    first
    | rw [getInteger_uniform]
    | rw [getBoolean_uniform]
    | rw [get_uniform]

theorem loaded_keyed : Keyed loaded (fun field => field.key.mapKey) where
  loads := by
    intro values field
    exact assigned_value ⟨0, values⟩ field

/-- No field is constant: `1` and `0` are told apart by every conversion. -/
theorem loaded_varies (field : Field) :
    loaded (fun _ => some "1") field ≠ loaded (fun _ => some "0") field := by
  cases field <;> decide

structure Key.Plain (key : Key) : Prop where
  sect : toLower key.sect = key.sect
  name : toLower key.name = key.name
  unmarked : '=' ∉ key.name.toList

theorem Key.Plain.mapKey_inj {key key' : Key} (plain : key.Plain) (plain' : key'.Plain)
    (same : key.mapKey = key'.mapKey) : key = key' := by
  obtain ⟨sects, names⟩ := (makeKey_inj plain.unmarked plain'.unmarked).mp same
  rw [plain.sect, plain'.sect] at sects
  rw [plain.name, plain'.name] at names
  cases key
  cases key'
  exact congrArg₂ Key.mk sects names

theorem Field.key_plain (field : Field) : field.key.Plain := by
  have lowered :
      toLower field.key.sect = field.key.sect ∧ toLower field.key.name = field.key.name := by
    cases field <;> exact ⟨rfl, rfl⟩
  have unmarked : field.key.name.toList.contains '=' = false := by
    cases field <;> rfl
  have free : '=' ∉ field.key.name.toList := by
    intro marked
    rw [List.contains_iff_mem.mpr marked] at unmarked
    cases unmarked
  exact ⟨lowered.1, lowered.2, free⟩

def databaseFolder : Key := ⟨"telegram", "database_folder"⟩

def Field.owner : Field → Field
  | .systemLanguageCode => .dbFolder
  | field => field

/-- The fields that are assigned first from their keys. -/
def Field.owners : List Field :=
  [.consoleMinLevel, .fileMinLevel, .logLevel, .tdlibLogLevel, .tgvoipLogLevel, .pjsipLogLevel,
    .pjsipLogSipMessages, .sipPort, .idUri, .callbackUri, .publicAddress, .stunServer, .rawPcm,
    .sipThreadCount, .sipPortRange, .apiId, .apiHash, .phoneNumber, .dbFolder, .deviceModel,
    .systemVersion, .applicationVersion, .udpP2p, .udpReflector, .aecEnabled, .nsEnabled,
    .agcEnabled, .proxyEnabled, .proxyAddress, .proxyPort, .proxyUsername, .proxyPassword,
    .voipProxyEnabled, .voipProxyAddress, .voipProxyPort, .voipProxyUsername,
    .voipProxyPassword, .extraWaitTime, .peerFloodTime]

theorem Field.owner_mem (field : Field) : field.owner ∈ Field.owners := by
  cases field <;> decide

theorem Field.owner_key (field : Field) : field.owner.key = field.key := by
  cases field <;> rfl

theorem Field.owner_of_ne {field : Field} (other : field ≠ .systemLanguageCode) :
    field.owner = field := by
  unfold Field.owner
  split
  · exact absurd rfl other
  · rfl

theorem Field.owners_keys_nodup : (Field.owners.map Field.key).Nodup := by decide

theorem Field.key_eq_iff (field field' : Field) :
    field.key = field'.key ↔ field.owner = field'.owner := by
  constructor
  · intro same
    rw [← field.owner_key, ← field'.owner_key] at same
    exact List.inj_on_of_nodup_map Field.owners_keys_nodup field.owner_mem field'.owner_mem same
  · intro same
    rw [← field.owner_key, ← field'.owner_key, same]

/-- Only the database folder is asked for twice. -/
theorem Field.key_shared {field field' : Field} (same : field.key = field'.key)
    (different : field ≠ field') : field.key = databaseFolder := by
  by_cases language : field = .systemLanguageCode
  · rw [language]
    exact rfl
  · by_cases language' : field' = .systemLanguageCode
    · rw [same, language']
      exact rfl
    · apply absurd _ different
      rw [← Field.owner_of_ne language, ← Field.owner_of_ne language']
      exact (field.key_eq_iff field').mp same

theorem Field.key_eq_databaseFolder_iff (field : Field) :
    field.key = databaseFolder ↔ field = .dbFolder ∨ field = .systemLanguageCode := by
  constructor
  · intro same
    by_cases language : field = .systemLanguageCode
    · exact .inr language
    · have owner := (field.key_eq_iff .dbFolder).mp same
      rw [Field.owner_of_ne language] at owner
      exact .inl owner
  · intro either
    rcases either with same | same
    · rw [same]
      exact rfl
    · rw [same]
      exact rfl

/-- Two fields that share their key are the folder and the language. -/
theorem Field.folder_and_language {field field' : Field} (same : field.key = field'.key)
    (different : field ≠ field') {property : Field → Prop} (first : property field)
    (second : property field') : property .dbFolder ∧ property .systemLanguageCode := by
  have folder := Field.key_shared same different
  have folder' := same.symm.trans folder
  rcases field.key_eq_databaseFolder_iff.mp folder with isFolder | isLanguage
  · rcases field'.key_eq_databaseFolder_iff.mp folder' with isFolder' | isLanguage'
    · exact absurd (isFolder.trans isFolder'.symm) different
    · subst isFolder isLanguage'
      exact ⟨first, second⟩
  · rcases field'.key_eq_databaseFolder_iff.mp folder' with isFolder' | isLanguage'
    · subst isLanguage isFolder'
      exact ⟨second, first⟩
    · exact absurd (isLanguage.trans isLanguage'.symm) different

def Key.IsRead (key : Key) : Prop := ∃ field : Field, field.key = key

/-- Two files that were parsed and differ at most in what they store for the key. -/
structure Key.Variant (key : Key) (first second : INIReader) : Prop where
  firstParsed : 0 ≤ first.parseError
  secondParsed : 0 ≤ second.parseError
  elsewhere : AgreeExcept key.mapKey first.values second.values

def Settings.DiffersIn (one two : Settings) (field : Field) : Prop :=
  one.value field ≠ two.value field

instance (one two : Settings) (field : Field) : Decidable (one.DiffersIn two field) :=
  inferInstanceAs (Decidable (_ ≠ _))

/-- A change of the key alone can change the field. -/
def Key.Determines (key : Key) (field : Field) : Prop :=
  ∃ first second one two, key.Variant first second ∧ first.Constructs one ∧
    second.Constructs two ∧ one.DiffersIn two field

/-- Two settings of files that differ in the key: at most one field differs, and it
is a field of no other key. -/
structure Isolated (key : Key) (one two : Settings) : Prop where
  single : ∀ field field', one.DiffersIn two field → one.DiffersIn two field' → field = field'
  apart : ∀ field, one.DiffersIn two field →
    ∀ other : Key, other.IsRead → other.Determines field → other = key

/-- The database folder and the language see no change both. -/
def Harmless (stored stored' : Option String) : Prop :=
  stored = stored' ∨
    (stored = none ∧ (stored' = some "" ∨ stored' = some "en-US")) ∨
    (stored' = none ∧ (stored = some "" ∨ stored = some "en-US"))

theorem harmless_iff (stored stored' : Option String) :
    Harmless stored stored' ↔
      stored.getD "" = stored'.getD "" ∨ stored.getD "en-US" = stored'.getD "en-US" := by
  unfold Harmless
  cases stored with
  | none =>
      cases stored' with
      | none => simp
      | some folder => simp [eq_comm]
  | some folder =>
      cases stored' with
      | none => simp
      | some folder' => simp

/-! ### What a parsed file is loaded to -/

def Settings.withLoaded (settings : Settings) (isLoaded : Bool) : Settings :=
  { settings with isLoaded := isLoaded }

section Constructed

variable {memory settings one two : Settings} {reader first second : INIReader} {field : Field}
  {key : Key}

theorem value_withLoaded (isLoaded : Bool) :
    (settings.withLoaded isLoaded).value field = settings.value field := by
  cases field <;> rfl

theorem withLoaded_self (settings : Settings) :
    settings.withLoaded settings.isLoaded = settings := rfl

theorem construct_of_parsed (parsed : 0 ≤ reader.parseError) :
    Settings.construct memory reader =
      (Settings.assigned reader).withLoaded
        (!((Settings.assigned reader).apiId == 0 ||
          (Settings.assigned reader).apiHash.isEmpty)) := by
  unfold Settings.construct
  rw [if_neg (Int.not_lt.mpr parsed)]
  dsimp only
  split
  · rename_i unset
    rw [unset]
    exact (withLoaded_self (Settings.assigned reader)).symm
  · rename_i given
    rw [Bool.eq_false_iff.mpr given]
    exact rfl

theorem INIReader.Constructs.assigned (constructed : reader.Constructs settings)
    (parsed : 0 ≤ reader.parseError) :
    settings.value field = (Settings.assigned reader).value field := by
  obtain ⟨memory, same⟩ := constructed
  rw [← same, construct_of_parsed parsed, value_withLoaded]

theorem INIReader.Constructs.isLoaded (constructed : reader.Constructs settings)
    (parsed : 0 ≤ reader.parseError) :
    settings.isLoaded = !(settings.apiId == 0 || settings.apiHash.isEmpty) := by
  obtain ⟨memory, same⟩ := constructed
  rw [← same, construct_of_parsed parsed]
  exact rfl

theorem INIReader.Constructs.value (constructed : reader.Constructs settings)
    (parsed : 0 ≤ reader.parseError) : settings.value field = loaded reader.values field := by
  rw [constructed.assigned parsed, assigned_value, loaded_keyed.loads reader.values]

theorem Settings.eq_of_values (isLoaded : one.isLoaded = two.isLoaded)
    (same : ∀ field, one.value field = two.value field) : one = two := by
  have fields : ∀ field ∈ Field.owners ++ [.systemLanguageCode],
      one.value field = two.value field := fun field _ => same field
  simp only [Field.owners, List.cons_append, List.nil_append, List.forall_mem_cons,
    Settings.value, Value.text.injEq, Value.bool.injEq, Value.int.injEq, Value.short.injEq,
    Value.unsigned.injEq] at fields
  cases one
  cases two
  simp only at isLoaded fields
  simp only [isLoaded, fields]

theorem INIReader.constructs (reader : INIReader) :
    reader.Constructs (Settings.construct (Settings.assigned reader) reader) := ⟨_, rfl⟩

theorem Key.Variant.differsIn_iff (variant : key.Variant first second)
    (constructsOne : first.Constructs one) (constructsTwo : second.Constructs two) :
    one.DiffersIn two field ↔ loaded first.values field ≠ loaded second.values field := by
  unfold Settings.DiffersIn
  rw [constructsOne.value variant.firstParsed, constructsTwo.value variant.secondParsed]

theorem Key.Variant.key_of_differs (variant : key.Variant first second)
    (constructsOne : first.Constructs one) (constructsTwo : second.Constructs two)
    (differs : one.DiffersIn two field) : field.key.mapKey = key.mapKey :=
  loaded_keyed.key_of_changed variant.elsewhere
    ((variant.differsIn_iff constructsOne constructsTwo).mp differs)

theorem Key.Variant.value_eq (variant : key.Variant first second)
    (constructsOne : first.Constructs one) (constructsTwo : second.Constructs two)
    (other : field.key.mapKey ≠ key.mapKey) : one.value field = two.value field := by
  by_contra differs
  exact other (variant.key_of_differs constructsOne constructsTwo differs)

/-- A key that nothing asks for changes nothing. -/
theorem Key.Variant.eq_of_unread (variant : key.Variant first second)
    (constructsOne : first.Constructs one) (constructsTwo : second.Constructs two)
    (unread : ∀ field : Field, field.key.mapKey ≠ key.mapKey) : one = two := by
  have same (field : Field) : one.value field = two.value field :=
    variant.value_eq constructsOne constructsTwo (unread field)
  have apiId : one.apiId = two.apiId := Value.int.inj (same .apiId)
  have apiHash : one.apiHash = two.apiHash := Value.text.inj (same .apiHash)
  apply Settings.eq_of_values _ same
  rw [constructsOne.isLoaded variant.firstParsed, constructsTwo.isLoaded variant.secondParsed,
    apiId, apiHash]

theorem Key.determines_iff : key.Determines field ↔ field.key.mapKey = key.mapKey := by
  constructor
  · intro determines
    obtain ⟨first, second, one, two, variant, constructsOne, constructsTwo, differs⟩ := determines
    exact variant.key_of_differs constructsOne constructsTwo differs
  · intro same
    have influences : Influences loaded key.mapKey field :=
      (loaded_keyed.influences_iff FiniteMap.empty).mpr ⟨same, _, _, loaded_varies field⟩
    obtain ⟨values, values', agree, changed⟩ := influences
    have variant : key.Variant ⟨0, values⟩ ⟨0, values'⟩ := ⟨Int.le_refl 0, Int.le_refl 0, agree⟩
    exact ⟨_, _, _, _, variant, INIReader.constructs _, INIReader.constructs _,
      (variant.differsIn_iff (INIReader.constructs _) (INIReader.constructs _)).mpr changed⟩

theorem Key.IsRead.determines_iff (read : key.IsRead) :
    key.Determines field ↔ field.key = key := by
  rw [Key.determines_iff]
  obtain ⟨asking, same⟩ := read
  subst same
  constructor
  · intro shared
    exact field.key_plain.mapKey_inj asking.key_plain shared
  · intro shared
    rw [shared]

theorem Field.existsUnique_key (field : Field) :
    ∃! key : Key, key.IsRead ∧ key.Determines field := by
  have read : field.key.IsRead := ⟨field, rfl⟩
  apply ExistsUnique.intro field.key ⟨read, read.determines_iff.mpr rfl⟩
  intro key both
  exact (both.1.determines_iff.mp both.2).symm

theorem Key.IsRead.single_iff (read : key.IsRead) :
    (∀ field field', key.Determines field → key.Determines field' → field = field') ↔
      key ≠ databaseFolder := by
  constructor
  · intro single same
    have folder : key.Determines .dbFolder := read.determines_iff.mpr same.symm
    have language : key.Determines .systemLanguageCode := read.determines_iff.mpr same.symm
    cases single _ _ folder language
  · intro other field field' determines determines'
    have same := read.determines_iff.mp determines
    have same' := read.determines_iff.mp determines'
    by_contra different
    exact other (same.symm.trans (Field.key_shared (same.trans same'.symm) different))

theorem loaded_dbFolder (values : Map String String) :
    loaded values .dbFolder = .text ((values databaseFolder.mapKey).getD "") := rfl

theorem loaded_systemLanguageCode (values : Map String String) :
    loaded values .systemLanguageCode = .text ((values databaseFolder.mapKey).getD "en-US") := rfl

/-- The language that the file gives is not looked at. -/
theorem systemLanguageCode_unread
    (variant : Key.Variant ⟨"telegram", "system_language_code"⟩ first second)
    (constructsOne : first.Constructs one) (constructsTwo : second.Constructs two) : one = two := by
  have plain : Key.Plain ⟨"telegram", "system_language_code"⟩ :=
    ⟨rfl, rfl, by decide⟩
  apply variant.eq_of_unread constructsOne constructsTwo
  intro field same
  have asked : field.key = ⟨"telegram", "system_language_code"⟩ :=
    field.key_plain.mapKey_inj plain same
  revert asked
  cases field <;> decide

/-- A folder that is given is told to be the language. -/
theorem INIReader.Constructs.language (constructed : reader.Constructs settings)
    (parsed : 0 ≤ reader.parseError) {folder : String}
    (stored : reader.values databaseFolder.mapKey = some folder) :
    settings.dbFolder = folder ∧ settings.systemLanguageCode = folder := by
  have folderValue : settings.value .dbFolder = .text folder := by
    rw [constructed.value parsed, loaded_dbFolder, stored]
    exact rfl
  have languageValue : settings.value .systemLanguageCode = .text folder := by
    rw [constructed.value parsed, loaded_systemLanguageCode, stored]
    exact rfl
  exact ⟨Value.text.inj folderValue, Value.text.inj languageValue⟩

theorem Key.Variant.harmless_iff (variant : key.Variant first second)
    (constructsOne : first.Constructs one) (constructsTwo : second.Constructs two) :
    ¬(one.DiffersIn two .dbFolder ∧ one.DiffersIn two .systemLanguageCode) ↔
      Harmless (first.values databaseFolder.mapKey) (second.values databaseFolder.mapKey) := by
  rw [variant.differsIn_iff constructsOne constructsTwo,
    variant.differsIn_iff constructsOne constructsTwo, loaded_dbFolder, loaded_dbFolder,
    loaded_systemLanguageCode, loaded_systemLanguageCode, Config.harmless_iff, ne_eq, ne_eq,
    Value.text.injEq, Value.text.injEq, not_and_or, not_not, not_not]

theorem Key.Variant.isolated_iff (variant : key.Variant first second) (read : key.IsRead)
    (constructsOne : first.Constructs one) (constructsTwo : second.Constructs two) :
    Isolated key one two ↔
      (key = databaseFolder → Harmless (first.values key.mapKey) (second.values key.mapKey)) := by
  constructor
  · intro isolated same
    subst same
    apply (variant.harmless_iff constructsOne constructsTwo).mp
    intro both
    cases isolated.single _ _ both.1 both.2
  · intro harmless
    have ofKey {field : Field} (differs : one.DiffersIn two field) : field.key = key :=
      read.determines_iff.mp
        (Key.determines_iff.mpr (variant.key_of_differs constructsOne constructsTwo differs))
    constructor
    · intro field field' differs differs'
      have same := ofKey differs
      have same' := ofKey differs'
      by_contra different
      have folder : key = databaseFolder :=
        same.symm.trans (Field.key_shared (same.trans same'.symm) different)
      subst folder
      apply (variant.harmless_iff constructsOne constructsTwo).mpr (harmless rfl)
      exact Field.folder_and_language (same.trans same'.symm) different differs differs'
    · intro field differs other otherRead determines
      exact (otherRead.determines_iff.mp determines).symm.trans (ofKey differs)

end Constructed

theorem INIReader.ofFile_parsed (text : List Char) :
    0 ≤ (INIReader.ofFile (some text)).parseError :=
  Int.natCast_nonneg _

section TwoFiles

variable {key : Key} {text text' : List Char}

theorem Key.variant_of_agree
    (agree : AgreeExcept key.mapKey (INIReader.ofFile (some text)).values
      (INIReader.ofFile (some text')).values) :
    key.Variant (INIReader.ofFile (some text)) (INIReader.ofFile (some text')) :=
  ⟨INIReader.ofFile_parsed text, INIReader.ofFile_parsed text', agree⟩

theorem Key.variant_of_calls
    (same : (iniParse text).calls.filter (fun call => call.mapKey != key.mapKey) =
      (iniParse text').calls.filter (fun call => call.mapKey != key.mapKey)) :
    key.Variant (INIReader.ofFile (some text)) (INIReader.ofFile (some text')) :=
  Key.variant_of_agree (agreeExcept_of_calls same)

end TwoFiles

section Rewritten

variable {key : Key} {before after : List Line} {name value value' : List Char}
  {one two : Settings}

/-- A pair that is written with another value changes one setting at most, unless
it is the database folder. -/
theorem rewritten_isolated (read : key.IsRead) (other : key ≠ databaseFolder)
    (own : key.mapKey = keyBehind before name)
    (plain : ∀ line ∈ before ++ .pair name value :: after, line.Plain)
    (plain' : ∀ line ∈ before ++ .pair name value' :: after, line.Plain)
    (constructsOne :
      (INIReader.ofFile (some (written (before ++ .pair name value :: after)))).Constructs one)
    (constructsTwo :
      (INIReader.ofFile (some (written (before ++ .pair name value' :: after)))).Constructs two) :
    Isolated key one two := by
  have agree := agreeExcept_rewritten plain plain'
  rw [← own] at agree
  apply ((Key.variant_of_agree agree).isolated_iff read constructsOne constructsTwo).mpr
  intro same
  exact absurd same other

theorem without_isolated (read : key.IsRead) (other : key ≠ databaseFolder)
    (own : key.mapKey = keyBehind before name)
    (plain : ∀ line ∈ before ++ .pair name value :: after, line.Plain)
    (constructsOne :
      (INIReader.ofFile (some (written (before ++ .pair name value :: after)))).Constructs one)
    (constructsTwo : (INIReader.ofFile (some (written (before ++ after)))).Constructs two) :
    Isolated key one two := by
  have agree := agreeExcept_without plain
  rw [← own] at agree
  apply ((Key.variant_of_agree agree).isolated_iff read constructsOne constructsTwo).mpr
  intro same
  exact absurd same other

end Rewritten

/-- Settings of two files that differ in one key are isolated unless the key is the
database folder and its change is not harmless.  Each key but the database folder
determines one field at most, and each field follows exactly one key. -/
theorem settings_isolated_iff {key : Key} {first second : INIReader} {one two : Settings}
    (read : key.IsRead) (variant : key.Variant first second)
    (constructsOne : first.Constructs one) (constructsTwo : second.Constructs two) :
    (Isolated key one two ↔
        (key = databaseFolder → Harmless (first.values key.mapKey) (second.values key.mapKey))) ∧
      ((∀ field field', key.Determines field → key.Determines field' → field = field') ↔
        key ≠ databaseFolder) ∧
      ∀ field : Field, ∃! other : Key, other.IsRead ∧ other.Determines field := by
  constructor
  · exact variant.isolated_iff read constructsOne constructsTwo
  · constructor
    · exact read.single_iff
    · exact Field.existsUnique_key

/-- The settings of a file, on memory that held the defaults. -/
def settingsOf (text : String) : Settings :=
  Settings.construct (Settings.assigned ⟨0, FiniteMap.empty⟩)
    (INIReader.ofFile (some text.toList))

theorem settingsOf_constructs (text : String) :
    (INIReader.ofFile (some text.toList)).Constructs (settingsOf text) := ⟨_, rfl⟩

theorem settings_isolated_port :
    Isolated ⟨"sip", "port"⟩ (settingsOf "[sip]\nport=5060\n[telegram]\napi_id=7\n")
      (settingsOf "[sip]\nport=5062\n[telegram]\napi_id=7\n") := by
  have variant : Key.Variant ⟨"sip", "port"⟩
      (INIReader.ofFile (some "[sip]\nport=5060\n[telegram]\napi_id=7\n".toList))
      (INIReader.ofFile (some "[sip]\nport=5062\n[telegram]\napi_id=7\n".toList)) :=
    Key.variant_of_calls (by decide +kernel)
  apply (settings_isolated_iff ⟨.sipPort, rfl⟩ variant (settingsOf_constructs _)
    (settingsOf_constructs _)).1.mpr
  intro same
  have impossible := congrArg Key.sect same
  exact absurd impossible (by decide)

/-- Another folder for the database is another language of the system. -/
theorem database_folder_leaks :
    ¬∀ (key : Key) (first second : INIReader) (one two : Settings), key.IsRead →
      key.Variant first second → first.Constructs one → second.Constructs two →
        Isolated key one two := by
  intro always
  have variant : Key.Variant databaseFolder
      (INIReader.ofFile (some "[telegram]\ndatabase_folder=/data\n".toList))
      (INIReader.ofFile (some "[telegram]\ndatabase_folder=/other\n".toList)) :=
    Key.variant_of_calls (by decide +kernel)
  have folder : (settingsOf "[telegram]\ndatabase_folder=/data\n").DiffersIn
      (settingsOf "[telegram]\ndatabase_folder=/other\n") .dbFolder := by
    decide +kernel
  have language : (settingsOf "[telegram]\ndatabase_folder=/data\n").DiffersIn
      (settingsOf "[telegram]\ndatabase_folder=/other\n") .systemLanguageCode := by
    decide +kernel
  have isolated := always databaseFolder _ _ _ _ ⟨.dbFolder, rfl⟩ variant
    (settingsOf_constructs _) (settingsOf_constructs _)
  cases isolated.single _ _ folder language

end Tg2Sip.Config
