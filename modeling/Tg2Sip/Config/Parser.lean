/-
`ini_parse_stream`: the lines of an INI file and the calls of the handler.

`fgets` fills a buffer of 200 bytes, so that a longer line is parsed in pieces.
A line that starts with white space goes on with the value of the name before
it, in a call of its own.  The handler never objects, hence the calls do not
depend on it and are listed in order.
-/

import Mathlib.Data.List.DropRight
import Tg2Sip.Config.Reader
import Tg2Sip.Lib.Dependence

namespace Tg2Sip.Config

open FiniteMap

def rstrip (text : List Char) : List Char := text.rdropWhile isSpace

/-- `find_chars_or_comment`: the text before and behind the place found. -/
def findCharsOrComment (chars : List Char) (wasSpace : Bool) : List Char → List Char × List Char
  | [] => ([], [])
  | char :: rest =>
      if chars.contains char || (wasSpace && char == ';') then ([], char :: rest)
      else
        let (before, behind) := findCharsOrComment chars (isSpace char) rest
        (char :: before, behind)

def uncommented (text : List Char) : List Char := (findCharsOrComment [] false text).1

/-- What the buffers of 50 bytes keep of a section or a name. -/
def truncated (text : List Char) : List Char := text.take 49

/-- The buffers that `fgets` fills, `line` being what it has read so far. -/
def readBuffers (line : List Char) : List Char → List (List Char)
  | [] => if line.isEmpty then [] else [line]
  | char :: rest =>
      if char == '\n' || line.length == 198 then (line ++ [char]) :: readBuffers [] rest
      else readBuffers (line ++ [char]) rest

structure Call where
  sect : List Char
  name : List Char
  value : List Char
  deriving DecidableEq, Repr

structure Parser where
  sect : List Char := []
  prevName : List Char := []
  lineno : Nat := 0
  error : Nat := 0
  calls : List Call := []
  deriving DecidableEq, Repr

/-- The number of the first line with an error is kept. -/
def Parser.fail (parser : Parser) : Parser :=
  if parser.error == 0 then { parser with error := parser.lineno } else parser

def Parser.call (parser : Parser) (name value : List Char) : Parser :=
  { parser with calls := parser.calls ++ [⟨parser.sect, name, value⟩] }

def Parser.readSection (parser : Parser) (text : List Char) : Parser :=
  match findCharsOrComment [']'] false text with
  | (before, ']' :: _) => { parser with sect := truncated before, prevName := [] }
  | _ => parser.fail

/-- A line that must be a `name[=:]value` pair. -/
def Parser.readPair (parser : Parser) (text : List Char) : Parser :=
  match findCharsOrComment ['=', ':'] false text with
  | (before, mark :: behind) =>
      if mark == '=' || mark == ':' then
        let name := rstrip before
        let value := rstrip (uncommented (lskip behind))
        Parser.call { parser with prevName := truncated name } name value
      else parser.fail
  | _ => parser.fail

/-- The text behind the byte order mark of the first line. -/
def skipMark (lineno : Nat) (line : List Char) : Bool × List Char :=
  match line with
  | '\u00ef' :: '\u00bb' :: '\u00bf' :: rest => if lineno == 1 then (true, rest) else (false, line)
  | _ => (false, line)

/-- One round of the loop, for what `fgets` has put into the buffer. -/
def Parser.readLine (parser : Parser) (buffer : List Char) : Parser :=
  let parser := { parser with lineno := parser.lineno + 1 }
  let (marked, line) := skipMark parser.lineno (cString buffer)
  let stripped := rstrip line
  let start := lskip stripped
  let moved := marked || start.length != stripped.length
  match start with
  | [] => parser
  | first :: rest =>
      if first == ';' || first == '#' then parser
      else if !parser.prevName.isEmpty && moved then
        parser.call parser.prevName (rstrip (uncommented start))
      else if first == '[' then parser.readSection rest
      else parser.readPair start

/-- `ini_parse_file`. -/
def iniParse (text : List Char) : Parser := (readBuffers [] text).foldl Parser.readLine {}

def Call.mapKey (call : Call) : String :=
  makeKey (String.ofList call.sect) (String.ofList call.name)

def handle (values : Map String String) (call : Call) : Map String String :=
  valueHandler values (String.ofList call.sect) (String.ofList call.name) (String.ofList call.value)

/-- `INIReader::INIReader`; `none` is a file that cannot be opened. -/
def INIReader.ofFile : Option (List Char) → INIReader
  | none => { parseError := -1, values := FiniteMap.empty }
  | some text =>
      { parseError := (iniParse text).error
        values := (iniParse text).calls.foldl handle FiniteMap.empty }

section Handling

variable {values values' : Map String String} {key : String}

theorem handle_of_ne {call : Call} (other : key ≠ call.mapKey) :
    handle values call key = values key :=
  insert_of_ne values _ other

theorem handle_congr (call : Call) (same : values key = values' key) :
    handle values call key = handle values' call key := by
  by_cases own : key = call.mapKey
  · subst own
    unfold Call.mapKey at same
    unfold handle valueHandler Call.mapKey
    rw [insert_self, insert_self, same]
  · rw [handle_of_ne own, handle_of_ne own]
    exact same

theorem foldl_handle_filter (calls : List Call) (same : values key = values' key) :
    calls.foldl handle values key =
      (calls.filter (fun call => call.mapKey == key)).foldl handle values' key := by
  induction calls generalizing values values' with
  | nil => exact same
  | cons call rest ih =>
      rw [List.foldl_cons]
      by_cases own : call.mapKey = key
      · have kept : (call.mapKey == key) = true := beq_iff_eq.mpr own
        rw [List.filter_cons, if_pos kept, List.foldl_cons]
        exact ih (handle_congr call same)
      · have dropped : (call.mapKey == key) ≠ true := fun wrong => own (eq_of_beq wrong)
        rw [List.filter_cons, if_neg dropped]
        exact ih ((handle_of_ne (Ne.symm own)).trans same)

/-- Calls that differ for one key only store the same under every other. -/
theorem agreeExcept_of_calls {first second : List Call}
    (same : first.filter (fun call => call.mapKey != key) =
      second.filter (fun call => call.mapKey != key)) :
    Dependence.AgreeExcept key (first.foldl handle values) (second.foldl handle values) := by
  intro other different
  have narrowed (calls : List Call) :
      calls.filter (fun call => call.mapKey == other) =
        (calls.filter (fun call => call.mapKey != key)).filter
          (fun call => call.mapKey == other) := by
    rw [List.filter_filter]
    apply List.filter_congr
    intro call _
    by_cases found : call.mapKey = other
    · simp only [found, beq_self_eq_true, bne_iff_ne.mpr different, Bool.and_self]
    · simp only [beq_eq_false_iff_ne.mpr found, Bool.false_and]
  rw [foldl_handle_filter first rfl, foldl_handle_filter second rfl, narrowed first,
    narrowed second, same]

end Handling

/-! ### The calls of a file -/

section Calls

variable {chars : List Char} {wasSpace : Bool} {text : List Char} {parser : Parser}

theorem notMem_of_find {char : Char}
    (member : char ∈ (findCharsOrComment chars wasSpace text).1) : char ∉ chars := by
  induction text generalizing wasSpace with
  | nil => cases member
  | cons head rest ih =>
      unfold findCharsOrComment at member
      split at member
      · cases member
      · rename_i passed
        rcases List.mem_cons.mp member with same | later
        · subst same
          intro listed
          apply passed
          rw [List.contains_iff_mem.mpr listed, Bool.true_or]
        · exact ih later

def Unmarked (name : List Char) : Prop := '=' ∉ name ∧ ':' ∉ name

/-- A section fits into its buffer and does not close itself. -/
structure IsSection (sect : List Char) : Prop where
  short : sect.length ≤ 49
  unclosed : ']' ∉ sect

structure Parser.Clean (parser : Parser) : Prop where
  sect : IsSection parser.sect
  prevName : Unmarked parser.prevName
  calls : ∀ call ∈ parser.calls, IsSection call.sect ∧ Unmarked call.name

theorem Unmarked.of_subset {name other : List Char} (unmarked : Unmarked name)
    (subset : other ⊆ name) : Unmarked other :=
  ⟨fun member => unmarked.1 (subset member), fun member => unmarked.2 (subset member)⟩

theorem Parser.Clean.call (clean : parser.Clean) {name : List Char} (unmarked : Unmarked name)
    (value : List Char) : (parser.call name value).Clean where
  sect := clean.sect
  prevName := clean.prevName
  calls := by
    intro call member
    rcases List.mem_append.mp member with earlier | last
    · exact clean.calls call earlier
    · rw [List.mem_singleton.mp last]
      exact ⟨clean.sect, unmarked⟩

theorem Parser.Clean.fail (clean : parser.Clean) : parser.fail.Clean := by
  unfold Parser.fail
  split
  · exact ⟨clean.sect, clean.prevName, clean.calls⟩
  · exact clean

theorem Parser.Clean.readSection (clean : parser.Clean) (text : List Char) :
    (parser.readSection text).Clean := by
  unfold Parser.readSection
  split
  · rename_i before rest found
    have inside {char : Char} (member : char ∈ before) : char ∉ [']'] := by
      apply notMem_of_find
      rw [found]
      exact member
    have shortened : IsSection (truncated before) := by
      constructor
      · exact List.length_take_le _ _
      · intro closed
        exact inside (List.mem_of_mem_take closed) List.mem_cons_self
    exact ⟨shortened, ⟨nofun, nofun⟩, clean.calls⟩
  · exact clean.fail

theorem Parser.Clean.readPair (clean : parser.Clean) (text : List Char) :
    (parser.readPair text).Clean := by
  unfold Parser.readPair
  split
  · rename_i before mark behind found
    split
    · have outside {char : Char} (member : char ∈ before) : char ∉ ['=', ':'] := by
        apply notMem_of_find
        rw [found]
        exact member
      have unmarked : Unmarked before :=
        ⟨fun member => outside member (List.mem_cons_self),
          fun member => outside member (List.mem_cons_of_mem _ List.mem_cons_self)⟩
      have name : Unmarked (rstrip before) :=
        unmarked.of_subset (List.rdropWhile_prefix _ _).subset
      have shortened : Parser.Clean { parser with prevName := truncated (rstrip before) } :=
        ⟨clean.sect, name.of_subset (List.take_subset _ _), clean.calls⟩
      exact shortened.call name _
    · exact clean.fail
  · exact clean.fail

theorem Parser.Clean.readLine (clean : parser.Clean) (buffer : List Char) :
    (parser.readLine buffer).Clean := by
  have counted : Parser.Clean { parser with lineno := parser.lineno + 1 } :=
    ⟨clean.sect, clean.prevName, clean.calls⟩
  unfold Parser.readLine
  dsimp only
  split
  · exact counted
  · split
    · exact counted
    · split
      · exact counted.call clean.prevName _
      · split
        · exact counted.readSection _
        · exact counted.readPair _

theorem iniParse_clean (text : List Char) : (iniParse text).Clean := by
  have initial : Parser.Clean {} := ⟨⟨Nat.zero_le _, nofun⟩, ⟨nofun, nofun⟩, nofun⟩
  unfold iniParse
  generalize readBuffers [] text = buffers
  generalize ({} : Parser) = parser at initial
  induction buffers generalizing parser with
  | nil => exact initial
  | cons buffer rest ih => exact ih _ (initial.readLine buffer)

/-- The values of two calls are joined when their sections and names are the same
up to case, and only then. -/
theorem calls_joined_iff {first second : Call} (inside : first ∈ (iniParse text).calls)
    {text' : List Char} (inside' : second ∈ (iniParse text').calls) :
    first.mapKey = second.mapKey ↔
      first.sect.map Char.toLower = second.sect.map Char.toLower ∧
        first.name.map Char.toLower = second.name.map Char.toLower := by
  have unmarked (call : Call) {text : List Char} (member : call ∈ (iniParse text).calls) :
      '=' ∉ (String.ofList call.name).toList := by
    rw [String.toList_ofList]
    exact ((iniParse_clean text).calls call member).2.1
  unfold Call.mapKey
  rw [makeKey_inj (unmarked first inside) (unmarked second inside'), ← String.toList_inj,
    ← String.toList_inj]
  simp only [toList_toLower, String.toList_ofList]

end Calls

end Tg2Sip.Config
