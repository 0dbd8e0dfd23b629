/-
A file that is written line by line is read as it was written.

The lines have no comments (a semicolon behind white space) and no white space at
their edges, no mark in a section or a name that would end it, and fit into the
buffers.  Then each line takes one round of the loop, and the calls of the
handler are the pairs, each with the section that was opened last.
-/

import Mathlib.Data.List.TakeWhile
import Tg2Sip.Config.Parser
import Tg2Sip.Lib.Dependence

namespace Tg2Sip.Config

inductive Line where
  | heading (sect : List Char)
  | pair (name value : List Char)
  deriving DecidableEq, Repr

def Line.text : Line → List Char
  | .heading sect => '[' :: (sect ++ [']'])
  | .pair name value => name ++ '=' :: value

def Line.render (line : Line) : List Char := line.text ++ ['\n']

def excludes (marks text : List Char) : Bool := text.all (fun char => !marks.contains char)

def startsPair (char : Char) : Bool :=
  !isSpace char && !(['[', '#', ';', '\u00ef'].contains char)

/-- No semicolon stands behind white space; `wasSpace` is what stands before the text. -/
def commentFree (wasSpace : Bool) : List Char → Bool
  | [] => true
  | char :: rest => !(wasSpace && char == ';') && commentFree (isSpace char) rest

/-- The lines that are read back. -/
inductive Line.Plain : Line → Prop where
  | heading {sect : List Char} : sect.length ≤ 49 →
      excludes [']', '\n', '\x00'] sect = true → commentFree false sect = true →
      Line.Plain (.heading sect)
  | pair {name value : List Char} : name.head?.any startsPair = true → rstrip name = name →
      excludes ['=', ':', '\n', '\x00'] name = true → commentFree false name = true →
      lskip value = value → rstrip value = value → excludes ['\n', '\x00'] value = true →
      commentFree false value = true → name.length + value.length ≤ 197 →
      Line.Plain (.pair name value)

/-- What the parser makes of a line. -/
def Parser.read (parser : Parser) : Line → Parser
  | .heading sect =>
      { parser with lineno := parser.lineno + 1, sect := sect, prevName := [] }
  | .pair name value =>
      Parser.call { parser with lineno := parser.lineno + 1, prevName := truncated name } name value

section PlainTexts

variable {marks text : List Char} {char : Char}

theorem notMem_of_excludes (clean : excludes marks text = true) (member : char ∈ text) :
    char ∉ marks := by
  have free := List.all_eq_true.mp clean char member
  intro listed
  rw [List.contains_iff_mem.mpr listed] at free
  cases free

theorem excludes_cons :
    excludes marks (char :: text) = (!marks.contains char && excludes marks text) := rfl

theorem excludes_nil (text : List Char) : excludes [] text = true :=
  List.all_eq_true.mpr (fun _ _ => rfl)

theorem excludes_append {first second : List Char} :
    excludes marks (first ++ second) = (excludes marks first && excludes marks second) := by
  unfold excludes
  rw [List.all_append]

theorem excludes_of_subset {marks' : List Char} (clean : excludes marks text = true)
    (subset : marks' ⊆ marks) : excludes marks' text = true := by
  apply List.all_eq_true.mpr
  intro char member
  rw [Bool.not_eq_true', Bool.eq_false_iff]
  intro listed
  exact notMem_of_excludes clean member (subset (List.contains_iff_mem.mp listed))

theorem cString_of_excludes (clean : excludes ['\x00'] text = true) : cString text = text := by
  apply List.takeWhile_eq_self_iff.mpr
  intro char member
  rw [bne_iff_ne]
  intro same
  exact notMem_of_excludes clean member (List.mem_singleton.mpr same)

theorem findCharsOrComment_cons {chars : List Char} {wasSpace : Bool} (rest : List Char)
    (outside : char ∉ chars) (speaks : (wasSpace && char == ';') = false) :
    findCharsOrComment chars wasSpace (char :: rest) =
      (char :: (findCharsOrComment chars (isSpace char) rest).1,
        (findCharsOrComment chars (isSpace char) rest).2) := by
  have passes : ¬(chars.contains char || (wasSpace && char == ';')) = true := by
    rw [speaks, Bool.or_false, List.contains_iff_mem]
    exact outside
  rw [findCharsOrComment, if_neg passes]

theorem commentFree_cons {wasSpace : Bool} (free : commentFree wasSpace (char :: text) = true) :
    (wasSpace && char == ';') = false ∧ commentFree (isSpace char) text = true := by
  obtain ⟨speaks, later⟩ := Bool.and_eq_true_iff.mp free
  exact ⟨(Bool.not_eq_true' _).mp speaks, later⟩

theorem findCharsOrComment_of_excludes {chars : List Char} {wasSpace : Bool}
    (clean : excludes chars text = true) (free : commentFree wasSpace text = true) :
    findCharsOrComment chars wasSpace text = (text, []) := by
  induction text generalizing wasSpace with
  | nil => rfl
  | cons head rest ih =>
      have outside := notMem_of_excludes clean List.mem_cons_self
      obtain ⟨speaks, later⟩ := commentFree_cons free
      rw [findCharsOrComment_cons rest outside speaks,
        ih (Bool.and_eq_true_iff.mp clean).2 later]

theorem findCharsOrComment_append_mark {chars : List Char} {wasSpace : Bool} {mark : Char}
    (behind : List Char) (listed : mark ∈ chars) (clean : excludes chars text = true)
    (free : commentFree wasSpace text = true) :
    findCharsOrComment chars wasSpace (text ++ mark :: behind) = (text, mark :: behind) := by
  induction text generalizing wasSpace with
  | nil =>
      have stops : (chars.contains mark || (wasSpace && mark == ';')) = true := by
        rw [List.contains_iff_mem.mpr listed, Bool.true_or]
      rw [List.nil_append, findCharsOrComment, if_pos stops]
  | cons head rest ih =>
      have outside := notMem_of_excludes clean List.mem_cons_self
      obtain ⟨speaks, later⟩ := commentFree_cons free
      rw [List.cons_append, findCharsOrComment_cons _ outside speaks,
        ih (Bool.and_eq_true_iff.mp clean).2 later]

theorem rstrip_append_of_rstrip {first second : List Char} (nonempty : second ≠ [])
    (stripped : rstrip second = second) : rstrip (first ++ second) = first ++ second := by
  apply List.rdropWhile_eq_self_iff.mpr
  intro full
  rw [List.getLast_append_of_ne_nil _ nonempty]
  exact List.rdropWhile_eq_self_iff.mp stripped nonempty

theorem rstrip_mark (stripped : rstrip text = text) : rstrip ('=' :: text) = '=' :: text := by
  cases text with
  | nil => rfl
  | cons head tail =>
      have shape : rstrip (['='] ++ head :: tail) = ['='] ++ head :: tail :=
        rstrip_append_of_rstrip (List.cons_ne_nil _ _) stripped
      exact shape

theorem rstrip_newline (stripped : rstrip text = text) : rstrip (text ++ ['\n']) = text := by
  unfold rstrip at stripped ⊢
  rw [List.rdropWhile_concat_pos _ _ _ (by decide)]
  exact stripped

theorem lskip_cons (rest : List Char) (solid : isSpace char = false) :
    lskip (char :: rest) = char :: rest :=
  List.dropWhile_cons_of_neg (by rw [solid]; exact Bool.false_ne_true)

end PlainTexts

theorem readBuffers_cons (line rest : List Char) (char : Char) :
    readBuffers line (char :: rest) =
      if char == '\n' || line.length == 198 then (line ++ [char]) :: readBuffers [] rest
      else readBuffers (line ++ [char]) rest := rfl

theorem readBuffers_line {line body : List Char} (rest : List Char)
    (clean : excludes ['\n'] body = true) (short : line.length + body.length ≤ 198) :
    readBuffers line (body ++ '\n' :: rest) =
      (line ++ (body ++ ['\n'])) :: readBuffers [] rest := by
  induction body generalizing line with
  | nil =>
      rw [List.nil_append, List.nil_append, readBuffers_cons, beq_self_eq_true, Bool.true_or,
        if_pos rfl]
  | cons head tail ih =>
      obtain ⟨free, later⟩ := Bool.and_eq_true_iff.mp clean
      rw [List.length_cons] at short
      have going : ¬(head == '\n' || line.length == 198) = true := by
        rw [Bool.or_eq_true, beq_iff_eq, beq_iff_eq]
        intro ends
        rcases ends with same | full
        · exact notMem_of_excludes clean List.mem_cons_self (List.mem_singleton.mpr same)
        · omega
      have room : (line ++ [head]).length + tail.length ≤ 198 := by
        rw [List.length_append, List.length_singleton]
        omega
      rw [List.cons_append, readBuffers_cons, if_neg going, ih later room, List.append_assoc]
      exact rfl

theorem skipMark_of_ne {lineno : Nat} {first : Char} {rest : List Char} (other : first ≠ '\u00ef') :
    skipMark lineno (first :: rest) = (false, first :: rest) := by
  unfold skipMark
  split
  · rename_i behind shape
    exact absurd (List.cons.inj shape).1 other
  · rfl

/-- The line of a buffer whose text starts and ends with a solid character. -/
theorem readLine_solid (parser : Parser) {first : Char} {rest : List Char}
    (solid : isSpace first = false) (unmarked : first ≠ '\u00ef')
    (uncommented : first ≠ ';' ∧ first ≠ '#') (ends : rstrip (first :: rest) = first :: rest)
    (whole : excludes ['\x00'] (first :: rest) = true) :
    parser.readLine (first :: rest ++ ['\n']) =
      if first == '[' then Parser.readSection { parser with lineno := parser.lineno + 1 } rest
      else Parser.readPair { parser with lineno := parser.lineno + 1 } (first :: rest) := by
  have kept : cString (first :: rest ++ ['\n']) = first :: (rest ++ ['\n']) := by
    apply cString_of_excludes
    rw [excludes_append, whole]
    exact rfl
  have stripped : rstrip (first :: (rest ++ ['\n'])) = first :: rest := rstrip_newline ends
  have speaks : (first == ';' || first == '#') = false := by
    rw [beq_eq_false_iff_ne.mpr uncommented.1, beq_eq_false_iff_ne.mpr uncommented.2]
    exact rfl
  unfold Parser.readLine
  simp only [kept, skipMark_of_ne unmarked, stripped, lskip_cons rest solid, speaks,
    bne_self_eq_false, Bool.or_false, Bool.and_false, Bool.false_eq_true, if_false]

theorem readSection_plain (parser : Parser) {sect : List Char} (short : sect.length ≤ 49)
    (clean : excludes [']', '\n', '\x00'] sect = true) (free : commentFree false sect = true) :
    parser.readSection (sect ++ [']']) = { parser with sect := sect, prevName := [] } := by
  have found : findCharsOrComment [']'] false (sect ++ [']']) = (sect, [']']) :=
    findCharsOrComment_append_mark [] List.mem_cons_self
      (excludes_of_subset clean (by decide)) free
  have same : truncated sect = sect := List.take_of_length_le short
  unfold Parser.readSection
  rw [found]
  exact congrArg (fun kept : List Char => { parser with sect := kept, prevName := [] }) same

theorem readLine_heading (parser : Parser) {sect : List Char} (short : sect.length ≤ 49)
    (clean : excludes [']', '\n', '\x00'] sect = true) (free : commentFree false sect = true) :
    parser.readLine (Line.heading sect).render = parser.read (.heading sect) := by
  have whole : excludes ['\x00'] ('[' :: (sect ++ [']'])) = true := by
    rw [excludes_cons, excludes_append, excludes_of_subset clean (by decide)]
    exact rfl
  have ends : rstrip (('[' :: sect) ++ [']']) = ('[' :: sect) ++ [']'] :=
    rstrip_append_of_rstrip (List.cons_ne_nil _ _) rfl
  have line := readLine_solid parser rfl (by decide) (by decide) ends whole
  have heading := readSection_plain { parser with lineno := parser.lineno + 1 } short clean free
  exact line.trans heading

theorem readPair_plain (parser : Parser) {name value : List Char} (nameEnds : rstrip name = name)
    (nameClean : excludes ['=', ':', '\n', '\x00'] name = true)
    (nameFree : commentFree false name = true) (valueStarts : lskip value = value)
    (valueEnds : rstrip value = value) (valueFree : commentFree false value = true) :
    parser.readPair (name ++ '=' :: value) =
      Parser.call { parser with prevName := truncated name } name value := by
  have found : findCharsOrComment ['=', ':'] false (name ++ '=' :: value) = (name, '=' :: value) :=
    findCharsOrComment_append_mark value List.mem_cons_self
      (excludes_of_subset nameClean (by decide)) nameFree
  have bare : uncommented value = value := by
    unfold uncommented
    rw [findCharsOrComment_of_excludes (excludes_nil value) valueFree]
  unfold Parser.readPair
  rw [found]
  simp only [beq_self_eq_true, Bool.true_or, if_true, nameEnds, valueStarts, bare, valueEnds]

theorem readLine_pair (parser : Parser) {name value : List Char}
    (starts : name.head?.any startsPair = true) (nameEnds : rstrip name = name)
    (nameClean : excludes ['=', ':', '\n', '\x00'] name = true)
    (nameFree : commentFree false name = true) (valueStarts : lskip value = value)
    (valueEnds : rstrip value = value) (valueClean : excludes ['\n', '\x00'] value = true)
    (valueFree : commentFree false value = true) :
    parser.readLine (Line.pair name value).render = parser.read (.pair name value) := by
  cases name with
  | nil => cases starts
  | cons first rest =>
      obtain ⟨hard, opens⟩ := Bool.and_eq_true_iff.mp starts
      have solid : isSpace first = false := (Bool.not_eq_true' (isSpace first)).mp hard
      have free {mark : Char} (listed : mark ∈ ['[', '#', ';', '\u00ef']) : first ≠ mark := by
        intro same
        rw [same, List.contains_iff_mem.mpr listed] at opens
        cases opens
      have whole : excludes ['\x00'] ((first :: rest) ++ '=' :: value) = true := by
        rw [excludes_append, excludes_of_subset nameClean (by decide), excludes_cons,
          excludes_of_subset valueClean (by decide)]
        exact rfl
      have ends : rstrip ((first :: rest) ++ '=' :: value) = (first :: rest) ++ '=' :: value :=
        rstrip_append_of_rstrip (List.cons_ne_nil _ _) (rstrip_mark valueEnds)
      have line := readLine_solid parser solid (free (by decide))
        ⟨free (by decide), free (by decide)⟩ ends whole
      rw [if_neg (fun opened => free (by decide) (eq_of_beq opened))] at line
      have pair := readPair_plain { parser with lineno := parser.lineno + 1 } nameEnds nameClean
        nameFree valueStarts valueEnds valueFree
      exact line.trans pair

/-! ### A whole file -/

theorem Line.Plain.readLine {line : Line} (plain : line.Plain) (parser : Parser) :
    parser.readLine line.render = parser.read line := by
  cases plain with
  | heading short clean free => exact readLine_heading parser short clean free
  | pair starts nameEnds nameClean nameFree valueStarts valueEnds valueClean valueFree _ =>
      exact readLine_pair parser starts nameEnds nameClean nameFree valueStarts valueEnds valueClean
        valueFree

theorem Line.Plain.fits {line : Line} (plain : line.Plain) :
    excludes ['\n'] line.text = true ∧ line.text.length ≤ 198 := by
  cases plain with
  | @heading sect short clean _ =>
      have inside : excludes ['\n'] (['['] ++ (sect ++ [']'])) = true := by
        rw [excludes_append, excludes_append, excludes_of_subset clean (by decide)]
        exact rfl
      constructor
      · exact inside
      · unfold Line.text
        rw [List.length_cons, List.length_append, List.length_singleton]
        omega
  | @pair name value _ _ nameClean _ _ _ valueClean _ short =>
      have inside : excludes ['\n'] (name ++ (['='] ++ value)) = true := by
        rw [excludes_append, excludes_append, excludes_of_subset nameClean (by decide),
          excludes_of_subset valueClean (by decide)]
        exact rfl
      constructor
      · exact inside
      · unfold Line.text
        rw [List.length_append, List.length_cons]
        omega

def written (lines : List Line) : List Char := lines.flatMap Line.render

theorem readBuffers_written {lines : List Line} (plain : ∀ line ∈ lines, line.Plain) :
    readBuffers [] (written lines) = lines.map Line.render := by
  induction lines with
  | nil => rfl
  | cons line rest ih =>
      obtain ⟨clean, short⟩ := (plain line List.mem_cons_self).fits
      have first : readBuffers [] (line.text ++ '\n' :: written rest) =
          ([] ++ (line.text ++ ['\n'])) :: readBuffers [] (written rest) :=
        readBuffers_line (written rest) clean (by rw [List.length_nil, Nat.zero_add]; exact short)
      have shape : written (line :: rest) = line.text ++ '\n' :: written rest := by
        unfold written
        rw [List.flatMap_cons, Line.render, List.append_assoc, List.singleton_append]
      rw [shape, first, ih (fun other member => plain other (List.mem_cons_of_mem _ member)),
        List.nil_append, List.map_cons]
      exact rfl

theorem iniParse_written {lines : List Line} (plain : ∀ line ∈ lines, line.Plain) :
    iniParse (written lines) = lines.foldl Parser.read {} := by
  unfold iniParse
  rw [readBuffers_written plain]
  generalize ({} : Parser) = parser
  induction lines generalizing parser with
  | nil => rfl
  | cons line rest ih =>
      rw [List.map_cons, List.foldl_cons, List.foldl_cons,
        (plain line List.mem_cons_self).readLine]
      exact ih (fun other member => plain other (List.mem_cons_of_mem _ member)) _

/-- The pairs of the lines, each with the section it stands in. -/
def callsOf (sect : List Char) : List Line → List Call
  | [] => []
  | .heading opened :: rest => callsOf opened rest
  | .pair name value :: rest => ⟨sect, name, value⟩ :: callsOf sect rest

theorem foldl_read (lines : List Line) (parser : Parser) :
    (lines.foldl Parser.read parser).error = parser.error ∧
      (lines.foldl Parser.read parser).calls = parser.calls ++ callsOf parser.sect lines := by
  induction lines generalizing parser with
  | nil => exact ⟨rfl, (List.append_nil _).symm⟩
  | cons line rest ih =>
      rw [List.foldl_cons]
      obtain ⟨error, calls⟩ := ih (parser.read line)
      rw [error, calls]
      cases line with
      | heading sect => exact ⟨rfl, rfl⟩
      | pair name value => exact ⟨rfl, List.append_assoc _ _ _⟩

theorem ofFile_written {lines : List Line} (plain : ∀ line ∈ lines, line.Plain) :
    INIReader.ofFile (some (written lines)) =
      { parseError := 0, values := (callsOf [] lines).foldl handle FiniteMap.empty } := by
  obtain ⟨error, calls⟩ := foldl_read lines {}
  rw [← iniParse_written plain] at error calls
  change INIReader.mk (iniParse (written lines)).error
    ((iniParse (written lines)).calls.foldl handle FiniteMap.empty) = _
  rw [error, calls]
  exact rfl

def sectionBehind (sect : List Char) : List Line → List Char
  | [] => sect
  | .heading opened :: rest => sectionBehind opened rest
  | .pair _ _ :: rest => sectionBehind sect rest

theorem callsOf_append (sect : List Char) (before after : List Line) :
    callsOf sect (before ++ after) =
      callsOf sect before ++ callsOf (sectionBehind sect before) after := by
  induction before generalizing sect with
  | nil => rfl
  | cons line rest ih =>
      cases line with
      | heading opened => exact ih opened
      | pair name value => exact congrArg (List.cons _) (ih sect)

section OnePair

variable {before after : List Line} {name value value' : List Char}

def keyBehind (before : List Line) (name : List Char) : String :=
  makeKey (String.ofList (sectionBehind [] before)) (String.ofList name)

theorem callsOf_without :
    (callsOf [] (before ++ .pair name value :: after)).filter
        (fun call => call.mapKey != keyBehind before name) =
      (callsOf [] (before ++ after)).filter
        (fun call => call.mapKey != keyBehind before name) := by
  have own :
      (Call.mapKey ⟨sectionBehind [] before, name, value⟩ != keyBehind before name) = false :=
    bne_self_eq_false _
  have first : callsOf (sectionBehind [] before) (.pair name value :: after) =
      ⟨sectionBehind [] before, name, value⟩ :: callsOf (sectionBehind [] before) after := rfl
  rw [callsOf_append, callsOf_append, List.filter_append, List.filter_append, first,
    List.filter_cons, own, if_neg Bool.false_ne_true]

/-- Without one of its pairs a file says the same under every other key. -/
theorem agreeExcept_without (plain : ∀ line ∈ before ++ .pair name value :: after, line.Plain) :
    Dependence.AgreeExcept (keyBehind before name)
      (INIReader.ofFile (some (written (before ++ .pair name value :: after)))).values
      (INIReader.ofFile (some (written (before ++ after)))).values := by
  have rest : ∀ line ∈ before ++ after, line.Plain := by
    intro line member
    apply plain
    rcases List.mem_append.mp member with earlier | later
    · exact List.mem_append_left _ earlier
    · exact List.mem_append_right _ (List.mem_cons_of_mem _ later)
  rw [ofFile_written plain, ofFile_written rest]
  exact agreeExcept_of_calls callsOf_without

theorem agreeExcept_rewritten
    (plain : ∀ line ∈ before ++ .pair name value :: after, line.Plain)
    (plain' : ∀ line ∈ before ++ .pair name value' :: after, line.Plain) :
    Dependence.AgreeExcept (keyBehind before name)
      (INIReader.ofFile (some (written (before ++ .pair name value :: after)))).values
      (INIReader.ofFile (some (written (before ++ .pair name value' :: after)))).values := by
  intro other different
  rw [agreeExcept_without plain other different, agreeExcept_without plain' other different]

end OnePair

def joinValue (known : Option String) (value : List Char) : Option String :=
  some (if (known.getD "").isEmpty then known.getD "" ++ String.ofList value
    else known.getD "" ++ "\n" ++ String.ofList value)

/-- The values of the pairs with the name in the section, up to case. -/
def valuesUnder (sect name : String) (calls : List Call) : List (List Char) :=
  (calls.filter (fun call => toLower (String.ofList call.sect) == toLower sect &&
    toLower (String.ofList call.name) == toLower name)).map Call.value

theorem foldl_handle {sect name : String} {calls : List Call}
    (keyed : ∀ call ∈ calls, call.mapKey = makeKey sect name ↔
      toLower (String.ofList call.sect) = toLower sect ∧
        toLower (String.ofList call.name) = toLower name)
    (values : FiniteMap.Map String String) :
    calls.foldl handle values (makeKey sect name) =
      (valuesUnder sect name calls).foldl joinValue (values (makeKey sect name)) := by
  induction calls generalizing values with
  | nil => rfl
  | cons call rest ih =>
      rw [List.foldl_cons, ih (fun other member => keyed other (List.mem_cons_of_mem _ member))]
      have own := keyed call List.mem_cons_self
      unfold valuesUnder
      by_cases same : call.mapKey = makeKey sect name
      · obtain ⟨sects, names⟩ := own.mp same
        rw [List.filter_cons_of_pos (by rw [sects, names, beq_self_eq_true, beq_self_eq_true]; rfl),
          List.map_cons, List.foldl_cons]
        congr 1
        unfold handle valueHandler
        rw [← same]
        exact FiniteMap.insert_self _ _ _
      · rw [List.filter_cons_of_neg, handle_of_ne (Ne.symm same)]
        intro matches'
        rw [Bool.and_eq_true, beq_iff_eq, beq_iff_eq] at matches'
        exact same (own.mpr matches')

theorem callsOf_unmarked {lines : List Line} (plain : ∀ line ∈ lines, line.Plain)
    (sect : List Char) : ∀ call ∈ callsOf sect lines, '=' ∉ (String.ofList call.name).toList := by
  induction lines generalizing sect with
  | nil => exact List.forall_mem_nil _
  | cons line rest ih =>
      have behind := ih (fun other member => plain other (List.mem_cons_of_mem _ member))
      have first := plain line List.mem_cons_self
      cases first with
      | heading => exact behind _
      | pair _ _ clean _ _ _ _ _ _ =>
          intro call member
          rcases List.mem_cons.mp member with rfl | later
          · rw [String.toList_ofList]
            intro marked
            exact notMem_of_excludes clean marked List.mem_cons_self
          · exact behind sect call later

/-- A file of plain lines is read without an error, and a name in a section gets
the values that the file gives to it, up to case and in their order, or the
default when there is none. -/
theorem written_file_is_read {lines : List Line} (plain : ∀ line ∈ lines, line.Plain)
    {name : String} (unmarked : '=' ∉ name.toList) (sect defaultValue : String) :
    (INIReader.ofFile (some (written lines))).parseError = 0 ∧
      (INIReader.ofFile (some (written lines))).get sect name defaultValue =
        ((valuesUnder sect name (callsOf [] lines)).foldl joinValue none).getD defaultValue := by
  rw [ofFile_written plain]
  refine ⟨rfl, ?_⟩
  unfold INIReader.get
  dsimp only
  rw [foldl_handle]
  · exact rfl
  · intro call member
    exact makeKey_inj (callsOf_unmarked plain [] call member) unmarked

/-- A port that is given in two places, and a proxy with a semicolon in its address. -/
def twoPorts : List Line :=
  [.heading "sip".toList, .pair "port".toList "5060".toList,
    .heading "other".toList, .pair "proxy".toList "sip:a@b;lr".toList,
    .heading "SIP".toList, .pair "Port".toList "5062".toList]

theorem twoPorts_plain : ∀ line ∈ twoPorts, line.Plain := by
  have heading {sect : List Char} (shape : sect.length ≤ 49 ∧
      excludes [']', '\n', '\x00'] sect = true ∧ commentFree false sect = true) :
      Line.Plain (.heading sect) :=
    .heading shape.1 shape.2.1 shape.2.2
  have pair {name value : List Char} (starts : name.head?.any startsPair = true ∧
      rstrip name = name ∧ excludes ['=', ':', '\n', '\x00'] name = true ∧
      commentFree false name = true) (ends : lskip value = value ∧ rstrip value = value ∧
      excludes ['\n', '\x00'] value = true ∧ commentFree false value = true ∧
      name.length + value.length ≤ 197) : Line.Plain (.pair name value) :=
    .pair starts.1 starts.2.1 starts.2.2.1 starts.2.2.2 ends.1 ends.2.1 ends.2.2.1 ends.2.2.2.1
      ends.2.2.2.2
  unfold twoPorts
  simp only [List.forall_mem_cons]
  exact ⟨heading (by decide), pair (by decide) (by decide), heading (by decide),
    pair (by decide) (by decide), heading (by decide), pair (by decide) (by decide),
    List.forall_mem_nil _⟩

theorem joined_port_is_read :
    (INIReader.ofFile (some (written twoPorts))).get "sip" "port" "" = "5060\n5062" ∧
      (INIReader.ofFile (some (written twoPorts))).get "other" "proxy" "" = "sip:a@b;lr" := by
  have read (sect name : String) (unmarked : '=' ∉ name.toList) :=
    (written_file_is_read twoPorts_plain unmarked sect "").2
  rw [read "sip" "port" (by decide), read "other" "proxy" (by decide)]
  decide

end Tg2Sip.Config
