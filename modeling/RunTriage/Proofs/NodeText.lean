import RunTriage.Proofs.MarkerShapes
import RunTriage.Proofs.NodeIdentity
import RunTriage.Proofs.PatternGreed
import RunTriage.Proofs.PatternWords
import RunTriage.Text.Search

/-!
Contract: the identity of a test in a line, as it is displayed and as it is read back.

Owns:
- the words that a node line starts with, one of which is every displayed identity;
- where a node line is cut into the parts that its groups take;
- `node?_eq_some_iff`, by which a line tells exactly the identity that it starts with, and displayed
  identities are read back as they are;
- a second line about a test, which tells the same test.

Does not own: what becomes of the lines that start with an identity, which is in
`RunTriage.Proofs.NodeLines`.
-/

namespace RunTriage.Session

open Pattern

/-! ## Characters -/

theorem contains_pathChars_iff {char : Char} :
    pathChars.contains char = true ↔ IsPathChar char := by
  have isMark (mark : Char) : char = mark ↔ char.toNat = mark.toNat := Char.toNat_inj.symm
  simp only [IsPathChar, isMark, CharSet.contains, pathChars, CharSet.word, CharSet.rangesContain]
  generalize CharSet.rangesContain CharSet.wordBeyondAscii char.toNat = beyond
  have slash : '/'.toNat = 47 := rfl
  have dash : '-'.toNat = 45 := rfl
  have dot : '.'.toNat = 46 := rfl
  rw [slash, dash, dot]
  split_ifs <;> simp <;> omega

theorem contains_except_iff {char other : Char} :
    (except char).contains other = true ↔ other ≠ char := by
  have valid : other.toNat < 0xd800 ∨ 0xdfff < other.toNat ∧ other.toNat < 0x110000 := other.valid
  have above : CharSet.rangesContain (CharSet.gaps (char.toNat + 1) []) other.toNat = true ↔
      char.toNat < other.toNat := by
    rw [CharSet.gaps, CharSet.greatest]
    split_ifs <;> simp [CharSet.rangesContain] <;> omega
  rw [ne_eq, ← Char.toNat_inj, except, CharSet.complement, CharSet.singleton, CharSet.contains,
    CharSet.gaps]
  split_ifs
  · rw [CharSet.rangesContain]
    simp [above]
    omega
  · rw [above]
    omega

/-! ## The words of node lines -/

/-- A file: any path that ends in `.py`. -/
def filePattern : Pattern := concat [oneOrMore (charIn pathChars), .text ".py"]

/-- A parametrization with its brackets. -/
def brackets (index : Nat) : Pattern :=
  concat [literal '[', .group index (zeroOrMore (charIn (except ']'))), literal ']']

/-- What stands at the start of a node line. -/
def identityPattern : Pattern :=
  concat [.group 1 filePattern, .text "::", .group 2 (oneOrMore (charIn pathChars)), bracketed 3]

theorem nodePattern_eq : nodePattern = .sequence lineStart identityPattern := rfl

theorem bracketed_eq (index : Nat) : bracketed index = optional (brackets index) := rfl

section Words

variable {word : List Char}

theorem mem_words_path {text : String} :
    text.toList ∈ (oneOrMore (charIn pathChars)).words ↔ IsPath text := by
  rw [mem_words_oneOrMore_charIn, IsPath]
  simp only [contains_pathChars_iff, ne_eq, String.toList_eq_nil_iff]

theorem mem_words_file {text : String} :
    text.toList ∈ filePattern.words ↔ ∃ stem, IsPath stem ∧ text = stem ++ ".py" := by
  rw [filePattern, mem_words_concat_cons]
  simp only [concat_singleton, mem_words_text]
  constructor
  · rintro ⟨stem, isStem, _, rfl, whole⟩
    refine ⟨String.ofList stem, mem_words_path.mp (by rwa [String.toList_ofList]), ?_⟩
    rw [← String.toList_inj, whole]
    simp
  · rintro ⟨stem, isStem, rfl⟩
    exact ⟨stem.toList, mem_words_path.mpr isStem, _, rfl, String.toList_append⟩

theorem mem_words_brackets {index : Nat} :
    word ∈ (brackets index).words ↔ ∃ param, ']' ∉ param ∧ word = '[' :: (param ++ [']']) := by
  rw [brackets, mem_words_concat_cons]
  simp only [mem_words_concat_cons, concat_singleton, mem_words_literal, mem_words_group,
    mem_words_zeroOrMore_charIn, contains_except_iff]
  constructor
  · rintro ⟨_, rfl, _, ⟨param, noClose, _, rfl, rfl⟩, rfl⟩
    exact ⟨param, fun member => noClose _ member rfl, rfl⟩
  · rintro ⟨param, noClose, rfl⟩
    exact ⟨_, rfl, _, ⟨param, fun char member same => noClose (same ▸ member), _, rfl, rfl⟩, rfl⟩

/-- A valid identity is displayed as a word that a node line starts with. -/
theorem display_mem_words {id : NodeId} (valid : id.IsValid) :
    id.display.toList ∈ identityPattern.words := by
  have isBracket : id.bracket ∈ (bracketed 3).words := by
    rw [bracketed_eq, mem_words_optional, mem_words_brackets, NodeId.bracket]
    cases isParam : id.param with
    | none => exact .inl rfl
    | some param => exact .inr ⟨param.toList, valid.param param isParam, rfl⟩
  have behindColons : id.name.toList ++ id.bracket ∈
      (concat [.group 2 (oneOrMore (charIn pathChars)), bracketed 3]).words :=
    mem_words_concat_cons.mpr ⟨_, mem_words_path.mpr valid.name, _, isBracket, rfl⟩
  rw [identityPattern, mem_words_concat_cons]
  refine ⟨_, mem_words_file.mpr valid.file, _, ?_, id.toList_display⟩
  exact mem_words_concat_cons.mpr ⟨_, mem_words_text.mpr rfl, _, behindColons, rfl⟩

end Words

/-- A line that starts with a valid identity is a node line. -/
theorem isNode_of_isPrefix {text : String} {id : NodeId} (valid : id.IsValid)
    (isPrefix : id.display.toList <+: text.toList) : isNode text = true := by
  have start : Spans (subjectOf text) lineStart 0 0 := spans_lineStart_iff.mpr ⟨rfl, rfl⟩
  have isWord := display_mem_words valid
  have identity : Spans (subjectOf text) identityPattern 0 (0 + id.display.toList.length) :=
    (spans_iff_reads (by decide)).mpr ⟨_, isWord, rfl, isPrefix⟩
  exact isMatch_iff.mpr ⟨0, Nat.zero_le _, _, .sequence start identity⟩

/-! ## Parts of a node line -/

section Parts

variable {subject : Subject} {start stop : Nat} {ends : List Nat} {path : Path}

theorem follows_lineStart (follows : Follows subject lineStart start path) :
    start = 0 ∧ path = .stay 0 := by
  cases follows with
  | check holds =>
    obtain rfl : start = 0 := by simpa [Condition.holds] using holds
    exact ⟨rfl, rfl⟩

theorem follows_literal {char : Char} (follows : Follows subject (literal char) start path) :
    subject[start]? = some char ∧ path = .stay (start + 1) := by
  have isLiteral := (spans_literal_iff.mp follows.spans).1
  cases follows
  exact ⟨isLiteral, rfl⟩

theorem follows_colons (follows : Follows subject (Pattern.text "::") start path) :
    Subject.slice subject start (start + 2) = "::" ∧ path = .stay (start + 2) := by
  have isPair : Pattern.text "::" = concat [literal ':', literal ':'] := rfl
  rw [isPair, follows_concat_cons, concat_singleton] at follows
  obtain ⟨_, _, isFirst, isSecond, rfl⟩ := follows
  obtain ⟨isColon, rfl⟩ := follows_literal isFirst
  obtain ⟨isSecondColon, rfl⟩ := follows_literal isSecond
  change subject[start + 1]? = some ':' at isSecondColon
  refine ⟨?_, rfl⟩
  rw [← Subject.slice_append (Nat.le_add_right start 1) (Nat.le_add_right (start + 1) 1),
    Subject.slice_literal isColon, Subject.slice_literal isSecondColon]
  rfl

theorem follows_group {index : Nat} {body : Pattern} (groupless : body.isGroupless = true)
    (follows : Follows subject (.group index body) start path) :
    Spans subject body start path.stop ∧ path = ⟨path.stop, [⟨index, start, path.stop⟩]⟩ := by
  cases follows with
  | group inner =>
    refine ⟨inner.spans, ?_⟩
    rw [inner.groups_eq_nil groupless]
    rfl

/-- What stands behind a name: no parametrization, or one that is taken without its brackets. -/
inductive BracketAt (subject : Subject) (index start : Nat) : Path → Prop
  | absent : (∀ stop, ¬Spans subject (brackets index) start stop) →
      BracketAt subject index start (.stay start)
  | present {close : Nat} : subject[start]? = some '[' →
      Spans subject (zeroOrMore (charIn (except ']'))) (start + 1) close →
      subject[close]? = some ']' →
      BracketAt subject index start ⟨close + 1, [⟨index, start + 1, close⟩]⟩

theorem bracketAt_of_prefers {index : Nat}
    (prefers : Prefers subject (bracketed index) start ends path)
    (anywhere : ∀ position ≤ subject.size, position ∈ ends) (inside : start ≤ subject.size) :
    BracketAt subject index start path := by
  by_cases takes : ∃ stop, Spans subject (brackets index) start stop
  · obtain ⟨stop, spans⟩ := takes
    have follows := (prefers.of_optional (anywhere stop (spans.le_size inside)) spans).follows
    simp only [follows_concat_cons, concat_singleton] at follows
    obtain ⟨_, _, isOpening, ⟨param, _, isParam, isClosing, rfl⟩, rfl⟩ := follows
    obtain ⟨opens, rfl⟩ := follows_literal isOpening
    obtain ⟨closes, rfl⟩ := follows_literal isClosing
    obtain ⟨covers, isGroup⟩ := follows_group rfl isParam
    rw [isGroup]
    exact .present opens covers closes
  · have follows := prefers.follows
    rw [bracketed_eq] at follows
    cases follows with
    | stop => exact .absent fun stop spans => takes ⟨stop, spans⟩
    | may _ inside _ => exact absurd ⟨_, inside.spans⟩ takes

/-- Where a node line is cut: behind the file, behind the name and behind what is in brackets. -/
structure IsCut (subject : Subject) (fileEnd nameEnd : Nat) (bracket : Path) : Prop where
  file : Spans subject filePattern 0 fileEnd
  colons : Subject.slice subject fileEnd (fileEnd + 2) = "::"
  name : Spans subject (oneOrMore (charIn pathChars)) (fileEnd + 2) nameEnd
  nameStops : ∀ char, subject[nameEnd]? = some char → ¬IsPathChar char
  bracket : BracketAt subject 3 nameEnd bracket

theorem exists_isCut (prefers : Prefers subject nodePattern start (positions subject) path) :
    ∃ fileEnd nameEnd bracket, IsCut subject fileEnd nameEnd bracket ∧
      path = ⟨bracket.stop, [⟨1, 0, fileEnd⟩, ⟨2, fileEnd + 2, nameEnd⟩] ++ bracket.groups⟩ := by
  rw [nodePattern_eq, prefers_sequence_iff, identityPattern] at prefers
  simp only [prefers_concat_cons, concat_singleton] at prefers
  obtain ⟨_, _, isStart, ⟨file, _, isFile, ⟨_, _, isColons, ⟨_, bracket, isName, isBracket, rfl⟩,
    rfl⟩, rfl⟩, rfl⟩ := prefers
  obtain ⟨rfl, rfl⟩ := follows_lineStart isStart.follows
  obtain ⟨fileSpans, fileGroup⟩ := follows_group rfl isFile.follows
  obtain ⟨colons, rfl⟩ := follows_colons isColons.follows
  obtain ⟨_, nameGroup⟩ := follows_group rfl isName.follows
  obtain ⟨name, prefersName, rfl⟩ := prefers_group_iff.mp isName
  have anywhere : ∀ position ≤ subject.size,
      position ∈ startsInto subject (bracketed 3) (positions subject) :=
    fun position inside => mem_startsInto_positions.mpr ⟨inside, position, .stop⟩
  have nameInside : name.stop ≤ subject.size :=
    (mem_startsInto_positions.mp isBracket.leads).1
  refine ⟨file.stop, name.stop, bracket, ⟨fileSpans, colons, prefersName.spans, ?_, ?_⟩, ?_⟩
  · intro char isChar isPath
    have outside := prefersName.contains_at_stop anywhere isChar
    rw [contains_pathChars_iff.mpr isPath] at outside
    cases outside
  · exact bracketAt_of_prefers isBracket (fun _ => mem_positions.mpr) nameInside
  · rw [nameGroup, fileGroup]
    rfl

/-- The identity whose parts stand between the cuts. -/
def identityAt (subject : Subject) (fileEnd nameEnd : Nat) (bracket : Path) : NodeId where
  file := Subject.slice subject 0 fileEnd
  name := Subject.slice subject (fileEnd + 2) nameEnd
  param := bracket.groups.head?.map fun span => Subject.slice subject span.start span.stop

namespace IsCut

variable {fileEnd nameEnd : Nat} {bracket : Path}

theorem isValid (isCut : IsCut subject fileEnd nameEnd bracket) :
    (identityAt subject fileEnd nameEnd bracket).IsValid where
  file := mem_words_file.mp (mem_words_slice rfl isCut.file)
  name := mem_words_path.mp (mem_words_slice rfl isCut.name)
  param := by
    intro param isParam
    cases isCut.bracket with
    | absent => cases isParam
    | present _ covers _ =>
      cases isParam
      have areInside := mem_words_zeroOrMore_charIn.mp (mem_words_slice rfl covers)
      exact fun member => contains_except_iff.mp (areInside _ member) rfl

theorem display (isCut : IsCut subject fileEnd nameEnd bracket) :
    (identityAt subject fileEnd nameEnd bracket).display =
      Subject.slice subject 0 bracket.stop := by
  have uptoName : Subject.slice subject 0 fileEnd ++ "::" ++
      Subject.slice subject (fileEnd + 2) nameEnd = Subject.slice subject 0 nameEnd := by
    rw [← isCut.colons, Subject.slice_append (Nat.zero_le _) (Nat.le_add_right _ 2),
      Subject.slice_append (Nat.zero_le _) isCut.name.le]
  cases isCut.bracket with
  | absent => exact uptoName
  | @present close opens covers closes =>
    have opening : Subject.slice subject nameEnd (nameEnd + 1) = "[" := Subject.slice_literal opens
    have closing : Subject.slice subject close (close + 1) = "]" := Subject.slice_literal closes
    have ahead : nameEnd + 1 ≤ close := covers.le
    show Subject.slice subject 0 fileEnd ++ "::" ++ Subject.slice subject (fileEnd + 2) nameEnd ++
      "[" ++ Subject.slice subject (nameEnd + 1) close ++ "]" = Subject.slice subject 0 (close + 1)
    rw [uptoName, ← opening, ← closing, Subject.slice_append (Nat.zero_le _) (Nat.le_succ _),
      Subject.slice_append (Nat.zero_le _) ahead,
      Subject.slice_append (Nat.zero_le _) (Nat.le_succ close)]

theorem endsBefore (isCut : IsCut subject fileEnd nameEnd bracket) :
    (identityAt subject fileEnd nameEnd bracket).EndsBefore
      (subject.toList.drop bracket.stop) := by
  intro noParam
  cases isCut.bracket with
  | present => cases noParam
  | absent isAbsent =>
    constructor
    · intro char isHead
      rw [List.head?_drop, Array.getElem?_toList] at isHead
      exact isCut.nameStops char isHead
    · intro later isRest closes
      obtain ⟨param, rest, isLater, noClose⟩ := List.eq_append_cons_of_mem closes
      have isWord : '[' :: (param ++ [']']) ∈ (brackets 3).words :=
        mem_words_brackets.mpr ⟨param, noClose, rfl⟩
      have isPrefix : '[' :: (param ++ [']']) <+: subject.toList.drop nameEnd := by
        refine ⟨rest, ?_⟩
        rw [show subject.toList.drop nameEnd = '[' :: later from isRest, isLater]
        simp
      exact isAbsent _ ((spans_iff_reads rfl).mpr ⟨_, isWord, rfl, isPrefix⟩)

theorem groups (isCut : IsCut subject fileEnd nameEnd bracket) {found : Match}
    (isSubject : found.subject = subject)
    (taken : found.groups = [⟨1, 0, fileEnd⟩, ⟨2, fileEnd + 2, nameEnd⟩] ++ bracket.groups) :
    found.group? 1 = some (identityAt subject fileEnd nameEnd bracket).file ∧
      found.group? 2 = some (identityAt subject fileEnd nameEnd bracket).name ∧
        found.group? 3 = (identityAt subject fileEnd nameEnd bracket).param := by
  cases isCut.bracket with
  | absent => simp [Match.group?, taken, isSubject, identityAt, Path.stay]
  | present => simp [Match.group?, taken, isSubject, identityAt]

end IsCut

end Parts

/-! ## What a node line tells -/

theorem isSome_node? (text : String) : (node? text).isSome = isNode text := by
  rw [node?, Option.isSome_map, isSome_firstMatch?]
  rfl

/-- The groups of the first match take the parts of an identity: file, name and parametrization. -/
def Tells (text : String) (id : NodeId) : Prop :=
  ∃ found, nodePattern.firstMatch? text = some found ∧
    found.group? 1 = some id.file ∧ found.group? 2 = some id.name ∧ found.group? 3 = id.param

theorem Tells.node?_eq {text : String} {id : NodeId} (tells : Tells text id) :
    node? text = some id := by
  obtain ⟨found, isFound, file, name, param⟩ := tells
  rw [node?, isFound, Option.map_some, file, name, param]
  rfl

/-- A node line starts with the identity that it tells, and what follows is no part of it. -/
theorem exists_tells {text : String} (isNode : isNode text = true) :
    ∃ id rest, Tells text id ∧ id.IsValid ∧ id.EndsBefore rest ∧
      text.toList = id.display.toList ++ rest := by
  have someMatch : (nodePattern.firstMatch? text).isSome = true := by
    rw [isSome_firstMatch?]
    exact isNode
  obtain ⟨found, isFound⟩ := Option.isSome_iff_exists.mp someMatch
  have isNext := isNext_of_firstMatch? isFound
  obtain ⟨fileEnd, nameEnd, bracket, isCut, isPath⟩ := exists_isCut isNext.prefers
  refine ⟨_, _, ⟨found, isFound, isCut.groups isNext.isSubject (congrArg Path.groups isPath)⟩,
    isCut.isValid, isCut.endsBefore, ?_⟩
  rw [isCut.display, Subject.slice, String.toList_ofList]
  exact (List.take_append_drop bracket.stop text.toList).symm

theorem node?_eq_some_iff_tells {text : String} {id : NodeId} :
    node? text = some id ↔ Tells text id := by
  constructor
  · intro isTold
    have isNode : isNode text = true := by
      rw [← isSome_node?, isTold]
      rfl
    obtain ⟨other, _, tells, _⟩ := exists_tells isNode
    rw [← Option.some.inj (tells.node?_eq.symm.trans isTold)]
    exact tells
  · exact Tells.node?_eq

/-- A line tells an identity exactly if it starts with that identity as it is displayed, and what
stands behind it is no part of it. -/
theorem node?_eq_some_iff {text : String} {id : NodeId} :
    node? text = some id ↔
      id.IsValid ∧ ∃ rest, id.EndsBefore rest ∧ text.toList = id.display.toList ++ rest := by
  constructor
  · intro isTold
    have isNode : isNode text = true := by
      rw [← isSome_node?, isTold]
      rfl
    obtain ⟨other, rest, tells, valid, ends, isText⟩ := exists_tells isNode
    obtain rfl := Option.some.inj (tells.node?_eq.symm.trans isTold)
    exact ⟨valid, rest, ends, isText⟩
  · rintro ⟨valid, rest, ends, isText⟩
    have isNode := isNode_of_isPrefix valid ⟨rest, isText.symm⟩
    obtain ⟨other, later, tells, otherValid, otherEnds, isOther⟩ := exists_tells isNode
    have same : id = other := NodeId.eq_of_display_append valid otherValid ends otherEnds
      (isText.symm.trans isOther)
    rw [same, tells.node?_eq]

/-! ## Reading back -/

theorem node?_display_append {id : NodeId} (valid : id.IsValid) {behind : String}
    (apart : Text.startsWith behind " " = true) : node? (id.display ++ behind) = some id := by
  obtain ⟨rest, isBehind⟩ := List.isPrefixOf_iff_prefix.mp apart
  refine node?_eq_some_iff.mpr ⟨valid, behind.toList, ?_, String.toList_append⟩
  rw [← isBehind]
  exact id.endsBefore_space rest

/-- A second line about a test, which starts with its identity and a space, tells the same test. -/
theorem node?_of_startsWith {text later : String} {id : NodeId} (isTold : node? text = some id)
    (startsWith : Text.startsWith later (id.display ++ " ") = true) : node? later = some id := by
  obtain ⟨valid, _⟩ := node?_eq_some_iff.mp isTold
  obtain ⟨rest, isLater⟩ := List.isPrefixOf_iff_prefix.mp startsWith
  refine node?_eq_some_iff.mpr ⟨valid, ' ' :: rest, id.endsBefore_space rest, ?_⟩
  rw [← isLater, String.toList_append, List.append_assoc]
  rfl

/-- A valid identity is read back from its displayed form with a space behind it. What a node line
tells is a valid identity, and the line starts with its displayed form. -/
theorem identity_survives_display :
    (∀ (id : NodeId) (behind : String), id.IsValid → Text.startsWith behind " " = true →
      Tells (id.display ++ behind) id) ∧
    ∀ message : String, isNode message = true →
      ∃ id, Tells message id ∧ id.IsValid ∧ Text.startsWith message id.display = true := by
  constructor
  · intro id behind valid apart
    exact node?_eq_some_iff_tells.mp (node?_display_append valid apart)
  · intro message isNode
    obtain ⟨id, rest, tells, valid, _, isMessage⟩ := exists_tells isNode
    have isPrefix : id.display.toList <+: message.toList := ⟨rest, isMessage.symm⟩
    exact ⟨id, tells, valid, List.isPrefixOf_iff_prefix.mpr isPrefix⟩

/-- An identity whose parts look like other identities. -/
def nestedIdentity : NodeId := ⟨"tests/a.py/b.py", "c.py-test.py", some "d.py::test_e[f"⟩

theorem identity_survives_display_nested :
    nestedIdentity.IsValid ∧ Text.startsWith " FAILED [ 50%] g.py::test_h[i]" " " = true ∧
      Tells (nestedIdentity.display ++ " FAILED [ 50%] g.py::test_h[i]") nestedIdentity ∧
      isNode "tests/a.py::test_b[c] d.py::test_e PASSED [100%]" = true ∧
      ∃ id, Tells "tests/a.py::test_b[c] d.py::test_e PASSED [100%]" id ∧ id.IsValid ∧
        Text.startsWith "tests/a.py::test_b[c] d.py::test_e PASSED [100%]" id.display = true := by
  have isFile : IsPath "tests/a.py/b" := by decide +kernel
  have isName : IsPath nestedIdentity.name := by decide +kernel
  have valid : nestedIdentity.IsValid :=
    ⟨⟨"tests/a.py/b", isFile, by decide +kernel⟩, isName, by decide +kernel⟩
  have apart : Text.startsWith " FAILED [ 50%] g.py::test_h[i]" " " = true := by decide +kernel
  have isNodeLine : isNode "tests/a.py::test_b[c] d.py::test_e PASSED [100%]" = true := by
    decide +kernel
  exact ⟨valid, apart, identity_survives_display.1 nestedIdentity _ valid apart, isNodeLine,
    identity_survives_display.2 _ isNodeLine⟩

end RunTriage.Session
