import RunTriage.Proofs.Evidence
import RunTriage.Proofs.ReportSections

/-!
Contract: every section of a test has a path of its own.

Owns:
- `TestRecord.paths`, the paths of the sections of a record;
- `WellNamed`, keys and names that a slash between them keeps apart;
- `Addressable`, what a look-up by path finds: the lines of each section under its path, nothing
  under any other path, and so all lines of the record, each once;
- the names in the headers of reports and sections, which have no slash.

Does not own: which lines a section has, which is in `RunTriage.Proofs.ReportSections`.
-/

namespace RunTriage

namespace TestRecord

/-! ## Paths of sections -/

/-- The path of a section of a detail report. -/
def sectionPath (key name : String) : String := key ++ "/" ++ name

/-- The paths of the sections of a record. -/
def paths (record : TestRecord) : List String :=
  "msgs" :: ((record.teardown.map fun _ => "teardown").toList ++
    record.details.flatMap fun entry => entry.2.map fun part => sectionPath entry.1 part.name)

/-- A look-up by path finds the sections of a record, and all that the record holds. -/
structure Addressable (record : TestRecord) : Prop where
  messages : record.section? "msgs" = some record.messages
  teardown : record.section? "teardown" = record.teardown
  details : ∀ entry ∈ record.details, ∀ part ∈ entry.2,
    record.section? (sectionPath entry.1 part.name) = some part.lines
  /-- No other path leads anywhere. -/
  others : ∀ path, path ∉ record.paths → record.section? path = none
  /-- No two sections have the same path. -/
  distinct : record.paths.Nodup
  /-- The lines of a record are those that its paths lead to. -/
  reachable : record.heldLines = record.paths.flatMap fun path => (record.section? path).getD []
  lineCount : record.lineCount =
    total (record.paths.map fun path => ((record.section? path).getD []).length)

/-- A text without a slash. -/
def Slashless (text : String) : Prop := '/' ∉ text.toList

instance (text : String) : Decidable (Slashless text) :=
  inferInstanceAs (Decidable ('/' ∉ text.toList))

theorem Slashless.append {left right : String} (leftSlashless : Slashless left)
    (rightSlashless : Slashless right) : Slashless (left ++ right) := by
  rw [Slashless, String.toList_append]
  exact List.not_mem_append leftSlashless rightSlashless

/-- The keys and names of detail reports that make up paths without ambiguity. -/
structure WellNamed (details : SortedTable (List Section)) : Prop where
  ascending : details.Ascending
  keys : ∀ entry ∈ details, Slashless entry.1
  names : ∀ entry ∈ details, ∀ part ∈ entry.2, Slashless part.name
  distinct : ∀ entry ∈ details, (entry.2.map Section.name).Nodup

section Paths

variable {record : TestRecord} {key name path : String}

theorem splitOn_sectionPath (keySlashless : Slashless key) (nameSlashless : Slashless name) :
    (sectionPath key name).splitOn "/" = [key, name] :=
  Text.splitOn_pair keySlashless nameSlashless

theorem splitOn_slashless (slashless : Slashless path) : path.splitOn "/" = [path] :=
  Text.splitOn_of_not_mem slashless

theorem not_slashless_sectionPath (key name : String) : ¬ Slashless (sectionPath key name) := by
  simp [Slashless, sectionPath]

theorem section?_msgs (record : TestRecord) : record.section? "msgs" = some record.messages := by
  have parts : "msgs".splitOn "/" = ["msgs"] := splitOn_slashless (by decide)
  simp only [section?, parts, if_true]

theorem section?_teardown (record : TestRecord) :
    record.section? "teardown" = record.teardown := by
  have parts : "teardown".splitOn "/" = ["teardown"] := splitOn_slashless (by decide)
  have different : "teardown" ≠ "msgs" := by decide
  simp only [section?, parts, different, if_false, if_true]

theorem find?_of_mem_distinct {parts : List Section} {part : Section}
    (distinct : (parts.map Section.name).Nodup) (member : part ∈ parts) :
    (parts.find? fun other => other.name = part.name) = some part := by
  cases found : parts.find? fun other => other.name = part.name with
  | none =>
    have differs := List.find?_eq_none.mp found part member
    simp at differs
  | some other =>
    have sameName : other.name = part.name := by simpa using List.find?_some found
    rw [List.inj_on_of_nodup_map distinct (List.mem_of_find?_eq_some found) member sameName]

theorem section?_sectionPath (named : WellNamed record.details) {entry : String × List Section}
    (isEntry : entry ∈ record.details) {part : Section} (isPart : part ∈ entry.2) :
    record.section? (sectionPath entry.1 part.name) = some part.lines := by
  have parts : (sectionPath entry.1 part.name).splitOn "/" = [entry.1, part.name] :=
    splitOn_sectionPath (named.keys entry isEntry) (named.names entry isEntry part isPart)
  have isKey : record.details.find? entry.1 = some entry.2 :=
    named.ascending.find?_of_mem isEntry
  simp only [section?, parts, isKey, find?_of_mem_distinct (named.distinct entry isEntry) isPart,
    Option.map_some]

/-- A path that leads to a section is the path of this section, whatever the names are. -/
theorem mem_paths_of_section? {lines : List Line} (found : record.section? path = some lines) :
    path ∈ record.paths := by
  have whole : ['/'].intercalate ((path.splitOn "/").map String.toList) = path.toList :=
    Text.intercalate_splitOn path '/'
  unfold section? at found
  split at found
  · rename_i single isSingle
    rw [isSingle] at whole
    obtain rfl : single = path := String.toList_inj.mp (by simpa using whole)
    split at found
    · rename_i isMessages
      exact isMessages ▸ List.mem_cons_self
    · split at found
      · rename_i isTeardown
        refine List.mem_cons_of_mem _ (List.mem_append_left _ ?_)
        rw [found, isTeardown]
        exact List.mem_singleton_self _
      · cases found
  · rename_i key name isPair
    rw [isPair] at whole
    obtain rfl : sectionPath key name = path :=
      String.toList_inj.mp (by simpa [sectionPath] using whole)
    split at found
    · cases found
    · rename_i sections isKey
      obtain ⟨part, isPart, rfl⟩ := Option.map_eq_some_iff.mp found
      have sameName : part.name = name := by simpa using List.find?_some isPart
      refine List.mem_cons_of_mem _ (List.mem_append_right _ (List.mem_flatMap.mpr
        ⟨(key, sections), SortedTable.mem_of_find? isKey, List.mem_map.mpr
          ⟨part, List.mem_of_find?_eq_some isPart, ?_⟩⟩))
      rw [sameName]
  · cases found

theorem sectionPath_inj {otherKey otherName : String} (keySlashless : Slashless key)
    (nameSlashless : Slashless name) (otherKeySlashless : Slashless otherKey)
    (otherNameSlashless : Slashless otherName)
    (same : sectionPath key name = sectionPath otherKey otherName) :
    key = otherKey ∧ name = otherName := by
  have parts := congrArg (fun path => path.splitOn "/") same
  simpa only [splitOn_sectionPath keySlashless nameSlashless,
    splitOn_sectionPath otherKeySlashless otherNameSlashless, List.cons.injEq, and_true] using parts

/-! ## All paths of a record -/

theorem WellNamed.nodup_sectionPaths {details : SortedTable (List Section)}
    (named : WellNamed details) : (details.flatMap fun entry =>
      entry.2.map fun part => sectionPath entry.1 part.name).Nodup := by
  refine List.nodup_flatMap.mpr ⟨fun entry isEntry => ?_, ?_⟩
  · have distinct := named.distinct entry isEntry
    refine List.Nodup.map_on (fun part isPart other isOther same => ?_) distinct.of_map
    have sameName := (sectionPath_inj (named.keys entry isEntry)
      (named.names entry isEntry part isPart) (named.keys entry isEntry)
      (named.names entry isEntry other isOther) same).2
    exact List.inj_on_of_nodup_map distinct isPart isOther sameName
  · refine named.ascending.imp_of_mem fun {entry later} isEntry isLater isLess => ?_
    intro path inEntry inLater
    obtain ⟨part, isPart, rfl⟩ := List.mem_map.mp inEntry
    obtain ⟨other, isOther, same⟩ := List.mem_map.mp inLater
    have sameKey := (sectionPath_inj (named.keys later isLater)
      (named.names later isLater other isOther) (named.keys entry isEntry)
      (named.names entry isEntry part isPart) same).1
    exact String.ne_of_lt isLess sameKey.symm

theorem nodup_paths (named : WellNamed record.details) : record.paths.Nodup := by
  -- A path of a detail report has a slash, unlike those of the messages and of the teardown.
  have slashed (path : String) (member : path ∈ record.details.flatMap fun entry =>
      entry.2.map fun part => sectionPath entry.1 part.name) : ¬ Slashless path := by
    obtain ⟨entry, _, inEntry⟩ := List.mem_flatMap.mp member
    obtain ⟨part, _, rfl⟩ := List.mem_map.mp inEntry
    exact not_slashless_sectionPath entry.1 part.name
  have teardowns (path : String)
      (member : path ∈ (record.teardown.map fun _ => "teardown").toList) : path = "teardown" := by
    obtain ⟨_, _, rfl⟩ := Option.map_eq_some_iff.mp (Option.mem_toList.mp member)
    rfl
  refine List.nodup_cons.mpr ⟨fun member => ?_, List.nodup_append.mpr
    ⟨?_, named.nodup_sectionPaths, fun path isTeardown other isSection same => ?_⟩⟩
  · rcases List.mem_append.mp member with isTeardown | isSection
    · exact absurd (teardowns _ isTeardown) (by decide)
    · exact slashed _ isSection (by decide)
  · cases record.teardown
    · exact List.nodup_nil
    · exact List.nodup_singleton _
  · rw [← same, teardowns path isTeardown] at isSection
    exact slashed _ isSection (by decide)

theorem lineCount_eq (record : TestRecord) : record.lineCount = record.heldLines.length := by
  have details : total (record.details.values.map fun sections =>
      total (sections.map fun part => part.lines.length)) =
        (record.details.flatMap fun entry => entry.2.flatMap Section.lines).length := by
    rw [SortedTable.values, List.map_map]
    exact Session.total_map_eq_length fun entry _ => Session.total_map_eq_length fun part _ => rfl
  rw [lineCount, heldLines, details, List.length_append, List.length_append]

theorem heldLines_eq (named : WellNamed record.details) :
    record.heldLines = record.paths.flatMap fun path => (record.section? path).getD [] := by
  have teardown : ((record.teardown.map fun _ => "teardown").toList.flatMap fun path =>
      (record.section? path).getD []) = record.teardown.getD [] := by
    cases isTeardown : record.teardown with
    | none => rfl
    | some lines =>
      show (record.section? "teardown").getD [] ++ [] = lines
      rw [section?_teardown, isTeardown, List.append_nil]
      rfl
  have details : ((record.details.flatMap fun entry => entry.2.map fun part =>
      sectionPath entry.1 part.name).flatMap fun path => (record.section? path).getD []) =
        record.details.flatMap fun entry => entry.2.flatMap Section.lines := by
    rw [List.flatMap_assoc]
    refine List.flatMap_congr fun entry isEntry => ?_
    rw [List.flatMap_map]
    refine List.flatMap_congr fun part isPart => ?_
    rw [section?_sectionPath named isEntry isPart]
    rfl
  rw [paths, List.flatMap_cons, List.flatMap_append, section?_msgs, teardown, details,
    ← List.append_assoc]
  rfl

theorem addressable_of_wellNamed (named : WellNamed record.details) : Addressable record where
  messages := section?_msgs record
  teardown := section?_teardown record
  details := fun _ isEntry _ isPart => section?_sectionPath named isEntry isPart
  others := fun path unknown => by
    cases found : record.section? path with
    | none => rfl
    | some lines => exact absurd (mem_paths_of_section? found) unknown
  distinct := nodup_paths named
  reachable := heldLines_eq named
  lineCount := by
    rw [lineCount_eq, heldLines_eq named]
    exact (Session.total_map_eq_length fun _ _ => rfl).symm

end Paths

end TestRecord

namespace Session

open Pattern TestRecord

/-! ## Names in headers -/

/-- What a group captures has no slash, if all that the group takes are characters of a set without
one. -/
theorem slashless_of_group? {pattern : Pattern} {text value : String} {found : Match} {index : Nat}
    {set : CharSet} (isFound : pattern.firstMatch? text = some found)
    (bodies : ∀ body, (index, body) ∈ pattern.groupBodies → body = oneOrMore (charIn set))
    (noSlash : set.contains '/' = false) (captured : found.group? index = some value) :
    Slashless value := by
  intro member
  have isIn := contains_of_group? isFound bodies captured _ member
  rw [noSlash] at isIn
  cases isIn

/-- The title of a section has only word characters and spaces. -/
theorem slashless_of_title? {text title : String} (isTitle : title? text = some title) :
    Slashless title := by
  obtain ⟨found, isFound, captured⟩ := Option.bind_eq_some_iff.mp isTitle
  have noSlash : titleChars.contains '/' = false := by decide +kernel
  refine slashless_of_group? isFound (fun body member => ?_) noSlash captured
  have bodies : titlePattern.groupBodies = [(1, oneOrMore (charIn titleChars))] := rfl
  rw [bodies] at member
  exact (Prod.mk.inj (List.mem_singleton.mp member)).2

/-- An occasion has only word characters, so it brings no slash into the key. -/
theorem slashless_key_of_read? {text : String} {header : ReportHeader}
    (isHeader : ReportHeader.read? text = some header) : Slashless header.key := by
  obtain ⟨found, isFound, rfl⟩ := Option.map_eq_some_iff.mp isHeader
  rw [ReportHeader.key]
  cases captured : found.group? 1 with
  | none => exact (by decide : Slashless "detail")
  | some occasion =>
    have noSlash : CharSet.word.contains '/' = false := by decide +kernel
    have slashless : Slashless occasion := by
      refine slashless_of_group? isFound (fun body member => ?_) noSlash captured
      have bodies : reportPattern.groupBodies =
          [(1, oneOrMore (charIn .word)), (2, oneOrMore (charIn nameChars)),
            (3, zeroOrMore (charIn (except ']')))] := rfl
      rw [bodies] at member
      simpa using member
    exact slashless.append (by decide)

theorem slashless_latestTitle (lines : List (Nat × String)) : Slashless (latestTitle lines) := by
  rw [latestTitle]
  cases latest : (lines.filterMap fun line => title? line.2).getLast? with
  | none => exact (by decide : Slashless mainTitle)
  | some title =>
    obtain ⟨line, _, isTitle⟩ := List.mem_filterMap.mp (List.mem_of_getLast? latest)
    exact slashless_of_title? isTitle

theorem slashless_of_mem_titled {report : Report} {line : String × Nat}
    (member : line ∈ report.titled) : Slashless line.1 := by
  rcases List.mem_cons.mp member with rfl | inBody
  · exact (by decide : Slashless mainTitle)
  · obtain ⟨index, _, rfl⟩ := List.mem_mapIdx.mp inBody
    exact slashless_latestTitle _

/-! ## The records of a session -/

theorem wellNamed_of_holdsReports {lines : List Line} {reports : List Report}
    {record : TestRecord} (holds : HoldsReports lines reports record)
    (keys : ∀ report ∈ reports, Slashless report.header.key) : WellNamed record.details := by
  have split (entry : String × List Section) (isEntry : entry ∈ record.details) :
      (∃ report ∈ reports, report.header.key = entry.1) ∧
        entry.2 = sectionsOf lines (titledUnder entry.1 reports) :=
    (holds.split entry.1 entry.2).mp (holds.ascending.find?_of_mem isEntry)
  refine ⟨holds.ascending, fun entry isEntry => ?_, fun entry isEntry part isPart => ?_,
    holds.distinct⟩
  · obtain ⟨report, isReport, isKey⟩ := (split entry isEntry).1
    exact isKey ▸ keys report isReport
  · have named : part.name ∈ entry.2.map Section.name := List.mem_map_of_mem isPart
    rw [(split entry isEntry).2, names_sectionsOf, List.mem_eraseDups] at named
    obtain ⟨line, isLine, isName⟩ := List.mem_map.mp named
    obtain ⟨report, _, inReport⟩ := List.mem_flatMap.mp isLine
    exact isName ▸ slashless_of_mem_titled inReport

/-- Every section of every test can be looked up by its path, and no other path leads anywhere. So
the lines of a test are those that its paths lead to. -/
theorem addressable_of_mem_tests (runnerPod : String) (lines : List Line) {record : TestRecord}
    (member : record ∈ (ofLines runnerPod lines).tests) : Addressable record := by
  obtain ⟨test, isRecord⟩ := List.mem_iff_getElem?.mp member
  have holds := holdsReports_of_getElem? isRecord
  refine addressable_of_wellNamed (wellNamed_of_holdsReports holds fun report isReport => ?_)
  obtain ⟨⟨attached, owner⟩, isKept, rfl⟩ := List.mem_map.mp isReport
  obtain ⟨text, _, isHeader⟩ :=
    (standsIn_of_mem_attachmentsOf (List.mem_of_mem_filter isKept)).header
  exact slashless_key_of_read? isHeader

theorem addressable_resumedSections :
    ∃ record ∈ (ofLines defaultRunnerPod resumedSections).tests,
      record.paths = ["msgs", "detail/main", "detail/Captured log call", "setup_detail/main"] ∧
        record.lineCount = 9 ∧ Addressable record := by
  have seen : ∃ record ∈ (ofLines defaultRunnerPod resumedSections).tests,
      record.paths = ["msgs", "detail/main", "detail/Captured log call", "setup_detail/main"] ∧
        record.lineCount = 9 := by
    decide +kernel
  obtain ⟨record, isRecord, paths, lineCount⟩ := seen
  exact ⟨record, isRecord, paths, lineCount,
    addressable_of_mem_tests defaultRunnerPod resumedSections isRecord⟩

end Session

end RunTriage
