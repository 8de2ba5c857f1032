import RunTriage.Proofs.DetailSections
import RunTriage.Proofs.ReportMatching
import RunTriage.Proofs.TestWindows

/-!
Contract: a detail report is split into the sections of its test without loss.

Owns:
- `attachmentsOf`, the reports of a stream that go to a test, each with its test;
- the reports that a session gives to its tests and those that it discards, group by group;
- where the lines of a report end: before the next report, group or summary;
- `Report.titled`, the section of each line, by the latest title line at or before it;
- `HoldsReports`, what the record of a test holds of its reports: under each key the sections
  that the reports with this key name, with their lines in the order of the stream.

Does not own: which test a report goes to, which is in `RunTriage.Proofs.ReportMatching`.
-/

namespace RunTriage.Session

/-! ## Where a report ends -/

/-- The line ends the report before it. -/
def endsReport (text : String) : Bool := opensReport text || opensGroup text || opensSummary text

/-- The report stands in the stream: its header at its position, and behind this as its body the
lines of the runner up to the next one that ends it. -/
structure Report.StandsIn (transcript : Transcript) (report : Report) : Prop where
  header : ∃ text, transcript[report.position]? = some (some text) ∧
    ReportHeader.read? text = some report.header
  body : report.body = runnerLines (report.position + 1)
    ((transcript.drop (report.position + 1)).takeWhile fun entry => !carries endsReport entry)

section Standing

variable {transcript area rest : Transcript} {position : Nat} {text : String}
  {first next : List (Nat × String)} {others after : List (List (Nat × String))}

/-- A line of the runner is the summary, which ends all groups, or it starts the next group, or it
is the first line of the group at hand. -/
theorem groupLines_cases (nextSplit : groupLines (position + 1) rest = next :: after)
    (split : groupLines position (some text :: rest) = first :: others) :
    (opensSummary text = true ∧ first = [] ∧ others = []) ∨
      (opensGroup text = true ∧ first = [] ∧ others = next :: after) ∨
      (opensSummary text = false ∧ opensGroup text = false ∧
        first = (position, text) :: next ∧ others = after) := by
  cases summary : opensSummary text with
  | true =>
    rw [groupLines_of_summary rest summary] at split
    obtain ⟨isFirst, noOthers⟩ := List.cons.inj split
    exact .inl ⟨rfl, isFirst.symm, noOthers.symm⟩
  | false =>
    right
    cases group : opensGroup text with
    | true =>
      rw [groupLines_of_group rest summary group, nextSplit] at split
      obtain ⟨isFirst, areOthers⟩ := List.cons.inj split
      exact .inl ⟨rfl, isFirst.symm, areOthers.symm⟩
    | false =>
      rw [groupLines_of_line rest summary group nextSplit] at split
      obtain ⟨isFirst, areOthers⟩ := List.cons.inj split
      exact .inr ⟨rfl, rfl, isFirst.symm, areOthers.symm⟩

theorem endsReport_eq_false_iff : endsReport text = false ↔
    ReportHeader.read? text = none ∧ opensGroup text = false ∧ opensSummary text = false := by
  simp [endsReport, opensReport, and_assoc]

/-- The lines before the next report of a group go up to the next line that ends a report. -/
theorem bodyLines_of_split (split : groupLines position area = first :: others) :
    bodyLines first =
      runnerLines position (area.takeWhile fun entry => !carries endsReport entry) := by
  induction area generalizing position first others with
  | nil =>
    rw [← (List.cons.inj split).1]
    rfl
  | cons entry rest inductionHypothesis =>
    cases entry with
    | none => exact inductionHypothesis split
    | some text =>
      obtain ⟨next, after, nextSplit⟩ :=
        List.exists_cons_of_ne_nil (groupLines_ne_nil (position + 1) rest)
      rcases groupLines_cases nextSplit split with
        ⟨summary, rfl, _⟩ | ⟨group, rfl, _⟩ | ⟨noSummary, noGroup, rfl, _⟩
      · simp [endsReport, carries, summary, runnerLines]
      · simp [endsReport, carries, group, runnerLines]
      · cases isHeader : ReportHeader.read? text with
        | some header =>
          rw [bodyLines_cons_of_header next isHeader]
          simp [endsReport, carries, opensReport, isHeader, runnerLines]
        | none =>
          have goesOn : endsReport text = false :=
            endsReport_eq_false_iff.mpr ⟨isHeader, noGroup, noSummary⟩
          rw [bodyLines_cons next isHeader, inductionHypothesis nextSplit]
          simp [carries, goesOn, runnerLines]

/-- The reports in the groups of a stream stand in it. -/
theorem standsIn_of_mem_groupLines (here : transcript.drop position = area)
    {lines : List (Nat × String)} (isGroup : lines ∈ groupLines position area) {report : Report}
    (isReport : report ∈ reportsIn lines) : report.StandsIn transcript := by
  induction area generalizing position lines with
  | nil =>
    rw [List.mem_singleton.mp isGroup] at isReport
    cases isReport
  | cons entry rest inductionHypothesis =>
    obtain ⟨_, isEntry, later⟩ := drop_eq_cons here
    cases entry with
    | none => exact inductionHypothesis later isGroup isReport
    | some text =>
      obtain ⟨first, others, split⟩ :=
        List.exists_cons_of_ne_nil (groupLines_ne_nil position (some text :: rest))
      obtain ⟨next, after, nextSplit⟩ :=
        List.exists_cons_of_ne_nil (groupLines_ne_nil (position + 1) rest)
      have standing {lines : List (Nat × String)} (isGroup : lines ∈ next :: after)
          (isReport : report ∈ reportsIn lines) : report.StandsIn transcript :=
        inductionHypothesis later (nextSplit ▸ isGroup) isReport
      rw [split] at isGroup
      rcases groupLines_cases nextSplit split with
        ⟨_, rfl, rfl⟩ | ⟨_, rfl, rfl⟩ | ⟨_, _, rfl, rfl⟩
      · rw [List.mem_singleton.mp isGroup] at isReport
        cases isReport
      · rcases List.mem_cons.mp isGroup with rfl | isLater
        · cases isReport
        · exact standing isLater isReport
      · rcases List.mem_cons.mp isGroup with rfl | isLater
        · cases isHeader : ReportHeader.read? text with
          | none =>
            rw [reportsIn_cons next isHeader] at isReport
            exact standing List.mem_cons_self isReport
          | some header =>
            rw [reportsIn_cons_of_header next isHeader] at isReport
            rcases List.mem_cons.mp isReport with rfl | isNext
            · refine ⟨⟨text, isEntry, isHeader⟩, ?_⟩
              rw [later]
              exact bodyLines_of_split nextSplit
            · exact standing List.mem_cons_self isNext
        · exact standing (List.mem_cons_of_mem next isLater) isReport

theorem standsIn_of_mem_reportGroups {reports : List Report} {report : Report}
    (isGroup : reports ∈ reportGroups position (transcript.drop position))
    (isReport : report ∈ reports) : report.StandsIn transcript := by
  obtain ⟨lines, member, rfl⟩ := List.mem_map.mp isGroup
  exact standsIn_of_mem_groupLines rfl member isReport

end Standing

/-! ## The section of a line -/

/-- The title in the latest title line. -/
def latestTitle (lines : List (Nat × String)) : String :=
  (lines.filterMap fun line => title? line.2).getLast?.getD mainTitle

/-- The lines of a report with their sections: a line belongs to the section that the latest title
line at or before it names, and to the main section if there is none. -/
def Report.titled (report : Report) : List (String × Nat) :=
  (mainTitle, report.position) ::
    report.body.mapIdx fun index line => (latestTitle (report.body.take (index + 1)), line.1)

theorem latestTitle_concat (before : List (Nat × String)) (line : Nat × String) :
    latestTitle (before ++ [line]) = (title? line.2).getD (latestTitle before) := by
  rw [latestTitle, List.filterMap_append]
  cases isTitle : title? line.2 with
  | none => simp [latestTitle, isTitle]
  | some title => simp [isTitle]

theorem placeBody_eq (test : Nat) (key : String) (before lines : List (Nat × String)) :
    placeBody test key (latestTitle before) lines = lines.mapIdx fun index line =>
      ⟨test, key, latestTitle (before ++ lines.take (index + 1)), line.1⟩ := by
  induction lines generalizing before with
  | nil => rfl
  | cons line later inductionHypothesis =>
    rw [placeBody, ← latestTitle_concat, inductionHypothesis, List.mapIdx_cons]
    simp

theorem Report.placedAt_eq (report : Report) (test : Nat) :
    report.placedAt test = report.titled.map fun line =>
      ⟨test, report.header.key, line.1, line.2⟩ := by
  have body := placeBody_eq test report.header.key [] report.body
  rw [List.mapIdx_eq_zipIdx_map] at body
  rw [Report.placedAt, Report.titled, List.map_cons, List.mapIdx_eq_zipIdx_map, List.map_map]
  exact congrArg (List.cons _) body

theorem Report.map_snd_titled (report : Report) :
    report.titled.map Prod.snd = report.positions := by
  refine congrArg (List.cons _) (List.ext_getElem? fun index => ?_)
  rw [List.getElem?_map, List.getElem?_mapIdx, List.getElem?_map]
  cases report.body[index]? <;> rfl

theorem Report.map_position_placedAt (report : Report) (test : Nat) :
    (report.placedAt test).map Placement.position = report.positions := by
  rw [Report.placedAt_eq, List.map_map]
  exact report.map_snd_titled

/-! ## The reports of a stream and their tests -/

/-- The reports of a group that have an owner, each with it. -/
def owned (tests : List (Nat × NodeId)) (reports : List Report) : List (Report × Nat) :=
  reports.zip (owners tests reports)

/-- The reports of a stream that go to a test, each with the index of this test. -/
def attachmentsOf (transcript : Transcript) : List (Report × Nat) :=
  let start := sessionStart transcript
  let collected := collectExtents start [] 0 (transcript.drop start)
  (reportGroups collected.2 (transcript.drop collected.2)).flatMap
    (owned (indexed (collected.1.map Extent.id)))

/-- The reports that go to a test. -/
def reportsOf (attachments : List (Report × Nat)) (test : Nat) : List Report :=
  (attachments.filter fun attachment => attachment.2 = test).map Prod.fst

theorem attached_eq (tests : List (Nat × NodeId)) (reports : List Report) :
    attached tests reports =
      (owned tests reports).flatMap fun attachment => attachment.1.placedAt attachment.2 := by
  rw [attached, owned, List.flatMap_def, List.map_zip_eq_zipWith]
  rfl

theorem placements_ofTranscript (transcript : Transcript) :
    (Layout.ofTranscript transcript).placements =
      (attachmentsOf transcript).flatMap fun attachment =>
        attachment.1.placedAt attachment.2 := by
  unfold Layout.ofTranscript attachmentsOf
  dsimp only
  rw [placeReports_groups, List.flatMap_assoc]
  exact congrArg (fun place => List.flatMap place _) (funext (attached_eq _))

/-- A report goes to a test that its header names. -/
theorem isAbout_of_mem_owned {ids : List NodeId} {reports : List Report} {report : Report}
    {test : Nat} (isOwned : (report, test) ∈ owned (indexed ids) reports) :
    ∃ id, ids[test]? = some id ∧ report.header.isAbout id = true := by
  have found := (embedsGreedily_owners ids reports).embeds.found
  obtain ⟨index, here⟩ := List.mem_iff_getElem?.mp isOwned
  obtain ⟨isReport, isOwner⟩ := List.getElem?_zip_eq_some.mp here
  have within : index < (owners (indexed ids) reports).length :=
    (List.getElem?_eq_some_iff.mp isOwner).1
  have named : ((reports.map Report.subject).take (owners (indexed ids) reports).length)[index]? =
      some report.subject := by
    rw [List.getElem?_take_of_lt within, List.getElem?_map, isReport]
    rfl
  have atTest := (List.forall₂_iff_zip.mp found).2 (List.mem_iff_getElem?.mpr
    ⟨index, List.getElem?_zip_eq_some (z := (test, report.subject)).mpr ⟨isOwner, named⟩⟩)
  rw [List.getElem?_map] at atTest
  obtain ⟨id, isId, same⟩ := Option.map_eq_some_iff.mp atTest
  refine ⟨id, isId, ?_⟩
  obtain ⟨sameName, sameParam⟩ := Prod.mk.inj same
  exact Bool.and_eq_true_iff.mpr ⟨decide_eq_true sameName, decide_eq_true sameParam⟩

/-! ### The placements of one test -/

/-- A filter that takes or leaves the results of an item as a whole picks among the items. -/
theorem filter_flatMap_of_forall {α β : Type} {place : α → List β} {keep : β → Bool}
    {wanted : α → Bool} (whole : ∀ item, ∀ result ∈ place item, keep result = wanted item)
    (items : List α) : (items.flatMap place).filter keep = (items.filter wanted).flatMap place := by
  induction items with
  | nil => rfl
  | cons item items inductionHypothesis =>
    rw [List.flatMap_cons, List.filter_append, inductionHypothesis]
    cases isWanted : wanted item with
    | true =>
      rw [List.filter_cons_of_pos isWanted, List.flatMap_cons]
      refine congrArg (· ++ _) (List.filter_eq_self.mpr fun result member => ?_)
      exact (whole item result member).trans isWanted
    | false =>
      rw [List.filter_cons_of_neg (by simp [isWanted])]
      refine congrArg (· ++ _) (List.filter_eq_nil_iff.mpr fun result member isKept => ?_)
      rw [whole item result member, isWanted] at isKept
      cases isKept

theorem filter_test_attachments (attachments : List (Report × Nat)) (test : Nat) :
    ((attachments.flatMap fun attachment => attachment.1.placedAt attachment.2).filter
        fun placement => placement.test = test) =
      (reportsOf attachments test).flatMap fun report => report.placedAt test := by
  have whole (attachment : Report × Nat) (placement : Placement)
      (member : placement ∈ attachment.1.placedAt attachment.2) :
      decide (placement.test = test) = decide (attachment.2 = test) := by
    rw [Report.placedAt_eq] at member
    obtain ⟨line, _, rfl⟩ := List.mem_map.mp member
    rfl
  rw [filter_flatMap_of_forall whole, reportsOf, List.flatMap_map]
  refine List.flatMap_congr fun attachment member => ?_
  rw [of_decide_eq_true (List.mem_filter.mp member).2]

/-- The lines of the reports with a key, each with its section. -/
def titledUnder (key : String) (reports : List Report) : List (String × Nat) :=
  (reports.filter fun report => report.header.key = key).flatMap Report.titled

theorem filedUnder_placedAt (key : String) (reports : List Report) (test : Nat) :
    filedUnder key (reports.flatMap fun report => report.placedAt test) =
      titledUnder key reports := by
  have whole (report : Report) (placement : Placement)
      (member : placement ∈ report.placedAt test) :
      decide (placement.key = key) = decide (report.header.key = key) := by
    rw [Report.placedAt_eq] at member
    obtain ⟨line, _, rfl⟩ := List.mem_map.mp member
    rfl
  rw [filedUnder, filter_flatMap_of_forall whole, List.map_flatMap]
  refine List.flatMap_congr fun report _ => ?_
  rw [Report.placedAt_eq, List.map_map]
  exact List.map_id _

/-! ## What a record holds of the reports -/

/-- The sections with the lines of a stream that are filed under their titles. -/
def sectionsOf (lines : List Line) (filed : List (String × Nat)) : List Section :=
  (gathered filed).map (sectionAt lines)

/-- The detail reports of a record are these reports, in the order of the stream. -/
structure HoldsReports (lines : List Line) (reports : List Report) (record : TestRecord) :
    Prop where
  /-- The sections hold the lines of the reports and no others. -/
  whole : (record.details.values.flatten.flatMap Section.lines).Perm
    (linesAt lines (reports.flatMap Report.positions))
  /-- There are just the keys of the reports, and a key has the sections of all reports with it.
  Each section holds the lines with its title in the order of the stream. -/
  split : ∀ key sections, record.details.find? key = some sections ↔
    (∃ report ∈ reports, report.header.key = key) ∧
      sections = sectionsOf lines (titledUnder key reports)
  /-- No key occurs twice. -/
  ascending : record.details.Ascending
  /-- No section of a key has the name of another. -/
  distinct : ∀ entry ∈ record.details, (entry.2.map Section.name).Nodup

section Holding

variable {lines : List Line} {placements : List Placement} {reports : List Report}
  {test : Nat}

theorem flatMap_lines_sectionsAt (lines : List Line) (places : Places) :
    (sectionsAt lines places).values.flatten.flatMap Section.lines =
      linesAt lines (allPositions places) := by
  rw [sectionsAt, SortedTable.values, List.map_map, linesAt, allPositions,
    List.filterMap_flatMap, ← List.flatMap_def, List.flatMap_assoc]
  refine List.flatMap_congr fun entry _ => ?_
  rw [placePositions, List.filterMap_flatMap]
  exact List.flatMap_map _ _ _

theorem titledUnder_ne_nil_iff {key : String} :
    titledUnder key reports ≠ [] ↔ ∃ report ∈ reports, report.header.key = key := by
  simp [titledUnder, Report.titled]

theorem names_sectionsOf (lines : List Line) (filed : List (String × Nat)) :
    (sectionsOf lines filed).map Section.name = (filed.map Prod.fst).eraseDups := by
  rw [sectionsOf, gathered, List.map_map, List.map_map]
  exact List.map_id _

/-- What is placed for a test makes up the detail reports of its record. -/
theorem holdsReports_of_placements {extent : Extent}
    (inside : ∀ placement ∈ placements, placement.position < lines.length)
    (ofTest : (placements.filter fun placement => placement.test = test) =
      reports.flatMap fun report => report.placedAt test) :
    HoldsReports lines reports (recordOf lines placements test extent) := by
  have details : (recordOf lines placements test extent).details =
      sectionsAt lines (placesOf placements test) := detailsOf_eq_sectionsAt inside test
  have kept := keeps_placesOf placements test
  have files := files_placesOf placements test
  rw [ofTest] at kept files
  have split (key : String) (sections : List Section) :
      (recordOf lines placements test extent).details.find? key = some sections ↔
        (∃ report ∈ reports, report.header.key = key) ∧
          sections = sectionsOf lines (titledUnder key reports) := by
    rw [details, sectionsAt, SortedTable.find?_mapValues, files, filedUnder_placedAt,
      ← titledUnder_ne_nil_iff]
    by_cases nothing : titledUnder key reports = []
    · simp [nothing]
    · simp [nothing, sectionsOf, eq_comm]
  have ascending : (recordOf lines placements test extent).details.Ascending := by
    rw [details]
    exact kept.ascending.mapValues _
  refine ⟨?_, split, ascending, fun entry member => ?_⟩
  · have positions := kept.conserved
    simp only [List.map_flatMap, Report.map_position_placedAt] at positions
    rw [details, flatMap_lines_sectionsAt]
    exact positions.filterMap _
  · have found : (recordOf lines placements test extent).details.find? entry.1 = some entry.2 :=
      ascending.find?_of_mem member
    rw [((split _ _).mp found).2, names_sectionsOf]
    exact nodup_eraseDups _

end Holding

theorem placements_inside (transcript : Transcript) :
    ∀ placement ∈ (Layout.ofTranscript transcript).placements,
      placement.position < transcript.length := by
  intro placement member
  obtain ⟨text, isText⟩ := Layout.placements_of_runner transcript placement member
  exact (List.getElem?_eq_some_iff.mp isText).1

section Session

variable {runnerPod : String} {lines : List Line} {test : Nat}

theorem standsIn_of_mem_attachmentsOf {transcript : Transcript} {report : Report}
    (member : (report, test) ∈ attachmentsOf transcript) : report.StandsIn transcript := by
  obtain ⟨reports, isGroup, isOwned⟩ := List.mem_flatMap.mp member
  exact standsIn_of_mem_reportGroups isGroup (List.of_mem_zip isOwned).1

/-- A report that goes to a test is about the test with this index. -/
theorem exists_test_of_mem_attachmentsOf {report : Report}
    (member : (report, test) ∈ attachmentsOf (transcriptOf runnerPod lines)) :
    ∃ record, (ofLines runnerPod lines).tests[test]? = some record ∧
      report.header.isAbout record.id = true := by
  obtain ⟨reports, _, isOwned⟩ := List.mem_flatMap.mp member
  obtain ⟨id, isId, isAbout⟩ := isAbout_of_mem_owned isOwned
  rw [List.getElem?_map, Option.map_eq_some_iff] at isId
  obtain ⟨extent, isExtent, rfl⟩ := isId
  exact ⟨_, getElem?_tests_eq_some_iff.mpr ⟨extent, isExtent, rfl⟩, isAbout⟩

theorem holdsReports_of_getElem? {record : TestRecord}
    (isRecord : (ofLines runnerPod lines).tests[test]? = some record) :
    HoldsReports lines (reportsOf (attachmentsOf (transcriptOf runnerPod lines)) test) record := by
  obtain ⟨extent, _, rfl⟩ := getElem?_tests_eq_some_iff.mp isRecord
  have sameLength : (transcriptOf runnerPod lines).length = lines.length := List.length_map _
  refine holdsReports_of_placements (sameLength ▸ placements_inside _) ?_
  rw [placements_ofTranscript]
  exact filter_test_attachments _ test

end Session

/-- The groups of detail reports in a stream, which stand behind its tests. -/
def reportGroupsOf (transcript : Transcript) : List (List Report) :=
  let start := sessionStart transcript
  let collected := collectExtents start [] 0 (transcript.drop start)
  reportGroups collected.2 (transcript.drop collected.2)

theorem map_id_tests (runnerPod : String) (lines : List Line) :
    (ofLines runnerPod lines).tests.map TestRecord.id =
      (Layout.ofTranscript (transcriptOf runnerPod lines)).extents.map Extent.id := by
  refine List.ext_getElem? fun index => ?_
  rw [List.getElem?_map, List.getElem?_map]
  show ((recordsOf lines _)[index]?.map _) = _
  rw [getElem?_recordsOf, Option.map_map]
  rfl

/-- A session gives the reports of each group to its tests as far as possible: the longest prefix
whose names occur among the tests in this order goes to the leftmost occurrence. The reports behind
it are the discarded ones, and a test holds just the reports that went to it. -/
theorem ofLines_places_reports (runnerPod : String) (lines : List Line) :
    let session := ofLines runnerPod lines
    let ids := session.tests.map TestRecord.id
    let groups := reportGroupsOf (transcriptOf runnerPod lines)
    (∀ reports ∈ groups, EmbedsGreedily (reports.map Report.subject) (ids.map testSubject)
        (owners (indexed ids) reports)) ∧
      session.discardedReports = total (groups.map (lost (indexed ids))) ∧
      ∀ test record, session.tests[test]? = some record →
        HoldsReports lines (reportsOf (groups.flatMap (owned (indexed ids))) test) record := by
  intro session ids groups
  have isIds : ids = (Layout.ofTranscript (transcriptOf runnerPod lines)).extents.map Extent.id :=
    map_id_tests runnerPod lines
  refine ⟨fun reports _ => embedsGreedily_owners ids reports, ?_, ?_⟩
  · rw [isIds]
    show (placeReports _ _ _ none _).2 = _
    rw [placeReports_groups]
    rfl
  · rw [isIds]
    exact fun test record => holdsReports_of_getElem?

/-- Each report that goes to a test is split into sections of this test without loss. It stands in
the stream from its header to the next header, group or summary, and in the order of the stream all
its lines of the runner are in the sections that the title lines among them name, under the key for
the occasion in its header. -/
theorem ofLines_splits_reports (runnerPod : String) (lines : List Line) :
    let transcript := transcriptOf runnerPod lines
    let attachments := attachmentsOf transcript
    let tests := (ofLines runnerPod lines).tests
    (∀ report test, (report, test) ∈ attachments →
        report.StandsIn transcript ∧
          report.header.key = report.header.occasion.elim "detail" (· ++ "_detail") ∧
          ∃ record, tests[test]? = some record ∧ report.header.isAbout record.id = true) ∧
      (attachments.flatMap fun attachment => attachment.1.positions).Pairwise (· < ·) ∧
      ∀ test record, tests[test]? = some record →
        HoldsReports lines (reportsOf attachments test) record := by
  intro transcript attachments tests
  refine ⟨fun report test member => ⟨standsIn_of_mem_attachmentsOf member, ?_,
    exists_test_of_mem_attachmentsOf member⟩, ?_, fun test record => holdsReports_of_getElem?⟩
  · rw [ReportHeader.key]
    cases report.header.occasion <;> rfl
  · have positions := Layout.positions_sublist transcript
    rw [placements_ofTranscript, List.map_flatMap] at positions
    simp only [Report.map_position_placedAt] at positions
    exact List.Pairwise.sublist ((List.sublist_append_right _ _).trans positions)
      List.pairwise_lt_range'

/-- A report that returns to its main section and to another one, with a line of a device in
between, a report on the setup of the same test, and a later report on the test itself. -/
def resumedSections : List Line :=
  [fromRunner "=== test session starts ===", fromRunner "tests/a.py::test_one FAILED [ 50%]",
    fromRunner "=== FAILURES ===", fromRunner "___ test_one ___", fromRunner "E   boom",
    fromRunner "--- Captured log call ---", fromDevice "halting", fromRunner "no answer",
    fromRunner "--- main ---", fromRunner "--- Captured log call ---",
    fromRunner "=== ERRORS ===", fromRunner "___ ERROR at setup of test_one ___",
    fromRunner "=== FAILURES ===", fromRunner "___ test_one ___",
    fromRunner "=== short test summary info ==="]

theorem ofLines_splits_resumedSections :
    let tests := (ofLines defaultRunnerPod resumedSections).tests
    ∃ record, tests[0]? = some record ∧
      record.details.find? "detail" = some
        [⟨"main", linesAt resumedSections [3, 4, 8, 13]⟩,
          ⟨"Captured log call", linesAt resumedSections [5, 7, 9]⟩] ∧
      record.details.find? "setup_detail" = some [⟨"main", linesAt resumedSections [11]⟩] := by
  intro tests
  let reports : List Report :=
    [⟨3, ⟨none, "test_one", none⟩, [(4, "E   boom"), (5, "--- Captured log call ---"),
        (7, "no answer"), (8, "--- main ---"), (9, "--- Captured log call ---")]⟩,
      ⟨11, ⟨some "setup", "test_one", none⟩, []⟩, ⟨13, ⟨none, "test_one", none⟩, []⟩]
  have attached : attachmentsOf (transcriptOf defaultRunnerPod resumedSections) =
      reports.map fun report => (report, 0) := by decide +kernel
  obtain ⟨standing, _, holding⟩ := ofLines_splits_reports defaultRunnerPod resumedSections
  rw [attached] at standing holding
  obtain ⟨_, _, record, isRecord, _⟩ := standing _ 0 List.mem_cons_self
  have holds : HoldsReports resumedSections reports record := holding 0 record isRecord
  refine ⟨record, isRecord, (holds.split _ _).mpr ⟨?_, ?_⟩, (holds.split _ _).mpr ⟨?_, ?_⟩⟩
  · exact ⟨_, List.mem_cons_self, rfl⟩
  · decide +kernel
  · exact ⟨_, List.mem_cons_of_mem _ List.mem_cons_self, rfl⟩
  · decide +kernel

end RunTriage.Session
