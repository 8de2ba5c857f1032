import Mathlib.Data.List.Flatten
import Mathlib.Data.List.Perm.Basic
import RunTriage.Proofs.Embedding
import RunTriage.Proofs.Extents
import RunTriage.Tally

/-!
Contract: which test each detail report goes to.

Owns:
- `reportGroups`, the detail reports of a stream by group, up to the summary;
- `placeReports_eq`, which reads the placements off the groups, one at a time;
- the reports that find a test: the longest prefix of a group that occurs among the tests,
  at its leftmost occurrence;
- the reports that find none, which are all those from the first without a test on.

Does not own: what a placement does to the record of a test.
-/

namespace RunTriage.Session

/-! ## The reports of a stream -/

/-- What the header of a report names of a test: its name and parametrization. -/
abbrev Subject := String × Option String

/-- A detail report: the position of its header, what this tells, and the lines of the
runner that follow it with their positions. -/
structure Report where
  position : Nat
  header : ReportHeader
  body : List (Nat × String)
deriving DecidableEq, Repr

def testSubject (id : NodeId) : Subject := (id.name, id.param)

def Report.subject (report : Report) : Subject := (report.header.name, report.header.param)

def Report.positions (report : Report) : List Nat :=
  report.position :: report.body.map Prod.fst

/-- The lines of the runner from a position on, with their positions. -/
def runnerLines (position : Nat) : Transcript → List (Nat × String)
  | [] => []
  | none :: rest => runnerLines (position + 1) rest
  | some text :: rest => (position, text) :: runnerLines (position + 1) rest

def opensReport (text : String) : Bool := (ReportHeader.read? text).isSome

/-- The lines before the next report. -/
def bodyLines (lines : List (Nat × String)) : List (Nat × String) :=
  lines.takeWhile fun line => !opensReport line.2

/-- The report whose header a line is, with the lines after it. -/
def reportAt (line : Nat × String) (later : List (Nat × String)) : Option Report :=
  (ReportHeader.read? line.2).map fun header => ⟨line.1, header, bodyLines later⟩

/-- The reports in the lines of a group. Lines before the first header belong to none. -/
def reportsIn : List (Nat × String) → List Report
  | [] => []
  | line :: later => (reportAt line later).toList ++ reportsIn later

/-- The lines of the runner before the summary, divided at the headers of groups. -/
def groupLines (position : Nat) (area : Transcript) : List (List (Nat × String)) :=
  ((runnerLines position area).takeWhile fun line => !opensSummary line.2).splitOnP
    fun line => opensGroup line.2

def reportGroups (position : Nat) (area : Transcript) : List (List Report) :=
  (groupLines position area).map reportsIn

/-! ## The owners of the reports of a group -/

/-- Tests with what a report can name of them. -/
def subjects (tests : List (Nat × NodeId)) : List (Nat × Subject) :=
  tests.map fun test => (test.1, testSubject test.2)

/-- The tests that own the first reports of a group, as far as each report finds one behind
the owner of the report before it. -/
def owners (tests : List (Nat × NodeId)) (reports : List Report) : List Nat :=
  firstMatches (subjects tests) (reports.map Report.subject)

/-- The number of reports of a group without an owner. -/
def lost (tests : List (Nat × NodeId)) (reports : List Report) : Nat :=
  reports.length - (owners tests reports).length

/-- The lines of a report in their places, each under the title last seen. -/
def placeBody (test : Nat) (key title : String) : List (Nat × String) → List Placement
  | [] => []
  | line :: later =>
    let title := (title? line.2).getD title
    ⟨test, key, title, line.1⟩ :: placeBody test key title later

/-- A report in the record of a test. -/
def Report.placedAt (report : Report) (test : Nat) : List Placement :=
  ⟨test, report.header.key, mainTitle, report.position⟩ ::
    placeBody test report.header.key mainTitle report.body

/-- The reports of a group in the records of their owners. -/
def attached (tests : List (Nat × NodeId)) (reports : List Report) : List Placement :=
  (List.zipWith Report.placedAt reports (owners tests reports)).flatten

theorem subjects_indexed (ids : List NodeId) :
    subjects (indexed ids) = indexed (ids.map testSubject) := by
  refine List.ext_getElem? fun index => ?_
  simp only [subjects, indexed, List.getElem?_map, List.getElem?_mapIdx]
  cases ids[index]? <;> rfl

section Owners

variable {tests waiting : List (Nat × NodeId)} {report : Report} {reports : List Report}
  {test : Nat} {id : NodeId}

/-- A report passes over the same tests whether it looks at them or at what it can name of
them. -/
theorem dropWhile_subjects (tests : List (Nat × NodeId)) (report : Report) :
    ((subjects tests).dropWhile fun known => !decide (known.2 = report.subject)) =
      subjects (tests.dropWhile fun test => !report.header.isAbout test.2) := by
  have sameTests : (fun test : Nat × NodeId => !decide (testSubject test.2 = report.subject)) =
      fun test => !report.header.isAbout test.2 := by
    funext test
    simp [testSubject, Report.subject, ReportHeader.isAbout]
  rw [subjects, List.dropWhile_map, subjects, ← sameTests]
  rfl

@[simp] theorem attached_nil (tests : List (Nat × NodeId)) : attached tests [] = [] := rfl

@[simp] theorem lost_nil (tests : List (Nat × NodeId)) : lost tests [] = 0 := rfl

theorem owners_cons (reports : List Report)
    (found : (tests.dropWhile fun test => !report.header.isAbout test.2) = (test, id) :: waiting) :
    owners tests (report :: reports) = test :: owners waiting reports := by
  rw [owners, List.map_cons, firstMatches, dropWhile_subjects, found]
  rfl

theorem owners_cons_of_none (reports : List Report)
    (missing : (tests.dropWhile fun test => !report.header.isAbout test.2) = []) :
    owners tests (report :: reports) = [] := by
  rw [owners, List.map_cons, firstMatches, dropWhile_subjects, missing]
  rfl

theorem owners_nil (reports : List Report) : owners [] reports = [] := by
  cases reports <;> rfl

theorem attached_cons (reports : List Report)
    (found : (tests.dropWhile fun test => !report.header.isAbout test.2) = (test, id) :: waiting) :
    attached tests (report :: reports) = report.placedAt test ++ attached waiting reports := by
  rw [attached, owners_cons reports found]
  rfl

theorem lost_cons (reports : List Report)
    (found : (tests.dropWhile fun test => !report.header.isAbout test.2) = (test, id) :: waiting) :
    lost tests (report :: reports) = lost waiting reports := by
  rw [lost, owners_cons reports found, List.length_cons, List.length_cons, Nat.add_sub_add_right]
  rfl

/-- Once a report finds no test, none is left for the reports after it. -/
theorem attached_cons_of_none (reports : List Report)
    (missing : (tests.dropWhile fun test => !report.header.isAbout test.2) = []) :
    attached tests (report :: reports) = attached [] reports := by
  rw [attached, owners_cons_of_none reports missing, attached, owners_nil, List.zipWith_nil_right,
    List.zipWith_nil_right]

theorem lost_cons_of_none (reports : List Report)
    (missing : (tests.dropWhile fun test => !report.header.isAbout test.2) = []) :
    lost tests (report :: reports) = 1 + lost [] reports := by
  rw [lost, owners_cons_of_none reports missing, lost, owners_nil, List.length_cons,
    List.length_nil, Nat.sub_zero, Nat.sub_zero, Nat.add_comm]

end Owners

/-! ## The placements, read off the groups -/

/-- What an open report still takes of the lines that follow. -/
def openBody (current : Option OpenReport) (lines : List (Nat × String)) : List Placement :=
  match current with
  | none => []
  | some report => placeBody report.test report.key report.title (bodyLines lines)

@[simp] theorem openBody_none (lines : List (Nat × String)) : openBody none lines = [] := rfl

@[simp] theorem openBody_nil (current : Option OpenReport) : openBody current [] = [] := by
  cases current <;> rfl

section Reading

variable {position : Nat} {text : String} {header : ReportHeader}

@[simp] theorem bodyLines_nil : bodyLines [] = [] := rfl

@[simp] theorem reportsIn_nil : reportsIn [] = [] := rfl

theorem bodyLines_cons_of_header (lines : List (Nat × String))
    (isHeader : ReportHeader.read? text = some header) :
    bodyLines ((position, text) :: lines) = [] := by
  simp [bodyLines, opensReport, isHeader]

theorem bodyLines_cons (lines : List (Nat × String))
    (noHeader : ReportHeader.read? text = none) :
    bodyLines ((position, text) :: lines) = (position, text) :: bodyLines lines := by
  simp [bodyLines, opensReport, noHeader]

theorem reportsIn_cons_of_header (lines : List (Nat × String))
    (isHeader : ReportHeader.read? text = some header) :
    reportsIn ((position, text) :: lines) =
      ⟨position, header, bodyLines lines⟩ :: reportsIn lines := by
  simp [reportsIn, reportAt, isHeader]

theorem reportsIn_cons (lines : List (Nat × String))
    (noHeader : ReportHeader.read? text = none) :
    reportsIn ((position, text) :: lines) = reportsIn lines := by
  simp [reportsIn, reportAt, noHeader]

end Reading

section Groups

variable {position : Nat} {text : String}

@[simp] theorem groupLines_nil (position : Nat) : groupLines position [] = [[]] := rfl

@[simp] theorem groupLines_gap (position : Nat) (rest : Transcript) :
    groupLines position (none :: rest) = groupLines (position + 1) rest := rfl

theorem groupLines_of_summary (rest : Transcript) (ends : opensSummary text = true) :
    groupLines position (some text :: rest) = [[]] := by
  simp [groupLines, runnerLines, ends]

theorem groupLines_of_group (rest : Transcript) (goesOn : opensSummary text = false)
    (opens : opensGroup text = true) :
    groupLines position (some text :: rest) = [] :: groupLines (position + 1) rest := by
  simp [groupLines, runnerLines, goesOn, opens, List.splitOnP_cons_eq_if_modifyHead]

theorem groupLines_of_line (rest : Transcript) (goesOn : opensSummary text = false)
    (stays : opensGroup text = false) {first : List (Nat × String)}
    {others : List (List (Nat × String))}
    (split : groupLines (position + 1) rest = first :: others) :
    groupLines position (some text :: rest) = ((position, text) :: first) :: others := by
  have later := split
  rw [groupLines] at later
  simp [groupLines, runnerLines, goesOn, stays, List.splitOnP_cons_eq_if_modifyHead, later]

theorem groupLines_ne_nil (position : Nat) (area : Transcript) : groupLines position area ≠ [] :=
  List.splitOnP_ne_nil _ _

end Groups

/-! ### One line

Each kind of line has its own equation, since later proofs go by the kind. -/

section Line

variable {tests waiting : List (Nat × NodeId)} {position : Nat} {current : Option OpenReport}
  {text : String} {header : ReportHeader}

theorem reportStep_of_summary (ends : opensSummary text = true) :
    reportStep tests position waiting current (some text) = none := by
  unfold reportStep
  simp only [ends, if_true]

theorem reportStep_of_group (goesOn : opensSummary text = false) (opens : opensGroup text = true) :
    reportStep tests position waiting current (some text) = some ⟨[], tests, none, 0⟩ := by
  unfold reportStep
  simp [goesOn, opens]

theorem reportStep_of_header (goesOn : opensSummary text = false)
    (stays : opensGroup text = false) (isHeader : ReportHeader.read? text = some header)
    {test : Nat} {id : NodeId} {later : List (Nat × NodeId)}
    (found : (waiting.dropWhile fun test => !header.isAbout test.2) = (test, id) :: later) :
    reportStep tests position waiting current (some text) =
      some ⟨[⟨test, header.key, mainTitle, position⟩], later,
        some ⟨test, header.key, mainTitle⟩, 0⟩ := by
  unfold reportStep
  simp [goesOn, stays, isHeader, found]

theorem reportStep_of_lost (goesOn : opensSummary text = false)
    (stays : opensGroup text = false) (isHeader : ReportHeader.read? text = some header)
    (missing : (waiting.dropWhile fun test => !header.isAbout test.2) = []) :
    reportStep tests position waiting current (some text) = some ⟨[], [], none, 1⟩ := by
  unfold reportStep
  simp [goesOn, stays, isHeader, missing]

theorem reportStep_of_body (goesOn : opensSummary text = false)
    (stays : opensGroup text = false) (noHeader : ReportHeader.read? text = none) :
    reportStep tests position waiting current (some text) =
      some ⟨openBody current [(position, text)], waiting,
        current.map fun report => { report with title := (title? text).getD report.title }, 0⟩ := by
  unfold reportStep
  cases current <;>
    simp [goesOn, stays, noHeader, openBody, bodyLines_cons _ noHeader, placeBody]

theorem openBody_of_header (lines : List (Nat × String))
    (isHeader : ReportHeader.read? text = some header) :
    openBody current ((position, text) :: lines) = [] := by
  cases current with
  | none => rfl
  | some report =>
    rw [openBody, bodyLines_cons_of_header lines isHeader]
    rfl

theorem openBody_cons (lines : List (Nat × String))
    (noHeader : ReportHeader.read? text = none) :
    openBody current ((position, text) :: lines) =
      openBody current [(position, text)] ++
        openBody (current.map fun report =>
          { report with title := (title? text).getD report.title }) lines := by
  cases current with
  | none => rfl
  | some report => simp [openBody, bodyLines_cons _ noHeader, placeBody]

end Line

/-! ### All lines -/

/-- From any position on, the open report takes the lines up to the next header, the reports
of the group at hand go to the tests that wait, and every later group starts with all tests. -/
theorem placeReports_eq (tests : List (Nat × NodeId)) (area : Transcript) {position : Nat}
    {waiting : List (Nat × NodeId)} {current : Option OpenReport}
    {first : List (Nat × String)} {others : List (List (Nat × String))}
    (split : groupLines position area = first :: others) :
    placeReports tests position waiting current area =
      (openBody current first ++ attached waiting (reportsIn first) ++
          others.flatMap fun lines => attached tests (reportsIn lines),
        lost waiting (reportsIn first) +
          total (others.map fun lines => lost tests (reportsIn lines))) := by
  -- By induction on the lines. Each kind of line changes the first group or starts the next one
  -- just as it changes the state: what waits, what is open, and what is placed.
  induction area generalizing position waiting current first others with
  | nil =>
    obtain ⟨rfl, rfl⟩ := List.cons.inj split
    cases current <;> rfl
  | cons entry rest inductionHypothesis =>
    cases entry with
    | none =>
      have gap : reportStep tests position waiting current none =
          some ⟨[], waiting, current, 0⟩ := rfl
      rw [placeReports, gap]
      simp only [inductionHypothesis split, List.nil_append, Nat.zero_add]
    | some text =>
      obtain ⟨next, later, nextSplit⟩ :=
        List.exists_cons_of_ne_nil (groupLines_ne_nil (position + 1) rest)
      rw [placeReports]
      cases summary : opensSummary text with
      | true =>
        obtain ⟨rfl, rfl⟩ := List.cons.inj ((groupLines_of_summary rest summary).symm.trans split)
        rw [reportStep_of_summary summary]
        cases current <;> rfl
      | false =>
        cases group : opensGroup text with
        | true =>
          obtain ⟨rfl, rfl⟩ :=
            List.cons.inj ((groupLines_of_group rest summary group).symm.trans split)
          rw [reportStep_of_group summary group]
          simp [inductionHypothesis nextSplit, nextSplit]
        | false =>
          obtain ⟨rfl, rfl⟩ :=
            List.cons.inj ((groupLines_of_line rest summary group nextSplit).symm.trans split)
          cases isHeader : ReportHeader.read? text with
          | some header =>
            rw [openBody_of_header next isHeader, reportsIn_cons_of_header next isHeader]
            cases found : waiting.dropWhile fun test => !header.isAbout test.2 with
            | nil =>
              -- Nothing waits any more, so the rest of the group is lost with this report.
              rw [reportStep_of_lost summary group isHeader found, attached_cons_of_none _ found,
                lost_cons_of_none _ found]
              simp [inductionHypothesis nextSplit, Nat.add_assoc]
            | cons known waiting =>
              rw [reportStep_of_header summary group isHeader found, attached_cons _ found,
                lost_cons _ found]
              simp [inductionHypothesis nextSplit, openBody, Report.placedAt]
          | none =>
            rw [reportStep_of_body summary group isHeader, openBody_cons next isHeader,
              reportsIn_cons next isHeader]
            simp only [inductionHypothesis nextSplit, List.append_assoc, Nat.zero_add]

/-- A stream that starts with a new group goes to the tests group by group. -/
theorem placeReports_groups (tests : List (Nat × NodeId)) (position : Nat) (area : Transcript) :
    placeReports tests position tests none area =
      ((reportGroups position area).flatMap (attached tests),
        total ((reportGroups position area).map (lost tests))) := by
  obtain ⟨first, others, split⟩ := List.exists_cons_of_ne_nil (groupLines_ne_nil position area)
  rw [placeReports_eq tests area split, reportGroups, split]
  simp [List.flatMap_map, Function.comp_def]

theorem embedsGreedily_owners (ids : List NodeId) (reports : List Report) :
    EmbedsGreedily (reports.map Report.subject) (ids.map testSubject)
      (owners (indexed ids) reports) := by
  rw [owners, subjects_indexed]
  exact embedsGreedily_firstMatches _ _

/-- No test behind the owners of the earlier reports of its group is what a report is about. -/
def Ownerless (ids : List NodeId) (reports : List Report) (index : Nat) : Prop :=
  Absent (reports.map Report.subject) (ids.map testSubject) (owners (indexed ids) reports) index

instance (ids : List NodeId) (reports : List Report) (index : Nat) :
    Decidable (Ownerless ids reports index) :=
  inferInstanceAs (Decidable (Absent _ _ _ _))

/-- No line of a report is placed. -/
def Unplaced (placements : List Placement) (report : Report) : Prop :=
  ∀ position ∈ report.positions, position ∉ placements.map Placement.position

/-! ### The lines of all reports are different -/

theorem sublist_runnerLines (position : Nat) (area : Transcript) :
    ((runnerLines position area).map Prod.fst).Sublist (List.range' position area.length) := by
  induction area generalizing position with
  | nil => exact List.nil_sublist _
  | cons entry rest inductionHypothesis =>
    rw [List.length_cons, List.range'_succ]
    cases entry with
    | none => exact (inductionHypothesis (position + 1)).cons position
    | some text => exact (inductionHypothesis (position + 1)).cons_cons position

theorem sublist_reportsIn (lines : List (Nat × String)) :
    ((bodyLines lines).map Prod.fst ++ (reportsIn lines).flatMap Report.positions).Sublist
      (lines.map Prod.fst) := by
  induction lines with
  | nil => exact List.nil_sublist _
  | cons line later inductionHypothesis =>
    obtain ⟨position, text⟩ := line
    have longer := inductionHypothesis.cons_cons position
    cases isHeader : ReportHeader.read? text with
    | some header =>
      rw [bodyLines_cons_of_header later isHeader, reportsIn_cons_of_header later isHeader,
        List.flatMap_cons]
      exact longer
    | none =>
      rw [bodyLines_cons later isHeader, reportsIn_cons later isHeader]
      exact longer

theorem flatten_splitOnP_sublist {α : Type} (p : α → Bool) (items : List α) :
    (items.splitOnP p).flatten.Sublist items := by
  induction items with
  | nil => exact List.Sublist.refl _
  | cons item items inductionHypothesis =>
    rw [List.splitOnP_cons_eq_if_modifyHead]
    split
    · exact inductionHypothesis.cons item
    · obtain ⟨first, others, split⟩ :=
        List.exists_cons_of_ne_nil (List.splitOnP_ne_nil p items)
      rw [split] at inductionHypothesis ⊢
      exact inductionHypothesis.cons_cons item

/-- The reports of all groups share no line. -/
theorem nodup_positions (position : Nat) (area : Transcript) :
    ((reportGroups position area).flatten.flatMap Report.positions).Nodup := by
  have lines : (groupLines position area).flatten.Sublist (runnerLines position area) :=
    (flatten_splitOnP_sublist _ _).trans (List.takeWhile_sublist _)
  have ofGroups : ((groupLines position area).flatMap fun lines =>
        (reportsIn lines).flatMap Report.positions).Sublist
      ((groupLines position area).flatMap fun lines => lines.map Prod.fst) :=
    List.Sublist.flatMap_right _ fun lines _ =>
      (List.sublist_append_right _ _).trans (sublist_reportsIn lines)
  have sublist : ((reportGroups position area).flatten.flatMap Report.positions).Sublist
      (List.range' position area.length) := by
    rw [reportGroups, ← List.flatMap_def, List.flatMap_assoc]
    refine ofGroups.trans ?_
    rw [List.flatMap_def, ← List.map_flatten]
    exact (lines.map Prod.fst).trans (sublist_runnerLines position area)
  exact sublist.nodup List.nodup_range'

/-! ### What is placed -/

theorem map_position_placeBody (test : Nat) (key title : String) (lines : List (Nat × String)) :
    (placeBody test key title lines).map Placement.position = lines.map Prod.fst := by
  induction lines generalizing title with
  | nil => rfl
  | cons line later inductionHypothesis =>
    rw [placeBody, List.map_cons, List.map_cons, inductionHypothesis]

theorem map_position_zipWith (reports : List Report) (indices : List Nat) :
    (List.zipWith Report.placedAt reports indices).flatten.map Placement.position =
      (reports.take indices.length).flatMap Report.positions := by
  induction reports generalizing indices with
  | nil => rw [List.zipWith_nil_left, List.take_nil]; rfl
  | cons report reports inductionHypothesis =>
    cases indices with
    | nil => rfl
    | cons test indices =>
      rw [List.zipWith_cons_cons, List.flatten_cons, List.map_append, inductionHypothesis,
        List.length_cons, List.take_succ_cons, List.flatMap_cons, Report.placedAt, List.map_cons,
        map_position_placeBody]
      rfl

/-- A report is left out just if its group has no owner for it. -/
theorem unplaced_iff_length_le (tests : List (Nat × NodeId)) {position : Nat} {area : Transcript}
    {reports : List Report} (member : reports ∈ reportGroups position area) {index : Nat}
    {report : Report} (here : reports[index]? = some report) :
    Unplaced (placeReports tests position tests none area).1 report ↔
      (owners tests reports).length ≤ index := by
  let kept : List Report := (reportGroups position area).flatMap fun reports =>
    reports.take (owners tests reports).length
  let dropped : List Report := (reportGroups position area).flatMap fun reports =>
    reports.drop (owners tests reports).length
  have placed : (placeReports tests position tests none area).1.map Placement.position =
      kept.flatMap Report.positions := by
    rw [placeReports_groups, List.map_flatMap, List.flatMap_assoc]
    exact congrArg (fun place => (reportGroups position area).flatMap place)
      (funext fun reports => map_position_zipWith reports (owners tests reports))
  -- Together the kept and the lost reports are all reports, and no two of these share a line.
  have apart : (kept.flatMap Report.positions).Disjoint (dropped.flatMap Report.positions) := by
    have all : (kept ++ dropped).Perm (reportGroups position area).flatten := by
      refine (List.flatMap_append_perm _ _ _).trans ?_
      simp
    have nodup := (all.flatMap_right Report.positions).nodup_iff.mpr (nodup_positions position area)
    rw [List.flatMap_append] at nodup
    exact List.disjoint_of_nodup_append nodup
  rw [Unplaced, placed]
  constructor
  · intro unplaced
    by_contra owned
    have amongOwned : (reports.take (owners tests reports).length)[index]? = some report := by
      rw [List.getElem?_take_of_lt (Nat.lt_of_not_le owned), here]
    have isKept : report ∈ kept :=
      List.mem_flatMap.mpr ⟨reports, member, List.mem_of_getElem? amongOwned⟩
    exact unplaced report.position List.mem_cons_self
      (List.mem_flatMap.mpr ⟨report, isKept, List.mem_cons_self⟩)
  · intro noOwner place isLine isPlaced
    have amongLost : (reports.drop (owners tests reports).length)[index -
        (owners tests reports).length]? = some report := by
      rw [List.getElem?_drop, Nat.add_sub_cancel' noOwner, here]
    have isDropped : report ∈ dropped :=
      List.mem_flatMap.mpr ⟨reports, member, List.mem_of_getElem? amongLost⟩
    exact apart isPlaced (List.mem_flatMap.mpr ⟨report, isDropped, isLine⟩)

/-! ### The reports that are left out -/

/-- Two tests; `mixedArea` reports on them after a report about a test that is not there. -/
def namedTests : List NodeId :=
  [⟨"tests/a.py", "test_one", none⟩, ⟨"tests/a.py", "test_two", none⟩]

def mixedArea : Transcript :=
  [some "___ test_missing ___", some "E   no such test", some "___ test_one ___",
    some "E   boom", some "___ test_two ___", some "E   bang"]

def mixedReports : List Report :=
  [⟨3, ⟨none, "test_missing", none⟩, [(4, "E   no such test")]⟩,
    ⟨5, ⟨none, "test_one", none⟩, [(6, "E   boom")]⟩,
    ⟨7, ⟨none, "test_two", none⟩, [(8, "E   bang")]⟩]

/-- A report is left out just if it or an earlier one of its group has no test: behind the
first such report no test waits any more. -/
theorem unplaced_iff_ownerless (ids : List NodeId) (position : Nat) (area : Transcript)
    {reports : List Report} (member : reports ∈ reportGroups position area) {index : Nat}
    {report : Report} (here : reports[index]? = some report) :
    Unplaced (placeReports (indexed ids) position (indexed ids) none area).1 report ↔
      ∃ earlier ≤ index, Ownerless ids reports earlier := by
  have inside : index < (reports.map Report.subject).length := by
    rw [List.length_map]
    exact (List.getElem?_eq_some_iff.mp here).1
  rw [unplaced_iff_length_le (indexed ids) member here]
  exact (embedsGreedily_owners ids reports).length_le_iff inside

theorem unplaced_behind_missing :
    Unplaced (placeReports (indexed namedTests) 3 (indexed namedTests) none mixedArea).1
      ⟨5, ⟨none, "test_one", none⟩, [(6, "E   boom")]⟩ := by
  have member : mixedReports ∈ reportGroups 3 mixedArea := by decide +kernel
  have missing : Ownerless namedTests mixedReports 0 := by decide +kernel
  exact (unplaced_iff_ownerless namedTests 3 mixedArea member rfl).mpr
    ⟨0, Nat.zero_le 1, missing⟩

/-- Reports are left out that are about a test behind the owners of all earlier reports. -/
theorem unplaced_with_owner :
    reportGroups 3 mixedArea = [mixedReports] ∧
      placeReports (indexed namedTests) 3 (indexed namedTests) none mixedArea = ([], 3) ∧
      ¬ Ownerless namedTests mixedReports 1 ∧ ¬ Ownerless namedTests mixedReports 2 := by
  decide +kernel

end RunTriage.Session
