import RunTriage.Proofs.Attribution
import RunTriage.Proofs.ExcerptLines
import RunTriage.Proofs.Firing
import RunTriage.Proofs.Payload
import RunTriage.Proofs.Splitting
import RunTriage.Run

/-!
Contract: the lines of a finding are lines of the log.

Owns:
- the lines that a record holds, in whatever section;
- searches, symptoms, rules and fallbacks, which show lines of the record they are asked about and
  no others;
- the findings of a run, whose lines can all be highlighted in its log.

Does not own: which lines an excerpt shows around them, which is in
`RunTriage.Proofs.ExcerptLines`.
-/

namespace RunTriage

/-! ## The lines of a record -/

namespace TestRecord

/-- The lines in all sections. -/
def heldLines (record : TestRecord) : List Line :=
  record.messages ++ record.teardown.getD [] ++
    record.details.flatMap fun entry => entry.2.flatMap Section.lines

variable {record : TestRecord}

theorem messages_subset (record : TestRecord) : record.messages ⊆ record.heldLines :=
  fun _ member => List.mem_append_left _ (List.mem_append_left _ member)

theorem teardown_subset (record : TestRecord) : record.teardown.getD [] ⊆ record.heldLines :=
  fun _ member => List.mem_append_left _ (List.mem_append_right _ member)

theorem section?_subset {path : String} {lines : List Line}
    (found : record.section? path = some lines) : lines ⊆ record.heldLines := by
  unfold section? at found
  split at found
  · split at found
    · cases found
      exact messages_subset record
    · split at found
      · have held := teardown_subset record
        rwa [found] at held
      · cases found
  · split at found
    · cases found
    · rename_i key name _ sections isKey
      obtain ⟨part, isPart, rfl⟩ := Option.map_eq_some_iff.mp found
      intro line member
      have inSections := List.mem_flatMap.mpr ⟨part, List.mem_of_find?_eq_some isPart, member⟩
      exact List.mem_append_right _
        (List.mem_flatMap.mpr ⟨_, SortedTable.mem_of_find? isKey, inSections⟩)
  · cases found

end TestRecord

/-! ## Searches -/

namespace Search

theorem linesAfter_sublist {anchor : Filter} {lines region : List Line} {start : Option Instant}
    (found : linesAfter anchor lines = some (start, region)) : region.Sublist lines := by
  induction lines with
  | nil => cases found
  | cons line rest inductionHypothesis =>
    unfold linesAfter at found
    split at found
    · cases found
      exact List.sublist_cons_self ..
    · exact (inductionHypothesis found).cons line

theorem region?_sublist {search : Search} {lines region : List Line} {start : Option Instant}
    (found : search.region? lines = some (start, region)) : region.Sublist lines := by
  unfold region? at found
  split at found
  · cases found
    exact List.Sublist.refl lines
  · exact linesAfter_sublist found

theorem withinTime_sublist (millis : Nat) (start : Option Instant) (lines : List Line) :
    (withinTime millis start lines).Sublist lines := by
  induction lines generalizing start with
  | nil => exact List.Sublist.refl _
  | cons line rest inductionHypothesis =>
    unfold withinTime
    split
    · exact (inductionHypothesis start).cons_cons line
    · split
      · exact List.nil_sublist _
      · exact (inductionHypothesis _).cons_cons line

theorem window_sublist (search : Search) (start : Option Instant) (lines : List Line) :
    (search.window start lines).Sublist lines := by
  unfold window
  cases search.most with
  | none =>
    cases search.duration with
    | none => exact List.Sublist.refl lines
    | some millis => exact withinTime_sublist millis start lines
  | some most =>
    have counted := List.take_sublist most lines
    cases search.duration with
    | none => exact counted
    | some millis => exact (withinTime_sublist millis start _).trans counted

/-- A search finds lines of its section, in their order. -/
theorem ofLines_sublist (search : Search) (lines : List Line) :
    (search.ofLines lines).2.Sublist lines := by
  unfold ofLines
  split
  · exact List.nil_sublist lines
  · rename_i start region found
    dsimp only
    split
    · exact List.nil_sublist lines
    · have inWindow := window_sublist search start region
      exact List.filter_sublist.trans (inWindow.trans (region?_sublist found))

theorem ofRecord_subset (search : Search) (record : TestRecord) :
    (search.ofRecord record).2 ⊆ record.heldLines := by
  unfold ofRecord
  split
  · exact List.nil_subset _
  · rename_i lines found
    exact List.Subset.trans (ofLines_sublist search lines).subset (TestRecord.section?_subset found)

end Search

/-! ## Symptoms and rules -/

namespace Symptom

mutual

/-- What a symptom adds to the lines gathered before are lines of the record. -/
theorem gather_subset (record : TestRecord) (symptom : Symptom) (gathered : List Line) :
    (gather record symptom gathered).2 ⊆ gathered ++ record.heldLines := by
  have before : gathered ⊆ gathered ++ record.heldLines := List.subset_append_left _ _
  match symptom with
  | .search query =>
    unfold gather
    dsimp only
    split
    · have found := Search.ofRecord_subset query record
      exact List.append_subset.mpr ⟨before, List.subset_append_of_subset_right gathered found⟩
    · exact before
  | .outcome outcomes =>
    unfold gather
    split <;> exact before
  | .all parts =>
    unfold gather
    split
    · exact before
    · split
      · rename_i total lines found
        have shown := gatherAll_subset record parts found
        exact List.append_subset.mpr ⟨before, List.subset_append_of_subset_right gathered shown⟩
      · exact before

theorem gatherAll_subset (record : TestRecord) (parts : List Symptom) {count total : Nat}
    {gathered lines : List Line}
    (found : gatherAll record parts count gathered = some (total, lines)) :
    lines ⊆ gathered ++ record.heldLines := by
  match parts with
  | [] =>
    unfold gatherAll at found
    cases found
    exact List.subset_append_left _ _
  | part :: rest =>
    unfold gatherAll at found
    dsimp only at found
    split at found
    · cases found
    · have added := gather_subset record part gathered
      have restAdded := gatherAll_subset record rest found
      exact List.Subset.trans restAdded
        (List.append_subset.mpr ⟨added, List.subset_append_right _ _⟩)

end

theorem evidence?_subset {record : TestRecord} {symptom : Symptom} {lines : List Line}
    (shown : evidence? record symptom = some lines) : lines ⊆ record.heldLines := by
  have gathered := gather_subset record symptom []
  unfold evidence? at shown
  dsimp only at shown
  split at shown
  · cases shown
    exact gathered
  · cases shown

end Symptom

theorem Rule.evidence?_subset {rule : Rule} {record : TestRecord} {lines : List Line}
    (shown : rule.evidence? record = some lines) : lines ⊆ record.heldLines := by
  obtain ⟨symptom, _, shows⟩ := List.exists_of_findSome?_eq_some shown
  exact Symptom.evidence?_subset shows

/-! ## Findings -/

theorem likelyEvidence_subset (lines : List Line) : likelyEvidence lines ⊆ lines := by
  refine List.append_subset.mpr ⟨List.filter_sublist.subset, fun line member => ?_⟩
  exact List.mem_of_getLast? (Option.mem_toList.mp member)

/-- The finding is about the record, and shows lines of it. -/
def Finding.ShowsOnly (record : TestRecord) (finding : Finding) : Prop :=
  finding.test = record ∧ finding.lines ⊆ record.heldLines

theorem Examination.showsOnly_of_mem_ofRules {record : TestRecord} {rules : List Rule}
    {history : History} {finding : Finding}
    (member : finding ∈ (ofRules record rules history).findings) : finding.ShowsOnly record := by
  induction rules generalizing history with
  | nil => cases member
  | cons rule rest inductionHypothesis =>
    cases found : rule.fires? history record with
    | none =>
      rw [ofRules_of_silent found] at member
      exact inductionHypothesis member
    | some lines =>
      rw [ofRules_of_fires found] at member
      rcases List.mem_append.mp member with ofRule | ofRest
      · unfold report at ofRule
        split at ofRule
        · cases ofRule
        · have shows : rule.evidence? record = some lines := by
            unfold Rule.fires? at found
            split at found
            · cases found
            · exact found
          rw [List.mem_singleton.mp ofRule]
          exact ⟨rfl, Rule.evidence?_subset shows⟩
      · exact inductionHypothesis ofRest

theorem showsOnly_of_mem_fallbacks {record : TestRecord} {tainted : Bool} {finding : Finding}
    (member : finding ∈ fallbacks record tainted) : finding.ShowsOnly record := by
  unfold fallbacks at member
  rcases List.mem_append.mp member with ofTest | ofTeardown
  · split at ofTest
    · rw [List.mem_singleton.mp ofTest]
      exact ⟨rfl, List.Subset.trans (likelyEvidence_subset _) record.messages_subset⟩
    · cases ofTest
  · split at ofTeardown
    · rw [List.mem_singleton.mp ofTeardown]
      exact ⟨rfl, List.Subset.trans (likelyEvidence_subset _) record.teardown_subset⟩
    · cases ofTeardown

namespace Diagnosis

theorem showsOnly_of_mem_ofTest {book : RuleBook} {history : History} {record : TestRecord}
    {finding : Finding} (member : finding ∈ (ofTest book history record).findings) :
    finding.ShowsOnly record := by
  rw [findings_ofTest] at member
  rcases List.mem_append.mp member with ofRules | remains
  · exact Examination.showsOnly_of_mem_ofRules ofRules
  · unfold remaining at remains
    split at remains
    · cases remains
    · exact showsOnly_of_mem_fallbacks remains

/-- Every finding of a run is about one of its tests and shows lines of it. -/
theorem showsOnly_of_mem_ofTests {book : RuleBook} {tests : List TestRecord} {finding : Finding}
    (member : finding ∈ (ofTests book tests).findings) :
    ∃ record ∈ tests, finding.ShowsOnly record := by
  rw [ofTests, findings_eq_flatMap_findingsAt] at member
  obtain ⟨test, _, ofTest⟩ := List.mem_flatMap.mp member
  cases found : tests[test]? with
  | none =>
    rw [findingsAt_of_none found] at ofTest
    cases ofTest
  | some record =>
    rw [findingsAt_of_getElem? found] at ofTest
    exact ⟨record, List.mem_of_getElem? found, showsOnly_of_mem_ofTest ofTest⟩

end Diagnosis

/-! ## The log of a run -/

namespace Session

theorem linesAt_subset (lines : List Line) (positions : List Nat) :
    linesAt lines positions ⊆ lines := by
  intro line member
  obtain ⟨position, _, isLine⟩ := List.mem_filterMap.mp member
  exact List.mem_of_getElem? isLine

theorem Attribution.Explains.heldLines_subset {lines : List Line} {attribution : Attribution}
    {record : TestRecord} (explains : attribution.Explains lines record) :
    record.heldLines ⊆ lines := by
  refine List.append_subset.mpr ⟨List.append_subset.mpr ⟨?_, ?_⟩, ?_⟩
  · rw [explains.messages]
    exact linesAt_subset lines _
  · rw [explains.teardown]
    cases attribution.teardown with
    | none => exact List.nil_subset lines
    | some positions => exact linesAt_subset lines positions
  · intro line member
    rw [explains.details] at member
    obtain ⟨entry, isEntry, inEntry⟩ := List.mem_flatMap.mp member
    obtain ⟨place, _, rfl⟩ := List.mem_map.mp isEntry
    obtain ⟨part, isPart, inPart⟩ := List.mem_flatMap.mp inEntry
    obtain ⟨positions, _, rfl⟩ := List.mem_map.mp isPart
    exact linesAt_subset lines _ inPart

/-- The tests of a session hold lines of its log. -/
theorem heldLines_subset {runnerPod : String} {lines : List Line} {record : TestRecord}
    (member : record ∈ (ofLines runnerPod lines).tests) : record.heldLines ⊆ lines := by
  have explains := (attributes_ofLines runnerPod lines).explains
  obtain ⟨test, rfl⟩ := List.get_of_mem member
  have inside : test.val < _ := lt_of_lt_of_eq test.isLt explains.length_eq.symm
  exact (explains.get inside test.isLt).heldLines_subset

end Session

/-- The lines of every finding of a run can be shown in its log: each of them is a line of the log,
and an excerpt highlights them wherever they stand and no other line. The first and the last line
of the log are anchors only for a finding without lines. -/
theorem Capture.findings_highlighted (capture : Capture) (runnerPod : String) (book : RuleBook)
    {context : Nat} (small : capture.lines.length + context < 2 ^ 64) :
    let run := capture.analyze runnerPod book
    ∀ finding ∈ run.findings,
      ∃ items, excerpt run.lines finding.lines context = .ok items ∧
        (∀ line ∈ finding.lines,
          line ∈ run.lines ∧ ∃ position, .line position line true ∈ items) ∧
        (∀ position line, .line position line true ∈ items ↔
          run.lines[position]? = some line ∧ line ∈ finding.lines) ∧
        (finding.lines ≠ [] → ∀ anchor,
          anchor ∈ Excerpt.anchors (Excerpt.markLines run.lines finding.lines) ↔
            ∃ line ∈ finding.lines, run.lines[anchor]? = some line) := by
  intro run finding member
  obtain ⟨record, isTest, _, shown⟩ := Diagnosis.showsOnly_of_mem_ofTests member
  have inLog : finding.lines ⊆ run.lines :=
    List.Subset.trans shown (Session.heldLines_subset isTest)
  obtain ⟨items, isExcerpt⟩ := Excerpt.exists_excerpt small finding.lines
  have highlighted (position : Nat) (line : Line) : .line position line true ∈ items ↔
      run.lines[position]? = some line ∧ line ∈ finding.lines :=
    Excerpt.highlighted_mem_excerpt isExcerpt
  refine ⟨items, isExcerpt, fun line isShown => ⟨inLog isShown, ?_⟩, highlighted,
    fun someLine anchor => ?_⟩
  · obtain ⟨position, isLine⟩ := List.mem_iff_getElem?.mp (inLog isShown)
    exact ⟨position, (highlighted position line).mpr ⟨isLine, isShown⟩⟩
  · obtain ⟨line, isShown⟩ := List.exists_mem_of_ne_nil _ someLine
    obtain ⟨position, isLine⟩ := List.mem_iff_getElem?.mp (inLog isShown)
    have isMarked := Excerpt.mem_markedPositions_markLines.mpr ⟨line, isShown, isLine⟩
    rw [Excerpt.anchors_eq_markedPositions (List.ne_nil_of_mem isMarked)]
    exact Excerpt.mem_markedPositions_markLines

/-- A failed test, and a line of its detail report that also stands before all reports. -/
def reportedCapture : Capture :=
  ⟨"nightly", none, none,
    [Session.fromRunner "tests/a.py::test_one FAILED [ 50%]", Session.fromRunner "E   boom",
      Session.fromRunner "=== FAILURES ===", Session.fromRunner "___ test_one ___",
      Session.fromRunner "E   boom"]⟩

def reportedTest : TestRecord :=
  { TestRecord.ofId ⟨"tests/a.py", "test_one", none⟩ with
    outcome := some .failed
    messages := [Session.fromRunner "tests/a.py::test_one FAILED [ 50%]"]
    details := [("detail",
      [⟨"main", [Session.fromRunner "___ test_one ___", Session.fromRunner "E   boom"]⟩])] }

theorem tests_reportedCapture :
    (Session.ofLines Session.defaultRunnerPod reportedCapture.lines).tests = [reportedTest] := by
  decide +kernel

/-- Looks for lines of a detail report that start with `E`. -/
def reportSearch : Search :=
  { Search.ofFilter ⟨"^(?:E)", .concat [.check .textStart, .literal 'E'], []⟩ with
    path := "detail/main" }

def ruleForReports : Rule :=
  .ofSymptoms "REPORTED" "Reported failure" .everywhere [.search reportSearch]

theorem evidence?_reportedTest :
    ruleForReports.evidence? reportedTest = some [Session.fromRunner "E   boom"] := by
  have parts : reportSearch.path.splitOn "/" = ["detail", "main"] :=
    Text.splitOn_singleton "detail/main" '/'
  have inReport : reportedTest.section? reportSearch.path =
      some [Session.fromRunner "___ test_one ___", Session.fromRunner "E   boom"] := by
    rw [TestRecord.section?, parts]
    rfl
  have found : reportSearch.ofRecord reportedTest = (1, [Session.fromRunner "E   boom"]) := by
    rw [Search.ofRecord, inReport]
    decide +kernel
  simp [ruleForReports, Rule.ofSymptoms, Rule.evidence?, Symptom.evidence?, Symptom.gather, found]

/-- The line is highlighted in both places, with the largest context that is allowed. -/
theorem findings_of_reportedCapture_highlighted :
    ∃ book, RuleBook.ofRules [ruleForReports] = .ok book ∧
      let run := reportedCapture.analyze Session.defaultRunnerPod book
      ∃ finding ∈ run.findings, finding.lines = [Session.fromRunner "E   boom"] ∧
        ∃ items, excerpt run.lines finding.lines (2 ^ 64 - 6) = .ok items ∧
          ∀ position, .line position (Session.fromRunner "E   boom") true ∈ items ↔
            position = 1 ∨ position = 4 := by
  have accepted : RuleBook.ofRules [ruleForReports] = .ok _ := rfl
  refine ⟨_, accepted, ?_⟩
  intro run
  have fires : ruleForReports.fires? .start reportedTest = some [Session.fromRunner "E   boom"] :=
    evidence?_reportedTest
  have tried : (RuleBook.empty.push ruleForReports).candidates reportedTest.key =
      [ruleForReports] := by
    simp [RuleBook.candidates, RuleBook.push, RuleBook.under, RuleBook.empty, ruleForReports,
      Rule.ofSymptoms]
  have findings : run.findings =
      [⟨reportedTest, "REPORTED", [Session.fromRunner "E   boom"]⟩] := by
    show (Diagnosis.ofTests _ (Session.ofLines _ _).tests).findings = _
    rw [tests_reportedCapture]
    simp only [Diagnosis.ofTests, Diagnosis.continued, Diagnosis.ofTest, tried,
      Examination.ofRules, fires]
    rfl
  have isFinding : ⟨reportedTest, "REPORTED", [Session.fromRunner "E   boom"]⟩ ∈ run.findings :=
    findings ▸ List.mem_singleton_self _
  have small : reportedCapture.lines.length + (2 ^ 64 - 6) < 2 ^ 64 := by decide
  obtain ⟨items, isExcerpt, _, highlighted, _⟩ :=
    reportedCapture.findings_highlighted Session.defaultRunnerPod _ small _ isFinding
  refine ⟨_, isFinding, rfl, items, isExcerpt, fun position => ?_⟩
  rw [highlighted, and_iff_left (List.mem_singleton_self _)]
  have inLog : ∀ position < 5, reportedCapture.lines[position]? =
      some (Session.fromRunner "E   boom") ↔ position = 1 ∨ position = 4 := by
    decide +kernel
  by_cases inside : position < 5
  · exact inLog position inside
  · have behind : run.lines[position]? = none := List.getElem?_eq_none (Nat.le_of_not_lt inside)
    rw [behind]
    simp only [reduceCtorEq, false_iff]
    omega

end RunTriage
