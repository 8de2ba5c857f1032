import RunTriage.Proofs.Payload
import RunTriage.Proofs.Reporting
import RunTriage.Proofs.SnapshotAgreement

/-!
Contract: nothing that is found out about a run is missing from the overview of many runs.

Owns:
- the codes of findings, each of which is that of one rule or fallback of the collection;
- the rows of an overview, one for each of these codes and in their order;
- the number of runs in a row, which is that of the runs left with a finding of the code;
- runs whose findings are kept without lines, which give the same snapshot.

Does not own: rates and correlations, which follow from the numbers of runs.
-/

namespace RunTriage

/-! ## The codes of findings -/

namespace RuleBook

variable {book : RuleBook}

theorem exists_fallback_of_isReserved {code : String} (reserved : Fallback.isReserved code = true) :
    ∃ fallback : Fallback, fallback.rule ∈ book.all ∧ fallback.code = code := by
  obtain ⟨fallback, member, sameCode⟩ := List.any_eq_true.mp reserved
  exact ⟨fallback, List.mem_append_right _ (List.mem_map_of_mem member),
    of_decide_eq_true sameCode⟩

end RuleBook

namespace Diagnosis

/-- Every finding comes from a rule or a fallback of the collection. -/
theorem code_mem_findings {book : RuleBook} (registered : book.Registered)
    (tests : List TestRecord) {finding : Finding}
    (member : finding ∈ (ofTests book tests).findings) :
    finding.code ∈ book.all.map Rule.code := by
  rw [ofTests, findings_eq_flatMap_findingsAt, List.mem_flatMap] at member
  obtain ⟨test, _, member⟩ := member
  cases isFallback : finding.isFallback with
  | true =>
    obtain ⟨fallback, inBook, sameCode⟩ := RuleBook.exists_fallback_of_isReserved isFallback
    exact List.mem_map.mpr ⟨fallback.rule, inBook, sameCode⟩
  | false =>
    cases found : tests[test]? with
    | none =>
      rw [findingsAt_of_none found] at member
      cases member
    | some record =>
      obtain ⟨reported, ordered, _, shown⟩ := findings_of_rules registered .start found
      have fromRule : finding ∈ reported.map (Rule.finding record) := by
        rw [← shown, List.mem_filter]
        exact ⟨member, by rw [isFallback]; rfl⟩
      obtain ⟨rule, isReported, rfl⟩ := List.mem_map.mp fromRule
      exact List.mem_map.mpr
        ⟨rule, List.mem_append_left _ (ordered.subset isReported), rfl⟩

end Diagnosis

/-! ## Rows -/

namespace Snapshot

/-- An overview has a row for each rule that the snapshot lists. -/
theorem map_code_overview (snapshot : Snapshot) (revision : Option String) :
    (snapshot.overview revision).map OverviewRow.code = snapshot.rules.map RuleSummary.code := by
  rw [overview, List.map_map]
  rfl

theorem runs_of_mem_overview {snapshot : Snapshot} {revision : Option String} {row : OverviewRow}
    (member : row ∈ snapshot.overview revision) :
    row.runs = snapshot.affectedRuns row.code revision := by
  obtain ⟨rule, _, rfl⟩ := List.mem_map.mp member
  rfl

end Snapshot

/-- The run belongs to a revision, or any run is meant. -/
def Run.belongsTo (revision : Option String) (run : Run) : Bool :=
  match revision with
  | none => true
  | some _ => run.revision = revision

/-- The run with its findings kept without lines. -/
def Run.withStrippedFindings (run : Run) : Run :=
  { run with findings := run.findings.map Finding.stripped }

namespace Archive

open Run (lastOfEachName)

variable {archive : Archive} {kept : List (Nat × Run)}

theorem perm_rules (archive : Archive) :
    (archive.snapshot.rules.map RuleSummary.code).Perm (archive.book.all.map Rule.code) := by
  have sorted : archive.snapshot.rules.Perm (archive.book.all.map summaryOfRule) :=
    List.mergeSort_perm _ _
  have codes := sorted.map RuleSummary.code
  rw [List.map_map] at codes
  exact codes

/-- A snapshot lists the rules in the order of their codes. -/
theorem pairwise_rules (registered : archive.book.Registered) :
    (archive.snapshot.rules.map RuleSummary.code).Pairwise fun left right => left < right := by
  have sorted : archive.snapshot.rules.Pairwise fun left right =>
      decide (left.code ≤ right.code) = true := by
    refine List.pairwise_mergeSort ?_ ?_ _
    · intro first second third isLess isGreater
      exact decide_eq_true
        (String.le_trans (of_decide_eq_true isLess) (of_decide_eq_true isGreater))
    · intro left right
      simpa using String.le_total left.code right.code
  have distinct := (perm_rules archive).nodup_iff.mpr registered.nodup_codes
  refine List.pairwise_map.mpr ((sorted.and (List.pairwise_map.mp distinct)).imp ?_)
  rintro left right ⟨isLeast, different⟩
  exact Std.lt_of_le_of_ne (of_decide_eq_true isLeast) different

/-- The number of runs with a code is that of the runs held. -/
theorem Holds.affectedRuns_eq (holds : Holds archive kept) (code : String)
    (revision : Option String) :
    archive.snapshot.affectedRuns code revision =
      ((kept.map Prod.snd).filter fun run =>
        run.belongsTo revision && run.codes.contains code).length := by
  have listed := (holds.perm_summaries.filter (RunSummary.belongsTo revision)).filter
    fun run => run.has code
  have sameRun (known : Nat × Run) :
      ((summaryOf known).belongsTo revision && (summaryOf known).has code) =
        (known.2.belongsTo revision && known.2.codes.contains code) := by
    have sameCodes : (summaryOf known).codes = known.2.codes := codes_map_stripped known.2.findings
    rw [RunSummary.has, sameCodes]
    cases revision <;> rfl
  rw [Snapshot.affectedRuns, Snapshot.runsWith, Snapshot.runsOf, listed.length_eq,
    List.filter_filter, List.filter_map, List.filter_map, List.length_map, List.length_map]
  congr 2
  funext known
  rw [Function.comp, Function.comp, ← sameRun, Bool.and_comm]

/-! ## Findings without lines -/

/-- What a run adds beside the indexes by code. -/
theorem frame_add (archive : Archive) (run : Run) :
    let removed := archive.remove run.name
    (archive.add run).totalLines = removed.totalLines + run.lines.length ∧
      (archive.add run).runs = removed.runs.insert run.name (entryOf removed.nextId run) ∧
      (archive.add run).revisions = joinRevision run removed.revisions := by
  intro removed
  obtain ⟨_, runs, revisions, lines⟩ := indexCodes_frame removed.nextId run removed
  refine ⟨?_, ?_, ?_⟩
  · rw [add, lines]
  · rw [add, runs]
  · rw [add, revisions]

/-- Two archives differ at most in the indexes by code. -/
structure SameRuns (left right : Archive) : Prop where
  book : left.book = right.book
  nextId : left.nextId = right.nextId
  totalLines : left.totalLines = right.totalLines
  runs : left.runs = right.runs
  revisions : left.revisions = right.revisions

namespace SameRuns

variable {left right : Archive}

theorem refl (archive : Archive) : SameRuns archive archive := ⟨rfl, rfl, rfl, rfl, rfl⟩

/-- A snapshot does not ask the indexes by code. -/
theorem snapshot_eq (same : SameRuns left right) : left.snapshot = right.snapshot := by
  simp only [snapshot, same.book, same.totalLines, same.runs, same.revisions]

theorem remove (same : SameRuns left right) (name : String) :
    SameRuns (left.remove name) (right.remove name) := by
  unfold Archive.remove
  rw [same.runs]
  split
  · exact same
  · exact ⟨same.book, same.nextId, by rw [same.totalLines], rfl, by rw [same.revisions]⟩

/-- Without its findings' lines a run leaves the same entry behind. -/
theorem add (same : SameRuns left right) {run copy : Run}
    (alike : copy = run ∨ copy = run.withStrippedFindings) :
    SameRuns (left.add run) (right.add copy) := by
  have sameName : copy.name = run.name := by rcases alike with rfl | rfl <;> rfl
  have sameLines : copy.lines = run.lines := by rcases alike with rfl | rfl <;> rfl
  have sameRevision : joinRevision copy = joinRevision run := by
    rcases alike with rfl | rfl <;> rfl
  have sameEntry (logId : Nat) : entryOf logId copy = entryOf logId run := by
    rcases alike with rfl | rfl
    · rfl
    · rw [entryOf, Run.withStrippedFindings, List.map_map]
      rfl
  have removed := same.remove run.name
  obtain ⟨lines, runs, revisions⟩ := frame_add left run
  obtain ⟨copyLines, copyRuns, copyRevisions⟩ := frame_add right copy
  rw [sameName] at copyLines copyRuns copyRevisions
  refine ⟨?_, ?_, ?_, ?_, ?_⟩
  · rw [book_add, book_add, same.book]
  · show (left.remove run.name).nextId + 1 = (right.remove copy.name).nextId + 1
    rw [sameName, removed.nextId]
  · rw [lines, copyLines, sameLines, removed.totalLines]
  · rw [runs, copyRuns, sameEntry, removed.runs, removed.nextId]
  · rw [revisions, copyRevisions, sameRevision, removed.revisions]

theorem addAll (same : SameRuns left right) {runs copies : List Run}
    (alike : List.Forall₂ (fun run copy => copy = run ∨ copy = run.withStrippedFindings)
      runs copies) :
    SameRuns (left.addAll runs) (right.addAll copies) := by
  induction alike generalizing left right with
  | nil => exact same
  | cons first _ inductionHypothesis => exact inductionHypothesis (same.add first)

end SameRuns

/-! ## The overview of many runs -/

/-- Nothing that is found out about runs is missing from their overview. If all of them were
analysed with the rules of the archive, then the code of each finding of each run that is left
has one row; the rows ascend by code; the number of runs in a row is that of the runs left, of
the revision that is asked for, with a finding of this code; and findings that are kept without
lines give the same snapshot and overview. -/
theorem overview_complete {rules : List Rule} {book : RuleBook}
    (accepted : RuleBook.ofRules rules = .ok book) (capacity : Nat) {runs : List Run}
    (analyzed : ∀ run ∈ runs, ∃ capture : Capture, ∃ runnerPod,
      run = capture.analyze runnerPod book) :
    let snapshot := ((empty book capacity).addAll runs).snapshot
    (∀ run ∈ lastOfEachName runs, ∀ finding ∈ run.findings, ∀ revision,
        ((snapshot.overview revision).map OverviewRow.code).count finding.code = 1) ∧
      (∀ revision,
        (snapshot.overview revision).Pairwise fun left right => left.code < right.code) ∧
      (∀ revision, ∀ row ∈ snapshot.overview revision,
        row.runs = ((lastOfEachName runs).filter fun run =>
          run.belongsTo revision && run.codes.contains row.code).length) ∧
      ∀ copies, List.Forall₂ (fun run copy => copy = run ∨ copy = run.withStrippedFindings)
          runs copies →
        ((empty book capacity).addAll copies).snapshot = snapshot ∧
          ∀ revision, ((empty book capacity).addAll copies).snapshot.overview revision =
            snapshot.overview revision := by
  intro snapshot
  have sameBook : ((empty book capacity).addAll runs).book = book := book_addAll _ runs
  have registered : ((empty book capacity).addAll runs).book.Registered := by
    rw [sameBook]
    exact RuleBook.registered_of_ofRules accepted
  have ascending := pairwise_rules registered
  refine ⟨?_, ?_, ?_, ?_⟩
  · intro run isLeft finding member revision
    obtain ⟨capture, runnerPod, rfl⟩ := analyzed run (Run.mem_of_mem_lastOfEachName isLeft)
    have inBook := Diagnosis.code_mem_findings (RuleBook.registered_of_ofRules accepted) _ member
    rw [Snapshot.map_code_overview]
    refine List.count_eq_one_of_mem (ascending.imp String.ne_of_lt) ?_
    rwa [(perm_rules _).mem_iff, sameBook]
  · intro revision
    have rows := ascending
    rw [← Snapshot.map_code_overview _ revision] at rows
    exact List.pairwise_map.mp rows
  · intro revision row member
    obtain ⟨kept, holds, isLeft⟩ := holds_lastOfEachName book capacity runs
    rw [Snapshot.runs_of_mem_overview member, ← isLeft]
    exact holds.affectedRuns_eq row.code revision
  · intro copies alike
    have same := ((SameRuns.refl (empty book capacity)).addAll alike).snapshot_eq
    exact ⟨same.symm, fun revision => by rw [← same]⟩

/-- A capture of one failed test. -/
def nightlyCapture : Capture :=
  ⟨"nightly", none, some "r1", [Session.fromRunner "tests/a.py::test_one FAILED [ 50%]"]⟩

theorem tests_nightlyCapture :
    (Session.ofLines Session.defaultRunnerPod nightlyCapture.lines).tests =
      [{ TestRecord.ofId ⟨"tests/a.py", "test_one", none⟩ with
        outcome := some .failed, messages := nightlyCapture.lines }] := by
  decide +kernel

/-- The run is added twice and counts once, in the rows of the two rules that are reported for its
test. -/
theorem overview_of_nightlyCapture :
    ∃ book, RuleBook.ofRules Diagnosis.interferingRules = .ok book ∧
      let run := nightlyCapture.analyze Session.defaultRunnerPod book
      let snapshot := ((empty book 3).addAll [run, run]).snapshot
      run.codes = ["A", "B"] ∧
        (∀ finding ∈ run.findings,
          ((snapshot.overview none).map OverviewRow.code).count finding.code = 1) ∧
        ∀ row ∈ snapshot.overview (some "r1"),
          row.runs = if row.code ∈ ["A", "B"] then 1 else 0 := by
  have accepted : RuleBook.ofRules Diagnosis.interferingRules = .ok _ := rfl
  refine ⟨_, accepted, ?_⟩
  intro run snapshot
  have codes : run.codes = ["A", "B"] := by
    show Finding.codes (Diagnosis.ofTests _ (Session.ofLines _ _).tests).findings = _
    rw [tests_nightlyCapture]
    cbv
  have isLeft : lastOfEachName [run, run] = [run] := by simp [lastOfEachName]
  have analyzed : ∀ other ∈ [run, run], ∃ capture : Capture, ∃ runnerPod,
      other = capture.analyze runnerPod _ :=
    fun other member => ⟨nightlyCapture, _, by simpa using member⟩
  obtain ⟨once, _, counted, _⟩ := overview_complete accepted 3 analyzed
  rw [isLeft] at once counted
  refine ⟨codes, fun finding member => once run List.mem_cons_self finding member none, ?_⟩
  intro row member
  have isOfRevision : run.belongsTo (some "r1") = true := by decide
  rw [counted (some "r1") row member, List.filter_singleton, isOfRevision, Bool.true_and, codes]
  by_cases isOfRule : row.code ∈ ["A", "B"]
  · rw [if_pos isOfRule, List.contains_iff_mem.mpr isOfRule]
    rfl
  · rw [if_neg isOfRule, Bool.eq_false_iff.mpr (mt List.contains_iff_mem.mp isOfRule)]
    rfl

end Archive

end RunTriage
