import RunTriage.Proofs.ArchiveContents

/-!
Contract: adding a run again replaces it.

Owns:
- the runs that are left of a sequence of runs, which are the last ones of each name;
- what two archives that hold the same runs answer, up to the numbers of the runs;
- the size that a removal subtracts, which is part of the total.

Does not own: examples, which are lost when a run displaces them.
-/

namespace RunTriage

namespace Run

/-- The last run of each name, in the order in which they stand. -/
def lastOfEachName : List Run → List Run
  | [] => []
  | run :: later =>
    if later.any fun other => other.name = run.name then lastOfEachName later
    else run :: lastOfEachName later

theorem mem_of_mem_lastOfEachName {runs : List Run} {run : Run}
    (member : run ∈ lastOfEachName runs) : run ∈ runs := by
  induction runs with
  | nil => cases member
  | cons first later inductionHypothesis =>
    unfold lastOfEachName at member
    split at member
    · exact List.mem_cons_of_mem first (inductionHypothesis member)
    · rcases List.mem_cons.mp member with isFirst | isLater
      · exact isFirst ▸ List.mem_cons_self
      · exact List.mem_cons_of_mem first (inductionHypothesis isLater)

end Run

/-! ## Numbers of runs left out -/

/-- The summary without the number of its run. -/
def RunSummary.unnumbered (summary : RunSummary) : RunSummary :=
  { summary with logId := 0 }

/-- The snapshot without the numbers of its runs. -/
def Snapshot.unnumbered (snapshot : Snapshot) : Snapshot :=
  { snapshot with runs := snapshot.runs.map RunSummary.unnumbered }

/-- The findings without the number of their run. -/
def RunFindings.unnumbered (findings : RunFindings) : RunFindings :=
  { findings with logId := 0 }

/-- The entry without the number of its run. -/
def RunEntry.unnumbered (entry : RunEntry) : RunEntry :=
  { entry with logId := 0 }

namespace Archive

open Run (lastOfEachName)

/-! ## The runs that are left -/

theorem distinctNames_lastOfEachName (runs : List Run) :
    DistinctNames (lastOfEachName runs) := by
  induction runs with
  | nil => exact .nil
  | cons first later inductionHypothesis =>
    unfold lastOfEachName
    split
    · exact inductionHypothesis
    · rename_i isLast
      refine List.pairwise_cons.mpr ⟨fun other member sameName => isLast ?_,
        inductionHypothesis⟩
      exact List.any_eq_true.mpr
        ⟨other, Run.mem_of_mem_lastOfEachName member, decide_eq_true sameName.symm⟩

theorem lastOfEachName_of_distinct {runs : List Run} (distinct : DistinctNames runs) :
    lastOfEachName runs = runs := by
  induction runs with
  | nil => rfl
  | cons first later inductionHypothesis =>
    obtain ⟨different, laterDistinct⟩ := List.pairwise_cons.mp distinct
    have isLast : ¬ (later.any fun other => other.name = first.name) = true := by
      simpa using fun other member => Ne.symm (different other member)
    rw [lastOfEachName, if_neg isLast, inductionHypothesis laterDistinct]

/-- Put a run at the end, in place of an earlier one of the same name. -/
def replace (known : List Run) (run : Run) : List Run :=
  without run.name known ++ [run]

theorem foldl_replace (runs known : List Run) :
    runs.foldl replace known =
      (known.filter fun run => !runs.any fun other => other.name = run.name) ++
        lastOfEachName runs := by
  induction runs generalizing known with
  | nil => simp [lastOfEachName]
  | cons first later inductionHypothesis =>
    have stays (run : Run) :
        (!(first :: later).any fun other => other.name = run.name) =
          ((!later.any fun other => other.name = run.name) && run.name != first.name) := by
      rw [List.any_cons, Bool.not_or, Bool.and_comm]
      congr 1
      by_cases same : run.name = first.name
      · simp [same]
      · simp [same, Ne.symm same]
    rw [List.foldl_cons, inductionHypothesis, replace, without, List.filter_append,
      List.filter_filter, List.append_assoc]
    simp only [stays]
    congr 1
    by_cases comesAgain : (later.any fun other => other.name = first.name) = true
    · rw [lastOfEachName, if_pos comesAgain, List.filter_singleton, comesAgain]
      rfl
    · rw [lastOfEachName, if_neg comesAgain, List.filter_singleton,
        Bool.eq_false_of_not_eq_true comesAgain]
      rfl

/-- A sequence of runs leaves the last one of each name. -/
theorem holds_addAll {archive : Archive} {kept : List (Nat × Run)}
    (holds : Holds archive kept) (runs : List Run) :
    ∃ left, Holds (archive.addAll runs) left ∧
      left.map Prod.snd = runs.foldl replace (kept.map Prod.snd) := by
  induction runs generalizing archive kept with
  | nil => exact ⟨kept, holds, rfl⟩
  | cons first later inductionHypothesis =>
    obtain ⟨left, leftHolds, isLeft⟩ := inductionHypothesis (holds.add first)
    refine ⟨left, leftHolds, ?_⟩
    rw [isLeft, List.foldl_cons, List.map_append, map_snd_filter]
    rfl

theorem holds_lastOfEachName (book : RuleBook) (capacity : Nat) (runs : List Run) :
    ∃ left, Holds ((empty book capacity).addAll runs) left ∧
      left.map Prod.snd = lastOfEachName runs := by
  obtain ⟨left, holds, isLeft⟩ := holds_addAll (holds_empty book capacity) runs
  refine ⟨left, holds, ?_⟩
  rw [isLeft, foldl_replace]
  rfl

theorem book_add (archive : Archive) (run : Run) : (archive.add run).book = archive.book := by
  have removed : (archive.remove run.name).book = archive.book := by
    unfold remove
    split <;> rfl
  unfold add
  exact (indexCodes_frame _ run _).1.trans removed

theorem book_addAll (archive : Archive) (runs : List Run) :
    (archive.addAll runs).book = archive.book := by
  induction runs generalizing archive with
  | nil => rfl
  | cons first later inductionHypothesis =>
    exact (inductionHypothesis (archive.add first)).trans (book_add archive first)

/-! ## Answers up to the numbers of runs -/

/-- Two archives give the same answers, up to the numbers of the runs. Examples are not
among them. -/
structure AnswersAlike (left right : Archive) : Prop where
  snapshot : left.snapshot.unnumbered = right.snapshot.unnumbered
  runCount : left.runCount = right.runCount
  totalLines : left.totalLines = right.totalLines
  runFindings : ∀ name, left.runFindings? name = right.runFindings? name
  strippedFindings : ∀ code, (left.strippedFindings code).map RunFindings.unnumbered =
    (right.strippedFindings code).map RunFindings.unnumbered

section Answers

variable {left right : Archive} {leftKept rightKept : List (Nat × Run)}

/-- The runs table without the numbers of the runs. -/
def unnumberedRuns (archive : Archive) : SortedTable RunEntry :=
  archive.runs.map fun entry => (entry.1, entry.2.unnumbered)

theorem Holds.perm_unnumberedRuns (holds : Holds left leftKept) :
    (unnumberedRuns left).Perm
      ((leftKept.map Prod.snd).map fun run => (run.name, entryOf 0 run)) := by
  have stored := holds.perm_runs.map fun entry => (entry.1, entry.2.unnumbered)
  rw [List.map_map] at stored ⊢
  exact stored

theorem Holds.strippedFindings_unnumbered (holds : Holds left leftKept) (code : String) :
    (left.strippedFindings code).map RunFindings.unnumbered =
      (leftKept.map Prod.snd).filterMap fun run => strippedOf code (0, run) := by
  rw [holds.findings, List.map_filterMap, List.filterMap_map]
  congr 1
  funext run
  simp only [strippedOf, Function.comp]
  cases run.2.date with
  | none => rfl
  | some date =>
    dsimp only
    split <;> rfl

/-- The snapshot asks the runs table for everything but the numbers of the runs. -/
theorem snapshot_unnumbered (archive : Archive) :
    archive.snapshot.unnumbered =
      { archive with runs := unnumberedRuns archive }.snapshot := by
  simp [snapshot, Snapshot.unnumbered, unnumberedRuns, List.foldl_map, summaryOfRun,
    RunSummary.unnumbered, RunEntry.unnumbered]

theorem runFindings?_unnumbered (archive : Archive) (name : String) :
    archive.runFindings? name =
      ((unnumberedRuns archive).find? name).map RunEntry.findings := by
  rw [unnumberedRuns, SortedTable.find?_mapValues, Option.map_map]
  rfl

theorem runCount_unnumbered (archive : Archive) :
    archive.runCount = (unnumberedRuns archive).length :=
  (List.length_map _).symm

/-- The runs table is determined by the runs that are held, in any order. -/
theorem Holds.unnumberedRuns_eq (leftHolds : Holds left leftKept)
    (rightHolds : Holds right rightKept)
    (sameRuns : (leftKept.map Prod.snd).Perm (rightKept.map Prod.snd)) :
    unnumberedRuns left = unnumberedRuns right := by
  refine SortedTable.Ascending.eq_of_perm (leftHolds.runsAscending.mapValues _)
    (rightHolds.runsAscending.mapValues _) ?_
  have entries := sameRuns.map fun run => (run.name, entryOf 0 run)
  exact leftHolds.perm_unnumberedRuns.trans (entries.trans rightHolds.perm_unnumberedRuns.symm)

theorem Holds.totalLines_eq (leftHolds : Holds left leftKept) (rightHolds : Holds right rightKept)
    (sameRuns : (leftKept.map Prod.snd).Perm (rightKept.map Prod.snd)) :
    left.totalLines = right.totalLines := by
  have sizes := sameRuns.map fun run => run.lines.length
  rw [List.map_map, List.map_map] at sizes
  exact leftHolds.totalLines.trans ((total_perm sizes).trans rightHolds.totalLines.symm)

/-- So is the snapshot. -/
theorem Holds.snapshot_eq (leftHolds : Holds left leftKept) (rightHolds : Holds right rightKept)
    (sameBook : left.book = right.book)
    (sameRuns : (leftKept.map Prod.snd).Perm (rightKept.map Prod.snd)) :
    left.snapshot.unnumbered = right.snapshot.unnumbered := by
  have revisions : left.revisions = right.revisions := by
    refine leftHolds.revisionsAscending.ext rightHolds.revisionsAscending fun revision => ?_
    rw [leftHolds.revisions, rightHolds.revisions, revisionOf_perm sameRuns]
  have lines := leftHolds.totalLines_eq rightHolds sameRuns
  have runs := leftHolds.unnumberedRuns_eq rightHolds sameRuns
  rw [snapshot_unnumbered, snapshot_unnumbered]
  simp only [snapshot, runs, revisions, lines, sameBook]

/-- The answers are determined by the runs that are held and their order. -/
theorem Holds.answersAlike (leftHolds : Holds left leftKept) (rightHolds : Holds right rightKept)
    (sameBook : left.book = right.book)
    (sameRuns : leftKept.map Prod.snd = rightKept.map Prod.snd) : AnswersAlike left right := by
  have reordered := List.Perm.of_eq sameRuns
  have runs := leftHolds.unnumberedRuns_eq rightHolds reordered
  refine ⟨leftHolds.snapshot_eq rightHolds sameBook reordered, ?_,
    leftHolds.totalLines_eq rightHolds reordered, fun name => ?_, fun code => ?_⟩
  · rw [runCount_unnumbered, runCount_unnumbered, runs]
  · rw [runFindings?_unnumbered, runFindings?_unnumbered, runs]
  · rw [leftHolds.strippedFindings_unnumbered, rightHolds.strippedFindings_unnumbered, sameRuns]

end Answers

/-! ## Replacement -/

/-- Number of lines of a run, which is what its removal subtracts from the total. -/
def linesOf (archive : Archive) (name : String) : Nat :=
  ((archive.runs.find? name).map RunEntry.lines).getD 0

theorem Holds.lines_add_remove {archive : Archive} {kept : List (Nat × Run)}
    (holds : Holds archive kept) (name : String) :
    archive.linesOf name + (archive.remove name).totalLines = archive.totalLines := by
  cases found : archive.runs.find? name with
  | none => simp [linesOf, Archive.remove, found]
  | some entry =>
    have enough := holds.lines_le found
    simp only [linesOf, Archive.remove, found, Option.map_some, Option.getD_some]
    omega

/-- Adding a run in place of an earlier one of the same name is the same as never having
added the earlier one. On the way no removal takes more from the total than it holds. -/
theorem addAll_replaces (book : RuleBook) (capacity : Nat) (runs : List Run) :
    AnswersAlike ((empty book capacity).addAll runs)
        ((empty book capacity).addAll (lastOfEachName runs)) ∧
      ∀ count name,
        let before := (empty book capacity).addAll (runs.take count)
        before.linesOf name + (before.remove name).totalLines = before.totalLines := by
  constructor
  · obtain ⟨left, leftHolds, isLeft⟩ := holds_lastOfEachName book capacity runs
    obtain ⟨fresh, freshHolds, isFresh⟩ :=
      holds_lastOfEachName book capacity (lastOfEachName runs)
    have sameRuns : left.map Prod.snd = fresh.map Prod.snd := by
      rw [isLeft, isFresh, lastOfEachName_of_distinct (distinctNames_lastOfEachName runs)]
    have sameBook : ((empty book capacity).addAll runs).book =
        ((empty book capacity).addAll (lastOfEachName runs)).book := by
      rw [book_addAll, book_addAll]
    exact leftHolds.answersAlike freshHolds sameBook sameRuns
  · intro count name before
    obtain ⟨left, holds, _⟩ := holds_lastOfEachName book capacity (runs.take count)
    exact holds.lines_add_remove name

end Archive

end RunTriage
