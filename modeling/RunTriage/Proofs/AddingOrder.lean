import RunTriage.Proofs.Examples

/-!
Contract: the order in which runs are added does not show in a report.

Owns:
- `ReportsAlike`, the answers that are the same for every order;
- the order of adding, which decides about numbers alone, and about examples only where
  dates are the same.

Does not own: runs of the same name, of which the last one counts.
-/

namespace RunTriage

/-- The example without the number of its run. -/
def Example.unnumbered (shown : Example) : Example :=
  { shown with logId := 0 }

namespace Archive

open Newest (newestFirst)
open Session (map_snd_indexed)

/-- The dated runs with a code have different dates. -/
def DifferentDates (code : String) (runs : List Run) : Prop :=
  (runs.filter fun run => run.date.isSome && decide (code ∈ run.codes)).Pairwise
    fun left right => left.date ≠ right.date

instance (code : String) (runs : List Run) : Decidable (DifferentDates code runs) :=
  inferInstanceAs (Decidable (List.Pairwise _ _))

/-- Two archives give the same answers up to the numbers of the runs and, within the findings of
a code, their order. -/
structure ReportsAlike (left right : Archive) : Prop where
  snapshot : left.snapshot.unnumbered = right.snapshot.unnumbered
  runFindings : ∀ name, left.runFindings? name = right.runFindings? name
  strippedFindings : ∀ code, ((left.strippedFindings code).map RunFindings.unnumbered).Perm
    ((right.strippedFindings code).map RunFindings.unnumbered)

theorem Holds.reportsAlike {left right : Archive} {leftKept rightKept : List (Nat × Run)}
    (leftHolds : Holds left leftKept) (rightHolds : Holds right rightKept)
    (sameBook : left.book = right.book)
    (sameRuns : (leftKept.map Prod.snd).Perm (rightKept.map Prod.snd)) :
    ReportsAlike left right where
  snapshot := leftHolds.snapshot_eq rightHolds sameBook sameRuns
  runFindings := by
    intro name
    rw [runFindings?_unnumbered, runFindings?_unnumbered,
      leftHolds.unnumberedRuns_eq rightHolds sameRuns]
  strippedFindings := by
    intro code
    rw [leftHolds.strippedFindings_unnumbered, rightHolds.strippedFindings_unnumbered]
    exact sameRuns.filterMap _

section Examples

variable {runs left right : List Run} {code : String}

theorem unnumbered_exampleOf (code : String) (known : Nat × Run) :
    (exampleOf code known).map Example.unnumbered = exampleOf code (0, known.2) := by
  unfold exampleOf
  cases known.2.date with
  | none => rfl
  | some date =>
    dsimp only
    split <;> rfl

/-- Without numbers the runs that match are those of the sequence, newest first. -/
theorem unnumbered_matching (distinct : DistinctNames runs) (code : String) :
    (matching runs code).map Example.unnumbered =
      newestFirst Example.date (runs.filterMap fun run => exampleOf code (0, run)) := by
  rw [matching, survivors_of_distinct distinct,
    Newest.map_newestFirst Example.date Example.date Example.unnumbered fun _ => rfl,
    List.map_filterMap]
  conv_rhs => rw [← map_snd_indexed runs, List.filterMap_map]
  congr 2
  funext known
  exact unnumbered_exampleOf code known

theorem date_of_exampleOf {known : Nat × Run} {shown : Example}
    (isShown : exampleOf code known = some shown) :
    known.2.date = some shown.date ∧ code ∈ known.2.codes := by
  unfold exampleOf at isShown
  split at isShown
  · cases isShown
  · rename_i date dated
    split at isShown
    · rename_i reported
      cases isShown
      exact ⟨dated, reported⟩
    · cases isShown

theorem nodup_dates (different : DifferentDates code runs) :
    ((runs.filterMap fun run => exampleOf code (0, run)).map Example.date).Nodup := by
  have unlisted : ∀ run : Run, exampleOf code (0, run) =
      if run.date.isSome && decide (code ∈ run.codes) then exampleOf code (0, run) else none := by
    intro run
    cases isShown : exampleOf code (0, run) with
    | none => simp
    | some shown =>
      have dated : run.date = some shown.date := (date_of_exampleOf isShown).1
      have reported : code ∈ run.codes := (date_of_exampleOf isShown).2
      simp [dated, reported]
  have listed : runs.filterMap (fun run => exampleOf code (0, run)) =
      (runs.filter fun run => run.date.isSome && decide (code ∈ run.codes)).filterMap
        fun run => exampleOf code (0, run) := by
    rw [List.filterMap_filter]
    exact congrArg (fun shown => runs.filterMap shown) (funext unlisted)
  rw [listed, List.Nodup, List.pairwise_map]
  refine different.filterMap _ ?_
  intro first second apart shown isShown other isOther sameDate
  have firstDate := (date_of_exampleOf isShown).1
  have secondDate := (date_of_exampleOf isOther).1
  exact apart (firstDate.trans (sameDate ▸ secondDate.symm))

theorem unnumbered_matching_perm (distinct : DistinctNames left) (reordered : left.Perm right)
    (different : DifferentDates code left) :
    (matching left code).map Example.unnumbered =
      (matching right code).map Example.unnumbered := by
  have rightDistinct : DistinctNames right :=
    reordered.pairwise distinct fun {_ _} apart => Ne.symm apart
  rw [unnumbered_matching distinct, unnumbered_matching rightDistinct]
  exact Newest.newestFirst_perm (nodup_dates different) (reordered.filterMap _)

end Examples

/-- Runs with different names give the same report in whatever order they are added. Their
numbers follow the order, the findings of a code are the same up to their order, and the examples
of a code are the same where its dated runs have different dates. -/
theorem addAll_reordered (book : RuleBook) (capacity : Nat) {left right : List Run}
    (distinct : DistinctNames left) (reordered : left.Perm right) :
    let first := (empty book capacity).addAll left
    let second := (empty book capacity).addAll right
    ReportsAlike first second ∧
      ∀ code, DifferentDates code left →
        (first.examples code).map Example.unnumbered =
          (second.examples code).map Example.unnumbered := by
  intro first second
  have rightDistinct : DistinctNames right :=
    reordered.pairwise distinct fun {_ _} apart => Ne.symm apart
  constructor
  · have sameBook : first.book = second.book := by
      rw [book_addAll, book_addAll]
    refine (holds_survivors book capacity left).reportsAlike
      (holds_survivors book capacity right) sameBook ?_
    rw [survivors_of_distinct distinct, survivors_of_distinct rightDistinct, map_snd_indexed,
      map_snd_indexed]
    exact reordered
  · intro code different
    rw [examples_eq_take_matching book capacity distinct,
      examples_eq_take_matching book capacity rightDistinct, List.map_take, List.map_take,
      unnumbered_matching_perm distinct reordered different]

/-- Added in reverse order, three runs show the same two examples, newest first. -/
theorem addAll_reordered_sampleRuns :
    let runs := [sampleRun "a" (some 3) ["X"], sampleRun "b" none ["X", "Y"],
      sampleRun "c" (some 9) ["X"], sampleRun "d" (some 5) ["X"]]
    DistinctNames runs ∧ DifferentDates "X" runs ∧
      ReportsAlike ((empty default 2).addAll runs) ((empty default 2).addAll runs.reverse) ∧
      (((empty default 2).addAll runs).examples "X").map Example.unnumbered =
        (((empty default 2).addAll runs.reverse).examples "X").map Example.unnumbered ∧
      (((empty default 2).addAll runs).examples "X").map Example.name = ["c", "d"] := by
  intro runs
  have distinct : DistinctNames runs := by
    unfold DistinctNames
    decide
  have different : DifferentDates "X" runs := by decide +kernel
  obtain ⟨alike, examples⟩ :=
    addAll_reordered default 2 distinct (List.reverse_perm runs).symm
  exact ⟨distinct, different, alike, examples "X" different, by decide +kernel⟩

end Archive

end RunTriage
