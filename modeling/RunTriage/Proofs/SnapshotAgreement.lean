import RunTriage.Proofs.Survivors
import RunTriage.Snapshot.Statistics

/-!
Contract: the indexes of an archive agree with each other in every snapshot.

Owns:
- `RevisionSummary.Precedes`, the order in which a snapshot lists revisions;
- `Snapshot.Agrees`, which tells every index from the list of runs;
- the agreement of every archive, and the add of each name that its number counts.

Does not own: the examples of a code, which are bounded and do not follow from the runs
that are left.
-/

namespace RunTriage

/-! ## The order of revisions -/

/-- The revision with the later date comes first, one without a date last, and of two with
the same date the one with the smaller name. -/
def RevisionSummary.Precedes (left right : RevisionSummary) : Prop :=
  right.latest < left.latest ∨ left.latest = right.latest ∧ left.revision < right.revision

namespace Archive

theorem revisionPrecedes_iff {left right : RevisionSummary} :
    revisionPrecedes left right = true ↔
      right.latest < left.latest ∨
        left.latest = right.latest ∧ left.revision ≤ right.revision := by
  unfold revisionPrecedes
  cases leftLatest : left.latest with
  | none => cases rightLatest : right.latest <;> simp
  | some leftDate =>
    cases rightLatest : right.latest with
    | none => simp
    | some rightDate =>
      dsimp only
      rcases lt_trichotomy leftDate rightDate with isLess | same | isGreater
      · rw [Instant.compare_eq_lt_iff.mpr isLess]
        simp [isLess.not_gt, isLess.ne]
      · rw [Instant.compare_eq_eq_iff.mpr same]
        simp [same]
      · rw [Instant.compare_eq_gt_iff.mpr isGreater]
        simp [isGreater]

theorem date_lt_trans {first second third : Option Instant} (left : first < second)
    (right : second < third) : first < third := by
  cases first <;> cases second <;> cases third <;> simp at left right ⊢
  exact left.trans right

theorem date_trichotomy (left right : Option Instant) :
    left < right ∨ left = right ∨ right < left := by
  cases left <;> cases right <;> simp
  exact lt_trichotomy _ _

theorem revisionPrecedes_trans (first second third : RevisionSummary)
    (left : revisionPrecedes first second = true)
    (right : revisionPrecedes second third = true) : revisionPrecedes first third = true := by
  rw [revisionPrecedes_iff] at *
  rcases left with leftLater | ⟨leftSame, leftNames⟩
  · rcases right with rightLater | ⟨rightSame, _⟩
    · exact .inl (date_lt_trans rightLater leftLater)
    · exact .inl (rightSame ▸ leftLater)
  · rcases right with rightLater | ⟨rightSame, rightNames⟩
    · exact .inl (leftSame ▸ rightLater)
    · exact .inr ⟨leftSame.trans rightSame, String.le_trans leftNames rightNames⟩

theorem revisionPrecedes_total (left right : RevisionSummary) :
    (revisionPrecedes left right || revisionPrecedes right left) = true := by
  rw [Bool.or_eq_true, revisionPrecedes_iff, revisionPrecedes_iff]
  rcases date_trichotomy left.latest right.latest with earlier | same | later
  · exact .inr (.inl earlier)
  · rcases String.le_total left.revision right.revision with isLeast | isGreatest
    · exact .inl (.inr ⟨same, isLeast⟩)
    · exact .inr (.inr ⟨same.symm, isGreatest⟩)
  · exact .inl (.inl later)

end Archive

/-! ## Agreement -/

/-- The indexes of a snapshot, and the findings without lines by code, are those of the runs
that the snapshot lists. -/
structure Snapshot.Agrees (snapshot : Snapshot) (stripped : String → List RunFindings) :
    Prop where
  totalLines : snapshot.totalLines = total (snapshot.runs.map RunSummary.lines)
  names : snapshot.runs.Pairwise fun left right => left.name < right.name
  numbers : snapshot.runs.Pairwise fun left right => left.logId ≠ right.logId
  /-- The revisions are those of the runs, each once. -/
  revisions : ∀ revision, revision ∈ snapshot.revisions.map RevisionSummary.revision ↔
    ∃ run ∈ snapshot.runs, run.revision = some revision
  revisionsOnce : (snapshot.revisions.map RevisionSummary.revision).Nodup
  revisionsOrder : snapshot.revisions.Pairwise RevisionSummary.Precedes
  /-- A revision has the set of the names of its runs. -/
  members : ∀ entry ∈ snapshot.revisions, ∀ name, name ∈ entry.runs ↔
    ∃ run ∈ snapshot.runs, run.name = name ∧ run.revision = some entry.revision
  membersOrder : ∀ entry ∈ snapshot.revisions, entry.runs.Pairwise fun left right => left < right
  sizes : ∀ entry ∈ snapshot.revisions,
    snapshot.totalRuns (some entry.revision) = entry.runs.length
  latest : ∀ entry ∈ snapshot.revisions,
    IsLatest entry.latest ((snapshot.runsOf (some entry.revision)).map RunSummary.date)
  /-- The findings of a code are those of the dated runs with the code, each once and in the
  order of their numbers. -/
  findings : ∀ code logId name date,
    (∃ found ∈ stripped code, found.logId = logId ∧ found.name = name ∧ found.date = date) ↔
      ∃ run ∈ snapshot.runs,
        run.logId = logId ∧ run.name = name ∧ run.date = some date ∧ code ∈ run.codes
  findingsOnce : ∀ code, (stripped code).Pairwise fun left right => left.name ≠ right.name
  findingsOrder : ∀ code, (stripped code).Pairwise fun left right => left.logId < right.logId

namespace Archive

/-- The summary of a run under its number. -/
def summaryOf (known : Nat × Run) : RunSummary :=
  summaryOfRun known.2.name (entryOf known.1 known.2)

theorem codes_map_stripped (findings : List Finding) :
    Finding.codes (findings.map Finding.stripped) = Finding.codes findings := by
  rw [Finding.codes, List.map_map]
  rfl

theorem mem_codes_summaryOf {code : String} {known : Nat × Run} :
    code ∈ (summaryOf known).codes ↔ code ∈ known.2.codes := by
  have same : (summaryOf known).codes = known.2.codes := codes_map_stripped known.2.findings
  rw [same]

section Agreement

variable {archive : Archive} {kept : List (Nat × Run)}

theorem Holds.perm_summaries (holds : Holds archive kept) :
    archive.snapshot.runs.Perm (kept.map summaryOf) := by
  have listed := holds.perm_runs.map fun entry => summaryOfRun entry.1 entry.2
  rw [List.map_map] at listed
  exact listed

theorem Holds.mem_summaries (holds : Holds archive kept) {run : RunSummary} :
    run ∈ archive.snapshot.runs ↔ ∃ known ∈ kept, summaryOf known = run := by
  rw [holds.perm_summaries.mem_iff, List.mem_map]

theorem mem_runsOf {snapshot : Snapshot} {revision : String} {run : RunSummary} :
    run ∈ snapshot.runsOf (some revision) ↔ run ∈ snapshot.runs ∧ run.revision = some revision := by
  simp [Snapshot.runsOf, RunSummary.belongsTo]

/-- What the runs of a revision show in a snapshot is what they show in the archive. -/
theorem Holds.perm_map_runsOf (holds : Holds archive kept) (revision : String) {β : Type}
    (shown : RunSummary → β) (held : Run → β)
    (same : ∀ known, shown (summaryOf known) = held known.2) :
    ((archive.snapshot.runsOf (some revision)).map shown).Perm
      ((membersOf (kept.map Prod.snd) revision).map held) := by
  have listed :=
    (holds.perm_summaries.filter (RunSummary.belongsTo (some revision))).map shown
  rw [List.filter_map, List.map_map] at listed
  have shows : shown ∘ summaryOf = held ∘ Prod.snd := funext same
  rw [membersOf, List.filter_map, List.map_map, ← shows]
  exact listed

/-- A snapshot lists a revision just if a run of it is listed, with the latest date and the
names of its runs. -/
theorem Holds.mem_revisions (holds : Holds archive kept) {entry : RevisionSummary} :
    entry ∈ archive.snapshot.revisions ↔
      let runs := archive.snapshot.runsOf (some entry.revision)
      runs ≠ [] ∧ entry.latest = latestDate (runs.map RunSummary.date) ∧
        entry.runs = sortedStrings (runs.map RunSummary.name) := by
  have stored : entry ∈ archive.snapshot.revisions ↔
      archive.revisions.find? entry.revision = some ⟨entry.runs, entry.latest⟩ := by
    rw [snapshot, List.mem_mergeSort, List.mem_map]
    constructor
    · rintro ⟨known, member, rfl⟩
      exact holds.revisionsAscending.find?_of_mem member
    · intro found
      exact ⟨_, SortedTable.mem_of_find? found, rfl⟩
  have dates := holds.perm_map_runsOf entry.revision RunSummary.date Run.date fun _ => rfl
  have names := holds.perm_map_runsOf entry.revision RunSummary.name Run.name fun _ => rfl
  have alone : (membersOf (kept.map Prod.snd) entry.revision).isEmpty = true ↔
      archive.snapshot.runsOf (some entry.revision) = [] := by
    have sizes := names.length_eq
    rw [List.length_map, List.length_map] at sizes
    rw [List.isEmpty_iff, ← List.length_eq_zero_iff, ← sizes, List.length_eq_zero_iff]
  rw [stored, holds.revisions, revisionOf, ← latestDate_perm dates,
    sortedStrings_congr fun name => names.mem_iff.symm]
  simp only [alone]
  split
  · rename_i noRun
    simp [noRun]
  · rename_i someRun
    rw [Option.some.injEq, RevisionEntry.mk.injEq]
    constructor
    · rintro ⟨isNames, isDate⟩
      exact ⟨someRun, isDate.symm, isNames.symm⟩
    · rintro ⟨_, isDate, isNames⟩
      exact ⟨isNames.symm, isDate.symm⟩

theorem Holds.nodup_revisions (holds : Holds archive kept) :
    (archive.snapshot.revisions.map RevisionSummary.revision).Nodup := by
  have sorted : archive.snapshot.revisions.Perm
      (archive.revisions.map fun entry => summaryOfRevision entry.1 entry.2) :=
    List.mergeSort_perm _ _
  rw [(sorted.map RevisionSummary.revision).nodup_iff, List.map_map]
  exact List.pairwise_map.mpr (holds.revisionsAscending.imp String.ne_of_lt)

theorem Holds.pairwise_precedes (holds : Holds archive kept) :
    archive.snapshot.revisions.Pairwise RevisionSummary.Precedes := by
  have sorted : archive.snapshot.revisions.Pairwise fun left right =>
      revisionPrecedes left right = true :=
    List.pairwise_mergeSort revisionPrecedes_trans revisionPrecedes_total _
  refine (sorted.and (List.pairwise_map.mp holds.nodup_revisions)).imp ?_
  intro left right ⟨precedes, different⟩
  rcases revisionPrecedes_iff.mp precedes with later | ⟨same, isLeast⟩
  · exact .inl later
  · exact .inr ⟨same, Std.lt_of_le_of_ne isLeast different⟩

/-! ### The findings of a code -/

theorem strippedOf_eq_some_iff {code : String} {known : Nat × Run} {found : RunFindings} :
    strippedOf code known = some found ↔
      known.2.date = some found.date ∧ code ∈ known.2.codes ∧
        found = ⟨known.1, known.2.name, known.2.source, found.date,
          (findingsOf known.2 code).map Finding.stripped⟩ := by
  unfold strippedOf
  cases known.2.date with
  | none => simp
  | some date =>
    dsimp only
    split
    · rename_i reported
      constructor
      · intro isFound
        cases isFound
        exact ⟨rfl, reported, rfl⟩
      · rintro ⟨dated, _, isFound⟩
        rw [isFound, Option.some.inj dated]
    · rename_i silent
      simp [silent]

theorem Holds.agrees (holds : Holds archive kept)
    (ascending : kept.Pairwise fun left right => left.1 < right.1) :
    archive.snapshot.Agrees archive.strippedFindings where
  totalLines := by
    have listed := holds.perm_summaries.map RunSummary.lines
    rw [List.map_map] at listed
    exact holds.totalLines.trans (total_perm listed).symm
  names := List.pairwise_map.mpr holds.runsAscending
  numbers := by
    rw [holds.perm_summaries.pairwise_iff fun {_ _} different => Ne.symm different]
    exact List.pairwise_map.mpr (ascending.imp Nat.ne_of_lt)
  revisions := by
    intro revision
    rw [List.mem_map]
    constructor
    · rintro ⟨entry, member, rfl⟩
      obtain ⟨run, isListed⟩ := List.exists_mem_of_ne_nil _ (holds.mem_revisions.mp member).1
      exact ⟨run, mem_runsOf.mp isListed⟩
    · rintro ⟨run, isListed, belongs⟩
      have someRun : archive.snapshot.runsOf (some revision) ≠ [] :=
        List.ne_nil_of_mem (mem_runsOf.mpr ⟨isListed, belongs⟩)
      let runs := archive.snapshot.runsOf (some revision)
      let entry : RevisionSummary := ⟨revision, latestDate (runs.map RunSummary.date),
        sortedStrings (runs.map RunSummary.name)⟩
      exact ⟨entry, holds.mem_revisions.mpr ⟨someRun, rfl, rfl⟩, rfl⟩
  revisionsOnce := holds.nodup_revisions
  revisionsOrder := holds.pairwise_precedes
  members := by
    intro entry member name
    obtain ⟨_, _, names⟩ := holds.mem_revisions.mp member
    simp only [names, mem_sortedStrings, List.mem_map, mem_runsOf, and_assoc, and_comm]
  membersOrder := by
    intro entry member
    rw [(holds.mem_revisions.mp member).2.2]
    exact pairwise_sortedStrings _
  sizes := by
    intro entry member
    have distinct :
        ((archive.snapshot.runsOf (some entry.revision)).map RunSummary.name).Nodup := by
      refine List.pairwise_map.mpr (List.Pairwise.filter _ ?_)
      exact List.pairwise_map.mpr (holds.runsAscending.imp String.ne_of_lt)
    rw [(holds.mem_revisions.mp member).2.2, (perm_sortedStrings distinct).length_eq,
      List.length_map]
    rfl
  latest := by
    intro entry member
    rw [(holds.mem_revisions.mp member).2.1]
    exact isLatest_latestDate _
  findings := by
    intro code logId name date
    simp only [holds.findings, List.mem_filterMap, strippedOf_eq_some_iff]
    constructor
    · rintro ⟨found, ⟨known, isKept, dated, reported, isFound⟩, rfl, rfl, rfl⟩
      refine ⟨summaryOf known, holds.mem_summaries.mpr ⟨known, isKept, rfl⟩, ?_, ?_, dated,
        mem_codes_summaryOf.mpr reported⟩
      · rw [isFound]
        rfl
      · rw [isFound]
        rfl
    · rintro ⟨run, isListed, rfl, rfl, dated, reported⟩
      obtain ⟨known, isKept, rfl⟩ := holds.mem_summaries.mp isListed
      let found : RunFindings := ⟨known.1, known.2.name, known.2.source, date,
        (findingsOf known.2 code).map Finding.stripped⟩
      exact ⟨found, ⟨known, isKept, dated, mem_codes_summaryOf.mp reported, rfl⟩, rfl, rfl, rfl⟩
  findingsOnce := by
    intro code
    rw [holds.findings]
    refine (List.pairwise_map.mp holds.distinct).filterMap _ ?_
    intro left right different first isFirst second isSecond
    rw [(strippedOf_eq_some_iff.mp isFirst).2.2, (strippedOf_eq_some_iff.mp isSecond).2.2]
    exact different
  findingsOrder := by
    intro code
    rw [holds.findings]
    refine ascending.filterMap _ ?_
    intro left right earlier first isFirst second isSecond
    rw [(strippedOf_eq_some_iff.mp isFirst).2.2, (strippedOf_eq_some_iff.mp isSecond).2.2]
    exact earlier

end Agreement

/-- The indexes of the archive of a sequence of runs agree, and it lists the runs that no later
one replaces, each under the position of the add that counts. -/
theorem snapshot_agrees (book : RuleBook) (capacity : Nat) (runs : List Run) :
    let archive := (empty book capacity).addAll runs
    archive.snapshot.Agrees archive.strippedFindings ∧
      ∀ run, run ∈ archive.snapshot.runs ↔ ∃ known ∈ survivors runs, summaryOf known = run := by
  intro archive
  have holds : Holds archive (survivors runs) := holds_survivors book capacity runs
  exact ⟨holds.agrees (pairwise_survivors runs), fun run => holds.mem_summaries⟩

end Archive

end RunTriage
