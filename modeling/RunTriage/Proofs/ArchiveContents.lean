import Mathlib.Data.List.Nodup
import RunTriage.Archive
import RunTriage.Proofs.InstantOrder
import RunTriage.Proofs.Tables

/-!
Contract: what an archive holds, told by the runs that are left in it.

Owns:
- `Archive.Holds`, which says for each index what it contains for a list of runs;
- the effect of removing and of adding a run on that list.

Does not own: the newest runs of each code, which depend on runs that are gone.
-/

namespace RunTriage.Archive

/-! ## The contents of each index -/

/-- A run without lines under a code, if the run is dated and has the code. -/
def strippedOf (code : String) (kept : Nat × Run) : Option RunFindings :=
  match kept.2.date with
  | none => none
  | some date =>
    if code ∈ kept.2.codes then
      some ⟨kept.1, kept.2.name, kept.2.source, date,
        (findingsOf kept.2 code).map Finding.stripped⟩
    else none

/-- The runs of a revision. -/
def membersOf (runs : List Run) (revision : String) : List Run :=
  runs.filter fun run => run.revision = some revision

/-- What is known about a revision, if any run belongs to it. -/
def revisionOf (runs : List Run) (revision : String) : Option RevisionEntry :=
  if (membersOf runs revision).isEmpty then none
  else
    some ⟨sortedStrings ((membersOf runs revision).map Run.name),
      latestDate ((membersOf runs revision).map Run.date)⟩

/-- The runs that do not have a name. -/
def without (name : String) (runs : List Run) : List Run :=
  runs.filter fun run => run.name != name

/-- No two runs have the same name. -/
def DistinctNames (runs : List Run) : Prop :=
  runs.Pairwise fun left right => left.name ≠ right.name

/-- The archive holds these runs, each with the number under which it was added and in
the order in which they were added. -/
structure Holds (archive : Archive) (kept : List (Nat × Run)) : Prop where
  distinct : DistinctNames (kept.map Prod.snd)
  totalLines : archive.totalLines = total (kept.map fun run => run.2.lines.length)
  runsAscending : archive.runs.Ascending
  runs : ∀ name, archive.runs.find? name =
    (kept.find? fun run => run.2.name = name).map fun run => entryOf run.1 run.2
  findings : ∀ code, archive.strippedFindings code = kept.filterMap (strippedOf code)
  revisionsAscending : archive.revisions.Ascending
  revisions : ∀ revision,
    archive.revisions.find? revision = revisionOf (kept.map Prod.snd) revision

theorem holds_empty (book : RuleBook) (capacity : Nat) : Holds (empty book capacity) [] where
  distinct := .nil
  totalLines := rfl
  runsAscending := SortedTable.ascending_nil
  runs := fun _ => rfl
  findings := fun _ => rfl
  revisionsAscending := SortedTable.ascending_nil
  revisions := fun _ => rfl

/-! ## Runs with different names -/

section DistinctNames

variable {runs : List Run} {run : Run}

theorem DistinctNames.eq_of_name (distinct : DistinctNames runs) {other : Run}
    (isRun : run ∈ runs) (isOther : other ∈ runs) (sameName : other.name = run.name) :
    other = run :=
  List.inj_on_of_nodup_map (List.pairwise_map.mpr distinct) isOther isRun sameName

theorem DistinctNames.without (distinct : DistinctNames runs) (name : String) :
    DistinctNames (without name runs) := List.Pairwise.filter _ distinct

theorem DistinctNames.concat (distinct : DistinctNames runs)
    (fresh : ∀ known ∈ runs, known.name ≠ run.name) : DistinctNames (runs ++ [run]) := by
  refine List.pairwise_append.mpr ⟨distinct, List.pairwise_singleton _ _, ?_⟩
  intro known member other isRun
  rw [List.mem_singleton.mp isRun]
  exact fresh known member

theorem mem_without {name : String} {other : Run} :
    other ∈ without name runs ↔ other ∈ runs ∧ other.name ≠ name := by
  simp [without]

/-- Taking out a run takes its size out of a total. -/
theorem total_without (distinct : DistinctNames runs) (member : run ∈ runs)
    (size : Run → Nat) :
    total (runs.map size) = size run + total ((without run.name runs).map size) := by
  induction runs with
  | nil => cases member
  | cons first rest inductionHypothesis =>
    obtain ⟨different, restDistinct⟩ := List.pairwise_cons.mp distinct
    rcases List.mem_cons.mp member with isFirst | inRest
    · subst isFirst
      have untouched : without run.name rest = rest :=
        List.filter_eq_self.mpr fun other isOther => by
          simpa using Ne.symm (different other isOther)
      have removed : without run.name (run :: rest) = rest := by
        rw [← untouched]
        simp [without]
      rw [removed, List.map_cons, total_cons]
    · have stays : without run.name (first :: rest) = first :: without run.name rest := by
        simp [without, different run inRest]
      rw [stays, List.map_cons, List.map_cons, total_cons, total_cons,
        inductionHypothesis restDistinct inRest]
      omega

theorem membersOf_without (name revision : String) :
    membersOf (without name runs) revision = without name (membersOf runs revision) := by
  rw [membersOf, without, without, membersOf, List.filter_filter, List.filter_filter]
  exact List.filter_congr fun run _ => Bool.and_comm _ _

/-- A revision does not change if a run leaves that does not belong to it. -/
theorem revisionOf_without (distinct : DistinctNames runs) (member : run ∈ runs)
    {revision : String} (apart : run.revision ≠ some revision) :
    revisionOf (without run.name runs) revision = revisionOf runs revision := by
  have untouched : membersOf (without run.name runs) revision = membersOf runs revision := by
    rw [membersOf_without]
    refine List.filter_eq_self.mpr fun other isMember => ?_
    obtain ⟨isOther, belongs⟩ := List.mem_filter.mp isMember
    rw [bne_iff_ne]
    intro sameName
    rw [distinct.eq_of_name member isOther sameName] at belongs
    exact apart (by simpa using belongs)
  rw [revisionOf, revisionOf, untouched]

end DistinctNames

/-- What is known about a revision does not depend on the order of the runs. -/
theorem revisionOf_perm {left right : List Run} (same : left.Perm right) (revision : String) :
    revisionOf left revision = revisionOf right revision := by
  have members : (membersOf left revision).Perm (membersOf right revision) := same.filter _
  have alone : (membersOf left revision).isEmpty = (membersOf right revision).isEmpty :=
    Bool.eq_iff_iff.mpr (by
      rw [List.isEmpty_iff_length_eq_zero, List.isEmpty_iff_length_eq_zero, members.length_eq])
  rw [revisionOf, revisionOf, alone, latestDate_perm (members.map Run.date),
    sortedStrings_congr fun name => (members.map Run.name).mem_iff]

/-! ## A run leaves its revision -/

section LeaveRevision

variable {runs : List Run} {run : Run} {revision : String}
  {revisions : SortedTable RevisionEntry} {remaining : SortedTable RunEntry}

theorem ascending_leaveRevision (ascending : revisions.Ascending) (name : String) :
    (leaveRevision name remaining revision revisions).Ascending := by
  unfold Archive.leaveRevision
  split
  · exact ascending
  · dsimp only
    split
    · exact ascending.erase revision
    · exact ascending.insert revision _

/-- The dates of the runs that stay, found by name, give the latest date of them. -/
theorem latestDate_names (distinct : DistinctNames runs)
    (dates : ∀ known ∈ runs, (remaining.find? known.name).bind RunEntry.date = known.date) :
    latestDate ((sortedStrings (runs.map Run.name)).map fun name =>
        (remaining.find? name).bind RunEntry.date) = latestDate (runs.map Run.date) := by
  have names : (runs.map Run.name).Nodup := List.pairwise_map.mpr distinct
  rw [latestDate_perm ((perm_sortedStrings names).map _), List.map_map]
  exact congrArg latestDate (List.map_congr_left dates)

theorem find?_leaveRevision (distinct : DistinctNames runs) (member : run ∈ runs)
    (belongs : run.revision = some revision)
    (indexed : ∀ other, revisions.find? other = revisionOf runs other)
    (dates : ∀ known ∈ without run.name runs,
      (remaining.find? known.name).bind RunEntry.date = known.date) (other : String) :
    (leaveRevision run.name remaining revision revisions).find? other =
      revisionOf (without run.name runs) other := by
  have isMember : run ∈ membersOf runs revision :=
    List.mem_filter.mpr ⟨member, decide_eq_true belongs⟩
  have known : revisions.find? revision =
      some ⟨sortedStrings ((membersOf runs revision).map Run.name),
        latestDate ((membersOf runs revision).map Run.date)⟩ := by
    rw [indexed, revisionOf, if_neg]
    simpa using List.ne_nil_of_mem isMember
  have names : (sortedStrings ((membersOf runs revision).map Run.name)).filter
      (fun name => name != run.name) =
      sortedStrings ((membersOf (without run.name runs) revision).map Run.name) := by
    rw [filter_sortedStrings, List.filter_map, membersOf_without]
    rfl
  have elsewhere (apart : revision ≠ other) :
      revisionOf runs other = revisionOf (without run.name runs) other := by
    refine (revisionOf_without distinct member ?_).symm
    rw [belongs]
    exact mt Option.some.inj apart
  unfold leaveRevision
  simp only [known, names]
  by_cases alone : membersOf (without run.name runs) revision = []
  · have noNames : sortedStrings
        ((membersOf (without run.name runs) revision).map Run.name) = [] := by
      rw [alone]
      rfl
    rw [noNames, List.isEmpty_nil, if_pos rfl, SortedTable.find?_erase]
    split
    · rename_i here
      rw [← here, revisionOf, alone, List.isEmpty_nil, if_pos rfl]
    · rename_i apart
      rw [indexed, elsewhere apart]
  · obtain ⟨companion, isCompanion⟩ := List.exists_mem_of_ne_nil _ alone
    have someName : sortedStrings
        ((membersOf (without run.name runs) revision).map Run.name) ≠ [] :=
      List.ne_nil_of_mem ((mem_sortedStrings _ companion.name).mpr
        (List.mem_map_of_mem isCompanion))
    rw [if_neg (by simpa using someName), SortedTable.find?_insert]
    split
    · rename_i here
      subst here
      have restDistinct : DistinctNames (membersOf (without run.name runs) revision) :=
        List.Pairwise.filter _ (distinct.without run.name)
      rw [revisionOf, if_neg (by simpa using alone), latestDate_names restDistinct]
      exact fun known isKnown => dates known (List.mem_filter.mp isKnown).1
    · rename_i apart
      rw [indexed, elsewhere apart]

end LeaveRevision

/-! ## Removing a run -/

section Removing

variable {archive : Archive} {kept : List (Nat × Run)}

theorem map_snd_filter (kept : List (Nat × Run)) (name : String) :
    (kept.filter fun run => run.2.name != name).map Prod.snd =
      without name (kept.map Prod.snd) := by
  rw [without, List.filter_map]
  rfl

/-- The runs table finds nothing under a name that no run has. -/
theorem Holds.name_ne (holds : Holds archive kept) {name : String}
    (missing : archive.runs.find? name = none) {run : Nat × Run} (member : run ∈ kept) :
    run.2.name ≠ name := by
  rw [holds.runs, Option.map_eq_none_iff, List.find?_eq_none] at missing
  simpa using missing run member

/-- An entry of the runs table comes from a run that is held. -/
theorem Holds.exists_run (holds : Holds archive kept) {name : String} {entry : RunEntry}
    (found : archive.runs.find? name = some entry) :
    ∃ run ∈ kept, run.2.name = name ∧ entry = entryOf run.1 run.2 := by
  rw [holds.runs, Option.map_eq_some_iff] at found
  obtain ⟨run, isFirst, isEntry⟩ := found
  have hasName := List.find?_some isFirst
  exact ⟨run, List.mem_of_find?_eq_some isFirst, by simpa using hasName, isEntry.symm⟩

theorem Holds.nodup_names (holds : Holds archive kept) :
    (kept.map fun known => known.2.name).Nodup := by
  have distinct := List.pairwise_map.mp holds.distinct
  exact List.pairwise_map.mpr distinct

/-- The runs table has an entry for each run that is held, and no others. -/
theorem Holds.perm_runs (holds : Holds archive kept) :
    archive.runs.Perm (kept.map fun known => (known.2.name, entryOf known.1 known.2)) := by
  have entriesDistinct :
      (kept.map fun known => (known.2.name, entryOf known.1 known.2)).Nodup := by
    refine List.Nodup.of_map Prod.fst ?_
    rw [List.map_map]
    exact holds.nodup_names
  rw [List.perm_ext_iff_of_nodup holds.runsAscending.nodup entriesDistinct]
  rintro ⟨name, entry⟩
  rw [List.mem_map]
  constructor
  · intro member
    obtain ⟨known, isKept, rfl, rfl⟩ := holds.exists_run (holds.runsAscending.find?_of_mem member)
    exact ⟨known, isKept, rfl⟩
  · rintro ⟨known, isKept, isEntry⟩
    cases isEntry
    cases found : archive.runs.find? known.2.name with
    | none => exact absurd rfl (holds.name_ne found isKept)
    | some entry =>
      obtain ⟨other, isOther, sameName, rfl⟩ := holds.exists_run found
      have same : other = known :=
        List.inj_on_of_nodup_map holds.nodup_names isOther isKept sameName
      rw [same] at found
      exact SortedTable.mem_of_find? found

/-- The runs table knows the date of a run that is held. -/
theorem Holds.date_of_name (holds : Holds archive kept) {run : Run}
    (member : run ∈ kept.map Prod.snd) :
    (archive.runs.find? run.name).bind RunEntry.date = run.date := by
  cases found : archive.runs.find? run.name with
  | none =>
    obtain ⟨known, isKnown, rfl⟩ := List.mem_map.mp member
    exact absurd rfl (holds.name_ne found isKnown)
  | some entry =>
    obtain ⟨known, isKnown, sameName, rfl⟩ := holds.exists_run found
    have same := holds.distinct.eq_of_name member (List.mem_map_of_mem isKnown) sameName
    rw [← same]
    rfl

/-- The number of lines that a removal subtracts is part of the total. -/
theorem Holds.lines_le (holds : Holds archive kept) {name : String} {entry : RunEntry}
    (found : archive.runs.find? name = some entry) : entry.lines ≤ archive.totalLines := by
  obtain ⟨run, member, _, isEntry⟩ := holds.exists_run found
  have split := total_without holds.distinct (List.mem_map_of_mem member)
    fun known => known.lines.length
  rw [List.map_map] at split
  have whole : archive.totalLines = _ := holds.totalLines.trans split
  rw [whole, isEntry]
  exact Nat.le_add_right _ _

theorem find?_filter_name (kept : List (Nat × Run)) (name other : String) :
    (kept.filter fun run => run.2.name != name).find? (fun run => run.2.name = other) =
      if name = other then none else kept.find? fun run => run.2.name = other := by
  rw [List.find?_filter]
  split
  · rename_i same
    subst same
    simp
  · rename_i different
    congr 1
    funext run
    by_cases wanted : run.2.name = other
    · simp [wanted, Ne.symm different]
    · simp [wanted]

theorem filter_strippedOf (kept : List (Nat × Run)) (name code : String) :
    (kept.filterMap (strippedOf code)).filter (fun findings => findings.name != name) =
      (kept.filter fun run => run.2.name != name).filterMap (strippedOf code) := by
  rw [List.filter_filterMap, List.filterMap_filter]
  congr 1
  funext run
  unfold strippedOf
  cases run.2.date with
  | none => simp
  | some date =>
    by_cases same : run.2.name = name <;> by_cases reported : code ∈ run.2.codes <;>
      simp [same, reported, Option.filter]

theorem Holds.remove (holds : Holds archive kept) (name : String) :
    Holds (archive.remove name) (kept.filter fun run => run.2.name != name) := by
  cases found : archive.runs.find? name with
  | none =>
    have untouched : (kept.filter fun run => run.2.name != name) = kept :=
      List.filter_eq_self.mpr fun run member => by simpa using holds.name_ne found member
    rw [untouched]
    simpa only [Archive.remove, found] using holds
  | some entry =>
    obtain ⟨⟨logId, run⟩, member, rfl, rfl⟩ := holds.exists_run found
    have isRun : run ∈ kept.map Prod.snd := List.mem_map_of_mem member
    simp only [Archive.remove, found]
    refine ⟨?_, ?_, holds.runsAscending.erase run.name, ?_, ?_, ?_, ?_⟩
    · rw [map_snd_filter]
      exact holds.distinct.without run.name
    · have split := total_without holds.distinct isRun fun known => known.lines.length
      rw [← map_snd_filter, List.map_map, List.map_map] at split
      have whole : archive.totalLines = _ := holds.totalLines.trans split
      rw [whole]
      exact Nat.add_sub_cancel_left _ _
    · intro other
      rw [SortedTable.find?_erase, find?_filter_name, holds.runs]
      split <;> rfl
    · intro code
      have stored := holds.findings code
      unfold strippedFindings at stored ⊢
      rw [SortedTable.find?_mapValues, ← filter_strippedOf, ← stored]
      cases archive.findings.find? code <;> rfl
    · cases belongs : run.revision with
      | none => simpa only [entryOf, belongs] using holds.revisionsAscending
      | some revision =>
        simpa only [entryOf, belongs] using
          ascending_leaveRevision holds.revisionsAscending run.name
    · intro other
      rw [map_snd_filter]
      cases belongs : run.revision with
      | none =>
        simp only [entryOf, belongs]
        rw [holds.revisions, revisionOf_without holds.distinct isRun (by simp [belongs])]
      | some revision =>
        simp only [entryOf, belongs]
        refine find?_leaveRevision holds.distinct isRun belongs holds.revisions ?_ other
        intro known isKnown
        obtain ⟨isHeld, different⟩ := mem_without.mp isKnown
        rw [SortedTable.find?_erase, if_neg (Ne.symm different)]
        exact holds.date_of_name isHeld

end Removing

/-! ## Indexing a run under its codes -/

section Indexing

variable {archive : Archive} {run : Run} {logId : Nat} {date : Instant} {code : String}

theorem strippedFindings_indexCode (reported : String) :
    (indexCode logId run date archive reported).strippedFindings code =
      archive.strippedFindings code ++ if reported = code then
        [⟨logId, run.name, run.source, date, (findingsOf run code).map Finding.stripped⟩]
      else [] := by
  rw [strippedFindings, indexCode, SortedTable.find?_alter]
  split
  · rename_i same
    rw [same]
    rfl
  · rw [List.append_nil]
    rfl

/-- Each code adds one entry, and only to its own list. -/
theorem strippedFindings_foldl_indexCode {codes : List String} (distinct : codes.Nodup) :
    (codes.foldl (indexCode logId run date) archive).strippedFindings code =
      archive.strippedFindings code ++ if code ∈ codes then
        [⟨logId, run.name, run.source, date, (findingsOf run code).map Finding.stripped⟩]
      else [] := by
  induction codes generalizing archive with
  | nil => simp
  | cons first rest inductionHypothesis =>
    obtain ⟨notInRest, restDistinct⟩ := List.nodup_cons.mp distinct
    rw [List.foldl_cons, inductionHypothesis restDistinct, strippedFindings_indexCode]
    by_cases isFirst : first = code
    · subst isFirst
      simp [notInRest]
    · simp [isFirst, Ne.symm isFirst]

theorem strippedFindings_indexCodes :
    (indexCodes logId run archive).strippedFindings code =
      archive.strippedFindings code ++ (strippedOf code (logId, run)).toList := by
  unfold indexCodes strippedOf
  cases run.date with
  | none => simp
  | some date =>
    have distinct : run.codes.Nodup := nodup_sortedStrings _
    dsimp only
    rw [strippedFindings_foldl_indexCode distinct]
    split <;> rfl

/-- Indexing a run under its codes reaches the indexes by code only. -/
theorem indexCodes_frame (logId : Nat) (run : Run) (archive : Archive) :
    (indexCodes logId run archive).book = archive.book ∧
      (indexCodes logId run archive).runs = archive.runs ∧
      (indexCodes logId run archive).revisions = archive.revisions ∧
      (indexCodes logId run archive).totalLines = archive.totalLines := by
  unfold indexCodes
  cases run.date with
  | none => exact ⟨rfl, rfl, rfl, rfl⟩
  | some date =>
    dsimp only
    induction run.codes generalizing archive with
    | nil => exact ⟨rfl, rfl, rfl, rfl⟩
    | cons first rest inductionHypothesis =>
      exact inductionHypothesis (indexCode logId run date archive first)

end Indexing

/-! ## A run joins its revision -/

section JoinRevision

variable {runs : List Run} {run : Run} {revisions : SortedTable RevisionEntry}

theorem ascending_joinRevision (ascending : revisions.Ascending) :
    (joinRevision run revisions).Ascending := by
  unfold joinRevision
  split
  · exact ascending
  · exact ascending.alter _ _

/-- A revision without runs counts as one without names and without a date. -/
theorem getD_revisionOf (runs : List Run) (revision : String) :
    (revisionOf runs revision).getD ⟨[], none⟩ =
      ⟨sortedStrings ((membersOf runs revision).map Run.name),
        latestDate ((membersOf runs revision).map Run.date)⟩ := by
  unfold revisionOf
  split
  · rename_i alone
    rw [List.isEmpty_iff.mp alone]
    rfl
  · rfl

theorem find?_joinRevision (indexed : ∀ other, revisions.find? other = revisionOf runs other)
    (other : String) :
    (joinRevision run revisions).find? other = revisionOf (runs ++ [run]) other := by
  have elsewhere (apart : run.revision ≠ some other) :
      membersOf (runs ++ [run]) other = membersOf runs other := by
    simp [membersOf, apart]
  unfold joinRevision
  cases belongs : run.revision with
  | none => rw [indexed, revisionOf, revisionOf, elsewhere (by simp [belongs])]
  | some revision =>
    dsimp only
    rw [SortedTable.find?_alter, indexed, indexed]
    by_cases here : revision = other
    · subst here
      have joined : membersOf (runs ++ [run]) revision = membersOf runs revision ++ [run] := by
        simp [membersOf, belongs]
      rw [if_pos rfl, getD_revisionOf, revisionOf, joined, if_neg (by simp), List.map_append,
        List.map_append, List.map_singleton, List.map_singleton, latestDate_concat]
      congr 2
      refine sortedStrings_congr fun name => ?_
      rw [List.mem_cons, mem_sortedStrings, List.mem_append, List.mem_singleton, or_comm]
    · rw [if_neg here, revisionOf, revisionOf,
        elsewhere (by rw [belongs]; exact mt Option.some.inj here)]

end JoinRevision

/-! ## Adding runs -/

section Adding

variable {archive : Archive} {kept : List (Nat × Run)}

/-- Adding a run puts it at the end, in place of an earlier one of the same name. -/
theorem Holds.add (holds : Holds archive kept) (run : Run) :
    Holds (archive.add run) ((kept.filter fun known => known.2.name != run.name) ++
      [((archive.remove run.name).nextId, run)]) := by
  have removed := holds.remove run.name
  have fresh : ∀ known ∈ kept.filter fun known => known.2.name != run.name,
      known.2.name ≠ run.name := fun known member => by
    simpa using (List.mem_filter.mp member).2
  unfold Archive.add
  generalize (kept.filter fun known => known.2.name != run.name) = rest at removed fresh ⊢
  generalize archive.remove run.name = remaining at removed ⊢
  dsimp only
  obtain ⟨_, sameRuns, sameRevisions, sameLines⟩ :=
    indexCodes_frame remaining.nextId run remaining
  rw [sameRuns, sameRevisions, sameLines]
  refine ⟨?_, ?_, removed.runsAscending.insert _ _, ?_, ?_,
    ascending_joinRevision removed.revisionsAscending, ?_⟩
  · rw [List.map_append]
    refine removed.distinct.concat fun known isKnown => ?_
    obtain ⟨stored, member, rfl⟩ := List.mem_map.mp isKnown
    exact fresh stored member
  · rw [List.map_append, total_append, ← removed.totalLines]
    rfl
  · intro name
    rw [SortedTable.find?_insert, removed.runs, List.find?_append]
    split
    · rename_i same
      subst same
      have missing : (rest.find? fun known => known.2.name = run.name) = none :=
        List.find?_eq_none.mpr fun known member => by simpa using fresh known member
      simp [missing]
    · rename_i different
      simp [different]
  · intro code
    rw [List.filterMap_append, ← removed.findings]
    refine strippedFindings_indexCodes.trans ?_
    rw [List.filterMap_cons, List.filterMap_nil]
    cases strippedOf code (remaining.nextId, run) <;> rfl
  · rw [List.map_append]
    exact find?_joinRevision removed.revisions

end Adding

end RunTriage.Archive
