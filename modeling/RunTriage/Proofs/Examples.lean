import RunTriage.Proofs.NewestOrder
import RunTriage.Proofs.Survivors

/-!
Contract: the examples of a code against the runs that an archive holds.

Owns:
- `Lists`, which says what the archive keeps as the examples of each code, and the effect of
  each operation on it;
- the examples of runs with different names, which are the newest runs of all;
- the examples after replacements, and the one case in which they leave out a run that is
  not older than one they show.

Does not own: findings without lines, of which none is ever left out.
-/

namespace RunTriage.Archive

open Newest (newestFirst place dated)
open Session (indexed)

/-! ## What is listed -/

/-- The run with its lines under a code, if the run is dated and has the code. -/
def exampleOf (code : String) (kept : Nat × Run) : Option Example :=
  match kept.2.date with
  | none => none
  | some date =>
    if code ∈ kept.2.codes then
      some ⟨kept.1, kept.2.name, kept.2.source, date, kept.2.lines, findingsOf kept.2 code⟩
    else none

/-- The examples with a new one in its place, if there is a new one. -/
def offered (new : Option Example) (listed : List Example) : List Example :=
  match new with
  | none => listed
  | some new => place Example.date new listed

/-- The examples of runs with another name. -/
def withoutRun (name : String) (listed : List Example) : List Example :=
  listed.filter fun known => known.name != name

/-- The archive keeps these examples of each code, and at most `capacity` of each. -/
structure Lists (archive : Archive) (capacity : Nat) (listed : String → List Example) : Prop where
  bound : archive.capacity = capacity
  stored : ∀ code, (archive.newest.find? code).getD (.empty capacity) =
    ⟨capacity, dated Example.date (listed code)⟩
  within : ∀ code, (listed code).length ≤ capacity

section Lists

variable {archive : Archive} {capacity : Nat} {listed : String → List Example} {run : Run}
  {logId : Nat} {date : Instant} {code : String}

theorem name_of_exampleOf {kept : Nat × Run} {new : Example}
    (isNew : exampleOf code kept = some new) : new.name = kept.2.name := by
  unfold exampleOf at isNew
  split at isNew
  · cases isNew
  · split at isNew <;> cases isNew
    rfl

theorem lists_empty (book : RuleBook) (capacity : Nat) :
    Lists (empty book capacity) capacity fun _ => [] :=
  ⟨rfl, fun _ => rfl, fun _ => Nat.zero_le _⟩

theorem Lists.examples_eq (lists : Lists archive capacity listed) (code : String) :
    archive.examples code = listed code := by
  have stored := lists.stored code
  unfold examples
  cases found : archive.newest.find? code with
  | none =>
    rw [found] at stored
    have nothing : dated Example.date (listed code) = [] := (congrArg Newest.entries stored).symm
    exact (List.map_eq_nil_iff.mp nothing).symm
  | some newest =>
    rw [found, Option.getD_some] at stored
    rw [stored]
    simp [Newest.items, dated, Function.comp_def]

theorem withoutRun_eq_self {name : String} {listed : List Example}
    (absent : ∀ shown ∈ listed, shown.name ≠ name) : withoutRun name listed = listed :=
  List.filter_eq_self.mpr fun shown member => bne_iff_ne.mpr (absent shown member)

/-- Removing a run takes its examples out. The runs table is asked first, so it has to know
every run that is listed. -/
theorem Lists.remove (lists : Lists archive capacity listed)
    (known : ∀ code, ∀ shown ∈ listed code, archive.runs.find? shown.name ≠ none)
    (name : String) :
    Lists (archive.remove name) capacity fun code => withoutRun name (listed code) := by
  cases found : archive.runs.find? name with
  | none =>
    have untouched (code : String) : withoutRun name (listed code) = listed code :=
      withoutRun_eq_self fun shown member sameName => known code shown member (sameName ▸ found)
    simpa only [untouched, Archive.remove, found] using lists
  | some entry =>
    let retained (newest : Newest Example) := newest.retain fun shown => shown.name != name
    have newest : (archive.remove name).newest =
        archive.newest.map fun stored => (stored.1, retained stored.2) := by
      simp only [Archive.remove, found, retained]
    refine ⟨?_, fun code => ?_, fun code => ?_⟩
    · rw [← lists.bound]
      simp only [Archive.remove, found]
    · have stored := (congrArg retained (lists.stored code)).trans (Newest.retain_dated _ _ _)
      rw [newest, SortedTable.find?_mapValues]
      refine Eq.trans ?_ stored
      cases archive.newest.find? code <;> rfl
    · exact (List.length_filter_le _ _).trans (lists.within code)

theorem Lists.indexCode (lists : Lists archive capacity listed) (logId : Nat) (run : Run)
    (date : Instant) (reported : String) :
    Lists (indexCode logId run date archive reported) capacity fun code =>
      if reported = code then
        (place Example.date ⟨logId, run.name, run.source, date, run.lines, findingsOf run code⟩
          (listed code)).take capacity
      else listed code := by
  refine ⟨lists.bound, fun code => ?_, fun code => ?_⟩
  · rw [Archive.indexCode, SortedTable.find?_alter, lists.bound]
    split
    · rename_i same
      subst same
      rw [Option.getD_some, lists.stored reported]
      exact Newest.push_dated (lists.within reported)
        (⟨logId, run.name, run.source, date, run.lines, findingsOf run reported⟩ : Example)
    · exact lists.stored code
  · split
    · exact List.length_take_le _ _
    · exact lists.within code

/-- Each code gets one example, and only its own list changes. -/
theorem Lists.foldl_indexCode (lists : Lists archive capacity listed) {codes : List String}
    (distinct : codes.Nodup) :
    Lists (codes.foldl (Archive.indexCode logId run date) archive) capacity fun code =>
      (offered
        (if code ∈ codes then
          some ⟨logId, run.name, run.source, date, run.lines, findingsOf run code⟩
        else none)
        (listed code)).take capacity := by
  induction codes generalizing archive listed with
  | nil => simpa [offered, List.take_of_length_le (lists.within _)] using lists
  | cons first rest inductionHypothesis =>
    obtain ⟨notInRest, restDistinct⟩ := List.nodup_cons.mp distinct
    have later := inductionHypothesis (lists.indexCode logId run date first) restDistinct
    rw [List.foldl_cons]
    convert later using 2 with code
    by_cases isFirst : first = code
    · subst isFirst
      simp [notInRest, offered, List.take_take]
    · simp [isFirst, Ne.symm isFirst]

theorem Lists.indexCodes (lists : Lists archive capacity listed) (logId : Nat) (run : Run) :
    Lists (indexCodes logId run archive) capacity fun code =>
      (offered (exampleOf code (logId, run)) (listed code)).take capacity := by
  unfold Archive.indexCodes exampleOf
  cases run.date with
  | none => simpa [offered, List.take_of_length_le (lists.within _)] using lists
  | some date => exact lists.foldl_indexCode (nodup_sortedStrings _)

/-- Adding a run takes the examples of an earlier one of its name out, puts its own in their
place, and drops what exceeds the capacity. -/
theorem Lists.add (lists : Lists archive capacity listed)
    (known : ∀ code, ∀ shown ∈ listed code, archive.runs.find? shown.name ≠ none) (run : Run) :
    Lists (archive.add run) capacity fun code =>
      (offered (exampleOf code (archive.nextId, run)) (withoutRun run.name (listed code))).take
        capacity := by
  have indexed := (lists.remove known run.name).indexCodes (archive.remove run.name).nextId run
  rw [← nextId_remove archive run.name]
  exact ⟨indexed.bound, indexed.stored, indexed.within⟩

end Lists

/-! ## The runs that match -/

/-- The runs held of a sequence that are dated and have a code, with the newest first and runs
of the same date in the order in which they were added. -/
def matching (runs : List Run) (code : String) : List Example :=
  newestFirst Example.date ((survivors runs).filterMap (exampleOf code))

section Matching

variable {book : RuleBook} {capacity : Nat} {runs : List Run} {code : String} {shown : Example}

theorem matching_nil (code : String) : matching [] code = [] :=
  (Newest.perm_newestFirst _ _).eq_nil

theorem mem_matching :
    shown ∈ matching runs code ↔ ∃ known ∈ survivors runs, exampleOf code known = some shown := by
  rw [matching, (Newest.perm_newestFirst _ _).mem_iff, List.mem_filterMap]

theorem exists_run_of_mem_matching (member : shown ∈ matching runs code) :
    ∃ run ∈ runs, run.name = shown.name := by
  obtain ⟨known, survives, isShown⟩ := mem_matching.mp member
  exact ⟨known.2, mem_of_mem_survivors survives, (name_of_exampleOf isShown).symm⟩

theorem descending_matching (runs : List Run) (code : String) :
    Newest.Descending Example.date (matching runs code) := Newest.descending_newestFirst _ _

theorem withoutRun_exampleOf (kept : List (Nat × Run)) (name code : String) :
    withoutRun name (kept.filterMap (exampleOf code)) =
      (kept.filter fun known => known.2.name != name).filterMap (exampleOf code) := by
  rw [withoutRun, List.filter_filterMap, List.filterMap_filter]
  congr 1
  funext known
  cases isNew : exampleOf code known with
  | none => simp
  | some new =>
    have sameName := name_of_exampleOf isNew
    by_cases here : known.2.name = name <;> simp [Option.filter, sameName, here]

/-- One more run changes what matches in the way in which it changes what is listed, except
that nothing is dropped. -/
theorem matching_concat (runs : List Run) (run : Run) (code : String) :
    matching (runs ++ [run]) code =
      offered (exampleOf code (runs.length, run)) (withoutRun run.name (matching runs code)) := by
  have stay : withoutRun run.name (matching runs code) = newestFirst Example.date
      (((survivors runs).filter fun known => known.2.name != run.name).filterMap
        (exampleOf code)) := by
    rw [← withoutRun_exampleOf]
    exact Newest.filter_newestFirst _ _ _
  rw [matching, survivors_concat, List.filterMap_append, stay]
  cases isNew : exampleOf code (runs.length, run) with
  | none => simp [offered, isNew]
  | some new => simp [offered, isNew, Newest.place_newestFirst]

theorem offered_sublist {new : Option Example} {listed items : List Example}
    (sublist : listed.Sublist items) (descending : Newest.Descending Example.date items) :
    (offered new listed).Sublist (offered new items) := by
  cases new with
  | none => exact sublist
  | some new => exact Newest.place_sublist sublist descending new

theorem take_offered_take (new : Option Example) (capacity : Nat) (items : List Example) :
    (offered new (items.take capacity)).take capacity = (offered new items).take capacity := by
  cases new with
  | none => simp [offered, List.take_take]
  | some new => exact Newest.take_place_take _ _ _ _

/-- The runs table knows every run that matches. -/
theorem find?_ne_none_of_mem_matching (book : RuleBook) (capacity : Nat)
    (member : shown ∈ matching runs code) :
    ((empty book capacity).addAll runs).runs.find? shown.name ≠ none := by
  obtain ⟨known, survives, isShown⟩ := mem_matching.mp member
  intro missing
  exact (holds_survivors book capacity runs).name_ne missing survives
    (name_of_exampleOf isShown).symm

theorem lists_addAll (book : RuleBook) (capacity : Nat) (runs : List Run) :
    let archive := (empty book capacity).addAll runs
    Lists archive capacity archive.examples ∧
      ∀ code, (archive.examples code).Sublist (matching runs code) := by
  induction runs using List.reverseRecOn with
  | nil => exact ⟨lists_empty book capacity, fun _ => List.nil_sublist _⟩
  | append_singleton runs run inductionHypothesis =>
    obtain ⟨lists, sublist⟩ := inductionHypothesis
    have added := lists.add (fun code shown member =>
      find?_ne_none_of_mem_matching book capacity ((sublist code).subset member)) run
    rw [← addAll_concat] at added
    refine ⟨?_, fun code => ?_⟩
    · rw [funext added.examples_eq]
      exact added
    · rw [added.examples_eq, nextId_addAll, matching_concat]
      refine (List.take_sublist _ _).trans (offered_sublist ((sublist code).filter _) ?_)
      exact (descending_matching runs code).filter _

theorem examples_concat (book : RuleBook) (capacity : Nat) (runs : List Run) (run : Run)
    (code : String) :
    ((empty book capacity).addAll (runs ++ [run])).examples code =
      (offered (exampleOf code (runs.length, run))
        (withoutRun run.name (((empty book capacity).addAll runs).examples code))).take
        capacity := by
  obtain ⟨lists, sublist⟩ := lists_addAll book capacity runs
  have added := lists.add (fun code shown member =>
    find?_ne_none_of_mem_matching book capacity ((sublist code).subset member)) run
  rw [addAll_concat, added.examples_eq, nextId_addAll]

end Matching

/-! ## Runs with different names -/

theorem examples_eq_take_matching (book : RuleBook) (capacity : Nat) {runs : List Run}
    (distinct : DistinctNames runs) (code : String) :
    ((empty book capacity).addAll runs).examples code = (matching runs code).take capacity := by
  induction runs using List.reverseRecOn with
  | nil =>
    rw [matching_nil, List.take_nil]
    rfl
  | append_singleton runs run inductionHypothesis =>
    obtain ⟨runsDistinct, _, different⟩ := List.pairwise_append.mp distinct
    have absent : ∀ shown ∈ matching runs code, shown.name ≠ run.name := by
      intro shown member sameName
      obtain ⟨known, isKnown, isShown⟩ := exists_run_of_mem_matching member
      exact different known isKnown run (List.mem_singleton.mpr rfl) (isShown.trans sameName)
    have untouched : withoutRun run.name ((matching runs code).take capacity) =
        (matching runs code).take capacity :=
      withoutRun_eq_self fun shown member => absent shown (List.mem_of_mem_take member)
    rw [examples_concat, inductionHypothesis runsDistinct, untouched, take_offered_take,
      matching_concat, withoutRun_eq_self absent]

/-- A run on a day of one month, with one finding of each of some codes. -/
def sampleRun (name : String) (day : Option Nat) (codes : List String) : Run :=
  { name := name
    source := none
    revision := none
    date := day.map fun day => ⟨⟨2021, 3, day⟩, 0, 0, 0, 0⟩
    lines := [Line.ofMessage name]
    tests := codes.length
    sessionLines := 0
    unattributed := 0
    findings := codes.map fun code => ⟨.ofId ⟨"a.py", name, none⟩, code, []⟩
    startTimes := [] }

section Replacements

variable {book : RuleBook} {capacity : Nat} {runs before : List Run} {run : Run}
  {code : String}

theorem nodup_matching (runs : List Run) (code : String) : (matching runs code).Nodup := by
  have distinct := List.pairwise_map.mp (holds_survivors default 0 runs).distinct
  have names : ((survivors runs).filterMap (exampleOf code)).Pairwise
      fun left right => left.name ≠ right.name := by
    refine distinct.filterMap _ fun left right different first isFirst second isSecond => ?_
    rw [name_of_exampleOf isFirst, name_of_exampleOf isSecond]
    exact different
  rw [matching, (Newest.perm_newestFirst _ _).nodup_iff]
  exact names.imp fun different same => different (congrArg Example.name same)

/-- A run that is added after others finds room among the examples of a code, although one
that matches and is left out there is not older. -/
def SlipsIn (book : RuleBook) (capacity : Nat) (before : List Run) (run : Run) (code : String) :
    Prop :=
  let listed := withoutRun run.name (((empty book capacity).addAll before).examples code)
  listed.length < capacity ∧
    ∃ new, exampleOf code (before.length, run) = some new ∧
      ∃ known ∈ withoutRun run.name (matching before code),
        known ∉ listed ∧ new.date ≤ known.date

/-- One more run keeps the examples at the beginning of what matches unless it slips in. -/
theorem isPrefix_concat_iff
    (isPrefix : (((empty book capacity).addAll before).examples code).IsPrefix
      (matching before code)) :
    (((empty book capacity).addAll (before ++ [run])).examples code).IsPrefix
        (matching (before ++ [run]) code) ↔
      ¬ SlipsIn book capacity before run code := by
  have within : (withoutRun run.name
      (((empty book capacity).addAll before).examples code)).length ≤ capacity :=
    (List.length_filter_le _ _).trans ((lists_addAll book capacity before).1.within code)
  have descending : Newest.Descending Example.date (withoutRun run.name (matching before code)) :=
    (descending_matching before code).filter _
  have distinct : (withoutRun run.name (matching before code)).Nodup :=
    (nodup_matching before code).filter _
  have others : ∀ known ∈ withoutRun run.name (matching before code), known.name ≠ run.name :=
    fun known member => bne_iff_ne.mp (List.mem_filter.mp member).2
  obtain ⟨left, whole⟩ := isPrefix.filter fun known => known.name != run.name
  rw [← withoutRun, ← withoutRun] at whole
  rw [examples_concat, matching_concat, SlipsIn]
  generalize withoutRun run.name (((empty book capacity).addAll before).examples code) = listed at *
  generalize withoutRun run.name (matching before code) = held at *
  subst whole
  cases isNew : exampleOf code (before.length, run) with
  | none =>
    refine iff_of_true ?_ fun slipsIn => ?_
    · exact (List.take_prefix _ _).trans (List.prefix_append _ _)
    · obtain ⟨_, new, nothing, _⟩ := slipsIn
      cases nothing
  | some new =>
    have fresh : new ∉ left := fun member =>
      others new (List.mem_append_right listed member) (name_of_exampleOf isNew)
    have apart : ∀ known ∈ left, known ∉ listed := fun known isLeft isListed =>
      (List.nodup_append.mp distinct).2.2 known isListed known isLeft rfl
    refine (Newest.take_place_isPrefix_iff descending within fresh).trans ?_
    constructor
    · rintro allOlder ⟨room, _, isSome, known, isHeld, notListed, notOlder⟩
      cases isSome
      have isLeft := (List.mem_append.mp isHeld).resolve_left notListed
      exact (allOlder room known isLeft).not_ge notOlder
    · intro noSlip room known isLeft
      by_contra notOlder
      exact noSlip ⟨room, new, rfl, known, List.mem_append_right listed isLeft, apart known isLeft,
        not_lt.mp notOlder⟩

/-- The examples are always some of the runs that match, in their order and not more than the
capacity. They are the first ones of those at every moment if and only if no run slips in. -/
theorem examples_isPrefix_iff (book : RuleBook) (capacity : Nat) (runs : List Run)
    (code : String) :
    let examplesAfter (before : List Run) := ((empty book capacity).addAll before).examples code
    (examplesAfter runs).Sublist (matching runs code) ∧
      (examplesAfter runs).length ≤ capacity ∧
      ((∀ before, before.IsPrefix runs → (examplesAfter before).IsPrefix (matching before code)) ↔
        ∀ before run, (before ++ [run]).IsPrefix runs →
          ¬ SlipsIn book capacity before run code) := by
  intro examplesAfter
  obtain ⟨lists, sublist⟩ := lists_addAll book capacity runs
  refine ⟨sublist code, lists.within code, ?_⟩
  constructor
  · intro always before run isPrefix
    have earlier := always before ((List.prefix_append before [run]).trans isPrefix)
    exact (isPrefix_concat_iff earlier).mp (always _ isPrefix)
  · intro noSlip before isPrefix
    induction before using List.reverseRecOn with
    | nil => exact List.nil_prefix
    | append_singleton before run inductionHypothesis =>
      have earlier := inductionHypothesis ((List.prefix_append before [run]).trans isPrefix)
      exact (isPrefix_concat_iff earlier).mpr (noSlip before run isPrefix)

/-- Once `a` has made room, the oldest run is shown although `b` is newer and still held. -/
theorem examples_skip_newer_run :
    let runs := [sampleRun "a" (some 5) ["X"], sampleRun "b" (some 3) ["X"],
      sampleRun "a" (some 5) [], sampleRun "c" (some 1) ["X"]]
    (((empty default 1).addAll runs).examples "X").map Example.name = ["c"] ∧
      (matching runs "X").map Example.name = ["b", "c"] ∧
      ¬ (((empty default 1).addAll runs).examples "X").IsPrefix (matching runs "X") := by
  intro runs
  have shown : (((empty default 1).addAll runs).examples "X").map Example.name = ["c"] := by
    decide +kernel
  have held : (matching runs "X").map Example.name = ["b", "c"] := by
    rw [show runs = ((([] ++ [_]) ++ [_]) ++ [_]) ++ [_] from rfl, matching_concat, matching_concat,
      matching_concat, matching_concat, matching_nil]
    decide +kernel
  refine ⟨shown, held, fun isPrefix => ?_⟩
  have names := isPrefix.map Example.name
  rw [shown, held] at names
  exact absurd names (by decide)

end Replacements

end RunTriage.Archive
