import Mathlib.Data.List.Pairwise
import RunTriage.Proofs.ReadableLogs
import RunTriage.Proofs.SnapshotAgreement
import RunTriage.Proofs.Splitting

/-!
Contract: what a batch adds to an archive.

Owns:
- the runs of a batch, which are those of the logs that can be read;
- logs that cannot be read, which are counted and leave nothing behind;
- logs with one name in several directories, of which the last one is left.

Does not own: which logs can be read, which is in `RunTriage.Proofs.ReadableLogs`.
-/

namespace RunTriage

theorem Run.name_ne_or {left middle right : Run} (different : left.name ≠ right.name) :
    left.name ≠ middle.name ∨ middle.name ≠ right.name := by
  by_contra same
  rw [not_or, not_ne_iff, not_ne_iff] at same
  exact different (same.1.trans same.2)

/-- The last run of each name is what remains if no two runs may share a name. -/
theorem Run.lastOfEachName_eq (runs : List Run) :
    lastOfEachName runs = runs.pwFilter fun left right => left.name ≠ right.name := by
  induction runs with
  | nil => rfl
  | cons run later inductionHypothesis =>
    have unique := List.forall_mem_pwFilter (R := fun left right : Run => left.name ≠ right.name)
      name_ne_or run later
    rw [lastOfEachName]
    by_cases comesAgain : (later.any fun other => other.name = run.name) = true
    · have shared : ¬ ∀ other ∈ later, run.name ≠ other.name := by
        intro noneSame
        obtain ⟨other, member, same⟩ := List.any_eq_true.mp comesAgain
        exact noneSame other member (of_decide_eq_true same).symm
      rw [if_pos comesAgain, List.pwFilter_cons_of_neg (mt unique.mp shared), inductionHypothesis]
    · have noneSame : ∀ other ∈ later, run.name ≠ other.name := by
        intro other member same
        exact comesAgain (List.any_eq_true.mpr ⟨other, member, decide_eq_true same.symm⟩)
      rw [if_neg comesAgain, List.pwFilter_cons_of_pos (unique.mpr noneSame), inductionHypothesis]

namespace Batch

/-- The paths of logs that can be read. -/
def readable (files : Files) (paths : List String) : List String :=
  paths.filter fun path => (files.text? path).isSome

/-- The log at a path, which is empty if it cannot be read. -/
def logAt (files : Files) (path : String) : Log := (log? files path).getD ⟨[], 0⟩

section Runs

variable (batch : Batch) (files : Files)

/-- The run with the log at a path. -/
def runAt (book : RuleBook) (path : String) : Run :=
  (batch.captureOf path (logAt files path)).analyze batch.runnerPod book

/-- The runs with the logs that can be read. -/
def runs (book : RuleBook) (paths : List String) : List Run :=
  (readable files paths).map (batch.runAt files book)

/-- A path without a text counts as a failure and leaves the archive as it is. -/
theorem addPath_of_none {path : String} (unreadable : files.text? path = none)
    (result : BatchResult) :
    batch.addPath files result path = ⟨result.archive, result.analyzed, result.failed + 1⟩ := by
  have noLog : log? files path = none := by
    rw [← Option.isNone_iff_eq_none, ← Option.not_isSome, isSome_log?, unreadable]
    rfl
  rw [addPath, noLog]

theorem addPath_of_some {path text : String} (isText : files.text? path = some text)
    (result : BatchResult) :
    batch.addPath files result path =
      ⟨result.archive.add (batch.runAt files result.archive.book path), result.analyzed + 1,
        result.failed⟩ := by
  have hasLog : (log? files path).isSome := by
    rw [isSome_log?, isText]
    rfl
  obtain ⟨log, found⟩ := Option.isSome_iff_exists.mp hasLog
  rw [addPath, runAt, logAt, found]
  rfl

/-- A batch adds its runs one after the other, and counts the paths without one. -/
theorem foldl_addPath (result : BatchResult) (paths : List String) :
    paths.foldl (batch.addPath files) result =
      ⟨result.archive.addAll (batch.runs files result.archive.book paths),
        result.analyzed + (readable files paths).length,
        result.failed + paths.countP fun path => (files.text? path).isNone⟩ := by
  induction paths generalizing result with
  | nil => rfl
  | cons path rest inductionHypothesis =>
    cases found : files.text? path with
    | none =>
      have leftOut : readable files (path :: rest) = readable files rest := by
        simp [readable, found]
      have counted : (path :: rest).countP (fun path => (files.text? path).isNone) =
          rest.countP (fun path => (files.text? path).isNone) + 1 :=
        List.countP_cons_of_pos (by simp [found])
      rw [List.foldl_cons, inductionHypothesis, addPath_of_none batch files found, runs, runs,
        leftOut, counted, Nat.add_right_comm]
      rfl
    | some text =>
      have isFirst : readable files (path :: rest) = path :: readable files rest := by
        simp [readable, found]
      have counted : (path :: rest).countP (fun path => (files.text? path).isNone) =
          rest.countP fun path => (files.text? path).isNone :=
        List.countP_cons_of_neg (by simp [found])
      rw [List.foldl_cons, inductionHypothesis, addPath_of_some batch files found, runs, runs,
        isFirst, counted, Archive.book_add, List.length_cons, Nat.add_right_comm]
      rfl

theorem run_eq (archive : Archive) (paths : List String) :
    batch.run files archive paths =
      ⟨archive.addAll (batch.runs files archive.book paths), (readable files paths).length,
        paths.countP fun path => (files.text? path).isNone⟩ := by
  rw [run, foldl_addPath, Nat.zero_add, Nat.zero_add]

theorem readable_readable (paths : List String) :
    readable files (readable files paths) = readable files paths := by
  unfold readable
  rw [List.filter_filter]
  simp

theorem countP_readable (paths : List String) :
    (readable files paths).countP (fun path => (files.text? path).isNone) = 0 := by
  apply List.countP_eq_zero.mpr
  intro path member isNone
  have isText := (List.mem_filter.mp member).2
  rw [Option.isNone_iff_eq_none.mp isNone] at isText
  cases isText

theorem length_readable_add (paths : List String) :
    (readable files paths).length + paths.countP (fun path => (files.text? path).isNone) =
      paths.length := by
  have fails : (fun path => (files.text? path).isNone) =
      fun path => decide ¬(files.text? path).isSome = true := by
    funext path
    cases files.text? path <;> rfl
  rw [readable, ← List.countP_eq_length_filter, fails]
  exact (List.length_eq_countP_add_countP _).symm

/-- Each path is analysed or fails, and it fails if and only if there is no file that holds a text
as a whole. The paths that fail leave nothing behind: the archive is the one without them. -/
theorem run_leaves_out_unreadable (archive : Archive) (paths : List String) :
    let result := batch.run files archive paths
    let undisturbed := batch.run files archive (readable files paths)
    result.analyzed + result.failed = paths.length ∧
      (result.failed = paths.countP fun path => (files.text? path).isNone) ∧
      result.archive = undisturbed.archive ∧
      undisturbed.analyzed = result.analyzed ∧ undisturbed.failed = 0 := by
  intro result undisturbed
  have isResult : result = _ := batch.run_eq files archive paths
  have isUndisturbed : undisturbed = _ := batch.run_eq files archive (readable files paths)
  have sameRuns : batch.runs files archive.book (readable files paths) =
      batch.runs files archive.book paths := by
    rw [runs, readable_readable, runs]
  rw [isResult, isUndisturbed, sameRuns, countP_readable, readable_readable]
  exact ⟨length_readable_add files paths, rfl, rfl, rfl, rfl⟩

/-! ## Logs with one name -/

/-- The paths of logs that can be read, without those that a later one with the same name
replaces. -/
def lastOfEachName (paths : List String) : List String :=
  (readable files paths).pwFilter fun left right => runName left ≠ runName right

theorem lastOfEachName_runs (book : RuleBook) (paths : List String) :
    Run.lastOfEachName (batch.runs files book paths) =
      (lastOfEachName files paths).map (batch.runAt files book) := by
  rw [Run.lastOfEachName_eq, runs, List.pwFilter_map]
  rfl

theorem length_lastOfEachName {paths : List String} :
    (lastOfEachName files paths).length = (readable files paths).length ↔
      (readable files paths).Pairwise fun left right => runName left ≠ runName right := by
  rw [← List.pwFilter_eq_self]
  exact ⟨(List.pwFilter_sublist _).eq_of_length, congrArg List.length⟩

theorem totals_run (book : RuleBook) (capacity : Nat) (paths : List String) :
    let snapshot := (batch.run files (.empty book capacity) paths).archive.snapshot
    snapshot.totalRuns none = (lastOfEachName files paths).length ∧
      snapshot.totalLines =
        total ((lastOfEachName files paths).map fun path => (logAt files path).lines.length) := by
  intro snapshot
  have isSnapshot : snapshot =
      ((Archive.empty book capacity).addAll (batch.runs files book paths)).snapshot :=
    congrArg (fun result => result.archive.snapshot)
      (batch.run_eq files (.empty book capacity) paths)
  obtain ⟨kept, holds, isKept⟩ :=
    Archive.holds_lastOfEachName book capacity (batch.runs files book paths)
  rw [lastOfEachName_runs] at isKept
  rw [isSnapshot]
  constructor
  · have listed := holds.perm_summaries.length_eq
    have counted := congrArg List.length isKept
    rw [List.length_map] at listed counted
    rw [List.length_map] at counted
    rw [← counted, ← listed]
    simp [Snapshot.totalRuns, Snapshot.runsOf, RunSummary.belongsTo]
  · have lines := congrArg (List.map fun run : Run => run.lines.length) isKept
    rw [List.map_map, List.map_map] at lines
    exact holds.totalLines.trans (congrArg total lines)

/-- The archive holds the last log of each name. All that were analysed are in it if and only if no
two of them have the same name, and then the total counts the lines of them all. -/
theorem run_keeps_last_of_each_name (book : RuleBook) (capacity : Nat) (paths : List String) :
    let result := batch.run files (.empty book capacity) paths
    let snapshot := result.archive.snapshot
    let kept := lastOfEachName files paths
    let differ := (readable files paths).Pairwise fun left right => runName left ≠ runName right
    result.analyzed = (readable files paths).length ∧
      snapshot.totalRuns none = kept.length ∧
      snapshot.totalLines = total (kept.map fun path => (logAt files path).lines.length) ∧
      (snapshot.totalRuns none = result.analyzed ↔ differ) ∧
      (differ → snapshot.totalLines =
        total ((readable files paths).map fun path => (logAt files path).lines.length)) := by
  intro result snapshot kept differ
  have analyzed : result.analyzed = (readable files paths).length :=
    congrArg BatchResult.analyzed (batch.run_eq files _ paths)
  obtain ⟨runs, lines⟩ := batch.totals_run files book capacity paths
  refine ⟨analyzed, runs, lines, ?_, fun allDiffer => ?_⟩
  · rw [analyzed, runs]
    exact length_lastOfEachName files
  · have allKept : kept = readable files paths := List.pwFilter_eq_self.mpr allDiffer
    rw [← allKept]
    exact lines

end Runs

/-! ## Logs in several directories -/

/-- Three logs of one line, two of which have the same name. -/
def namesakes : FileTree :=
  ⟨[(["north", "run.jsonl"], [123, 125]), (["south", "run.jsonl"], [123, 125]),
    (["west", "late.jsonl"], [123, 125])]⟩

theorem locate?_namesakes :
    namesakes.locate? "north" = some ["north"] ∧ namesakes.locate? "south" = some ["south"] ∧
      namesakes.locate? "north/run.jsonl" = some ["north", "run.jsonl"] ∧
      namesakes.locate? "south/run.jsonl" = some ["south", "run.jsonl"] ∧
      namesakes.locate? "west/late.jsonl" = some ["west", "late.jsonl"] ∧
      namesakes.locate? "west/missing.jsonl" = some ["west", "missing.jsonl"] := by
  simp only [FileTree.locate?, PathText.parts_eq]
  decide +kernel

theorem runName_namesakes :
    runName "north/run.jsonl" = "run.jsonl" ∧ runName "south/run.jsonl" = "run.jsonl" ∧
      runName "west/late.jsonl" = "late.jsonl" := by
  simp only [runName, PathText.fileName?, PathText.parts_eq]
  decide +kernel

theorem isLogName_run : isLogName "run.jsonl" = true := by
  have pieces : "run.jsonl".splitOn "." = ["run", "jsonl"] := Text.splitOn_singleton _ '.'
  rw [isLogName, PathText.extension?, pieces]
  decide

theorem logsAt_namesakes {directory : String}
    (located : namesakes.locate? directory = some [directory])
    (names : namesakes.isDirectory [directory] ∧ namesakes.namesIn [directory] = ["run.jsonl"]) :
    logsAt namesakes.files directory = [PathText.join directory "run.jsonl"] := by
  have listed : namesakes.files.listing? directory = some ["run.jsonl"] := by
    show (namesakes.locate? directory).bind _ = _
    rw [located, Option.bind_some, if_pos names.1, names.2]
  simp only [logsAt, listed, List.filter_singleton, isLogName_run]
  simp

theorem log?_namesakes {path : String} {location : List String}
    (located : namesakes.locate? path = some location)
    (isFile : namesakes.fileAt? location = some [123, 125]) :
    log? namesakes.files path = some ⟨[Line.ofMessage ""], 0⟩ := by
  have contents : namesakes.files.contents? path = some [123, 125] := by
    show (namesakes.locate? path).bind _ = _
    rw [located, Option.bind_some, isFile]
  have text : Log.decodeText? [123, 125] = some "{}" := by decide +kernel
  have line : Log.ofText "{}" = ⟨[Line.ofMessage ""], 0⟩ := by decide +kernel
  have decoded : Log.read [123, 125] = .ok ⟨[Line.ofMessage ""], 0⟩ := by
    show Log.readLines [[123, 125]] = _
    rw [Log.readLines, text, Log.readLines]
    simp only [line]
    rfl
  rw [log?, contents, Option.bind_some, decoded]
  rfl

/-- Both logs are in the archive, and the path without a log is not. -/
theorem run_of_different_names :
    let paths := ["north/run.jsonl", "west/missing.jsonl", "west/late.jsonl"]
    let result := (⟨Session.defaultRunnerPod, none⟩ : Batch).run namesakes.files
      (.empty .empty 3) paths
    result.analyzed = 2 ∧ result.archive.snapshot.totalRuns none = 2 ∧
      result.archive.snapshot.totalLines = 2 := by
  intro paths result
  obtain ⟨_, _, located, _, lateLocated, missingLocated⟩ := locate?_namesakes
  have first := log?_namesakes located rfl
  have late := log?_namesakes lateLocated rfl
  have missing : log? namesakes.files "west/missing.jsonl" = none := by
    have noContents : namesakes.files.contents? "west/missing.jsonl" = none := by
      show (namesakes.locate? "west/missing.jsonl").bind _ = _
      rw [missingLocated]
      rfl
    rw [log?, noContents, Option.bind_none]
  have isReadable : readable namesakes.files paths = ["north/run.jsonl", "west/late.jsonl"] := by
    simp [paths, readable, ← isSome_log?, first, late, missing]
  obtain ⟨analyzed, _, _, allKept, allLines⟩ := run_keeps_last_of_each_name
    ⟨Session.defaultRunnerPod, none⟩ namesakes.files .empty 3 paths
  rw [isReadable] at analyzed allKept allLines
  have differ : ["north/run.jsonl", "west/late.jsonl"].Pairwise
      fun left right => runName left ≠ runName right := by
    simp [runName_namesakes]
  refine ⟨analyzed, (allKept.mpr differ).trans analyzed, ?_⟩
  rw [allLines differ]
  simp [logAt, first, late]

/-- Both logs of a name are analysed, and only one of them is in the archive. -/
theorem run_of_namesakes :
    let logs := collectLogs namesakes.files ["north", "south"]
    let result := (⟨Session.defaultRunnerPod, none⟩ : Batch).run namesakes.files
      (.empty .empty 3) logs
    logs.Nodup ∧ result.analyzed = 2 ∧ result.archive.snapshot.totalRuns none = 1 ∧
      result.archive.snapshot.totalLines = 1 ∧
      total (logs.map fun path => (logAt namesakes.files path).lines.length) = 2 := by
  intro logs result
  obtain ⟨north, south, northRun, southRun, _⟩ := locate?_namesakes
  have isLogs : logs = ["north/run.jsonl", "south/run.jsonl"] := by
    show collectLogs _ _ = _
    rw [collectLogs, List.flatMap_cons, List.flatMap_singleton, logsAt_namesakes north (by decide),
      logsAt_namesakes south (by decide)]
    decide +kernel
  have first := log?_namesakes northRun rfl
  have second := log?_namesakes southRun rfl
  have bothReadable : readable namesakes.files logs = logs := by
    simp [isLogs, readable, ← isSome_log?, first, second]
  have kept : lastOfEachName namesakes.files logs = ["south/run.jsonl"] := by
    rw [lastOfEachName, bothReadable, isLogs]
    simp [List.pwFilter, runName_namesakes]
  obtain ⟨runs, lines⟩ := totals_run ⟨Session.defaultRunnerPod, none⟩ namesakes.files .empty 3 logs
  have analyzed : result.analyzed = (readable namesakes.files logs).length :=
    congrArg BatchResult.analyzed (run_eq _ _ _ _)
  refine ⟨isLogs ▸ by decide, ?_, ?_, ?_, ?_⟩
  · rw [analyzed, bothReadable, isLogs]
    rfl
  · rw [runs, kept]
    rfl
  · rw [lines, kept]
    simp [logAt, second]
  · simp [isLogs, logAt, first, second]

end Batch
end RunTriage
