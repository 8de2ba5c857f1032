import RunTriage.Newest
import RunTriage.Run
import RunTriage.Snapshot.Basic

/-!
Contract: the collection of analysed runs.

Only the newest runs of each code keep their lines. Of all others the findings are
kept without lines.

Owns:
- adding a run, which takes the place of an earlier one of the same name;
- the indexes by code and by revision;
- examples and findings by code or by run, and the snapshot.

Does not own: what follows from a snapshot, which is in
`RunTriage.Snapshot.Statistics`.
-/

namespace RunTriage

/-- A dated run with its lines, and its findings of one code. -/
structure Example where
  logId : Nat
  name : String
  source : Option String
  date : Instant
  lines : List Line
  findings : List Finding
deriving DecidableEq, Repr, Inhabited

/-- A dated run without lines, and its findings of one code. -/
structure RunFindings where
  logId : Nat
  name : String
  source : Option String
  date : Instant
  findings : List Finding
deriving DecidableEq, Repr, Inhabited

/-- What is kept of every run. -/
structure RunEntry where
  logId : Nat
  source : Option String
  revision : Option String
  date : Option Instant
  /-- Number of lines. -/
  lines : Nat
  tests : Nat
  sessionLines : Nat
  unattributed : Nat
  /-- Findings without lines. -/
  findings : List Finding
  startTimes : List StartTime
deriving Inhabited

/-- The runs of a revision by name, as a set, and the latest of their dates. -/
structure RevisionEntry where
  runs : List String
  latest : Option Instant
deriving DecidableEq, Repr, Inhabited

/-- The later of two dates; one that is missing is earlier than any other. -/
def laterDate (left right : Option Instant) : Option Instant :=
  match left, right with
  | some left, some right => some (left.latest right)
  | some left, none => some left
  | none, right => right

/-- The latest of several dates. -/
def latestDate (dates : List (Option Instant)) : Option Instant :=
  dates.foldl laterDate none

structure Archive where
  book : RuleBook
  /-- Number of examples of each code. -/
  capacity : Nat
  /-- Number of the run that is added next. -/
  nextId : Nat
  totalLines : Nat
  runs : SortedTable RunEntry
  /-- Newest runs by code. -/
  newest : SortedTable (Newest Example)
  /-- Findings without lines by code, in the order in which runs were added. -/
  findings : SortedTable (List RunFindings)
  revisions : SortedTable RevisionEntry
deriving Inhabited

namespace Archive

def empty (book : RuleBook) (capacity : Nat) : Archive :=
  ⟨book, capacity, 0, 0, [], [], [], []⟩

/-! ## Removing a run -/

/-- Take a run out of a revision. One without runs disappears. -/
def leaveRevision (name : String) (remaining : SortedTable RunEntry) (revision : String)
    (revisions : SortedTable RevisionEntry) : SortedTable RevisionEntry :=
  match revisions.find? revision with
  | none => revisions
  | some entry =>
    let runs := entry.runs.filter fun run => run != name
    if runs.isEmpty then revisions.erase revision
    else
      let dates := runs.map fun run => (remaining.find? run).bind RunEntry.date
      revisions.insert revision ⟨runs, latestDate dates⟩

/-- The archive without a run. -/
def remove (archive : Archive) (name : String) : Archive :=
  match archive.runs.find? name with
  | none => archive
  | some entry =>
    let remaining := archive.runs.erase name
    { archive with
      totalLines := archive.totalLines - entry.lines
      runs := remaining
      newest := archive.newest.map fun known =>
        (known.1, known.2.retain fun example_ => example_.name != name)
      findings := archive.findings.map fun known =>
        (known.1, known.2.filter fun kept => kept.name != name)
      revisions :=
        match entry.revision with
        | none => archive.revisions
        | some revision => leaveRevision name remaining revision archive.revisions }

/-! ## Adding a run -/

/-- The findings of a run with a code. -/
def findingsOf (run : Run) (code : String) : List Finding :=
  run.findings.filter fun finding => finding.code = code

/-- Index a dated run under a code. -/
def indexCode (logId : Nat) (run : Run) (date : Instant) (archive : Archive) (code : String) :
    Archive :=
  let findings := findingsOf run code
  let kept : Example := ⟨logId, run.name, run.source, date, run.lines, findings⟩
  let stripped : RunFindings :=
    ⟨logId, run.name, run.source, date, findings.map Finding.stripped⟩
  { archive with
    newest := archive.newest.alter code fun known =>
      (known.getD (.empty archive.capacity)).push date kept
    findings := archive.findings.alter code fun known => known.getD [] ++ [stripped] }

/-- Index a run under each of its codes. One without a date is not indexed. -/
def indexCodes (logId : Nat) (run : Run) (archive : Archive) : Archive :=
  match run.date with
  | none => archive
  | some date => run.codes.foldl (indexCode logId run date) archive

/-- Put a run into its revision. -/
def joinRevision (run : Run) (revisions : SortedTable RevisionEntry) :
    SortedTable RevisionEntry :=
  match run.revision with
  | none => revisions
  | some revision =>
    revisions.alter revision fun known =>
      let entry := known.getD ⟨[], none⟩
      ⟨sortedStrings (run.name :: entry.runs), laterDate entry.latest run.date⟩

def entryOf (logId : Nat) (run : Run) : RunEntry :=
  { logId := logId
    source := run.source
    revision := run.revision
    date := run.date
    lines := run.lines.length
    tests := run.tests
    sessionLines := run.sessionLines
    unattributed := run.unattributed
    findings := run.findings.map Finding.stripped
    startTimes := run.startTimes }

/-- The archive with one more run, in place of an earlier one of the same name. The
examples that the earlier one has displaced do not come back. -/
def add (archive : Archive) (run : Run) : Archive :=
  let remaining := archive.remove run.name
  let logId := remaining.nextId
  let indexed := indexCodes logId run remaining
  { indexed with
    nextId := logId + 1
    totalLines := indexed.totalLines + run.lines.length
    runs := indexed.runs.insert run.name (entryOf logId run)
    revisions := joinRevision run indexed.revisions }

/-- The archive with several more runs. -/
def addAll (archive : Archive) (runs : List Run) : Archive :=
  runs.foldl add archive

/-! ## Questions -/

/-- Number of runs. -/
def runCount (archive : Archive) : Nat := archive.runs.length

/-- The newest runs with a code, newest first. -/
def examples (archive : Archive) (code : String) : List Example :=
  match archive.newest.find? code with
  | some newest => newest.items
  | none => []

/-- Findings without lines of every dated run with a code. -/
def strippedFindings (archive : Archive) (code : String) : List RunFindings :=
  (archive.findings.find? code).getD []

/-- Findings without lines of one run. -/
def runFindings? (archive : Archive) (name : String) : Option (List Finding) :=
  (archive.runs.find? name).map RunEntry.findings

/-! ## The snapshot -/

def summaryOfRule (rule : Rule) : RuleSummary :=
  ⟨rule.code, rule.message, rule.taints, rule.harmless, Fallback.isReserved rule.code⟩

def summaryOfRun (name : String) (entry : RunEntry) : RunSummary :=
  { name := name
    logId := entry.logId
    source := entry.source
    revision := entry.revision
    date := entry.date
    lines := entry.lines
    tests := entry.tests
    sessionLines := entry.sessionLines
    unattributed := entry.unattributed
    codes := Finding.codes entry.findings }

def summaryOfRevision (revision : String) (entry : RevisionEntry) : RevisionSummary :=
  ⟨revision, entry.latest, entry.runs⟩

/-- The later revision comes first, then the smaller name. One without a date comes
last. -/
def revisionPrecedes (left right : RevisionSummary) : Bool :=
  match left.latest, right.latest with
  | some leftDate, some rightDate =>
    match leftDate.compare rightDate with
    | .gt => true
    | .lt => false
    | .eq => left.revision ≤ right.revision
  | some _, none => true
  | none, some _ => false
  | none, none => left.revision ≤ right.revision

/-- What is known at this moment. -/
def snapshot (archive : Archive) : Snapshot :=
  { totalLines := archive.totalLines
    rules := (archive.book.all.map summaryOfRule).mergeSort fun left right =>
      left.code ≤ right.code
    runs := archive.runs.map fun entry => summaryOfRun entry.1 entry.2
    revisions := (archive.revisions.map fun entry =>
      summaryOfRevision entry.1 entry.2).mergeSort revisionPrecedes
    startRows := (archive.runs.foldl (fun table entry =>
      StartTable.addRun table entry.2.startTimes) ([] : StartTable)).rows }

end Archive

end RunTriage
