import RunTriage.Archive
import RunTriage.Line.Reader
import RunTriage.RuleFile.Meaning
import RunTriage.RuleFile.Reader
import RunTriage.Settings

/-!
Contract: analysing the logs at several paths.

Owns:
- the logs in a directory;
- the revision of a run, which is found in its name;
- the runs of a batch in their order. A log that cannot be read is left out and
  counted;
- the whole way from files to an archive, and the reasons why there is none.

Does not own: the report on the archive, which is in `RunTriage.Report`.
-/

namespace RunTriage

/-! ## Paths -/

/-- The file holds a log, by its name. -/
def isLogName (name : String) : Bool :=
  match PathText.extension? name with
  | some ending => ending = "json" || ending = "jsonl"
  | none => false

/-- The logs at a path: those in a directory by name, or what is at the path. -/
def logsAt (files : Files) (path : String) : List String :=
  match files.listing? path with
  | none => [path]
  | some names =>
    ((names.filter isLogName).mergeSort fun left right => left ≤ right).map (PathText.join path)

/-- The logs at several paths. -/
def collectLogs (files : Files) (paths : List String) : List String :=
  paths.flatMap (logsAt files)

/-- The name of the run at a path. -/
def runName (path : String) : String :=
  (PathText.fileName? path).getD path

/-! ## Revisions -/

/-- Why a text does not find revisions. -/
inductive RevisionError where
  | malformed (text : String)
  | noGroup (text : String)
deriving DecidableEq, Repr

def RevisionError.message : RevisionError → String
  | .malformed text => "Invalid revision pattern '" ++ text ++ "'"
  | .noGroup text => "Revision pattern '" ++ text ++ "' has no 'rev' group"

/-- A pattern, and the group that takes the revision. -/
structure RevisionFinder where
  pattern : Pattern
  group : Nat
deriving DecidableEq, Repr, Inhabited

namespace RevisionFinder

def groupName : String := "rev"

def ofText (text : String) : Except RevisionError RevisionFinder :=
  match Pattern.compile text with
  | .error _ => .error (.malformed text)
  | .ok pattern =>
    match Pattern.groupIndex? text groupName with
    | none => .error (.noGroup text)
    | some group => .ok ⟨pattern, group⟩

/-- The revision in the name of a run. -/
def revision? (finder : RevisionFinder) (name : String) : Option String :=
  (finder.pattern.firstMatch? name).bind fun found => found.group? finder.group

end RevisionFinder

/-! ## Batches -/

/-- What the runs of a batch have in common. -/
structure Batch where
  runnerPod : String
  finder : Option RevisionFinder

/-- What became of a batch. -/
structure BatchResult where
  archive : Archive
  /-- Number of logs that were analysed. -/
  analyzed : Nat
  /-- Number of logs that could not be read. -/
  failed : Nat

namespace Batch

/-- The log at a path. -/
def log? (files : Files) (path : String) : Option Log :=
  (files.contents? path).bind fun bytes => (Log.read bytes).toOption

/-- The run with a log at a path. -/
def captureOf (batch : Batch) (path : String) (log : Log) : Capture :=
  let name := runName path
  { name := name
    source := some path
    revision := batch.finder.bind fun finder => finder.revision? name
    lines := log.lines }

/-- The result with one more path. -/
def addPath (batch : Batch) (files : Files) (result : BatchResult) (path : String) :
    BatchResult :=
  match log? files path with
  | none => { result with failed := result.failed + 1 }
  | some log =>
    let run := (batch.captureOf path log).analyze batch.runnerPod result.archive.book
    { result with archive := result.archive.add run, analyzed := result.analyzed + 1 }

/-- Analyse the logs at paths one after the other. -/
def run (batch : Batch) (files : Files) (archive : Archive) (paths : List String) :
    BatchResult :=
  paths.foldl (batch.addPath files) ⟨archive, 0, 0⟩

end Batch

/-! ## Triage -/

/-- Why there are no rules at a path. -/
inductive RulesError where
  | unreadable
  | malformed
  | rule (cause : RuleError)

/-- Why no log is analysed. -/
inductive TriageError where
  | settings (cause : SettingsError)
  | rules (path : String) (cause : RulesError)
  | revision (cause : RevisionError)

/-- The text of the outermost reason. -/
def TriageError.message : TriageError → String
  | .settings cause => cause.message
  | .rules path _ => "Failed to load rules from " ++ path
  | .revision cause => cause.message

/-- The rules at a path. -/
def rulesAt (files : Files) (path : String) : Except RulesError RuleBook :=
  match files.text? path with
  | none => .error .unreadable
  | some text =>
    match RuleFile.ofYaml? text with
    | none => .error .malformed
    | some file => file.toRuleBook.mapError .rule

/-- The rules of settings, of which there are none without a path. -/
def rulesOf (files : Files) (settings : Settings) : Except TriageError RuleBook :=
  match settings.rules with
  | none => .ok .empty
  | some path => (rulesAt files path).mapError (.rules path)

def finderOf (settings : Settings) : Except TriageError (Option RevisionFinder) :=
  match settings.revisionPattern with
  | none => .ok none
  | some text => ((RevisionFinder.ofText text).mapError .revision).map some

/-- What is asked for. -/
structure TriageRequest where
  settingsPath : String
  overrides : Overrides
  paths : List String
deriving DecidableEq, Repr, Inhabited

/-- What became of a request. -/
structure TriageResult where
  settings : Settings
  /-- The paths of the logs. -/
  logs : List String
  batch : BatchResult

/-- Analyse what is asked for. -/
def triage (files : Files) (request : TriageRequest) : Except TriageError TriageResult := do
  let settings ← (Settings.load files request.settingsPath request.overrides).mapError .settings
  let book ← rulesOf files settings
  let logs := collectLogs files request.paths
  let finder ← finderOf settings
  let batch : Batch := ⟨settings.runnerPod, finder⟩
  return ⟨settings, logs, batch.run files (.empty book settings.examples) logs⟩

end RunTriage
