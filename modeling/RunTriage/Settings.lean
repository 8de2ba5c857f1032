import RunTriage.Files
import RunTriage.Session.Basic
import RunTriage.Yaml.Value

/-!
Contract: the settings of triage.

Owns:
- the settings, their defaults and their YAML document;
- settings given on the command line, which come before those of the document;
- the reasons why settings cannot be used.

Does not own: what the settings are used for, which is in `RunTriage.Batch`.
-/

namespace RunTriage

structure Settings where
  /-- Path of the rules. -/
  rules : Option String
  /-- Part of the name of the runner's pod. -/
  runnerPod : String
  /-- Number of examples of each code. -/
  examples : Nat
  /-- Number of lines shown around a highlighted one. -/
  context : Nat
  /-- A pattern whose group `rev` finds the revision in the name of a run. -/
  revisionPattern : Option String
  /-- Number of runs analysed at the same time. -/
  jobs : Nat
deriving DecidableEq, Repr, Inhabited

/-- Settings given on the command line. -/
structure Overrides where
  rules : Option String
  runnerPod : Option String
  examples : Option Nat
  context : Option Nat
  revisionPattern : Option String
  jobs : Option Nat
deriving DecidableEq, Repr, Inhabited

/-- Why settings cannot be used. -/
inductive SettingsError where
  | unreadable (path : String)
  | malformed (path : String)
  | noJobs
deriving DecidableEq, Repr

def SettingsError.message : SettingsError → String
  | .unreadable path => "Failed to read " ++ path
  | .malformed path => "Invalid configuration in " ++ path
  | .noJobs => "jobs must be at least 1"

namespace Settings

def default : Settings :=
  { rules := none
    runnerPod := Session.defaultRunnerPod
    examples := 3
    context := 30
    revisionPattern := none
    jobs := 1 }

def fieldNames : List String :=
  ["rules", "runner_pod", "matches_per_classifier", "context_lines", "revision_pattern", "jobs"]

/-- A text, or nothing. -/
def readOptionalText? (part : Yaml.Part) : Option (Option String) :=
  part.option?.bind fun value =>
    match value with
    | none => some none
    | some value => value.text?.map some

/-- The settings in a document. -/
def ofYaml? (text : String) : Option Settings := do
  let document ← Yaml.Document.ofText? text
  match Yaml.format.fields? fieldNames (Yaml.Part.root document) with
  | some [rules, runnerPod, examples, context, revisionPattern, jobs] =>
    return {
      rules := ← optionalField? default.rules readOptionalText? rules
      runnerPod := ← optionalField? default.runnerPod Yaml.Part.text? runnerPod
      examples := ← optionalField? default.examples Yaml.Part.count? examples
      context := ← optionalField? default.context Yaml.Part.count? context
      revisionPattern :=
        ← optionalField? default.revisionPattern readOptionalText? revisionPattern
      jobs := ← optionalField? default.jobs Yaml.Part.count? jobs }
  | _ => none

/-- The path of the rules counts from the directory of the document. -/
def locateRules (path : String) (settings : Settings) : Settings :=
  { settings with rules := settings.rules.map (PathText.join (PathText.parent path)) }

/-- The settings at a path, or the defaults if there is nothing. -/
def ofPath (files : Files) (path : String) : Except SettingsError Settings :=
  if files.holds path then
    match files.text? path with
    | none => .error (.unreadable path)
    | some text =>
      match ofYaml? text with
      | none => .error (.malformed path)
      | some settings => .ok (locateRules path settings)
  else .ok default

/-- The settings with those of the command line in their places. -/
def override (settings : Settings) (overrides : Overrides) : Settings :=
  { rules := overrides.rules.or settings.rules
    runnerPod := overrides.runnerPod.getD settings.runnerPod
    examples := overrides.examples.getD settings.examples
    context := overrides.context.getD settings.context
    revisionPattern := overrides.revisionPattern.or settings.revisionPattern
    jobs := overrides.jobs.getD settings.jobs }

/-- The settings at a path with those of the command line in their places. -/
def load (files : Files) (path : String) (overrides : Overrides) :
    Except SettingsError Settings := do
  let settings := (← ofPath files path).override overrides
  if settings.jobs = 0 then throw .noJobs
  return settings

end Settings

end RunTriage
