import RunTriage.Batch
import RunTriage.Report
import RunTriage.Snapshot.Export

/-!
Contract: the command line without its effects.

Owns:
- the options and their values;
- what a command prints and writes, and why it fails.

Does not own: reading and writing files, which is in `RunTriage.Main`.
-/

namespace RunTriage

/-- An option of the command line. -/
inductive Switch where
  | config
  | rules
  | runnerPod
  | examples
  | context
  | revisionPattern
  | jobs
  | output
  | csv
  | noDetails
  | verbose
deriving DecidableEq, Repr, Inhabited

namespace Switch

def all : List Switch :=
  [.config, .rules, .runnerPod, .examples, .context, .revisionPattern, .jobs, .output, .csv,
    .noDetails, .verbose]

/-- The name behind two dashes. -/
def name : Switch → String
  | .config => "config"
  | .rules => "rules"
  | .runnerPod => "runner-pod"
  | .examples => "matches-per-classifier"
  | .context => "context-lines"
  | .revisionPattern => "revision-pattern"
  | .jobs => "jobs"
  | .output => "output"
  | .csv => "csv"
  | .noDetails => "no-details"
  | .verbose => "verbose"

/-- The letter behind one dash, if there is one. -/
def letter? : Switch → Option Char
  | .config => some 'c'
  | .rules => some 'r'
  | .examples => some 'k'
  | .jobs => some 'j'
  | .output => some 'o'
  | .verbose => some 'v'
  | _ => none

/-- The option needs a value. -/
def takesValue : Switch → Bool
  | .noDetails | .verbose => false
  | _ => true

def ofName? (name : String) : Option Switch :=
  all.find? fun switch => switch.name = name

def ofLetter? (letter : Char) : Option Switch :=
  all.find? fun switch => switch.letter? = some letter

end Switch

/-- Why arguments are not understood. -/
inductive UsageError where
  | unknown (argument : String)
  | noValue (switch : Switch)
  | needlessValue (switch : Switch)
  | badNumber (switch : Switch) (value : String)
  | noPaths
deriving DecidableEq, Repr

def UsageError.message : UsageError → String
  | .unknown argument => "unexpected argument '" ++ argument ++ "' found"
  | .noValue switch => "a value is required for '--" ++ switch.name ++ "'"
  | .needlessValue switch => "no value is allowed for '--" ++ switch.name ++ "'"
  | .badNumber switch value =>
    "invalid value '" ++ value ++ "' for '--" ++ switch.name ++ "'"
  | .noPaths => "no log files or directories were given"

/-- A command. -/
structure Command where
  request : TriageRequest
  /-- Where to write the report as JSON. -/
  output : Option String
  /-- Where to write the overview as CSV. -/
  csv : Option String
  /-- Print excerpts of logs. -/
  details : Bool
deriving DecidableEq, Repr, Inhabited

namespace Command

/-- The settings are read from here unless another path is given. -/
def defaultSettingsPath : String := "logtriage.yaml"

/-- The command without arguments. -/
def start : Command :=
  { request :=
      { settingsPath := defaultSettingsPath
        overrides := ⟨none, none, none, none, none, none⟩
        paths := [] }
    output := none
    csv := none
    details := true }

def withOverrides (command : Command) (change : Overrides → Overrides) : Command :=
  { command with
    request := { command.request with overrides := change command.request.overrides } }

def addPath (command : Command) (path : String) : Command :=
  { command with request := { command.request with paths := command.request.paths ++ [path] } }

/-- The number of digits behind an optional plus sign, if it fits into 64 bits. -/
def number? (value : String) : Option Nat :=
  let digits :=
    match value.toList with
    | '+' :: rest => rest
    | chars => chars
  if digits.isEmpty || !digits.all Char.isDigit then none
  else (String.ofList digits).toNat?.filter (· < Nat.pow 2 64)

/-- The value of an option that is a number. -/
def number (switch : Switch) (value : String) : Except UsageError Nat :=
  match number? value with
  | some number => .ok number
  | none => .error (.badNumber switch value)

/-- The command with one more option and its value, which is empty if there is none. -/
def apply (command : Command) (switch : Switch) (value : String) : Except UsageError Command :=
  match switch with
  | .config =>
    .ok { command with request := { command.request with settingsPath := value } }
  | .rules => .ok (command.withOverrides fun known => { known with rules := some value })
  | .runnerPod => .ok (command.withOverrides fun known => { known with runnerPod := some value })
  | .examples =>
    (number switch value).map fun count =>
      command.withOverrides fun known => { known with examples := some count }
  | .context =>
    (number switch value).map fun count =>
      command.withOverrides fun known => { known with context := some count }
  | .revisionPattern =>
    .ok (command.withOverrides fun known => { known with revisionPattern := some value })
  | .jobs =>
    (number switch value).map fun count =>
      command.withOverrides fun known => { known with jobs := some count }
  | .output => .ok { command with output := some value }
  | .csv => .ok { command with csv := some value }
  | .noDetails => .ok { command with details := false }
  | .verbose => .ok command

/-- What an argument is. -/
inductive Argument where
  | path (text : String)
  /-- An option, with a value if the argument holds one. -/
  | option (switch : Switch) (value : Option String)
  /-- Only paths follow. -/
  | onlyPaths
  | unknown
deriving DecidableEq, Repr

namespace Argument

/-- An option by its name, perhaps with a value behind an equals sign. -/
def ofLong (text : List Char) : Argument :=
  let name := String.ofList (text.takeWhile (· != '='))
  let value :=
    match text.dropWhile (· != '=') with
    | [] => none
    | _ :: rest => some (String.ofList rest)
  match Switch.ofName? name with
  | some switch => .option switch value
  | none => .unknown

/-- An option by its letter, perhaps with a value right behind it. -/
def ofShort (letter : Char) (rest : List Char) : Argument :=
  match Switch.ofLetter? letter with
  | none => .unknown
  | some switch =>
    match rest with
    | [] => .option switch none
    | '=' :: value => .option switch (some (String.ofList value))
    | value => .option switch (some (String.ofList value))

def ofText (text : String) : Argument :=
  match text.toList with
  | ['-', '-'] => .onlyPaths
  | '-' :: '-' :: name => ofLong name
  | '-' :: letter :: rest => ofShort letter rest
  | _ => .path text

end Argument

/-- Read arguments. An option without a value in its own argument takes the next one. -/
def readArguments (command : Command) : List String → Except UsageError Command
  | [] => .ok command
  | text :: rest =>
    match Argument.ofText text with
    | .path path => readArguments (command.addPath path) rest
    | .onlyPaths => .ok (rest.foldl addPath command)
    | .unknown => .error (.unknown text)
    | .option switch (some value) =>
      if switch.takesValue then
        match command.apply switch value with
        | .ok command => readArguments command rest
        | .error error => .error error
      else .error (.needlessValue switch)
    | .option switch none =>
      if switch.takesValue then
        match rest with
        | [] => .error (.noValue switch)
        | value :: rest =>
          match command.apply switch value with
          | .ok command => readArguments command rest
          | .error error => .error error
      else
        match command.apply switch "" with
        | .ok command => readArguments command rest
        | .error error => .error error

/-- The command of arguments, which name a path at least. -/
def ofArguments (arguments : List String) : Except UsageError Command := do
  let command ← start.readArguments arguments
  if command.request.paths.isEmpty then throw .noPaths
  return command

/-! ## What a command does -/

/-- Why a command fails. -/
inductive Failure where
  | triage (cause : TriageError)
  | noLogs
  | noRuns
  | report (cause : ExcerptError)

def Failure.message : Failure → String
  | .triage cause => cause.message
  | .noLogs => "No log files found"
  | .noRuns => "No run could be analysed"
  | .report cause => cause.message

/-- What a command prints, and the texts it writes to paths. -/
structure Output where
  report : String
  exports : List (String × String)
deriving DecidableEq, Repr, Inhabited

/-- The texts that a command writes about a snapshot. -/
def exportsOf (command : Command) (snapshot : Snapshot) : List (String × String) :=
  let written (path : Option String) (format : ExportFormat) : List (String × String) :=
    path.toList.map fun path => (path, snapshot.exported format)
  written command.output .json ++ written command.csv .csv

def outputOf (command : Command) (result : TriageResult) : Except ExcerptError Output := do
  let archive := result.batch.archive
  let snapshot := archive.snapshot
  let report ← Report.render snapshot archive result.settings.context command.details
  return { report, exports := command.exportsOf snapshot }

/-- Carry out a command. Logs have to be found before a pattern for revisions is
looked at, and one of them has to be readable. -/
def run (files : Files) (command : Command) : Except Failure Output :=
  let noLogs := (collectLogs files command.request.paths).isEmpty
  match triage files command.request with
  | .error (.revision cause) =>
    .error (if noLogs then .noLogs else .triage (.revision cause))
  | .error cause => .error (.triage cause)
  | .ok result =>
    if noLogs then .error .noLogs
    else if result.batch.analyzed = 0 then .error .noRuns
    else (command.outputOf result).mapError .report

/-- The path of the rules that a command needs, if its settings can be read. -/
def rulesPath? (files : Files) (command : Command) : Option String :=
  match Settings.load files command.request.settingsPath command.request.overrides with
  | .ok settings => settings.rules
  | .error _ => none

end Command

end RunTriage
