import RunTriage.Archive
import RunTriage.Decimal.Layout
import RunTriage.Excerpt
import RunTriage.Snapshot.Statistics

/-!
Contract: the report for readers.

Owns: the layout of the overview, of the frequencies, of the start times, and of the
newest runs of each code with excerpts of their logs.

Does not own: the figures, which are in `RunTriage.Snapshot.Statistics`.
-/

namespace RunTriage.Report

/-- A line of the report. -/
def line (text : String) : String := text ++ "\n"

def ruler : String := String.ofList (List.replicate 74 '=')

def columns (cells : List String) : String :=
  " ".intercalate cells

/-- A rate in whole percent. -/
def percent (rate : Float) : String :=
  Decimal.fixed 0 (rate * 100.0)

/-! ## The overview -/

def overviewLine (code runs rate frequency lastSeen message : String) : String :=
  line ("  " ++ columns [Text.alignLeft 12 code, Text.alignRight 9 runs, rate] ++ "  " ++
    columns [Text.alignLeft 10 frequency, Text.alignLeft 19 lastSeen] ++ "  " ++ message)

def overviewHeader : String :=
  overviewLine "code" "runs" (Text.alignRight 6 "rate") "frequency" "last seen" "message"

def correlationText (correlation : Correlation Float) : String :=
  correlation.code ++ " (+" ++ percent correlation.excess ++ "%)"

def correlationLine (correlations : List (Correlation Float)) : String :=
  if correlations.isEmpty then ""
  else
    line ("  " ++ Text.blanks 12 ++ " with: " ++
      ", ".intercalate (correlations.map correlationText))

def overviewRow (total : Nat) (row : OverviewRow) : String :=
  overviewLine row.code (toString row.runs ++ "/" ++ toString total)
    (Text.alignRight 5 (percent row.rate) ++ "%") row.frequency.word
    ((row.lastSeen.map Instant.renderSeconds).getD "-") row.message ++
    correlationLine row.correlations

/-- The codes with runs of a revision, or of all. -/
def overview (snapshot : Snapshot) (revision : Option String) : String :=
  let rows := (snapshot.overview revision).filter fun row => 0 < row.runs
  if rows.isEmpty then line "  no matches"
  else overviewHeader ++ String.join (rows.map (overviewRow (snapshot.totalRuns revision)))

def revision (snapshot : Snapshot) (revision : RevisionSummary) : String :=
  let latest := (revision.latest.map Instant.renderSeconds).getD "undated"
  line "" ++
    line ("Revision " ++ revision.revision ++ " (" ++ toString revision.runs.length ++
      " runs, latest " ++ latest ++ ")") ++
    overview snapshot (some revision.revision)

/-! ## Frequencies and start times -/

def frequencyLine (snapshot : Snapshot) (frequency : Frequency) : String :=
  let codes := snapshot.codesOf frequency
  line (columns [Text.alignLeft 10 (frequency.word ++ ":"),
    if codes.isEmpty then "-" else columns codes])

def frequencies (snapshot : Snapshot) : String :=
  String.join ([Frequency.always, .sometimes, .never].map (frequencyLine snapshot))

def startLine (pod container mean least greatest runs : String) : String :=
  line ("  " ++ columns [Text.alignLeft 32 pod, Text.alignLeft 20 container,
    Text.alignRight 8 mean, Text.alignRight 8 least, Text.alignRight 8 greatest,
    Text.alignRight 5 runs])

def startRow (row : StartRow) : String :=
  startLine row.pod row.container (Decimal.fixed 1 row.mean) (Decimal.fixed 1 row.least)
    (Decimal.fixed 1 row.greatest) (toString row.runs)

def startTimes (snapshot : Snapshot) : String :=
  if snapshot.startRows.isEmpty then ""
  else
    line "" ++ line "Pod startup (seconds after first log line)" ++
      startLine "pod" "container" "mean" "min" "max" "runs" ++
      String.join (snapshot.startRows.map startRow)

/-! ## Details -/

def excerptItem : ExcerptItem → String
  | .line _ shown highlighted =>
    line ("  " ++ (if highlighted then ">>" else "  ") ++ " " ++ shown.display)
  | .skipped count => line ("     ... " ++ toString count ++ " lines skipped ...")

def finding (log : List Line) (context : Nat) (finding : Finding) :
    Except ExcerptError String := do
  let outcome := (finding.test.outcome.map Outcome.keyword).getD "UNDEFINED"
  let items ← excerpt log finding.lines context
  return line ("  " ++ finding.test.id.display ++ " " ++ outcome) ++
    String.join (items.map excerptItem)

def example_ (context : Nat) (shown : Example) : Except ExcerptError String := do
  let source :=
    match shown.source with
    | some source => " from " ++ source
    | none => ""
  let findings ← shown.findings.mapM (finding shown.lines context)
  return line "" ++
    line ("Run " ++ shown.name ++ " (" ++ shown.date.renderSeconds ++ ")" ++ source) ++
    String.join findings

def ruleDetails (archive : Archive) (context : Nat) (rule : RuleSummary) :
    Except ExcerptError String := do
  let examples ← (archive.examples rule.code).mapM (example_ context)
  if examples.isEmpty then return ""
  else
    return line "" ++ line ruler ++ line (rule.code ++ ": " ++ rule.message) ++ line ruler ++
      String.join examples

/-- The newest runs of each code. -/
def details (snapshot : Snapshot) (archive : Archive) (context : Nat) :
    Except ExcerptError String :=
  (snapshot.rules.mapM (ruleDetails archive context)).map String.join

/-! ## The report -/

/-- The report without the details. -/
def summary (snapshot : Snapshot) : String :=
  line ruler ++
    line ("LogTriage report: " ++ toString (snapshot.totalRuns none) ++ " runs, " ++
      toString snapshot.totalLines ++ " log lines scanned") ++
    line ruler ++ overview snapshot none ++
    String.join (snapshot.revisions.map (revision snapshot)) ++
    line "" ++ frequencies snapshot ++ startTimes snapshot

/-- The report on a snapshot of an archive. -/
def render (snapshot : Snapshot) (archive : Archive) (context : Nat) (withDetails : Bool) :
    Except ExcerptError String :=
  if withDetails then (details snapshot archive context).map (summary snapshot ++ ·)
  else .ok (summary snapshot)

end RunTriage.Report
