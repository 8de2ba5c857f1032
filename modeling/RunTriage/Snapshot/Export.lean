import RunTriage.Json.Printer
import RunTriage.Snapshot.Stored

/-!
Contract: the overview as text for other programs.

Owns:
- the formats: one JSON document, one JSON text a line, and CSV;
- fields of CSV, which are quoted where they hold a comma, a quote or a line feed.

Does not own: the report for readers, which is in `RunTriage.Report`.
-/

namespace RunTriage

inductive ExportFormat where
  | json
  | jsonLines
  | csv
deriving DecidableEq, Repr, Inhabited

namespace Csv

/-- The character makes quotes necessary. -/
def needsQuotes (char : Char) : Bool :=
  char = ',' || char = '"' || char = '\n'

/-- Inside quotes a quote is written twice. -/
def doubleQuotes (chars : List Char) : List Char :=
  chars.flatMap fun char => if char = '"' then ['"', '"'] else [char]

/-- The written form of a field. -/
def field (value : String) : String :=
  if value.toList.any needsQuotes then
    String.ofList ('"' :: (doubleQuotes value.toList ++ ['"']))
  else value

/-- The written form of a record, with a line feed at its end. -/
def record (fields : List String) : String :=
  ",".intercalate fields ++ "\n"

def header : List String :=
  ["code", "message", "runs", "rate", "frequency", "last_seen", "last_run", "correlations"]

/-- Number of places of rates. -/
def ratePlaces : Nat := 4

/-- Number of places of the excess of a correlation. -/
def excessPlaces : Nat := 2

def correlationText (correlation : Correlation Float) : String :=
  correlation.code ++ ":" ++ Decimal.fixed excessPlaces correlation.excess

/-- The correlations of a row in one field. -/
def correlationsText (correlations : List (Correlation Float)) : String :=
  " ".intercalate (correlations.map correlationText)

/-- The record of a row. -/
def row (row : OverviewRow) : String :=
  record
    [field row.code, field row.message, toString row.runs, Decimal.fixed ratePlaces row.rate,
      row.frequency.word, (row.lastSeen.map Instant.renderNumericOffset).getD "",
      field (row.lastRun.getD ""), field (correlationsText row.correlations)]

end Csv

namespace Snapshot

/-- The overview in a format. -/
def exported (snapshot : Snapshot) (format : ExportFormat) : String :=
  let rows := snapshot.overview none
  match format with
  | .jsonLines => String.join (rows.map fun row => row.toJson.compact ++ "\n")
  | .json =>
    let overview := ("overview", Json.array (rows.map OverviewRow.toJson))
    (Json.object (snapshot.fields ++ [overview])).indented 0 ++ "\n"
  | .csv => Csv.record Csv.header ++ String.join (rows.map Csv.row)

/-- Number of rows of an export. -/
def exportedRows (snapshot : Snapshot) : Nat := (snapshot.overview none).length

end Snapshot

end RunTriage
