import RunTriage.Line.Basic
import RunTriage.Outcome
import RunTriage.Tally

/-!
Contract: the record of one test, as reconstructed from a run.

Owns:
- the identity of a test and its displayed form;
- the record with its lines by section;
- look-up of a section by path, and the number of lines held;
- the stored form of a record.

Does not own: how records are reconstructed, which is in `RunTriage.Session`.
-/

namespace RunTriage

/-- Identity of a test: the file it is defined in, its name, and the
parametrization without its brackets. -/
structure NodeId where
  file : String
  name : String
  param : Option String
deriving DecidableEq, Repr, Inhabited

namespace NodeId

def display (id : NodeId) : String :=
  match id.param with
  | some param => id.file ++ "::" ++ id.name ++ "[" ++ param ++ "]"
  | none => id.file ++ "::" ++ id.name

def toJson (id : NodeId) : Json :=
  .ofMembers ([("file", .string id.file), ("name", .string id.name)] ++
    Line.optionalMember "param" id.param)

end NodeId

/-- A named group of lines of a detail report. -/
structure Section where
  name : String
  lines : List Line
deriving DecidableEq, Repr, Inhabited

def Section.toJson (part : Section) : Json :=
  .ofMembers [("name", .string part.name), ("lines", .array (part.lines.map Line.toJson))]

/-- The record of one test. -/
structure TestRecord where
  id : NodeId
  /-- The outcome, if the runner printed a known one. -/
  outcome : Option Outcome
  /-- Lines emitted while the test was running. -/
  messages : List Line
  /-- Lines of the teardown, if there was any. -/
  teardown : Option (List Line)
  /-- The outcome of a failed teardown. -/
  teardownOutcome : Option Outcome
  /-- Detail reports by key. -/
  details : SortedTable (List Section)
deriving DecidableEq, Repr, Inhabited

namespace TestRecord

/-- A record without any lines. -/
def ofId (id : NodeId) : TestRecord :=
  ⟨id, none, [], none, none, []⟩

/-- The lines of a section, named by `msgs`, `teardown`, or a key of the detail
reports, a slash and the name of a section. -/
def section? (record : TestRecord) (path : String) : Option (List Line) :=
  match path.splitOn "/" with
  | [single] =>
    if single = "msgs" then some record.messages
    else if single = "teardown" then record.teardown
    else none
  | [key, name] =>
    match record.details.find? key with
    | none => none
    | some sections => (sections.find? fun part => part.name = name).map Section.lines
  | _ => none

/-- Number of lines held in all sections. -/
def lineCount (record : TestRecord) : Nat :=
  record.messages.length + (record.teardown.getD []).length +
    total (record.details.values.map fun sections =>
      total (sections.map fun part => part.lines.length))

/-- The record without its lines. -/
def stripped (record : TestRecord) : TestRecord :=
  { record with messages := [], teardown := none, details := [] }

def outcomeJson (outcome : Option Outcome) : Json :=
  .ofOption (outcome.map fun outcome => .string outcome.keyword)

def toJson (record : TestRecord) : Json :=
  let teardown :=
    match record.teardown with
    | some lines => [("teardown", .array (lines.map Line.toJson))]
    | none => []
  .ofMembers
    ([("id", record.id.toJson), ("status", outcomeJson record.outcome),
      ("msgs", .array (record.messages.map Line.toJson)),
      ("details", .object (record.details.map fun entry =>
        (entry.1, .array (entry.2.map Section.toJson))))] ++
      teardown ++
      Line.optionalMember "teardown_status" (record.teardownOutcome.map Outcome.keyword))

end TestRecord

end RunTriage
