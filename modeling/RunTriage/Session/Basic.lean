import RunTriage.Session.Layout

/-!
Contract: the tests of one run, reconstructed from its stream of lines.

Owns:
- which lines come from the runner;
- `Session.ofLines`, which never fails: a line that belongs to no test is
  counted, and a test without an end mark has no outcome.

Does not own: the division of the stream, which is in `RunTriage.Session.Layout`.
-/

namespace RunTriage

/-- The tests of a run in the order in which the runner started them. -/
structure Session where
  tests : List TestRecord
  /-- Number of lines from the start of the session on. -/
  sessionLines : Nat
  /-- Number of those lines that no test holds. -/
  unattributed : Nat
  /-- Number of detail reports without a test. -/
  discardedReports : Nat
deriving DecidableEq, Repr, Inhabited

namespace Session

/-- The part of a pod's name that marks the runner, unless settings say otherwise. -/
def defaultRunnerPod : String := "makefile-runner"

/-- The line comes from a pod whose name contains the runner's. -/
def isRunnerLine (runnerPod : String) (line : Line) : Bool :=
  line.pod.any fun pod => Text.contains pod runnerPod

/-- The runner's part of a stream. -/
def transcriptOf (runnerPod : String) (lines : List Line) : Transcript :=
  lines.map fun line => if isRunnerLine runnerPod line then some line.message else none

/-- The lines at positions from `start` up to `stop`. -/
def slice (lines : List Line) (start stop : Nat) : List Line :=
  (lines.drop start).take (stop - start)

/-- Add a line to the section with a title, which is made if there is none. -/
def addToSection (title : String) (line : Line) : List Section → List Section
  | [] => [⟨title, [line]⟩]
  | part :: rest =>
    if part.name = title then { part with lines := part.lines ++ [line] } :: rest
    else part :: addToSection title line rest

/-- Put the line of a placement into the detail reports of its test. -/
def addPlacement (lines : List Line) (details : SortedTable (List Section))
    (placement : Placement) : SortedTable (List Section) :=
  match lines[placement.position]? with
  | some line =>
    details.alter placement.key fun sections =>
      addToSection placement.title line (sections.getD [])
  | none => details

/-- The detail reports of one test. -/
def detailsOf (lines : List Line) (placements : List Placement) (test : Nat) :
    SortedTable (List Section) :=
  (placements.filter fun placement => placement.test = test).foldl (addPlacement lines) []

/-- The record of the test at an extent. -/
def recordOf (lines : List Line) (placements : List Placement) (test : Nat) (extent : Extent) :
    TestRecord :=
  { id := extent.id
    outcome := extent.outcome
    messages := slice lines extent.start extent.stop
    teardown := extent.teardown.map fun count => slice lines extent.stop (extent.stop + count)
    teardownOutcome := extent.teardownOutcome
    details := detailsOf lines placements test }

/-- The records of a divided stream. -/
def recordsOf (lines : List Line) (layout : Layout) : List TestRecord :=
  layout.extents.mapIdx (recordOf lines layout.placements)

/-- Number of lines that tests hold. -/
def countLines (tests : List TestRecord) : Nat :=
  total (tests.map TestRecord.lineCount)

/-- Number of lines held by the tests of a session. -/
def attributed (session : Session) : Nat := countLines session.tests

/-- The session in a stream of lines. -/
def ofLines (runnerPod : String) (lines : List Line) : Session :=
  let layout := Layout.ofTranscript (transcriptOf runnerPod lines)
  let tests := recordsOf lines layout
  let sessionLines := lines.length - layout.start
  { tests := tests
    sessionLines := sessionLines
    unattributed := sessionLines - countLines tests
    discardedReports := layout.discarded }

end Session

end RunTriage
