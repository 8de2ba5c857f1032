import RunTriage.Diagnosis
import RunTriage.Session.Basic
import RunTriage.StartTimes

/-!
Contract: what is found out about one captured run.

Owns:
- the capture of a run, which is its log and where that comes from;
- the record of an analysed run.

Does not own: what several runs have in common, which is in `RunTriage.Archive`.
-/

namespace RunTriage

/-- A captured run. -/
structure Capture where
  /-- Identifies the run. -/
  name : String
  source : Option String
  /-- The revision of the sources that was tested. -/
  revision : Option String
  lines : List Line
deriving DecidableEq, Repr, Inhabited

/-- The record of an analysed run. -/
structure Run where
  name : String
  source : Option String
  revision : Option String
  /-- Time of the first line that has one. -/
  date : Option Instant
  lines : List Line
  /-- Number of tests. -/
  tests : Nat
  /-- Number of lines from the start of the session on. -/
  sessionLines : Nat
  /-- Number of those lines that no test holds. -/
  unattributed : Nat
  findings : List Finding
  startTimes : List StartTime
deriving Inhabited

namespace Run

/-- The codes reported in the run, as a set. -/
def codes (run : Run) : List String := Finding.codes run.findings

end Run

/-- Analyse a captured run. -/
def Capture.analyze (capture : Capture) (runnerPod : String) (book : RuleBook) : Run :=
  let session := Session.ofLines runnerPod capture.lines
  { name := capture.name
    source := capture.source
    revision := capture.revision
    date := StartTime.firstTime? capture.lines
    lines := capture.lines
    tests := session.tests.length
    sessionLines := session.sessionLines
    unattributed := session.unattributed
    findings := (Diagnosis.ofTests book session.tests).findings
    startTimes := StartTime.ofLines capture.lines }

end RunTriage
