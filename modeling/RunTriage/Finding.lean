import RunTriage.Rule

/-!
Contract: what was found out about a test.

Owns:
- the finding: a test, the code of a rule or fallback, and the lines that show it;
- findings without lines, which are what is kept of most runs.

Does not own: how findings come about, which is in `RunTriage.Diagnosis`.
-/

namespace RunTriage

/-- A rule or fallback that was reported for a test. -/
structure Finding where
  test : TestRecord
  code : String
  /-- The lines that show it. -/
  lines : List Line
deriving DecidableEq, Repr, Inhabited

namespace Finding

/-- The finding comes from a fallback. -/
def isFallback (finding : Finding) : Bool := Fallback.isReserved finding.code

/-- The finding without any lines of the log. -/
def stripped (finding : Finding) : Finding :=
  ⟨finding.test.stripped, finding.code, []⟩

/-- Number of lines held. -/
def lineCount (finding : Finding) : Nat :=
  finding.lines.length + finding.test.lineCount

/-- The codes of findings, as a set. -/
def codes (findings : List Finding) : List String :=
  sortedStrings (findings.map Finding.code)

end Finding

end RunTriage
