import RunTriage.Finding
import RunTriage.History
import RunTriage.RuleBook

/-!
Contract: explaining the failures of a run.

Owns:
- which rules fire on a test, and which of them are reported;
- the fallbacks for a failure that no rule explains;
- the diagnosis of a run, test after test with one history.

Does not own: the rules and their order, which are in `RunTriage.RuleBook`.
-/

namespace RunTriage

/-- The lines that make a rule fire on a test, unless it is passed over. -/
def Rule.fires? (rule : Rule) (history : History) (record : TestRecord) : Option (List Line) :=
  if history.passesOver rule then none else rule.evidence? record

/-- What is known about a test once its rules were tried. -/
structure Examination where
  findings : List Finding
  /-- A rule that is not harmless has fired. -/
  explained : Bool
  history : History
deriving DecidableEq, Repr, Inhabited

namespace Examination

/-- What a rule that fires adds to the findings. -/
def report (record : TestRecord) (rule : Rule) (lines : List Line) (history : History) :
    List Finding :=
  if history.isSuppressed rule.code then [] else [⟨record, rule.code, lines⟩]

/-- The history after a rule has fired. It counts as shown only if it was reported. -/
def historyAfter (rule : Rule) (history : History) : History :=
  if history.isSuppressed rule.code then history.apply rule
  else (history.markShown rule.code).apply rule

/-- Try rules on a test one after the other. -/
def ofRules (record : TestRecord) : List Rule → History → Examination
  | [], history => ⟨[], false, history⟩
  | rule :: rest, history =>
    match rule.fires? history record with
    | none => ofRules record rest history
    | some lines =>
      let later := ofRules record rest (historyAfter rule history)
      { findings := report record rule lines history ++ later.findings
        explained := !rule.harmless || later.explained
        history := later.history }

end Examination

/-! ## Fallbacks -/

/-- Levels whose lines may show a failure. -/
def evidenceLevels : List String := ["ERROR", "CRITICAL"]

/-- Lines that may show a failure without a rule: those of the levels above, and
the last line, which is where the runner prints the outcome. -/
def likelyEvidence (lines : List Line) : List Line :=
  (lines.filter fun line => line.level.any evidenceLevels.contains) ++ lines.getLast?.toList

/-- The test failed, or its outcome is not known. -/
def TestRecord.needsExplanation (record : TestRecord) : Bool :=
  !record.outcome.any Outcome.isBenign

/-- The teardown of the test failed. -/
def TestRecord.teardownFailed (record : TestRecord) : Bool :=
  record.teardownOutcome = some .error

/-- The fallbacks for a test without an explanation. -/
def fallbacks (record : TestRecord) (tainted : Bool) : List Finding :=
  (if record.needsExplanation then
    [⟨record, (Fallback.ofTest tainted).code, likelyEvidence record.messages⟩]
  else []) ++
  if record.teardownFailed then
    [⟨record, (Fallback.ofTeardown tainted).code, likelyEvidence (record.teardown.getD [])⟩]
  else []

/-! ## Diagnoses -/

/-- Findings in the order in which they came about, and the history after them. -/
structure Diagnosis where
  findings : List Finding
  history : History
deriving DecidableEq, Repr, Inhabited

namespace Diagnosis

/-- The diagnosis of one test. -/
def ofTest (book : RuleBook) (history : History) (record : TestRecord) : Diagnosis :=
  let examination := Examination.ofRules record (book.candidates record.key) history
  let remaining :=
    if examination.explained then [] else fallbacks record examination.history.tainted
  ⟨examination.findings ++ remaining, examination.history⟩

/-- The diagnoses of tests one after the other. -/
def eachTest (book : RuleBook) : History → List TestRecord → List Diagnosis
  | _, [] => []
  | history, record :: rest =>
    let diagnosis := ofTest book history record
    diagnosis :: eachTest book diagnosis.history rest

/-- The diagnosis of tests, from a history on. -/
def continued (book : RuleBook) (history : History) : List TestRecord → Diagnosis
  | [] => ⟨[], history⟩
  | record :: rest =>
    let diagnosis := ofTest book history record
    let later := continued book diagnosis.history rest
    ⟨diagnosis.findings ++ later.findings, later.history⟩

/-- The diagnosis of a run. -/
def ofTests (book : RuleBook) (tests : List TestRecord) : Diagnosis :=
  continued book .start tests

end Diagnosis

end RunTriage
