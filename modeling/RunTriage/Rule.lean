import RunTriage.Symptom

/-!
Contract: rules that explain the failures of tests.

Owns:
- the rule: the tests it is tried on, the symptoms that make it fire, and what
  follows for the rest of the run;
- the fallbacks, which stand for failures that no rule explains.

Does not own: collections of rules, which are in `RunTriage.RuleBook`.
-/

namespace RunTriage

/-- The file and the name of a test, whatever its parametrization. -/
structure TestKey where
  file : String
  name : String
deriving DecidableEq, Repr, Inhabited

def TestRecord.key (record : TestRecord) : TestKey := ⟨record.id.file, record.id.name⟩

/-- The tests a rule is tried on. -/
inductive Scope where
  | everywhere
  | only (tests : List TestKey)
deriving DecidableEq, Repr, Inhabited

/-- A rule. It fires on a test if one of its symptoms holds. -/
structure Rule where
  /-- Identifies the rule. -/
  code : String
  /-- What the rule stands for, in words. -/
  message : String
  scope : Scope
  symptoms : List Symptom
  /-- After the rule has fired, failures of the run prove nothing. -/
  taints : Bool
  /-- The rule explains nothing. -/
  harmless : Bool
  /-- The rule is reported once in a run. -/
  onlyOnce : Bool
  /-- Codes that are not reported for the rest of the run, as a set. -/
  suppresses : List String
deriving Inhabited

namespace Rule

/-- A rule without consequences. -/
def ofSymptoms (code message : String) (scope : Scope) (symptoms : List Symptom) : Rule :=
  ⟨code, message, scope, symptoms, false, false, false, []⟩

/-- The rule is tried on the tests with a key. -/
def appliesTo (rule : Rule) (key : TestKey) : Bool :=
  match rule.scope with
  | .everywhere => true
  | .only tests => tests.contains key

/-- The lines shown by the first symptom that holds of a test. -/
def evidence? (rule : Rule) (record : TestRecord) : Option (List Line) :=
  rule.symptoms.findSome? (Symptom.evidence? record)

end Rule

/-- What is reported for a failure without an explanation. -/
inductive Fallback where
  | unknown
  | unknownTeardown
  | taint
  | taintTeardown
deriving DecidableEq, Repr, Inhabited

namespace Fallback

/-- Every fallback in order. -/
def all : List Fallback := [.unknown, .unknownTeardown, .taint, .taintTeardown]

def code : Fallback → String
  | .unknown => "UNKNOWN"
  | .unknownTeardown => "UNKNOWN-TD"
  | .taint => "TAINT"
  | .taintTeardown => "TAINT-TD"

def message : Fallback → String
  | .unknown => "Unclassified test failure"
  | .unknownTeardown => "Unclassified teardown failure"
  | .taint => "Ignored test failure due to taint"
  | .taintTeardown => "Ignored teardown failure due to taint"

/-- The fallback as a rule that never fires by itself. -/
def rule (fallback : Fallback) : Rule :=
  .ofSymptoms fallback.code fallback.message .everywhere []

/-- The code belongs to a fallback. -/
def isReserved (code : String) : Bool :=
  all.any fun fallback => fallback.code = code

/-- The fallback for a failed test. -/
def ofTest (tainted : Bool) : Fallback :=
  if tainted then .taint else .unknown

/-- The fallback for a failed teardown. -/
def ofTeardown (tainted : Bool) : Fallback :=
  if tainted then .taintTeardown else .unknownTeardown

end Fallback

end RunTriage
