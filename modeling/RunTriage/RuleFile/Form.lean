import RunTriage.Rule

/-!
Contract: rules as they are written down.

Owns: the document, which has equivalents of attribute values and rules in their
order, and the written forms of everything in it.

Does not own: reading a document, its stored form, and the rules it stands for,
which are in the modules beside this one.
-/

namespace RunTriage

/-- One accepted value, or several. -/
inductive ValuesForm where
  | one (value : String)
  | many (values : List String)
deriving DecidableEq, Repr, Inhabited

/-- A filter as it is written. -/
structure FilterForm where
  pattern : String
  attributes : SortedTable ValuesForm
deriving DecidableEq, Repr, Inhabited

/-- A search as it is written. -/
structure SearchForm where
  filter : FilterForm
  path : String
  anchor : Option FilterForm
  /-- The window in seconds. -/
  seconds : Option Float
  most : Option Nat
  missing : Bool
deriving Inhabited

/-- A symptom as it is written. -/
inductive SymptomForm where
  | search (form : SearchForm)
  | outcome (outcomes : List Outcome)
  | all (parts : List SymptomForm)
deriving Inhabited

/-- Names of the kinds of symptoms. -/
def SymptomForm.kinds : List String := ["message", "status", "all"]

/-- The field that names the kind of a symptom. -/
def SymptomForm.kindField : String := "type"

/-- The scope of a rule as it is written. -/
inductive ScopeForm where
  | word (text : String)
  | keys (tests : List TestKey)
deriving DecidableEq, Repr, Inhabited

/-- A rule as it is written. -/
structure RuleForm where
  code : String
  message : String
  scope : ScopeForm
  taints : Bool
  harmless : Bool
  onlyOnce : Bool
  suppresses : List String
  symptoms : List SymptomForm
deriving Inhabited

/-- Rules as they are written, with the equivalents they use. -/
structure RuleFile where
  equivalents : SortedTable (List String)
  rules : List RuleForm
deriving Inhabited

/-- The accepted values. -/
def ValuesForm.values : ValuesForm → List String
  | .one value => [value]
  | .many values => values

/-- The document without rules. -/
def RuleFile.empty : RuleFile := ⟨[], []⟩

end RunTriage
