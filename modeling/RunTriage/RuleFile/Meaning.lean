import RunTriage.Equivalents
import RunTriage.RuleBook
import RunTriage.RuleFile.Form

/-!
Contract: the rules that a document stands for.

Owns:
- the rule of each written form, with the equivalents of the document;
- the reasons why a document stands for no rules, and which of them is reported;
- `RuleFile.toRuleBook`.

Does not own: the registration of rules, which is in `RunTriage.RuleBook`.
-/

namespace RunTriage

/-- Why a symptom stands for nothing. -/
inductive SymptomError where
  | search (cause : SearchError)
  | noParts

/-- Why a document stands for no rules. -/
inductive RuleError where
  /-- The scope of a rule is a word other than the one for every test. -/
  | scope (code word : String)
  | symptom (code : String) (cause : SymptomError)
  | registration (cause : RegistrationError)

namespace RuleError

/-- The word for the kind of every error of rules. -/
def kindLabel : String := "rule error: "

def symptomDescription : SymptomError → String
  | .search cause => cause.description
  | .noParts => "'all' predicate needs at least one predicate"

/-- The text without the word for its kind. -/
def description : RuleError → String
  | .scope code word =>
    "Classifier '" ++ code ++ "': tests must be \"*\" or a list, found '" ++ word ++ "'"
  | .symptom code cause =>
    "Classifier '" ++ code ++ "': " ++ kindLabel ++ symptomDescription cause
  | .registration cause => cause.description

/-- The displayed text. -/
def message (error : RuleError) : String :=
  kindLabel ++ error.description

end RuleError

/-- The filter that a form stands for. -/
def FilterForm.toFilter (equivalents : Equivalents) (form : FilterForm) :
    Except FilterError Filter :=
  match Filter.ofPattern form.pattern with
  | .error error => .error error
  | .ok filter =>
    .ok { filter with
      attributes := form.attributes.map fun entry =>
        (entry.1, equivalents.expand entry.2.values) }

/-- The anchor that a form stands for, if there is one. -/
def SearchForm.toAnchor (equivalents : Equivalents) (form : SearchForm) :
    Except SearchError (Option Filter) :=
  match form.anchor with
  | none => .ok none
  | some anchor =>
    match anchor.toFilter equivalents with
    | .ok filter => .ok (some filter)
    | .error cause => .error (.filter cause)

/-- The window in milliseconds, if there is one. -/
def SearchForm.toDuration (form : SearchForm) : Except SearchError (Option Nat) :=
  match form.seconds with
  | none => .ok none
  | some seconds => (Search.durationOfSeconds seconds).map some

/-- The search that a form stands for. Of several errors, one of the filter comes
before one of the anchor, and that before one of the window. -/
def SearchForm.toSearch (equivalents : Equivalents) (form : SearchForm) :
    Except SearchError Search := do
  let filter ← (form.filter.toFilter equivalents).mapError .filter
  let anchor ← form.toAnchor equivalents
  let duration ← form.toDuration
  return {
    filter := filter
    path := form.path
    anchor := anchor
    duration := duration
    most := form.most
    missing := form.missing }

mutual

/-- The symptom that a form stands for. -/
def SymptomForm.toSymptom (equivalents : Equivalents) :
    SymptomForm → Except SymptomError Symptom
  | .search form =>
    match form.toSearch equivalents with
    | .ok query => .ok (.search query)
    | .error cause => .error (.search cause)
  | .outcome outcomes => .ok (.ofOutcomes outcomes)
  | .all parts =>
    if parts.isEmpty then .error .noParts
    else
      match SymptomForm.toSymptoms equivalents parts with
      | .ok symptoms => .ok (.all symptoms)
      | .error cause => .error cause

/-- The symptoms that forms stand for. The first error counts. -/
def SymptomForm.toSymptoms (equivalents : Equivalents) :
    List SymptomForm → Except SymptomError (List Symptom)
  | [] => .ok []
  | part :: rest =>
    match part.toSymptom equivalents with
    | .error cause => .error cause
    | .ok symptom =>
      match SymptomForm.toSymptoms equivalents rest with
      | .error cause => .error cause
      | .ok symptoms => .ok (symptom :: symptoms)

end

namespace RuleForm

/-- The word for a scope of every test. -/
def everywhereWord : String := "*"

def toScope (form : RuleForm) : Except RuleError Scope :=
  match form.scope with
  | .word text =>
    if text = everywhereWord then .ok .everywhere else .error (.scope form.code text)
  | .keys tests => .ok (.only tests)

/-- The rule that a form stands for. -/
def toRule (equivalents : Equivalents) (form : RuleForm) : Except RuleError Rule :=
  match form.toScope with
  | .error error => .error error
  | .ok scope =>
    match SymptomForm.toSymptoms equivalents form.symptoms with
    | .error cause => .error (.symptom form.code cause)
    | .ok symptoms =>
      .ok {
        code := form.code
        message := form.message
        scope := scope
        symptoms := symptoms
        taints := form.taints
        harmless := form.harmless
        onlyOnce := form.onlyOnce
        suppresses := sortedStrings form.suppresses }

/-- The rules that forms stand for. The first error counts. -/
def toRules (equivalents : Equivalents) : List RuleForm → Except RuleError (List Rule)
  | [] => .ok []
  | form :: rest =>
    match form.toRule equivalents with
    | .error error => .error error
    | .ok rule =>
      match toRules equivalents rest with
      | .error error => .error error
      | .ok rules => .ok (rule :: rules)

end RuleForm

namespace RuleFile

def toEquivalents (file : RuleFile) : Equivalents :=
  .ofEntries file.equivalents

/-- The rules of a document. Every rule is made before the first is registered. -/
def toRuleBook (file : RuleFile) : Except RuleError RuleBook :=
  match RuleForm.toRules file.toEquivalents file.rules with
  | .error error => .error error
  | .ok rules =>
    match RuleBook.ofRules rules with
    | .ok book => .ok book
    | .error cause => .error (.registration cause)

end RuleFile

end RunTriage
