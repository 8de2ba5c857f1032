import RunTriage.RuleFile.Form
import RunTriage.Yaml.Value

/-!
Contract: reading rules that were written down.

Owns:
- how each written form is read from a value of a data document;
- `RuleFile.ofJson?` and `RuleFile.ofYaml?`.

Does not own: the formats, which are in `RunTriage.Json` and `RunTriage.Yaml`.
-/

namespace RunTriage

namespace ValuesForm

def ofDatum? : Datum → Option ValuesForm
  | .text value => some (.one value)
  | value => value.texts?.map .many

/-- Accepted values by attribute; of a repeated name the last counts. -/
def tableOfDatum? (value : Datum) : Option (SortedTable ValuesForm) :=
  value.entries?.bind fun entries =>
    (entries.mapM fun entry => (ofDatum? entry.2).map fun values => (entry.1, values)).map
      SortedTable.ofEntries

end ValuesForm

namespace FilterForm

def fieldNames : List String := ["pattern", "attrs"]

def ofDatum? (value : Datum) : Option FilterForm :=
  match value.fields? fieldNames with
  | some [some pattern, attributes] => do
    return ⟨← pattern.text?, ← optionalField? [] ValuesForm.tableOfDatum? attributes⟩
  | _ => none

end FilterForm

namespace SearchForm

def fieldNames : List String :=
  ["pattern", "section", "attrs", "after", "max_time", "max_count", "missing"]

/-- Read the fields of a search. -/
def ofFields? : List (Option Datum) → Option SearchForm
  | [some pattern, path, attributes, anchor, seconds, most, missing] => do
    let filter : FilterForm :=
      ⟨← pattern.text?, ← optionalField? [] ValuesForm.tableOfDatum? attributes⟩
    return {
      filter := filter
      path := ← optionalField? Search.defaultPath Datum.text? path
      anchor := ← optionalField? none (Datum.option? FilterForm.ofDatum?) anchor
      seconds := ← optionalField? none (Datum.option? Datum.number?) seconds
      most := ← optionalField? none (Datum.option? Datum.count?) most
      missing := ← optionalField? false Datum.bool? missing }
  | _ => none

end SearchForm

/-- Read an outcome: its keyword, its number, or a table of one of these and nothing. -/
def Outcome.ofDatum? (value : Datum) : Option Outcome :=
  let names := Outcome.all.map Outcome.keyword
  match value with
  | .text word => Outcome.ofKeyword? word
  | .table [(name, .null)] => (name.choice? names).bind Outcome.ofKeyword?
  | .table [(name, .table [])] => (name.choice? names).bind Outcome.ofKeyword?
  | _ => none

namespace SymptomForm

/-- Take the kind out of a symptom: the first value of a list, or the field for it,
which may not be repeated. -/
def splitKind? : Datum → Option (Datum × Datum)
  | .list (kind :: values) => some (kind, .list values)
  | .table entries =>
    let isKind (entry : Datum × Datum) : Bool := entry.1.text? = some kindField
    match entries.filter isKind with
    | [(_, kind)] => some (kind, .table (entries.filter fun entry => !isKind entry))
    | _ => none
  | _ => none

/-- Read a symptom, for one more than its depth. At the root the kind has to be named;
the parts of a symptom may give its number. -/
def read? : Nat → Bool → Datum → Option SymptomForm
  | 0, _, _ => none
  | depth + 1, isRoot, value => do
    let (kind, rest) ← splitKind? value
    let name ← if isRoot then kind.text? else kind.choice? kinds
    if name = "message" then
      return .search (← (rest.fields? SearchForm.fieldNames).bind SearchForm.ofFields?)
    else if name = "status" then
      match rest.fields? ["states"] with
      | some [some states] => return .outcome (← (← states.list?).mapM Outcome.ofDatum?)
      | _ => none
    else if name = "all" then
      match rest.fields? ["predicates"] with
      | some [some parts] => return .all (← (← parts.list?).mapM (read? depth false))
      | _ => none
    else none

def ofDatum? (value : Datum) : Option SymptomForm :=
  read? (value.depth + 1) true value

end SymptomForm

/-- Read the key of a test. -/
def TestKey.ofDatum? (value : Datum) : Option TestKey :=
  match value.fields? ["file", "name"] with
  | some [some file, some name] => do return ⟨← file.text?, ← name.text?⟩
  | _ => none

def ScopeForm.ofDatum? : Datum → Option ScopeForm
  | .text value => some (.word value)
  | .list items => (items.mapM TestKey.ofDatum?).map .keys
  | _ => none

namespace RuleForm

def fieldNames : List String :=
  ["code", "message", "tests", "taints", "harmless", "only_once", "suppresses", "predicates"]

/-- Read a rule from any format. -/
def read? {α : Type} (format : Format α) (value : α) : Option RuleForm :=
  match format.fields? fieldNames value with
  | some [some code, some message, some scope, taints, harmless, onlyOnce, suppresses,
      some symptoms] => do
    return {
      code := ← format.text? code
      message := ← format.text? message
      scope := ← (format.datum? scope).bind ScopeForm.ofDatum?
      taints := ← optionalField? false format.flag? taints
      harmless := ← optionalField? false format.flag? harmless
      onlyOnce := ← optionalField? false format.flag? onlyOnce
      suppresses := ← optionalField? [] format.texts? suppresses
      symptoms := ← (← format.items? symptoms).mapM fun item =>
        (format.datum? item).bind SymptomForm.ofDatum? }
  | _ => none

end RuleForm

namespace RuleFile

/-- Read the equivalents from any format; of a repeated value the last entry counts. -/
def readEquivalents? {α : Type} (format : Format α) (value : α) :
    Option (SortedTable (List String)) :=
  (format.entries? value).bind fun entries =>
    (entries.mapM fun entry => (format.texts? entry.2).map fun others =>
      (entry.1, others)).map SortedTable.ofEntries

def fieldNames : List String := ["attr_equivalents", "classifiers"]

/-- Read a document from any format. -/
def read? {α : Type} (format : Format α) (value : α) : Option RuleFile :=
  match format.fields? fieldNames value with
  | some [equivalents, rules] => do
    return {
      equivalents := ← optionalField? [] (readEquivalents? format) equivalents
      rules := ← optionalField? []
        (fun rules => (format.items? rules).bind fun items =>
          items.mapM (RuleForm.read? format)) rules }
  | _ => none

def ofJson? (value : Json) : Option RuleFile :=
  read? Json.format value

def ofYaml? (text : String) : Option RuleFile :=
  (Yaml.Document.ofText? text).bind fun document =>
    read? Yaml.format (Yaml.Part.root document)

end RuleFile

end RunTriage
