import RunTriage.Json.Basic
import RunTriage.RuleFile.Form

/-!
Contract: the stored form of rules that were written down.

Owns: the JSON value of each written form. Every field is there, with null for one
that has no value.

Does not own: JSON text, which is in `RunTriage.Json.Printer`.
-/

namespace RunTriage

def ValuesForm.toJson : ValuesForm → Json
  | .one value => .string value
  | .many values => .strings values

namespace FilterForm

def attributesJson (attributes : SortedTable ValuesForm) : Json :=
  .object (attributes.map fun entry => (entry.1, entry.2.toJson))

def toJson (form : FilterForm) : Json :=
  .object [("pattern", .string form.pattern), ("attrs", attributesJson form.attributes)]

end FilterForm

/-- A number, or nothing if it is not finite. -/
def finiteJson (value : Float) : Json :=
  if value.isFinite then .float value else .null

/-- The fields of a search in their order. -/
def SearchForm.fields (form : SearchForm) : List (String × Json) :=
  [("pattern", .string form.filter.pattern),
    ("section", .string form.path),
    ("attrs", FilterForm.attributesJson form.filter.attributes),
    ("after", .ofOption (form.anchor.map FilterForm.toJson)),
    ("max_time", .ofOption (form.seconds.map finiteJson)),
    ("max_count", .ofOption (form.most.map Json.count)),
    ("missing", .bool form.missing)]

mutual

def SymptomForm.toJson : SymptomForm → Json
  | .search form => .object ((SymptomForm.kindField, .string "message") :: form.fields)
  | .outcome outcomes =>
    .object [(SymptomForm.kindField, .string "status"),
      ("states", .strings (outcomes.map Outcome.keyword))]
  | .all parts =>
    .object [(SymptomForm.kindField, .string "all"),
      ("predicates", .array (SymptomForm.listToJson parts))]

def SymptomForm.listToJson : List SymptomForm → List Json
  | [] => []
  | part :: rest => part.toJson :: SymptomForm.listToJson rest

end

def TestKey.toJson (key : TestKey) : Json :=
  .object [("file", .string key.file), ("name", .string key.name)]

def ScopeForm.toJson : ScopeForm → Json
  | .word text => .string text
  | .keys tests => .array (tests.map TestKey.toJson)

def RuleForm.toJson (form : RuleForm) : Json :=
  .object
    [("code", .string form.code),
      ("message", .string form.message),
      ("tests", form.scope.toJson),
      ("taints", .bool form.taints),
      ("harmless", .bool form.harmless),
      ("only_once", .bool form.onlyOnce),
      ("suppresses", .strings form.suppresses),
      ("predicates", .array (SymptomForm.listToJson form.symptoms))]

def RuleFile.toJson (file : RuleFile) : Json :=
  .object
    [("attr_equivalents", .object (file.equivalents.map fun entry =>
        (entry.1, .strings entry.2))),
      ("classifiers", .array (file.rules.map RuleForm.toJson))]

end RunTriage
