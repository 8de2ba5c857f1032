import RunTriage.SortedTable

/-!
Contract: values of the JSON data format.

Owns:
- the type of values, with whole and floating-point numbers apart;
- the words for the kind of a value, as error texts name them;
- access to the members of an object.

Does not own: text, which is read in `RunTriage.Json.Reader` and written in
`RunTriage.Json.Printer`.
-/

namespace RunTriage

/-- A JSON value. In a value that was read, the members of an object stand in ascending
order of their names, each name once, and whole numbers lie between `-2^63` and
`2^64 - 1`. In a record that is to be written they stand in the order of its fields. -/
inductive Json where
  | null
  | bool (value : Bool)
  | whole (value : Int)
  | float (value : Float)
  | string (value : String)
  | array (items : List Json)
  | object (members : List (String × Json))
deriving Inhabited

namespace Json

/-- Name of the kind of a value. -/
def kind : Json → String
  | .null => "null"
  | .bool _ => "boolean"
  | .whole _ => "number"
  | .float _ => "number"
  | .string _ => "string"
  | .array _ => "array"
  | .object _ => "object"

/-- The member of an object under a name. -/
def member? (value : Json) (name : String) : Option Json :=
  match value with
  | .object members => SortedTable.find? members name
  | _ => none

/-- An object whose members are sorted here; of a repeated name the last counts. -/
def ofMembers (members : List (String × Json)) : Json :=
  .object (SortedTable.ofEntries members)

/-- A whole number that counts something. -/
def count (value : Nat) : Json := .whole value

/-- A text, or null for none. -/
def ofOption (value : Option Json) : Json := value.getD .null

def strings (values : List String) : Json :=
  .array (values.map .string)

end Json

end RunTriage
