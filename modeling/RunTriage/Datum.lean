import RunTriage.Json.Basic
import RunTriage.Outcome

/-!
Contract: values of data documents, whatever format they were written in.

Owns:
- the type of values, whose tables may have any keys;
- what a format has to offer so that records can be read from it;
- the fields of a record, written by name, by number or one after the other.

Does not own: the formats, which are in `RunTriage.Json` and `RunTriage.Yaml`.
-/

namespace RunTriage

/-- A value of a data document. -/
inductive Datum where
  | null
  | bool (value : Bool)
  | whole (value : Int)
  | float (value : Float)
  | text (value : String)
  | list (items : List Datum)
  | table (entries : List (Datum × Datum))
deriving Inhabited

/-- How to look at the parts of a document of type `α`. Each function is undefined
where the document has something else. -/
structure Format (α : Type) where
  /-- A text. A format may give the spelling of any scalar. -/
  text? : α → Option String
  flag? : α → Option Bool
  items? : α → Option (List α)
  entries? : α → Option (List (String × α))
  /-- The fields of a record written one after the other, where that is allowed. -/
  positional? : α → Option (List α)
  /-- The value of a part for itself. -/
  datum? : α → Option Datum

/-! ## Records -/

/-- The fields with given names: what stands under each name, if it is there. A name
may not be repeated, and other names do not matter. -/
def namedFields? {α : Type} (names : List String) (entries : List (String × α)) :
    Option (List (Option α)) :=
  names.mapM fun name =>
    match entries.filter fun entry => entry.1 = name with
    | [] => some none
    | [entry] => some (some entry.2)
    | _ => none

/-- The fields with given names, written in their order. The last ones may be left
out. -/
def orderedFields? {α : Type} (names : List String) (values : List α) :
    Option (List (Option α)) :=
  if values.length ≤ names.length then
    some (values.map some ++ List.replicate (names.length - values.length) none)
  else none

/-- The fields of a record. -/
def Format.fields? {α : Type} (format : Format α) (names : List String) (value : α) :
    Option (List (Option α)) :=
  match format.entries? value with
  | some entries => namedFields? names entries
  | none => (format.positional? value).bind (orderedFields? names)

/-- A field that may be left out. -/
def optionalField? {α β : Type} (absent : β) (read? : α → Option β) :
    Option α → Option β
  | none => some absent
  | some value => read? value

/-- The texts of a list. -/
def Format.texts? {α : Type} (format : Format α) (value : α) : Option (List String) :=
  (format.items? value).bind fun items => items.mapM format.text?

namespace Datum

def text? : Datum → Option String
  | .text value => some value
  | _ => none

def bool? : Datum → Option Bool
  | .bool value => some value
  | _ => none

def list? : Datum → Option (List Datum)
  | .list items => some items
  | _ => none

/-- A number, whole or not. -/
def number? : Datum → Option Float
  | .whole value => some (Float.ofInt value)
  | .float value => some value
  | _ => none

/-- A whole number that counts something. -/
def count? : Datum → Option Nat
  | .whole value => if 0 ≤ value then some value.toNat else none
  | _ => none

/-- Nothing, or something. -/
def option? {β : Type} (read? : Datum → Option β) : Datum → Option (Option β)
  | .null => some none
  | value => (read? value).map some

/-- Texts, of which one may stand for itself. -/
def texts? (value : Datum) : Option (List String) :=
  value.list?.bind fun items => items.mapM text?

/-- The choice among named things that a value stands for: a name or its number. -/
def choice? (names : List String) : Datum → Option String
  | .text name => some name
  | .whole number => if 0 ≤ number then some (names.getD number.toNat "") else none
  | _ => none

/-- A table whose keys choose among names. -/
def chosenEntries? (names : List String) (entries : List (Datum × Datum)) :
    Option (List (String × Datum)) :=
  entries.mapM fun entry => (choice? names entry.1).map fun name => (name, entry.2)

/-- The fields of a record. -/
def fields? (names : List String) : Datum → Option (List (Option Datum))
  | .table entries => (chosenEntries? names entries).bind (namedFields? names)
  | .list values => orderedFields? names values
  | _ => none

/-- A table with texts as keys. -/
def entries? : Datum → Option (List (String × Datum))
  | .table entries => entries.mapM fun entry => entry.1.text?.map fun key => (key, entry.2)
  | _ => none

mutual

/-- How deeply lists and tables are nested. -/
def depth : Datum → Nat
  | .list items => depthOfItems items + 1
  | .table entries => depthOfEntries entries + 1
  | _ => 0

def depthOfItems : List Datum → Nat
  | [] => 0
  | item :: rest => max item.depth (depthOfItems rest)

def depthOfEntries : List (Datum × Datum) → Nat
  | [] => 0
  | (key, value) :: rest => max (max key.depth value.depth) (depthOfEntries rest)

end

mutual

/-- The value of a JSON value. -/
def ofJson : Json → Datum
  | .null => .null
  | .bool value => .bool value
  | .whole value => .whole value
  | .float value => .float value
  | .string value => .text value
  | .array items => .list (ofItems items)
  | .object members => .table (ofMembers members)

def ofItems : List Json → List Datum
  | [] => []
  | item :: rest => ofJson item :: ofItems rest

def ofMembers : List (String × Json) → List (Datum × Datum)
  | [] => []
  | (name, value) :: rest => (.text name, ofJson value) :: ofMembers rest

end

end Datum

/-- How records are read from JSON. -/
def Json.format : Format Json where
  text?
    | .string value => some value
    | _ => none
  flag?
    | .bool value => some value
    | _ => none
  items?
    | .array items => some items
    | _ => none
  entries?
    | .object members => some members
    | _ => none
  positional?
    | .array items => some items
    | _ => none
  datum? value := some (Datum.ofJson value)

end RunTriage
