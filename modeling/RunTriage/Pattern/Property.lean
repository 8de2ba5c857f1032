import RunTriage.Pattern.CharSet
import RunTriage.Pattern.Tables.Age
import RunTriage.Pattern.Tables.Break
import RunTriage.Pattern.Tables.Category
import RunTriage.Pattern.Tables.Property
import RunTriage.Pattern.Tables.Script

/-!
Contract: sets of characters named by a Unicode property.

Owns:
- matching of loose property names;
- look-up by a single name: a binary property, a general category or a script;
- look-up by a property and its value.

Does not own: the data, which are in `RunTriage.Pattern.Tables` and know the characters
up to version 15.0 of Unicode.
-/

namespace RunTriage.Pattern.Property

/-- The characters of a name that count when names are compared. -/
def significantChars (chars : List Char) : List Char :=
  (chars.filter fun char => char ≠ ' ' && char ≠ '_' && char ≠ '-' && char.toNat < 128).map
    Char.toLower

/-- Names are compared without regard to case, blanks, hyphens, underscores and a
leading `is`, except that `isc` stays apart from `c`. -/
def normalize (name : String) : String :=
  let chars := name.toList
  if (chars.take 2).map Char.toLower = ['i', 's'] then
    let rest := significantChars (chars.drop 2)
    if rest = ['c'] then "isc" else String.ofList rest
  else
    String.ofList (significantChars chars)

/-- The lines of a table under a name. -/
def lines? (table : List (List String × List String)) (name : String) : Option (List String) :=
  (table.find? fun entry => entry.1.contains name).map Prod.snd

/-- Every character that has a category. -/
def assigned : CharSet :=
  .ofTable (Tables.categories.flatMap Prod.snd)

/-- The set of one category, or of the characters without any. -/
def singleCategory (name : String) : CharSet :=
  if name = "cn" then assigned.complement
  else .ofTable ((lines? Tables.categories name).getD [])

/-- The set of a category or of a group of categories. -/
def category? (name : String) : Option CharSet :=
  if name = "any" then some .all
  else if name = "assigned" then some assigned
  else if name = "ascii" then some (.ofRanges [(0, 127)])
  else if name = "cn" || name = "unassigned" then some assigned.complement
  else
    match lines? Tables.categories name with
    | some lines => some (.ofTable lines)
    | none =>
      (lines? Tables.categoryGroups name).map fun members =>
        .ofRanges (members.flatMap fun member => (singleCategory member).ranges)

def script? (name : String) : Option CharSet :=
  (lines? Tables.scripts name).map CharSet.ofTable

def binary? (name : String) : Option CharSet :=
  (lines? Tables.properties name).map CharSet.ofTable

/-- Three names stand for a category although they abbreviate a property too. -/
def namesCategory (name : String) : Bool :=
  name = "cf" || name = "sc" || name = "lc"

/-- The set under a single name. -/
def named? (name : String) : Option CharSet :=
  let name := normalize name
  let property := if namesCategory name then none else binary? name
  property.or ((category? name).or (script? name))

/-- The set of the characters that are used in a script. -/
def extendedScript? (name : String) : Option CharSet :=
  ((lines? Tables.scriptExtensions name).map CharSet.ofTable).or (script? name)

/-- The set of the characters that a version has, which keeps those of the versions before. -/
def age? (version : String) : Option CharSet :=
  (Tables.ages.findIdx? fun entry => entry.1.contains version).map fun last =>
    .ofTable ((Tables.ages.take (last + 1)).flatMap Prod.snd)

/-- The set of the characters of a kind. -/
def break? (kinds : List (List String × List String)) (name : String) : Option CharSet :=
  (lines? kinds name).map CharSet.ofTable

/-- The set of the characters whose property has a value. -/
def valued? (property value : String) : Option CharSet :=
  let value := normalize value
  match normalize property with
  | "gc" | "generalcategory" => category? value
  | "sc" | "script" => script? value
  | "scx" | "scriptextensions" => extendedScript? value
  | "age" => age? value
  | "gcb" | "graphemeclusterbreak" => break? Tables.graphemeBreaks value
  | "wb" | "wordbreak" => break? Tables.wordBreaks value
  | "sb" | "sentencebreak" => break? Tables.sentenceBreaks value
  | _ => none

/-- Letters and characters used like letters. -/
def alphabetic : CharSet := (binary? "alpha").getD .empty

/-- Numbers of every kind. -/
def numeric : CharSet := (category? "n").getD .empty

end RunTriage.Pattern.Property
