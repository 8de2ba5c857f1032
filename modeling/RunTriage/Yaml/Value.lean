import RunTriage.Datum
import RunTriage.Decimal.Reader
import RunTriage.Yaml.Node

/-!
Contract: what the nodes of a YAML document stand for.

Owns:
- the resolution of plain scalars to nothing, truth values and numbers;
- the value of a node, with the nodes that it refers to in their places;
- what a node gives where a text, a truth value, a number or a collection is
  expected.

Does not own: the structure of a document, which is in `RunTriage.Yaml.Node`.
-/

namespace RunTriage.Yaml

/-! ## Plain scalars -/

def isNullWord (text : String) : Bool :=
  ["~", "null", "Null", "NULL"].contains text

def boolOfWord? (text : String) : Option Bool :=
  if ["true", "True", "TRUE"].contains text then some true
  else if ["false", "False", "FALSE"].contains text then some false
  else none

/-- The value of digits in a base, of which there is one at least. -/
def digitsValue? (base : Nat) (digits : List Char) : Option Nat :=
  if digits.isEmpty then none
  else
    digits.foldl (fun value digit =>
      match value, hexDigit? digit with
      | some value, some digit => if digit < base then some (value * base + digit) else none
      | _, _ => none) (some 0)

/-- A sign in front of a text. -/
def splitSign : List Char → Option Char × List Char
  | '+' :: rest => (some '+', rest)
  | '-' :: rest => (some '-', rest)
  | text => (none, text)

/-- Digits behind a needless zero, which are not a number. -/
def isPaddedDigits (text : List Char) : Bool :=
  match (splitSign text).2 with
  | '0' :: digits => !digits.isEmpty && digits.all Char.isDigit
  | _ => false

/-- The magnitude of a whole number without a sign. -/
def magnitude? : List Char → Option Nat
  | '0' :: 'x' :: digits => digitsValue? 16 digits
  | '0' :: 'o' :: digits => digitsValue? 8 digits
  | '0' :: 'b' :: digits => digitsValue? 2 digits
  | digits => digitsValue? 10 digits

/-- The whole number that a text spells. -/
def wholeOfText? (text : List Char) : Option Int :=
  if isPaddedDigits text then none
  else
    match splitSign text with
    | (some '-', rest) => (magnitude? rest).map fun value => -(value : Int)
    | (_, rest) => (magnitude? rest).map fun value => (value : Int)

/-- A whole number that can be represented. -/
def isRepresentable (value : Int) : Bool :=
  -(Nat.pow 2 63 : Nat) ≤ value && value < (Nat.pow 2 64 : Nat)

/-- A whole number that is a number at all; one beyond it is read as a fraction. -/
def isRecognized (value : Int) : Bool :=
  -(Nat.pow 2 127 : Nat) ≤ value && value < (Nat.pow 2 128 : Nat)

/-- An exponent behind its letter, with at least one digit. -/
def exponent? (text : List Char) : Option Int :=
  match splitSign text with
  | (sign, digits) =>
    if digits.all Char.isDigit then
      (digitsValue? 10 digits).map fun value =>
        if sign = some '-' then -(value : Int) else (value : Int)
    else none

/-- The fraction that a text without a sign spells. -/
def fraction? (negative : Bool) (text : List Char) : Option Float :=
  let whole := text.takeWhile Char.isDigit
  let afterWhole := text.dropWhile Char.isDigit
  let (places, rest) :=
    match afterWhole with
    | '.' :: afterPoint => (afterPoint.takeWhile Char.isDigit, afterPoint.dropWhile Char.isDigit)
    | _ => ([], afterWhole)
  let exponent :=
    match rest with
    | [] => some 0
    | letter :: digits => if letter = 'e' || letter = 'E' then exponent? digits else none
  match digitsValue? 10 (whole ++ places), exponent with
  | some significand, some exponent =>
    some (Decimal.nearest negative significand (exponent - places.length))
  | _, _ => none

/-- The fraction, infinity or undefined number that a text spells. -/
def floatOfText? (text : List Char) : Option Float :=
  let word := String.ofList text
  let infinite := [".inf", ".Inf", ".INF"]
  let (sign, rest) := splitSign text
  if infinite.contains (String.ofList rest) then
    some (if sign = some '-' then -(1.0 / 0.0) else 1.0 / 0.0)
  else if [".nan", ".NaN", ".NAN"].contains word then some (0.0 / 0.0)
  else
    match fraction? (sign = some '-') rest with
    | some value => if value.isFinite then some value else none
    | none => none

/-- The value of a whole number, unless it is too large. -/
def wholeDatum? (value : Int) : Option Datum :=
  if isRepresentable value then some (.whole value) else none

/-- The value of a plain scalar without a tag. -/
def plainDatum? (text : String) : Option Datum :=
  if text.isEmpty || isNullWord text then some .null
  else
    match boolOfWord? text with
    | some value => some (.bool value)
    | none =>
      match (wholeOfText? text.toList).filter isRecognized with
      | some value => wholeDatum? value
      | none =>
        if isPaddedDigits text.toList then some (.text text)
        else
          match floatOfText? text.toList with
          | some value => some (.float value)
          | none => some (.text text)

/-! ## Tags -/

/-- The tag of a kind of scalars that every document knows. -/
def coreTag (kind : String) : String := "tag:yaml.org,2002:" ++ kind

/-- The tag belongs to the document alone. -/
def isLocal (tag : Option String) : Bool :=
  tag.any fun tag => tag.startsWith "!"

/-- The value of a scalar, undefined if it contradicts its tag. -/
def scalarDatum? (tag : Option String) (style : Style) (text : String) : Option Datum :=
  match tag with
  | none => if style = .plain then plainDatum? text else some (.text text)
  | some tag =>
    if tag = coreTag "bool" then (boolOfWord? text).map .bool
    else if tag = coreTag "int" then
      ((wholeOfText? text.toList).filter isRecognized).bind wholeDatum?
    else if tag = coreTag "float" then (floatOfText? text.toList).map .float
    else if tag = coreTag "null" then if isNullWord text then some .null else none
    else if tag.startsWith "!" then none
    else some (.text text)

/-! ## Nodes -/

/-- The greatest depth to which collections may be nested. -/
def depthLimit : Nat := 128

/-- How often references may be followed for each token of a document. -/
def followLimit : Nat := 100

/-- Follow a reference, as long as that is allowed. -/
def follow (document : Document) : Node → StateT Nat Option Node
  | .alias anchor => do
    match ← get with
    | 0 => failure
    | remaining + 1 =>
      set remaining
      match document.anchoredNode? anchor with
      | some node => return node
      | none => failure
  | node => return node

/-- The value of a node, for one more than the depth that is left. -/
def nodeDatum (document : Document) : Nat → Node → StateT Nat Option Datum
  | 0, _ => failure
  | depth + 1, node => do
    match ← follow document node with
    | .scalar tag style text =>
      match scalarDatum? tag style text with
      | some value => return value
      | none => failure
    | .sequence tag items =>
      if isLocal tag || depth = 0 then failure
      else return .list (← items.mapM (nodeDatum document depth))
    | .mapping tag entries =>
      if isLocal tag || depth = 0 then failure
      else
        return .table (← entries.mapM fun entry => do
          return (← nodeDatum document depth entry.1, ← nodeDatum document depth entry.2))
    | .alias _ => failure

/-- A node of a document, and the depth that is left below it. A document without
any node has a part without one. -/
structure Part where
  document : Document
  depth : Nat
  node : Option Node
deriving Inhabited

namespace Part

/-- The whole document. -/
def root (document : Document) : Part := ⟨document, depthLimit, document.root⟩

/-- The node of a part, with a reference followed. -/
def node? (part : Part) : Option Node :=
  match part.node with
  | some (.alias anchor) => part.document.anchoredNode? anchor
  | node => node

/-- The part has no content: there is no node, or an empty plain scalar. -/
def isVoid (part : Part) : Bool :=
  match part.node, part.node? with
  | none, _ => true
  | _, some (.scalar _ .plain text) => text.isEmpty
  | _, _ => false

/-- A part of a collection. -/
def child (part : Part) (node : Node) : Part :=
  { part with depth := part.depth - 1, node := some node }

/-- The spelling of a scalar, whatever it stands for. -/
def text? (part : Part) : Option String :=
  match part.node? with
  | some (.scalar _ _ text) => some text
  | _ => none

/-- The scalar may be read as a value of a kind: it is plain, or literal with the tag
of the kind. -/
def isOfKind (kind : String) (tag : Option String) (style : Style) : Bool :=
  style = .plain || (style = .literal && tag = some (coreTag kind))

def flag? (part : Part) : Option Bool :=
  match part.node? with
  | some (.scalar tag style text) =>
    if isOfKind "bool" tag style then boolOfWord? text else none
  | _ => none

/-- A whole number that counts something. -/
def count? (part : Part) : Option Nat :=
  match part.node? with
  | some (.scalar tag style text) =>
    if isOfKind "int" tag style then
      match wholeOfText? text.toList with
      | some value =>
        if text.startsWith "-" || !isRepresentable value then none else some value.toNat
      | none => none
    else none
  | _ => none

/-- Nothing, or the part itself. A tag on nothing has to agree. -/
def option? (part : Part) : Option (Option Part) :=
  match part.node, part.node? with
  | none, _ => some none
  | _, some (.scalar tag .plain text) =>
    match tag with
    | none => some (if text.isEmpty || isNullWord text then none else some part)
    | some tag =>
      if tag = coreTag "null" then if isNullWord text then some none else none
      else some (some part)
  | _, _ => some (some part)

def items? (part : Part) : Option (List Part) :=
  if part.isVoid then some []
  else
    match part.node? with
    | some (.sequence _ items) => if part.depth = 0 then none else some (items.map part.child)
    | _ => none

def entries? (part : Part) : Option (List (String × Part)) :=
  if part.isVoid then some []
  else
    match part.node? with
    | some (.mapping _ entries) =>
      if part.depth = 0 then none
      else
        entries.mapM fun entry =>
          (part.child entry.1).text?.map fun key => (key, part.child entry.2)
    | _ => none

def datum? (part : Part) : Option Datum :=
  match part.node with
  | none => none
  | some node =>
    ((nodeDatum part.document (part.depth + 1) node).run
      (followLimit * part.document.size)).map Prod.fst

end Part

/-- How records are read from YAML. -/
def format : Format Part where
  text? := Part.text?
  flag? := Part.flag?
  items? := Part.items?
  entries? := Part.entries?
  positional? _ := none
  datum? := Part.datum?

end RunTriage.Yaml
