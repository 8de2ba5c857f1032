import RunTriage.Yaml.Lexer

/-!
Contract: the structure of a YAML text.

Owns:
- nodes with their tags, and references to nodes that carry an anchor;
- the one document of a text, read from its tokens;
- the resolution of shorthand tags.

Does not own: what a node stands for, which is in `RunTriage.Yaml.Value`.
-/

namespace RunTriage.Yaml

/-- A node, with its tag if it has one. -/
inductive Node where
  | scalar (tag : Option String) (style : Style) (text : String)
  | sequence (tag : Option String) (items : List Node)
  | mapping (tag : Option String) (entries : List (Node × Node))
  /-- The node with an anchor of this number. -/
  | alias (anchor : Nat)
deriving Inhabited

/-- A node with an anchor. -/
structure Anchored where
  /-- The number of the anchor. -/
  anchor : Nat
  /-- Position of the node among the nodes with anchors. -/
  order : Nat
  node : Node
deriving Inhabited

/-- A document. A text without any node has no root. -/
structure Document where
  root : Option Node
  anchored : List Anchored
  /-- Number of tokens. -/
  size : Nat
deriving Inhabited

/-- The node that a reference stands for: of the nodes whose anchors have its
number, the one that starts last. -/
def Document.anchoredNode? (document : Document) (anchor : Nat) : Option Node :=
  ((document.anchored.filter (·.anchor = anchor)).foldl (fun latest anchored =>
    match latest with
    | some other => if other.order < anchored.order then some anchored else some other
    | none => some anchored) (none : Option Anchored)).map Anchored.node

namespace Node

/-! ## Reading tokens -/

/-- What is left of the tokens, and the names met so far. -/
structure State where
  tokens : List Token
  /-- Shorthands of tags. -/
  handles : List (String × String)
  /-- Names of anchors with their numbers, the latest first. -/
  names : List (String × Nat)
  anchored : List Anchored
  /-- Number of nodes with anchors that have started. -/
  started : Nat
deriving Inhabited

abbrev Reader := StateT State Option

/-- The next token, which stays where it is. -/
def peek : Reader (Option Token) := do
  return (← get).tokens.head?

/-- Move over a token. -/
def drop : Reader Unit :=
  modify fun state => { state with tokens := state.tokens.tail }

/-- The next token is one of several. Past the last token the answer is no. -/
def isNext (tokens : List Token) : Reader Bool := do
  return (← peek).any tokens.contains

/-- What is read where nothing is written. -/
def void : Node := .scalar none .plain ""

/-- The number of an anchor that starts here, and its position. Names are counted,
so a name that is used again gets the number that the next new name gets too. -/
def startAnchor (name : String) : Reader (Nat × Nat) := do
  let state ← get
  let anchor := state.names.length
  let names := (name, anchor) :: state.names.filter fun known => known.1 != name
  set { state with names := names, started := state.started + 1 }
  return (anchor, state.started)

/-- Keep the node of an anchor, if there is one. -/
def keepAnchor (started : Option (Nat × Nat)) (node : Node) : Reader Node := do
  match started with
  | none => return node
  | some (anchor, order) =>
    modify fun state => { state with anchored := ⟨anchor, order, node⟩ :: state.anchored }
    return node

/-- The tag for a handle and a suffix. -/
def resolveTag (handle suffix : String) : Reader String := do
  if handle.isEmpty then return suffix
  else
    match (← get).handles.lookup handle with
    | some start => return start ++ suffix
    | none => failure

/-- What stands in front of a node. -/
structure Properties where
  anchor : Option String
  tag : Option String

def Properties.isEmpty (properties : Properties) : Bool :=
  properties.anchor.isNone && properties.tag.isNone

/-- Read an anchor and a tag in either order. -/
def readProperties : Reader Properties := do
  match ← peek with
  | some (.anchor name) =>
    drop
    match ← peek with
    | some (.tag handle suffix) =>
      drop
      return ⟨some name, some (← resolveTag handle suffix)⟩
    | _ => return ⟨some name, none⟩
  | some (.tag handle suffix) =>
    drop
    let tag ← resolveTag handle suffix
    match ← peek with
    | some (.anchor name) =>
      drop
      return ⟨some name, some tag⟩
    | _ => return ⟨none, some tag⟩
  | _ => return ⟨none, none⟩

/-- The tag of a scalar: a lone exclamation mark is no tag. -/
def scalarTag (tag : Option String) : Option String :=
  if tag = some "!" then none else tag

/-- Where a node stands. -/
inductive Place where
  /-- In a flow collection. -/
  | flow
  /-- In a block sequence or at the root. -/
  | block
  /-- In a block mapping, where a sequence needs no indentation of its own. -/
  | mapping
deriving DecidableEq

mutual

/-- Read a node. -/
def readNode : Nat → Place → Reader Node
  | 0, _ => failure
  | steps + 1, place => do
    match ← peek with
    | some (.alias name) =>
      drop
      match (← get).names.lookup name with
      | some anchor => return .alias anchor
      | none => failure
    | _ =>
      let properties ← readProperties
      let started ← properties.anchor.mapM startAnchor
      let node ←
        match ← peek with
        | some (.scalar text style) =>
          drop
          pure (.scalar (scalarTag properties.tag) style text)
        | some .flowSequenceStart =>
          drop
          pure (.sequence properties.tag (← readFlowItems steps true))
        | some .flowMappingStart =>
          drop
          pure (.mapping properties.tag (← readFlowEntries steps true))
        | token =>
          if token = some .blockSequenceStart && place != .flow then
            drop
            pure (.sequence properties.tag (← readBlockItems steps))
          else if token = some .blockMappingStart && place != .flow then
            drop
            pure (.mapping properties.tag (← readBlockEntries steps))
          else if token = some .blockEntry && place = .mapping then
            pure (.sequence properties.tag (← readBareItems steps))
          else if !properties.isEmpty then
            pure (.scalar (scalarTag properties.tag) .plain "")
          else failure
      keepAnchor started node

/-- Read a node unless one of several tokens comes first. -/
def readNodeBefore : Nat → Place → List Token → Reader Node
  | 0, _, _ => failure
  | steps + 1, place, ends => do
    if ← isNext ends then return void
    else readNode steps place

/-- Read the items of a block sequence. -/
def readBlockItems : Nat → Reader (List Node)
  | 0 => failure
  | steps + 1 => do
    match ← peek with
    | some .blockEntry =>
      drop
      let item ← readNodeBefore steps .block [.blockEntry, .blockEnd]
      return item :: (← readBlockItems steps)
    | some .blockEnd =>
      drop
      return []
    | _ => failure

/-- Read the items of a sequence without an indentation of its own. -/
def readBareItems : Nat → Reader (List Node)
  | 0 => failure
  | steps + 1 => do
    match ← peek with
    | some .blockEntry =>
      drop
      let item ← readNodeBefore steps .block [.blockEntry, .key, .value, .blockEnd]
      return item :: (← readBareItems steps)
    | _ => return []

/-- Read the entries of a block mapping. -/
def readBlockEntries : Nat → Reader (List (Node × Node))
  | 0 => failure
  | steps + 1 => do
    match ← peek with
    | some .blockEnd =>
      drop
      return []
    | some .key =>
      drop
      let key ← readNodeBefore steps .mapping [.key, .value, .blockEnd]
      let value ← readBlockValue steps
      return (key, value) :: (← readBlockEntries steps)
    | _ => failure

/-- Read the value of an entry of a block mapping. -/
def readBlockValue : Nat → Reader Node
  | 0 => failure
  | steps + 1 => do
    if ← isNext [.value] then
      drop
      readNodeBefore steps .mapping [.key, .value, .blockEnd]
    else return void

/-- Read a comma between the items of a flow collection, unless the item is the
first. -/
def readSeparator : Nat → Bool → Reader Unit
  | _, true => pure ()
  | _, false => do
    if ← isNext [.flowEntry] then drop else failure

/-- Read the items of a flow sequence. -/
def readFlowItems : Nat → Bool → Reader (List Node)
  | 0, _ => failure
  | steps + 1, isFirst => do
    if ← isNext [.flowSequenceEnd] then
      drop
      return []
    else
      readSeparator steps isFirst
      if ← isNext [.flowSequenceEnd] then
        drop
        return []
      else
        let item ← readFlowItem steps
        return item :: (← readFlowItems steps false)

/-- Read an item of a flow sequence, which may be a single pair. A pair without a
key loses the token behind the mark of its key. -/
def readFlowItem : Nat → Reader Node
  | 0 => failure
  | steps + 1 => do
    if ← isNext [.key] then
      drop
      if ← isNext [.value, .flowEntry, .flowSequenceEnd] then
        drop
        let value ← readFlowValue steps [.flowEntry, .flowSequenceEnd]
        return .mapping none [(void, value)]
      else
        let key ← readNode steps .flow
        let value ← readFlowValue steps [.flowEntry, .flowSequenceEnd]
        return .mapping none [(key, value)]
    else readNode steps .flow

/-- Read the value of a pair in a flow collection. -/
def readFlowValue : Nat → List Token → Reader Node
  | 0, _ => failure
  | steps + 1, ends => do
    if ← isNext [.value] then
      drop
      readNodeBefore steps .flow ends
    else return void

/-- Read the entries of a flow mapping. -/
def readFlowEntries : Nat → Bool → Reader (List (Node × Node))
  | 0, _ => failure
  | steps + 1, isFirst => do
    if ← isNext [.flowMappingEnd] then
      drop
      return []
    else
      readSeparator steps isFirst
      if ← isNext [.flowMappingEnd] then
        drop
        return []
      else if ← isNext [.key] then
        drop
        let key ← readNodeBefore steps .flow [.value, .flowEntry, .flowMappingEnd]
        let value ← readFlowValue steps [.flowEntry, .flowMappingEnd]
        return (key, value) :: (← readFlowEntries steps false)
      else
        let key ← readNode steps .flow
        return (key, void) :: (← readFlowEntries steps false)

end

/-! ## Documents -/

/-- Versions of the format that can be read. -/
def isKnownVersion (major minor : Nat) : Bool :=
  major = 1 && (minor = 1 || minor = 2)

/-- Read the directives of a document. -/
def readDirectives (hasVersion : Bool) (handles : List (String × String)) :
    List Token → Option (List (String × String) × List Token)
  | .version major minor :: rest =>
    if hasVersion || !isKnownVersion major minor then none
    else readDirectives true handles rest
  | .tagShorthand handle start :: rest =>
    if (handles.lookup handle).isSome then none
    else readDirectives hasVersion (handles ++ [(handle, start)]) rest
  | rest => some (handles, rest)

/-- Shorthands that need no directive. -/
def defaultHandles : List (String × String) :=
  [("!", "!"), ("!!", "tag:yaml.org,2002:")]

/-- The document has directives or a mark at its start. -/
def isExplicit : List Token → Bool
  | .version _ _ :: _ => true
  | .tagShorthand _ _ :: _ => true
  | .documentStart :: _ => true
  | _ => false

/-- Marks at the end of a document may be repeated. -/
def isEnd (tokens : List Token) : Bool :=
  tokens.all (· = .documentEnd)

/-- Read the node of a document that fills the tokens. -/
def readRoot (handles : List (String × String)) (tokens : List Token) : Option Document := do
  let state : State := ⟨tokens, handles ++ defaultHandles, [], [], 0⟩
  let (root, state) ← (readNode (4 * tokens.length + 4) .block).run state
  if isEnd state.tokens then
    return ⟨some root, state.anchored, tokens.length⟩
  else none

end Node

/-- The one document of a sequence of tokens. -/
def Document.ofTokens? (tokens : List Token) : Option Document :=
  if tokens.isEmpty then some ⟨none, [], 0⟩
  else if Node.isExplicit tokens then
    match Node.readDirectives false [] tokens with
    | some (handles, .documentStart :: rest) =>
      if Node.isEnd rest then some ⟨some Node.void, [], 0⟩ else Node.readRoot handles rest
    | _ => none
  else Node.readRoot [] tokens

/-- The one document of a text. -/
def Document.ofText? (text : String) : Option Document :=
  (Token.ofText? text).bind Document.ofTokens?

end RunTriage.Yaml
