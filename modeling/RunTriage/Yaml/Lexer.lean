import RunTriage.Yaml.Token

/-!
Contract: from a YAML text to its tokens.

A colon makes what stands before it a key, so marks are put in front of tokens
that were read earlier. A key takes one line and at most 1024 characters.

Owns:
- the state of reading: indentation, depth of flow collections, possible keys;
- which token comes next, and the marks of indentation around it;
- `Token.ofText?`.

Does not own: the structure of the tokens, which is in `RunTriage.Yaml.Node`.
-/

namespace RunTriage.Yaml

/-- A place where a key may have started. -/
structure PossibleKey where
  /-- Number of tokens before it. -/
  token : Nat
  line : Nat
  column : Nat
  index : Nat
  /-- Nothing but a key may stand there. -/
  required : Bool
deriving Repr, Inhabited

/-- The greatest length of a key. -/
def keyLimit : Nat := 1024

structure Lexer where
  cursor : Cursor
  tokens : Array Token
  /-- Depth of flow collections. -/
  depth : Nat
  /-- Column of the innermost block collection, -1 outside of all. -/
  indent : Int
  outer : List Int
  /-- A key may start at the cursor. -/
  keyAllowed : Bool
  /-- The possible key on each level of flow collections, from the innermost. -/
  keys : List (Option PossibleKey)
deriving Inhabited

namespace Lexer

def start (text : List Char) : Lexer :=
  { cursor := .start text, tokens := #[], depth := 0, indent := -1, outer := []
    keyAllowed := true, keys := [none] }

def inFlow (lexer : Lexer) : Bool := 0 < lexer.depth

def push (lexer : Lexer) (token : Token) : Lexer :=
  { lexer with tokens := lexer.tokens.push token }

def insert (lexer : Lexer) (position : Nat) (token : Token) : Lexer :=
  { lexer with tokens := lexer.tokens.insertIdxIfInBounds position token }

/-! ## Possible keys -/

/-- The key has been left behind: it ends on another line or is too long. -/
def isStale (lexer : Lexer) (key : PossibleKey) : Bool :=
  key.line < lexer.cursor.line || key.index + keyLimit < lexer.cursor.index

/-- Forget the keys left behind. None of them may be required. -/
def dropStale (lexer : Lexer) : Option Lexer :=
  if lexer.keys.any (·.any fun key => lexer.isStale key && key.required) then none
  else some { lexer with keys := lexer.keys.map (·.filter fun key => !lexer.isStale key) }

/-- Forget the innermost possible key, which may not be required. -/
def dropKey (lexer : Lexer) : Option Lexer :=
  match lexer.keys with
  | some key :: outer =>
    if key.required then none else some { lexer with keys := none :: outer }
  | _ => some lexer

/-- Remember that a key may start at the cursor. -/
def markKey (lexer : Lexer) : Option Lexer :=
  if !lexer.keyAllowed then some lexer
  else do
    let lexer ← lexer.dropKey
    let key : PossibleKey :=
      { token := lexer.tokens.size
        line := lexer.cursor.line
        column := lexer.cursor.column
        index := lexer.cursor.index
        required := !lexer.inFlow && lexer.indent = (lexer.cursor.column : Int) }
    return { lexer with keys := some key :: lexer.keys.drop 1 }

/-! ## Indentation -/

/-- Begin a block collection at a column, unless one goes on there. -/
def indentTo (lexer : Lexer) (column : Nat) (position : Nat) (token : Token) : Lexer :=
  if lexer.inFlow || (column : Int) ≤ lexer.indent then lexer
  else
    { lexer.insert position token with
      indent := column
      outer := lexer.indent :: lexer.outer }

/-- End the block collections to the right of a column. -/
def unindent (column : Int) : List Int → Lexer → Lexer
  | [], lexer => lexer
  | outer :: rest, lexer =>
    if lexer.inFlow || lexer.indent ≤ column then lexer
    else unindent column rest { lexer.push .blockEnd with indent := outer, outer := rest }

def unindentTo (lexer : Lexer) (column : Int) : Lexer :=
  unindent column lexer.outer lexer

/-! ## Tokens -/

/-- Move to the next token. Tabs separate tokens only where no key may start. -/
def skipSpace : Nat → Lexer → Lexer
  | 0, lexer => lexer
  | steps + 1, lexer =>
    let isSpace (char : Char) : Bool :=
      char = ' ' || ((lexer.inFlow || !lexer.keyAllowed) && char = '\t')
    let cursor := (lexer.cursor.skipWhile isSpace).skipComment
    match cursor.rest with
    | [] => { lexer with cursor := cursor }
    | char :: _ =>
      if isBreak char then
        skipSpace steps
          { lexer with
            cursor := cursor.skipBreak
            keyAllowed := lexer.keyAllowed || !lexer.inFlow }
      else { lexer with cursor := cursor }

/-- A token of characters without a content, after which a key may start or not. -/
def mark (lexer : Lexer) (token : Token) (width : Nat) (keyAllowed : Bool) : Lexer :=
  { lexer.push token with cursor := lexer.cursor.skip width, keyAllowed := keyAllowed }

/-- A mark at which every block collection ends. -/
def readDocumentMark (lexer : Lexer) (token : Token) : Option Lexer := do
  return (← (lexer.unindentTo (-1)).dropKey).mark token 3 false

def readDirectiveLine (lexer : Lexer) : Option Lexer := do
  let lexer ← (lexer.unindentTo (-1)).dropKey
  let (token, cursor) ← readDirective (lexer.cursor.skip 1)
  return { lexer.push token with cursor := cursor, keyAllowed := false }

def openFlow (lexer : Lexer) (token : Token) : Option Lexer := do
  let lexer := (← lexer.markKey).mark token 1 true
  return { lexer with depth := lexer.depth + 1, keys := none :: lexer.keys }

def closeFlow (lexer : Lexer) (token : Token) : Option Lexer := do
  let lexer := (← lexer.dropKey).mark token 1 false
  if lexer.inFlow then
    return { lexer with depth := lexer.depth - 1, keys := lexer.keys.drop 1 }
  else
    return lexer

def readFlowEntry (lexer : Lexer) : Option Lexer := do
  return (← lexer.dropKey).mark .flowEntry 1 true

/-- Begin a block collection at the cursor, which needs a place where keys may start. -/
def beginBlock (lexer : Lexer) (token : Token) : Option Lexer :=
  if lexer.inFlow then some lexer
  else if lexer.keyAllowed then
    some (lexer.indentTo lexer.cursor.column lexer.tokens.size token)
  else none

def readBlockEntry (lexer : Lexer) : Option Lexer := do
  return (← (← lexer.beginBlock .blockSequenceStart).dropKey).mark .blockEntry 1 true

def readKey (lexer : Lexer) : Option Lexer := do
  let lexer ← (← lexer.beginBlock .blockMappingStart).dropKey
  return lexer.mark .key 1 (!lexer.inFlow)

/-- A colon: what started at the possible key is a key. -/
def readValue (lexer : Lexer) : Option Lexer :=
  match lexer.keys with
  | some key :: outer =>
    let lexer := (lexer.insert key.token .key).indentTo key.column key.token .blockMappingStart
    some ({ lexer with keys := none :: outer }.mark .value 1 false)
  | _ => do
    let lexer ← lexer.beginBlock .blockMappingStart
    return lexer.mark .value 1 (!lexer.inFlow)

/-- A token with a content. -/
def content (lexer : Lexer) (token : Token) (cursor : Cursor) : Lexer :=
  { lexer.push token with cursor := cursor, keyAllowed := false }

def readAnchorToken (lexer : Lexer) (token : String → Token) : Option Lexer := do
  let lexer ← lexer.markKey
  let (name, cursor) ← readAnchor (lexer.cursor.skip 1)
  return lexer.content (token name) cursor

def readTagToken (lexer : Lexer) : Option Lexer := do
  let lexer ← lexer.markKey
  let (token, cursor) ← readTag lexer.inFlow lexer.cursor
  return lexer.content token cursor

def readBlockScalar (lexer : Lexer) (style : Style) : Option Lexer := do
  let lexer ← lexer.dropKey
  let (text, cursor) ← readBlock (style = .folded) lexer.indent (lexer.cursor.skip 1)
  return { lexer.content (.scalar (String.ofList text) style) cursor with keyAllowed := true }

def readQuotedScalar (lexer : Lexer) (style : Style) : Option Lexer := do
  let lexer ← lexer.markKey
  let opened := lexer.cursor.skip 1
  let (text, cursor) ← readQuoted (style = .singleQuoted) (opened.rest.length + 1) [] opened
  return lexer.content (.scalar (String.ofList text) style) cursor

def readPlainScalar (lexer : Lexer) : Option Lexer := do
  let lexer ← lexer.markKey
  let steps := lexer.cursor.rest.length + 1
  let (text, lineEnded, cursor) ←
    readPlain lexer.inFlow (lexer.indent + 1).toNat steps [] .empty lexer.cursor
  return { lexer.content (.scalar (String.ofList text) .plain) cursor with
    keyAllowed := lineEnded }

/-- A character that cannot start a plain scalar. -/
def isIndicator (char : Char) : Bool :=
  ['-', '?', ':', ',', '[', ']', '{', '}', '#', '&', '*', '!', '|', '>', '\'', '"', '%', '@',
    '\x60'].contains char

/-- A plain scalar starts here. -/
def startsPlain (lexer : Lexer) (char : Char) (rest : List Char) : Bool :=
  !(isBlankOrBreak char || isIndicator char) ||
    (char = '-' && !rest.head?.any isSpaceOrTab) ||
    (!lexer.inFlow && (char = '?' || char = ':') && !startsBlank rest)

/-- Read the token at the cursor, which starts with a character before a rest. -/
def readToken (lexer : Lexer) (char : Char) (rest : List Char) : Option Lexer :=
  if lexer.cursor.column = 0 && char = '%' then lexer.readDirectiveLine
  else if lexer.cursor.atDocumentMark then
    lexer.readDocumentMark (if char = '-' then .documentStart else .documentEnd)
  else if char = '[' then lexer.openFlow .flowSequenceStart
  else if char = '{' then lexer.openFlow .flowMappingStart
  else if char = ']' then lexer.closeFlow .flowSequenceEnd
  else if char = '}' then lexer.closeFlow .flowMappingEnd
  else if char = ',' then lexer.readFlowEntry
  else if char = '-' && startsBlank rest then lexer.readBlockEntry
  else if char = '?' && (lexer.inFlow || startsBlank rest) then lexer.readKey
  else if char = ':' && (lexer.inFlow || startsBlank rest) then lexer.readValue
  else if char = '*' then lexer.readAnchorToken .alias
  else if char = '&' then lexer.readAnchorToken .anchor
  else if char = '!' then lexer.readTagToken
  else if char = '|' && !lexer.inFlow then lexer.readBlockScalar .literal
  else if char = '>' && !lexer.inFlow then lexer.readBlockScalar .folded
  else if char = '\'' then lexer.readQuotedScalar .singleQuoted
  else if char = '"' then lexer.readQuotedScalar .doubleQuoted
  else if lexer.startsPlain char rest then lexer.readPlainScalar
  else none

/-- The tokens of a text that has come to its end. -/
def finish (lexer : Lexer) : Option (List Token) := do
  return (← (lexer.unindentTo (-1)).dropKey).tokens.toList

/-- Read tokens to the end of the text. Each takes a character at least. -/
def run : Nat → Lexer → Option (List Token)
  | 0, _ => none
  | steps + 1, lexer => do
    let lexer ← (lexer.skipSpace (lexer.cursor.rest.length + 1)).dropStale
    let lexer := lexer.unindentTo lexer.cursor.column
    match lexer.cursor.rest with
    | [] => lexer.finish
    | char :: rest => run steps (← lexer.readToken char rest)

end Lexer

/-- The tokens of a text. -/
def Token.ofText? (text : String) : Option (List Token) :=
  let chars := text.toList
  if chars.all isAllowed then (Lexer.start chars).run (chars.length + 1) else none

end RunTriage.Yaml
