/-!
Contract: positions in a YAML text.

Owns:
- the characters a text may hold, and the classes of blanks and line breaks;
- the cursor, which knows its line and column, and its movements.

Does not own: tokens, which are in `RunTriage.Yaml.Lexer`.
-/

namespace RunTriage.Yaml

/-! ## Characters -/

/-- The character may stand in a text. -/
def isAllowed (char : Char) : Bool :=
  let code := char.toNat
  code = 0x09 || code = 0x0A || code = 0x0D || (0x20 ≤ code && code ≤ 0x7E) || code = 0x85 ||
    (0xA0 ≤ code && code ≤ 0xD7FF) || (0xE000 ≤ code && code ≤ 0xFFFD) || 0x10000 ≤ code

/-- A character that ends a line. -/
def isBreak (char : Char) : Bool :=
  char = '\n' || char = '\r' || char = '\u0085' || char = '\u2028' || char = '\u2029'

def isSpaceOrTab (char : Char) : Bool :=
  char = ' ' || char = '\t'

def isBlankOrBreak (char : Char) : Bool :=
  isSpaceOrTab char || isBreak char

/-- The text is at its end, at a blank or at a line break. -/
def startsBlank : List Char → Bool
  | [] => true
  | char :: _ => isBlankOrBreak char

/-- The text is at its end or at a line break. -/
def startsBreak : List Char → Bool
  | [] => true
  | char :: _ => isBreak char

/-- A character of names: of anchors, handles and directives. -/
def isNameChar (char : Char) : Bool :=
  char.isAlphanum || char = '_' || char = '-'

/-! ## Cursors -/

/-- What is left of a text, and where in the text that is. -/
structure Cursor where
  rest : List Char
  line : Nat
  column : Nat
  /-- Number of characters before. -/
  index : Nat
deriving Repr, Inhabited

namespace Cursor

/-- The start of a text, behind its byte order mark. -/
def start (text : List Char) : Cursor :=
  match text with
  | '\uFEFF' :: rest => ⟨rest, 0, 1, 1⟩
  | _ => ⟨text, 0, 0, 0⟩

/-- Move over characters of the same line. -/
def skip (cursor : Cursor) (count : Nat) : Cursor :=
  { cursor with
    rest := cursor.rest.drop count
    column := cursor.column + count
    index := cursor.index + count }

/-- Move over the characters of the same line that satisfy a condition. -/
def skipWhile (cursor : Cursor) (condition : Char → Bool) : Cursor :=
  cursor.skip (cursor.rest.takeWhile condition).length

/-- Move over a line break. -/
def skipBreak (cursor : Cursor) : Cursor :=
  match cursor.rest with
  | '\r' :: '\n' :: rest => ⟨rest, cursor.line + 1, 0, cursor.index + 2⟩
  | _ :: rest => ⟨rest, cursor.line + 1, 0, cursor.index + 1⟩
  | [] => cursor

/-- The line break that a scalar holds in place of the one at the cursor. -/
def breakText (cursor : Cursor) : List Char :=
  match cursor.rest with
  | [] => []
  | char :: _ => if char = '\u2028' || char = '\u2029' then [char] else ['\n']

/-- The cursor is at the start of a line that begins or ends a document. -/
def atDocumentMark (cursor : Cursor) : Bool :=
  cursor.column = 0 &&
    match cursor.rest with
    | '-' :: '-' :: '-' :: rest => startsBlank rest
    | '.' :: '.' :: '.' :: rest => startsBlank rest
    | _ => false

/-- Move behind a comment, if there is one. -/
def skipComment (cursor : Cursor) : Cursor :=
  match cursor.rest with
  | '#' :: _ => cursor.skipWhile fun char => !isBreak char
  | _ => cursor

/-- Move over blanks and a comment to the end of a line, and over the end. Nothing
else may stand there. -/
def skipRestOfLine? (cursor : Cursor) : Option Cursor :=
  let ending := (cursor.skipWhile isSpaceOrTab).skipComment
  if startsBreak ending.rest then some ending.skipBreak else none

end Cursor

end RunTriage.Yaml
