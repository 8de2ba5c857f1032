import RunTriage.Yaml.Scalar

/-!
Contract: the tokens of a YAML text, and how one of them is read.

Owns:
- the tokens, among them the marks of indentation, which stand for no character;
- names, tags and directives.

Does not own: which token comes next, which is in `RunTriage.Yaml.Lexer`.
-/

namespace RunTriage.Yaml

/-- How a scalar is written. -/
inductive Style where
  | plain
  | singleQuoted
  | doubleQuoted
  | literal
  | folded
deriving DecidableEq, Repr, Inhabited

inductive Token where
  | version (major minor : Nat)
  | tagShorthand (handle start : String)
  | documentStart
  | documentEnd
  | blockSequenceStart
  | blockMappingStart
  | blockEnd
  | flowSequenceStart
  | flowSequenceEnd
  | flowMappingStart
  | flowMappingEnd
  | blockEntry
  | flowEntry
  | key
  | value
  | alias (name : String)
  | anchor (name : String)
  | tag (handle suffix : String)
  | scalar (text : String) (style : Style)
deriving DecidableEq, Repr, Inhabited

/-! ## Anchors -/

/-- A character that may follow the name of an anchor, besides blanks. -/
def endsAnchor (char : Char) : Bool :=
  ['?', ':', ',', ']', '}', '%', '@', '\x60'].contains char

/-- Read the name of an anchor behind its indicator. -/
def readAnchor (cursor : Cursor) : Option (String × Cursor) :=
  let name := cursor.rest.takeWhile isNameChar
  let cursor := cursor.skip name.length
  if name.isEmpty then none
  else if cursor.rest.head?.all fun char => isBlankOrBreak char || endsAnchor char then
    some (String.ofList name, cursor)
  else none

/-! ## Tags -/

/-- Read a handle of tags: an exclamation mark, and perhaps a name and a second
mark. In a directive only a lone mark may do without the second one. -/
def readHandle (inDirective : Bool) (cursor : Cursor) : Option (List Char × Cursor) :=
  match cursor.rest with
  | '!' :: rest =>
    let name := rest.takeWhile isNameChar
    let cursor := cursor.skip (name.length + 1)
    if cursor.rest.head? = some '!' then some ('!' :: name ++ ['!'], cursor.skip 1)
    else if inDirective && !name.isEmpty then none
    else some ('!' :: name, cursor)
  | _ => none

/-- A character of tags. -/
def isTagChar (char : Char) : Bool :=
  isNameChar char || ";/?:@&=+$.%!~*\x27()".toList.contains char

/-- A character of tags where flow indicators cannot end them. -/
def isUriChar (char : Char) : Bool :=
  isTagChar char || char = ',' || char = '[' || char = ']'

/-- The code of an escaped octet. -/
def readOctet : List Char → Option Nat
  | '%' :: high :: low :: _ => hexValue? [high, low]
  | _ => none

/-- The number of octets of a character, from its first octet. -/
def octetCount? (first : Nat) : Option Nat :=
  if first < 0x80 then some 1
  else if first / 0x20 = 6 then some 2
  else if first / 0x10 = 14 then some 3
  else if first / 0x08 = 30 then some 4
  else none

/-- Read further octets of a character. -/
def readOctets : Nat → Nat → List Char → Option Nat
  | 0, code, _ => some code
  | count + 1, code, text => do
    let octet ← readOctet text
    if octet / 0x40 = 2 then readOctets count (code * 0x40 + octet % 0x40) (text.drop 3)
    else none

/-- Read a character written as escaped octets. The results are the character and
how many octets it takes. -/
def readEscapedChar (text : List Char) : Option (Char × Nat) := do
  let first ← readOctet text
  let count ← octetCount? first
  let leading := if count = 1 then first else first % Nat.pow 2 (7 - count)
  let code ← readOctets (count - 1) leading (text.drop 3)
  return (← charOfCode? code, count)

/-- Read the characters of a tag. -/
def readTagChars (belongs : Char → Bool) :
    Nat → List Char → Cursor → Option (List Char × Cursor)
  | 0, text, cursor => some (text, cursor)
  | steps + 1, text, cursor =>
    match cursor.rest with
    | [] => some (text, cursor)
    | char :: _ =>
      if !belongs char then some (text, cursor)
      else if char != '%' then readTagChars belongs steps (text ++ [char]) (cursor.skip 1)
      else
        match readEscapedChar cursor.rest with
        | none => none
        | some (escaped, octets) =>
          readTagChars belongs steps (text ++ [escaped]) (cursor.skip (3 * octets))

/-- Read a tag. -/
def readTag (inFlow : Bool) (cursor : Cursor) : Option (Token × Cursor) := do
  let (token, cursor) ←
    if (cursor.rest.drop 1).head? = some '<' then
      let cursor := cursor.skip 2
      let (text, cursor) ← readTagChars isUriChar cursor.rest.length [] cursor
      if text.isEmpty || cursor.rest.head? != some '>' then none
      else pure (Token.tag "" (String.ofList text), cursor.skip 1)
    else
      let (handle, cursor) ← readHandle false cursor
      let (text, cursor) ← readTagChars isTagChar cursor.rest.length [] cursor
      if 1 < handle.length && handle.getLast? = some '!' then
        if text.isEmpty then none
        else pure (Token.tag (String.ofList handle) (String.ofList text), cursor)
      else
        let suffix := handle.drop 1 ++ text
        if suffix.isEmpty then pure (Token.tag "" "!", cursor)
        else pure (Token.tag "!" (String.ofList suffix), cursor)
  if startsBlank cursor.rest || (inFlow && cursor.rest.head? = some ',') then
    return (token, cursor)
  else none

/-! ## Directives -/

/-- Read a number of a version, of at most nine digits. -/
def readVersionNumber (cursor : Cursor) : Option (Nat × Cursor) :=
  let digits := cursor.rest.takeWhile Char.isDigit
  if digits.isEmpty || 9 < digits.length then none
  else
    some (digits.foldl (fun value digit => value * 10 + (digit.toNat - 48)) 0,
      cursor.skip digits.length)

def readVersion (cursor : Cursor) : Option (Token × Cursor) := do
  let (major, cursor) ← readVersionNumber (cursor.skipWhile isSpaceOrTab)
  if cursor.rest.head? != some '.' then none
  let (minor, cursor) ← readVersionNumber (cursor.skip 1)
  return (.version major minor, cursor)

def readTagShorthand (cursor : Cursor) : Option (Token × Cursor) := do
  let (handle, cursor) ← readHandle true (cursor.skipWhile isSpaceOrTab)
  if !cursor.rest.head?.any isSpaceOrTab then none
  let cursor := cursor.skipWhile isSpaceOrTab
  let (start, cursor) ← readTagChars isUriChar cursor.rest.length [] cursor
  if start.isEmpty || !startsBlank cursor.rest then none
  return (.tagShorthand (String.ofList handle) (String.ofList start), cursor)

/-- Read a directive behind its percent sign, to the end of its line. -/
def readDirective (cursor : Cursor) : Option (Token × Cursor) := do
  let name := cursor.rest.takeWhile isNameChar
  let cursor := cursor.skip name.length
  if !startsBlank cursor.rest then none
  let (token, cursor) ←
    if name = "YAML".toList then readVersion cursor
    else if name = "TAG".toList then readTagShorthand cursor
    else none
  return (token, ← cursor.skipRestOfLine?)

end RunTriage.Yaml
