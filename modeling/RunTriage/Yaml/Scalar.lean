import RunTriage.Yaml.Cursor

/-!
Contract: the text of a YAML scalar in each of its styles.

Owns:
- plain, quoted and block scalars, from the cursor at their start to the cursor
  behind them;
- folding: a single line break is a space, and of several the first is dropped;
- the escapes of double quotes.

Does not own: what the text stands for, which is in `RunTriage.Yaml.Value`.
-/

namespace RunTriage.Yaml

/-! ## Gaps between words -/

/-- Blanks and line breaks between two words of a scalar. -/
structure Gap where
  blanks : List Char
  /-- The first line break and those after it. -/
  breaks : Option (List Char × List Char)
deriving Repr, Inhabited

namespace Gap

def empty : Gap := ⟨[], none⟩

def hasBreak (gap : Gap) : Bool := gap.breaks.isSome

/-- What a gap leaves in the text. -/
def folded (gap : Gap) : List Char :=
  match gap.breaks with
  | none => gap.blanks
  | some (['\n'], later) => if later.isEmpty then [' '] else later
  | some (first, later) => first ++ later

/-- The gap with one more line break. -/
def addBreak (gap : Gap) (text : List Char) : Gap :=
  match gap.breaks with
  | none => ⟨[], some (text, [])⟩
  | some (first, later) => ⟨gap.blanks, some (first, later ++ text)⟩

/-- The gap with one more blank, which counts only before the first break. -/
def addBlank (gap : Gap) (blank : Char) : Gap :=
  if gap.hasBreak then gap else { gap with blanks := gap.blanks ++ [blank] }

end Gap

/-- Read a gap. In a later line no tab may stand left of the column `least`. -/
def readGap (least : Nat) : Nat → Gap → Cursor → Option (Gap × Cursor)
  | 0, gap, cursor => some (gap, cursor)
  | steps + 1, gap, cursor =>
    match cursor.rest with
    | [] => some (gap, cursor)
    | char :: _ =>
      if isSpaceOrTab char then
        if gap.hasBreak && cursor.column < least && char = '\t' then none
        else readGap least steps (gap.addBlank char) (cursor.skip 1)
      else if isBreak char then
        readGap least steps (gap.addBreak cursor.breakText) cursor.skipBreak
      else some (gap, cursor)

/-! ## Plain scalars -/

/-- A character with a meaning of its own inside flow collections. -/
def isFlowIndicator (char : Char) : Bool :=
  char = ',' || char = '[' || char = ']' || char = '{' || char = '}'

/-- The colon at the start of a text, followed by this, is an error in a flow
collection. -/
def strayColon : List Char → Bool
  | [] => false
  | next :: _ => isFlowIndicator next || next = '?'

/-- The word at the start of a text. -/
def plainWord (inFlow : Bool) : List Char → Option (List Char)
  | [] => some []
  | char :: rest =>
    if isBlankOrBreak char then some []
    else if inFlow && char = ':' && strayColon rest then none
    else if (char = ':' && startsBlank rest) || (inFlow && isFlowIndicator char) then some []
    else (plainWord inFlow rest).map (char :: ·)

/-- Read the words of a plain scalar. The result tells whether a line was ended
behind the last word. -/
def readPlain (inFlow : Bool) (least : Nat) :
    Nat → List Char → Gap → Cursor → Option (List Char × Bool × Cursor)
  | 0, _, _, _ => none
  | steps + 1, text, gap, cursor =>
    if cursor.atDocumentMark || cursor.rest.head? = some '#' then
      some (text, gap.hasBreak, cursor)
    else
      match plainWord inFlow cursor.rest with
      | none => none
      | some [] => some (text, gap.hasBreak, cursor)
      | some word =>
        let cursor := cursor.skip word.length
        let text := text ++ gap.folded ++ word
        if !cursor.rest.head?.any isBlankOrBreak then some (text, false, cursor)
        else
          match readGap least cursor.rest.length .empty cursor with
          | none => none
          | some (gap, cursor) =>
            if !inFlow && cursor.column < least then some (text, gap.hasBreak, cursor)
            else readPlain inFlow least steps text gap cursor

/-! ## Quoted scalars -/

def hexDigit? (char : Char) : Option Nat :=
  if char.isDigit then some (char.toNat - 48)
  else if 'a' ≤ char && char ≤ 'f' then some (char.toNat - 87)
  else if 'A' ≤ char && char ≤ 'F' then some (char.toNat - 55)
  else none

/-- The value of hexadecimal digits. -/
def hexValue? (digits : List Char) : Option Nat :=
  digits.foldl (fun value digit =>
    match value, hexDigit? digit with
    | some value, some digit => some (value * 16 + digit)
    | _, _ => none) (some 0)

/-- The escaped character for a letter that stands alone. -/
def simpleEscape? (char : Char) : Option Char :=
  match char with
  | '0' => some '\x00'
  | 'a' => some '\x07'
  | 'b' => some '\x08'
  | 't' | '\t' => some '\t'
  | 'n' => some '\n'
  | 'v' => some '\x0B'
  | 'f' => some '\x0C'
  | 'r' => some '\r'
  | 'e' => some '\x1B'
  | ' ' => some ' '
  | '"' => some '"'
  | '/' => some '/'
  | '\\' => some '\\'
  | 'N' => some '\u0085'
  | '_' => some '\u00A0'
  | 'L' => some '\u2028'
  | 'P' => some '\u2029'
  | _ => none

/-- Number of digits after the letter of a numeric escape. -/
def escapeWidth? (char : Char) : Option Nat :=
  match char with
  | 'x' => some 2
  | 'u' => some 4
  | 'U' => some 8
  | _ => none

/-- The character with a code, if there is one. -/
def charOfCode? (code : Nat) : Option Char :=
  if code.isValidChar then some (Char.ofNat code) else none

/-- The escape behind a backslash: the character, and how much was read. -/
def readEscape : List Char → Option (Char × Nat)
  | [] => none
  | letter :: rest =>
    match escapeWidth? letter with
    | some width =>
      let digits := rest.take width
      if digits.length < width then none
      else ((hexValue? digits).bind charOfCode?).map fun char => (char, width + 1)
    | none => (simpleEscape? letter).map fun char => (char, 1)

/-- Read a word of a quoted scalar. The result tells whether an escaped line break
ended it. -/
def readQuotedWord (single : Bool) :
    Nat → List Char → Cursor → Option (List Char × Bool × Cursor)
  | 0, text, cursor => some (text, false, cursor)
  | steps + 1, text, cursor =>
    match cursor.rest with
    | [] => some (text, false, cursor)
    | char :: rest =>
      if isBlankOrBreak char then some (text, false, cursor)
      else if single then
        if char != '\'' then readQuotedWord single steps (text ++ [char]) (cursor.skip 1)
        else if rest.head? = some '\'' then
          readQuotedWord single steps (text ++ ['\'']) (cursor.skip 2)
        else some (text, false, cursor)
      else if char = '"' then some (text, false, cursor)
      else if char != '\\' then readQuotedWord single steps (text ++ [char]) (cursor.skip 1)
      else if rest.head?.any isBreak then some (text, true, (cursor.skip 1).skipBreak)
      else
        match readEscape rest with
        | none => none
        | some (escaped, width) =>
          readQuotedWord single steps (text ++ [escaped]) (cursor.skip (width + 1))

/-- Read a quoted scalar behind its opening quote. -/
def readQuoted (single : Bool) : Nat → List Char → Cursor → Option (List Char × Cursor)
  | 0, _, _ => none
  | steps + 1, text, cursor =>
    if cursor.atDocumentMark then none
    else
      match readQuotedWord single cursor.rest.length [] cursor with
      | none => none
      | some (word, joined, cursor) =>
        let text := text ++ word
        match cursor.rest with
        | [] => none
        | char :: _ =>
          if char = (if single then '\'' else '"') then some (text, cursor.skip 1)
          else
            let gap : Gap := ⟨[], if joined then some ([], []) else none⟩
            match readGap 0 cursor.rest.length gap cursor with
            | none => none
            | some (gap, cursor) => readQuoted single steps (text ++ gap.folded) cursor

/-! ## Block scalars -/

/-- What becomes of the line breaks at the end of a block scalar. -/
inductive Chomping where
  | strip
  | clip
  | keep
deriving DecidableEq, Repr

/-- The marks behind the indicator of a block scalar: what becomes of its end, and
its indentation, in either order. -/
structure BlockHeader where
  chomping : Chomping
  indent : Option Nat

def chomping? (char : Char) : Option Chomping :=
  if char = '+' then some .keep else if char = '-' then some .strip else none

def indentMark? (char : Char) : Option Nat :=
  if char.isDigit then some (char.toNat - 48) else none

/-- Read the marks of a block scalar. An indentation of zero is an error. -/
def readBlockHeader (cursor : Cursor) : Option (BlockHeader × Cursor) :=
  let (chomping, indent, cursor) :=
    match cursor.rest.head?.bind chomping? with
    | some chomping =>
      let cursor := cursor.skip 1
      match cursor.rest.head?.bind indentMark? with
      | some indent => (chomping, some indent, cursor.skip 1)
      | none => (chomping, none, cursor)
    | none =>
      match cursor.rest.head?.bind indentMark? with
      | some indent =>
        let cursor := cursor.skip 1
        match cursor.rest.head?.bind chomping? with
        | some chomping => (chomping, some indent, cursor.skip 1)
        | none => (.clip, some indent, cursor)
      | none => (.clip, none, cursor)
  if indent = some 0 then none
  else (cursor.skipRestOfLine?).map fun cursor => (⟨chomping, indent⟩, cursor)

/-- Read empty lines and the indentation of the next one. The results are the line
breaks and the greatest column reached. A tab in place of indentation is an error. -/
def readBlockBreaks (indent : Option Nat) :
    Nat → List Char → Nat → Cursor → Option (List Char × Nat × Cursor)
  | 0, breaks, greatest, cursor => some (breaks, greatest, cursor)
  | steps + 1, breaks, greatest, cursor =>
    let spaces := (cursor.rest.takeWhile (· = ' ')).length
    let width :=
      match indent with
      | none => spaces
      | some indent => min spaces (indent - cursor.column)
    let cursor := cursor.skip width
    let greatest := max greatest cursor.column
    match cursor.rest with
    | [] => some (breaks, greatest, cursor)
    | char :: _ =>
      if char = '\t' && indent.all (cursor.column < ·) then none
      else if isBreak char then
        readBlockBreaks indent steps (breaks ++ cursor.breakText) greatest cursor.skipBreak
      else some (breaks, greatest, cursor)

/-- The lines of a block scalar read so far. -/
structure BlockText where
  text : List Char
  /-- The line break behind the last line. -/
  ending : List Char
  /-- The line breaks of the empty lines behind that. -/
  breaks : List Char
  /-- The last line starts with a blank. -/
  startsBlank : Bool

/-- The text with its last line joined to a line that follows. -/
def BlockText.joined (block : BlockText) (folded nextStartsBlank : Bool) : List Char :=
  if folded && block.ending = ['\n'] && !block.startsBlank && !nextStartsBlank then
    block.text ++ (if block.breaks.isEmpty then [' '] else []) ++ block.breaks
  else
    block.text ++ block.ending ++ block.breaks

/-- Read the lines of a block scalar with a given indentation. -/
def readBlockLines (folded : Bool) (indent : Nat) :
    Nat → BlockText → Cursor → Option (BlockText × Cursor)
  | 0, block, cursor => some (block, cursor)
  | steps + 1, block, cursor =>
    if cursor.column != indent then some (block, cursor)
    else
      match cursor.rest with
      | [] => some (block, cursor)
      | char :: _ =>
        let blank := isSpaceOrTab char
        let line := cursor.rest.takeWhile fun char => !isBreak char
        let text := block.joined folded blank ++ line
        let cursor := cursor.skip line.length
        let ending := cursor.breakText
        let cursor := cursor.skipBreak
        match readBlockBreaks (some indent) (cursor.rest.length + 1) [] 0 cursor with
        | none => none
        | some (breaks, _, cursor) =>
          readBlockLines folded indent steps ⟨text, ending, breaks, blank⟩ cursor

/-- Read a block scalar behind its indicator, inside a collection with a given
indentation. -/
def readBlock (folded : Bool) (outer : Int) (cursor : Cursor) :
    Option (List Char × Cursor) := do
  let (header, cursor) ← readBlockHeader cursor
  let given := header.indent.map fun indent => (max outer 0).toNat + indent
  let (breaks, greatest, cursor) ← readBlockBreaks given (cursor.rest.length + 1) [] 0 cursor
  let indent := given.getD (max greatest (max (outer + 1).toNat 1))
  let (block, cursor) ←
    readBlockLines folded indent (cursor.rest.length + 1) ⟨[], [], breaks, false⟩ cursor
  let text :=
    match header.chomping with
    | .strip => block.text
    | .clip => block.text ++ block.ending
    | .keep => block.text ++ block.ending ++ block.breaks
  return (text, cursor)

end RunTriage.Yaml
