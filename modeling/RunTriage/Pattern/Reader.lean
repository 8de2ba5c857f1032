import RunTriage.Pattern.Tree

/-!
Contract: reading the written form of a pattern.

Owns:
- the grammar of patterns: groups, alternatives, repetitions, classes, escapes;
- the mode in which blanks and comments are skipped;
- the rule that names of groups are distinct.

The text is read from left to right with the groups that are still open on a
stack; each step reads one construct.

Does not own: what the constructs mean.
-/

namespace RunTriage.Pattern.Reader

/-! ## Blanks and comments -/

/-- Skip blanks, and comments up to the end of their line. -/
def skipComments (inComment : Bool) : List Char → List Char
  | [] => []
  | char :: rest =>
    if inComment then skipComments (char ≠ '\n') rest
    else if Text.isBlank char then skipComments false rest
    else if char = '#' then skipComments true rest
    else char :: rest

/-- Skip blanks and comments where they are to be ignored. -/
def skip (ignoreSpace : Bool) (chars : List Char) : List Char :=
  if ignoreSpace then skipComments false chars else chars

/-- The text after the current character, and after what is skipped there. -/
def advance (ignoreSpace : Bool) (chars : List Char) : List Char :=
  skip ignoreSpace (chars.drop 1)

/-- The first character that is no blank. A number sign is passed over once. -/
def peekFrom (inComment : Bool) : List Char → Option Char
  | [] => none
  | char :: rest =>
    if Text.isBlank char then peekFrom inComment rest
    else if !inComment && char = '#' then peekFrom true rest
    else some char

/-- The character after the current one, with blanks passed over where they are
to be ignored. If there are only blanks, the first of them is given. -/
def peek (ignoreSpace : Bool) (chars : List Char) : Option Char :=
  let rest := chars.drop 1
  if ignoreSpace then (peekFrom false rest).or rest.head? else rest.head?

/-! ## Numbers -/

/-- Digits with what is skipped between them. -/
def readDigits (ignoreSpace : Bool) : Nat → List Char → List Char × List Char
  | 0, chars => ([], chars)
  | fuel + 1, chars =>
    match chars with
    | [] => ([], [])
    | char :: rest =>
      if char.isDigit then
        let later := readDigits ignoreSpace fuel (skip ignoreSpace rest)
        (char :: later.1, later.2)
      else ([], chars)

/-- The greatest number of repetitions. -/
def greatestCount : Nat := Nat.pow 2 32 - 1

/-- A decimal number with blanks around it. -/
def readCount (ignoreSpace : Bool) (chars : List Char) : Option (Nat × List Char) :=
  let start := Text.trimStart chars
  let read := readDigits ignoreSpace start.length start
  let value := read.1.foldl (fun value digit => value * 10 + (digit.toNat - 48)) 0
  if read.1.isEmpty || greatestCount < value then none
  else some (value, skip ignoreSpace (Text.trimStart read.2))

def isHexDigit (char : Char) : Bool :=
  char.isDigit || ('a' ≤ char && char ≤ 'f') || ('A' ≤ char && char ≤ 'F')

def hexDigitValue (char : Char) : Nat :=
  if char.isDigit then char.toNat - 48
  else if 'a' ≤ char then char.toNat - 87
  else char.toNat - 55

/-- The character with a code point, if there is one. -/
def charAt? (point : Nat) : Option Char :=
  if point < 0xD800 || (0xDFFF < point && point < 0x110000) then some (Char.ofNat point)
  else none

def hexChar? (digits : List Char) : Option Char :=
  charAt? (digits.foldl (fun value digit => value * 16 + hexDigitValue digit) 0)

/-! ## Escapes -/

/-- A number of hexadecimal digits. -/
def readHexDigits (ignoreSpace : Bool) : Nat → List Char → Option (List Char × List Char)
  | 0, chars => some ([], chars)
  | count + 1, chars =>
    match chars with
    | [] => none
    | char :: rest =>
      if isHexDigit char then
        (readHexDigits ignoreSpace count (skip ignoreSpace rest)).map fun later =>
          (char :: later.1, later.2)
      else none

/-- Hexadecimal digits up to the closing brace. -/
def readHexBrace (ignoreSpace : Bool) : Nat → List Char → Option (List Char × List Char)
  | 0, _ => none
  | fuel + 1, chars =>
    match chars with
    | [] => none
    | char :: rest =>
      if char = '\x7d' then some ([], skip ignoreSpace rest)
      else if isHexDigit char then
        (readHexBrace ignoreSpace fuel (skip ignoreSpace rest)).map fun later =>
          (char :: later.1, later.2)
      else none

/-- A character given by its code point; `width` is the number of digits
without braces. -/
def readHex (ignoreSpace : Bool) (width : Nat) (chars : List Char) :
    Option (Written × List Char) :=
  match chars with
  | [] => none
  | char :: rest =>
    if char = '\x7b' then do
      let start := skip ignoreSpace rest
      let (digits, rest) ← readHexBrace ignoreSpace (start.length + 1) start
      if digits.isEmpty then none
      else some (⟨← hexChar? digits, false⟩, rest)
    else do
      let (digits, rest) ← readHexDigits ignoreSpace width (char :: rest)
      some (⟨← hexChar? digits, width = 2⟩, rest)

/-- The name of a property up to the closing brace. -/
def readBraced (ignoreSpace : Bool) : Nat → List Char → Option (List Char × List Char)
  | 0, _ => none
  | fuel + 1, chars =>
    match chars with
    | [] => none
    | char :: rest =>
      if char = '\x7d' then some ([], rest)
      else (readBraced ignoreSpace fuel (skip ignoreSpace rest)).map fun later =>
        (char :: later.1, later.2)

/-- The parts before and after the first place where a text stands. -/
def splitAtText (wanted : List Char) : List Char → Option (List Char × List Char)
  | [] => none
  | char :: rest =>
    if wanted.isPrefixOf (char :: rest) then some ([], (char :: rest).drop wanted.length)
    else (splitAtText wanted rest).map fun parts => (char :: parts.1, parts.2)

/-- A name, or a property and its value; an inequality negates. -/
def queryOf (negated : Bool) (name : List Char) : Tree :=
  let valued (negated : Bool) (parts : List Char × List Char) : Tree :=
    .property (.valued (String.ofList parts.1) (String.ofList parts.2)) negated
  match splitAtText ['!', '='] name with
  | some parts => valued (!negated) parts
  | none =>
    match splitAtText [':'] name with
    | some parts => valued negated parts
    | none =>
      match splitAtText ['='] name with
      | some parts => valued negated parts
      | none => .property (.single (String.ofList name)) negated

/-- A property after its letter. -/
def readProperty (ignoreSpace negated : Bool) (chars : List Char) : Option (Tree × List Char) :=
  match chars with
  | [] => none
  | char :: rest =>
    if char = '\x7b' then
      let start := skip ignoreSpace rest
      (readBraced ignoreSpace (start.length + 1) start).map fun read =>
        (queryOf negated read.1, read.2)
    else if char = '\\' then none
    else some (.property (.single (String.ofList [char])) negated, skip ignoreSpace rest)

def isBoundaryChar (char : Char) : Bool :=
  char.isAlpha || char = '-'

def readBoundaryName (ignoreSpace : Bool) : Nat → List Char → List Char × List Char
  | 0, chars => ([], chars)
  | fuel + 1, chars =>
    match chars with
    | [] => ([], [])
    | char :: rest =>
      if isBoundaryChar char then
        let later := readBoundaryName ignoreSpace fuel (skip ignoreSpace rest)
        (char :: later.1, later.2)
      else ([], chars)

def boundary? (name : String) : Option Anchor :=
  match name with
  | "start" => some .wordStart
  | "end" => some .wordEnd
  | "start-half" => some .wordStartHalf
  | "end-half" => some .wordEndHalf
  | _ => none

/-- A word boundary after its letter: perhaps a kind in braces. Braces that
cannot hold a kind are left for a repetition. -/
def readBoundary (ignoreSpace : Bool) (chars : List Char) : Option (Tree × List Char) :=
  match chars with
  | '\x7b' :: rest =>
    match skip ignoreSpace rest with
    | [] => none
    | char :: inner =>
      if isBoundaryChar char then
        let read := readBoundaryName ignoreSpace (inner.length + 1) (char :: inner)
        match read.2 with
        | '\x7d' :: rest =>
          (boundary? (String.ofList read.1)).map fun anchor => (.anchor anchor, rest)
        | _ => none
      else some (.anchor .wordBoundary, chars)
  | _ => some (.anchor .wordBoundary, chars)

/-- Punctuation and control characters stand for themselves after a backslash. -/
def isEscapable (char : Char) : Bool :=
  char.toNat < 128 && !char.isAlphanum && char ≠ '<' && char ≠ '>'

def plainChar (char : Char) : Tree := .char ⟨char, false⟩

/-- What a backslash and the following characters stand for. -/
def readEscape (ignoreSpace : Bool) (chars : List Char) : Option (Tree × List Char) :=
  match chars with
  | [] => none
  | char :: rest =>
    let hex (width : Nat) : Option (Tree × List Char) :=
      (readHex ignoreSpace width (skip ignoreSpace rest)).map fun read => (.char read.1, read.2)
    if char.isDigit then none
    else if isEscapable char then some (plainChar char, rest)
    else
      match char with
      | 'x' => hex 2
      | 'u' => hex 4
      | 'U' => hex 8
      | 'p' => readProperty ignoreSpace false (skip ignoreSpace rest)
      | 'P' => readProperty ignoreSpace true (skip ignoreSpace rest)
      | 'd' => some (.letter .digit false, rest)
      | 'D' => some (.letter .digit true, rest)
      | 's' => some (.letter .blank false, rest)
      | 'S' => some (.letter .blank true, rest)
      | 'w' => some (.letter .word false, rest)
      | 'W' => some (.letter .word true, rest)
      | 'a' => some (plainChar '\x07', rest)
      | 'f' => some (plainChar '\x0c', rest)
      | 't' => some (plainChar '\t', rest)
      | 'n' => some (plainChar '\n', rest)
      | 'r' => some (plainChar '\r', rest)
      | 'v' => some (plainChar '\x0b', rest)
      | 'A' => some (.anchor .textStart, rest)
      | 'z' => some (.anchor .textEnd, rest)
      | 'b' => readBoundary ignoreSpace rest
      | 'B' => some (.anchor .notWordBoundary, rest)
      | '<' => some (.anchor .wordStart, rest)
      | '>' => some (.anchor .wordEnd, rest)
      | _ => none

/-! ## Classes in brackets -/

/-- The ASCII classes by name. -/
def asciiClass? (name : String) : Option CharSet :=
  match name with
  | "alnum" => some (.ofRanges [(48, 57), (65, 90), (97, 122)])
  | "alpha" => some (.ofRanges [(65, 90), (97, 122)])
  | "ascii" => some (.ofRanges [(0, 127)])
  | "blank" => some (.ofRanges [(9, 9), (32, 32)])
  | "cntrl" => some (.ofRanges [(0, 31), (127, 127)])
  | "digit" => some (.ofRanges [(48, 57)])
  | "graph" => some (.ofRanges [(33, 126)])
  | "lower" => some (.ofRanges [(97, 122)])
  | "print" => some (.ofRanges [(32, 126)])
  | "punct" => some (.ofRanges [(33, 47), (58, 64), (91, 96), (123, 126)])
  | "space" => some (.ofRanges [(9, 13), (32, 32)])
  | "upper" => some (.ofRanges [(65, 90)])
  | "word" => some .asciiWord
  | "xdigit" => some (.ofRanges [(48, 57), (65, 70), (97, 102)])
  | _ => none

/-- An ASCII class such as `[:alpha:]` after its bracket. -/
def readAsciiClass (chars : List Char) : Option (ClassItem × List Char) :=
  match chars with
  | ':' :: rest =>
    let (negated, rest) :=
      match rest with
      | '^' :: rest => (true, rest)
      | _ => (false, rest)
    let name := rest.takeWhile (· ≠ ':')
    match rest.drop name.length with
    | ':' :: ']' :: rest =>
      (asciiClass? (String.ofList name)).map fun set => (.ascii set negated, rest)
    | _ => none
  | _ => none

/-- A class that is still open: how it began, what stands around it, and the
operation waiting for its right side. -/
structure OpenClass where
  negated : Bool
  outer : List ClassItem
  waiting : Option (SetOperation × ClassBody)

/-- Hyphens at the start of a class are literal, and so is a closing bracket in
the first place. -/
def readClassStart (ignoreSpace : Bool) : Nat → List Char → List ClassItem →
    Option (List ClassItem × List Char)
  | 0, _, _ => none
  | fuel + 1, chars, items =>
    match chars with
    | [] => none
    | char :: rest =>
      if char = '-' then
        readClassStart ignoreSpace fuel (skip ignoreSpace rest) (.char ⟨'-', false⟩ :: items)
      else if char = ']' && items.isEmpty then
        match skip ignoreSpace rest with
        | [] => none
        | rest => some ([.char ⟨']', false⟩], rest)
      else some (items, chars)

/-- The opening of a class after its bracket: whether it is negated, its first
items in reverse, and the rest. -/
def readClassOpen (ignoreSpace : Bool) (chars : List Char) :
    Option (Bool × List ClassItem × List Char) :=
  match skip ignoreSpace chars with
  | [] => none
  | char :: rest =>
    if char = '^' then
      let start := skip ignoreSpace rest
      (readClassStart ignoreSpace (start.length + 1) start []).map fun read => (true, read)
    else
      (readClassStart ignoreSpace (rest.length + 2) (char :: rest) []).map fun read =>
        (false, read)

/-- One side of a range, or a class of its own. -/
def readClassUnit (ignoreSpace : Bool) (chars : List Char) : Option (Tree × List Char) :=
  match chars with
  | [] => none
  | char :: rest =>
    if char = '\\' then readEscape ignoreSpace rest else some (plainChar char, rest)

def itemOf? : Tree → Option ClassItem
  | .char written => some (.char written)
  | .letter kind negated => some (.letter kind negated)
  | .property query negated => some (.property query negated)
  | _ => none

/-- An item of a class, which is a range if a hyphen follows that is neither the
last character nor the start of a difference. -/
def readClassItem (ignoreSpace : Bool) (chars : List Char) : Option (ClassItem × List Char) := do
  let (first, rest) ← readClassUnit ignoreSpace chars
  let rest := skip ignoreSpace rest
  match rest with
  | [] => none
  | char :: after =>
    if char ≠ '-' || peek ignoreSpace rest = some ']' || peek ignoreSpace rest = some '-' then
      some (← itemOf? first, rest)
    else
      let (second, rest) ← readClassUnit ignoreSpace (skip ignoreSpace after)
      match first, second with
      | .char low, .char high =>
        if low.char.toNat ≤ high.char.toNat then some (.range low high, rest) else none
      | _, _ => none

/-- The body that ends here, with an operation that waited for it. -/
def closeBody (waiting : Option (SetOperation × ClassBody)) (items : List ClassItem) :
    ClassBody :=
  match waiting with
  | some (kind, left) => .operation kind left (.items items.reverse)
  | none => .items items.reverse

/-- Read a class up to the bracket that closes the outermost one. `stack` holds
the open classes, the innermost first, and `items` the items of the innermost
one in reverse. -/
def readClassBody (ignoreSpace : Bool) : Nat → List OpenClass → List ClassItem → List Char →
    Option (Tree × List Char)
  | 0, _, _, _ => none
  | fuel + 1, stack, items, chars =>
    match stack, skip ignoreSpace chars with
    | [], _ => none
    | _, [] => none
    | current :: outer, char :: rest =>
      let operation (kind : SetOperation) : Option (Tree × List Char) :=
        readClassBody ignoreSpace fuel
          ({ current with waiting := some (kind, closeBody current.waiting items) } :: outer) []
          (rest.drop 1)
      if char = '[' then
        match readAsciiClass rest with
        | some (item, rest) => readClassBody ignoreSpace fuel stack (item :: items) rest
        | none =>
          match readClassOpen ignoreSpace rest with
          | some (negated, first, rest) =>
            readClassBody ignoreSpace fuel (⟨negated, items, none⟩ :: stack) first rest
          | none => none
      else if char = ']' then
        let body := closeBody current.waiting items
        match outer with
        | [] => some (.bracket current.negated body, rest)
        | outer =>
          readClassBody ignoreSpace fuel outer (.nested current.negated body :: current.outer)
            rest
      else if char = '&' && rest.head? = some '&' then operation .intersection
      else if char = '-' && rest.head? = some '-' then operation .difference
      else if char = '~' && rest.head? = some '~' then operation .symmetricDifference
      else
        match readClassItem ignoreSpace (char :: rest) with
        | some (item, rest) => readClassBody ignoreSpace fuel stack (item :: items) rest
        | none => none

/-- A class after its opening bracket. -/
def readClass (ignoreSpace : Bool) (chars : List Char) : Option (Tree × List Char) :=
  match readClassOpen ignoreSpace chars with
  | some (negated, first, rest) =>
    readClassBody ignoreSpace (chars.length + 1) [⟨negated, [], none⟩] first rest
  | none => none

/-! ## Groups -/

def switch? (char : Char) : Option Switch :=
  match char with
  | 'i' => some .ignoreCase
  | 'm' => some .multiLine
  | 's' => some .dotMatchesAll
  | 'U' => some .swapGreed
  | 'u' => some .unicode
  | 'R' => some .returnLines
  | 'x' => some .ignoreSpace
  | _ => none

/-- Options up to the colon or parenthesis after them. Each may stand once, and
one minus sign switches the ones after it off. -/
def readSwitches : List Char → Bool → Bool → Switches → Option (Switches × Char × List Char)
  | [], _, _, _ => none
  | char :: rest, negating, dangling, read =>
    if char = ':' || char = ')' then
      if dangling then none else some (read.reverse, char, rest)
    else if char = '-' then
      if negating then none else readSwitches rest true true read
    else
      match switch? char with
      | some switch =>
        if read.any fun entry => entry.1 = switch then none
        else readSwitches rest negating false ((switch, !negating) :: read)
      | none => none

/-- Characters that a name may start with, and those it may go on with. -/
def isNameChar (first : Bool) (char : Char) : Bool :=
  let isLetter := char = '_' || char.isAlpha ||
    (128 ≤ char.toNat && Property.alphabetic.contains char)
  if first then isLetter
  else isLetter || char = '.' || char = '[' || char = ']' || char.isDigit ||
    (128 ≤ char.toNat && Property.numeric.contains char)

/-- The name of a group up to the angle bracket after it. -/
def readGroupName (chars : List Char) : Option (String × List Char) :=
  let name := chars.takeWhile (· ≠ '>')
  match chars.drop name.length with
  | '>' :: rest =>
    match name with
    | [] => none
    | first :: others =>
      if isNameChar true first && others.all (isNameChar false) then
        some (String.ofList name, rest)
      else none
  | _ => none

/-- A group that is still open: how it was opened, and what stands before it. -/
structure OpenGroup where
  kind : GroupKind
  parts : List Tree
  branches : List Tree
  ignoreSpace : Bool

/-- The state between two constructs. `parts` are those of the current
alternative and `branches` the earlier alternatives, both in reverse. -/
structure State where
  rest : List Char
  opened : List OpenGroup
  parts : List Tree
  branches : List Tree
  ignoreSpace : Bool
  nextIndex : Nat
  names : List String

namespace State

def start (chars : List Char) : State :=
  ⟨chars, [], [], [], false, 1, []⟩

/-- The tree of everything read since the innermost group was opened. -/
def current (state : State) : Tree :=
  .ofBranches (.ofParts state.parts.reverse :: state.branches).reverse

def push (state : State) (tree : Tree) (rest : List Char) : State :=
  { state with parts := tree :: state.parts, rest := rest }

/-- Open a group. -/
def enter (state : State) (kind : GroupKind) (ignoreSpace : Bool) (rest : List Char) : State :=
  { state with
    rest := rest
    opened := ⟨kind, state.parts, state.branches, state.ignoreSpace⟩ :: state.opened
    parts := []
    branches := []
    ignoreSpace := ignoreSpace }

/-- Open a group whose span is captured. -/
def enterCapture (state : State) (name : Option String) (rest : List Char) : State :=
  let entered := state.enter (.capture state.nextIndex name) state.ignoreSpace rest
  { entered with
    nextIndex := state.nextIndex + 1
    names := name.toList ++ state.names }

end State

/-- A group with a name. -/
def readNamedGroup (state : State) (chars : List Char) : Option State :=
  match readGroupName chars with
  | some (name, rest) =>
    if state.names.contains name then none else some (state.enterCapture (some name) rest)
  | none => none

/-- Options after `(?`, alone or at the start of a group. -/
def readSwitchGroup (state : State) (chars : List Char) : Option State :=
  match readSwitches chars false false [] with
  | some (switches, closing, rest) =>
    let ignoreSpace := (switches.setting? .ignoreSpace).getD state.ignoreSpace
    if closing = ')' then
      if switches.isEmpty then none
      else some { state.push (.switches switches) rest with ignoreSpace := ignoreSpace }
    else some (state.enter (.plain switches) ignoreSpace rest)
  | none => none

/-- A group after its parenthesis. There is no looking around. -/
def readGroup (state : State) (chars : List Char) : Option State :=
  match skip state.ignoreSpace chars with
  | '?' :: '=' :: _ => none
  | '?' :: '!' :: _ => none
  | '?' :: '<' :: '=' :: _ => none
  | '?' :: '<' :: '!' :: _ => none
  | '?' :: 'P' :: '<' :: rest => readNamedGroup state rest
  | '?' :: '<' :: rest => readNamedGroup state rest
  | '?' :: rest => readSwitchGroup state rest
  | rest => some (state.enterCapture none rest)

/-- Close the innermost group. -/
def closeGroup (state : State) (rest : List Char) : Option State :=
  match state.opened with
  | [] => none
  | innermost :: outer =>
    some { state with
      rest := rest
      opened := outer
      parts := .group innermost.kind state.current :: innermost.parts
      branches := innermost.branches
      ignoreSpace := innermost.ignoreSpace }

/-! ## Repetitions -/

/-- Repeat the last part. -/
def repeatLast (state : State) (least : Nat) (most : Option Nat) (greedy : Bool)
    (rest : List Char) : Option State :=
  match state.parts with
  | part :: parts =>
    if part.isRepeatable then
      some { state with parts := .repeated part least most greedy :: parts, rest := rest }
    else none
  | [] => none

/-- A repetition without numbers; a question mark after it makes it lazy. -/
def readRepetition (state : State) (least : Nat) (most : Option Nat) (rest : List Char) :
    Option State :=
  match rest with
  | '?' :: rest => repeatLast state least most false rest
  | rest => repeatLast state least most true rest

/-- The numbers of a repetition after its brace, and what follows its closing
brace. -/
def readBounds (ignoreSpace : Bool) (chars : List Char) :
    Option (Nat × Option Nat × List Char) := do
  let (least, rest) ← readCount ignoreSpace (skip ignoreSpace chars)
  match rest with
  | ',' :: rest =>
    match skip ignoreSpace rest with
    | '\x7d' :: rest => some (least, none, rest)
    | rest =>
      let (most, rest) ← readCount ignoreSpace rest
      match rest with
      | '\x7d' :: rest => if least ≤ most then some (least, some most, rest) else none
      | _ => none
  | '\x7d' :: rest => some (least, some least, rest)
  | _ => none

/-- A repetition with numbers after its brace. -/
def readCounted (state : State) (chars : List Char) : Option State :=
  match readBounds state.ignoreSpace chars with
  | some (least, most, rest) =>
    match skip state.ignoreSpace rest with
    | '?' :: rest => repeatLast state least most false rest
    | rest => repeatLast state least most true rest
  | none => none

/-! ## The whole text -/

/-- Read the construct that starts with a character. -/
def step (state : State) (char : Char) (rest : List Char) : Option State :=
  match char with
  | '(' => readGroup state rest
  | ')' => closeGroup state rest
  | '|' =>
    some { state with
      rest := rest
      branches := .ofParts state.parts.reverse :: state.branches
      parts := [] }
  | '[' => (readClass state.ignoreSpace rest).map fun read => state.push read.1 read.2
  | '?' => readRepetition state 0 (some 1) rest
  | '*' => readRepetition state 0 none rest
  | '+' => readRepetition state 1 none rest
  | '\x7b' => readCounted state rest
  | '\\' => (readEscape state.ignoreSpace rest).map fun read => state.push read.1 read.2
  | '.' => some (state.push .dot rest)
  | '^' => some (state.push (.anchor .lineStart) rest)
  | '$' => some (state.push (.anchor .lineEnd) rest)
  | char => some (state.push (plainChar char) rest)

/-- Read constructs until the text ends. -/
def run : Nat → State → Option State
  | 0, _ => none
  | fuel + 1, state =>
    match skip state.ignoreSpace state.rest with
    | [] => some { state with rest := [] }
    | char :: rest =>
      match step state char rest with
      | some state => run fuel state
      | none => none

/-- The tree of a text, if the text is a pattern. -/
def read? (text : String) : Option Tree :=
  let chars := text.toList
  match run (chars.length + 1) (.start chars) with
  | some state =>
    if state.opened.isEmpty && state.current.depth ≤ greatestTreeDepth then some state.current
    else none
  | none => none

end RunTriage.Pattern.Reader
