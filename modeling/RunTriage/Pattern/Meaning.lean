import RunTriage.Pattern.Basic
import RunTriage.Pattern.Tree

/-!
Contract: the pattern that a tree stands for.

Owns:
- the options in force at each place of a tree, and how groups confine them;
- the set of characters of a class, with case ignored or not;
- the refusal of sets that could match part of a character.

Does not own: how trees are read.
-/

namespace RunTriage.Pattern

/-- The options in force. Without `unicode`, classes hold bytes. -/
structure Options where
  ignoreCase : Bool
  multiLine : Bool
  dotMatchesAll : Bool
  swapGreed : Bool
  unicode : Bool
  returnLines : Bool
deriving DecidableEq, Repr

namespace Options

def default : Options := ⟨false, false, false, false, true, false⟩

/-- The options with some of them switched. -/
def switch (options : Options) (switches : Switches) : Options :=
  { ignoreCase := (switches.setting? .ignoreCase).getD options.ignoreCase
    multiLine := (switches.setting? .multiLine).getD options.multiLine
    dotMatchesAll := (switches.setting? .dotMatchesAll).getD options.dotMatchesAll
    swapGreed := (switches.setting? .swapGreed).getD options.swapGreed
    unicode := (switches.setting? .unicode).getD options.unicode
    returnLines := (switches.setting? .returnLines).getD options.returnLines }

end Options

/-! ## Sets of characters -/

/-- Letters of ASCII are joined by their other case. -/
def foldAscii (set : CharSet) : CharSet :=
  let lower := set.inter (.ofRanges [(97, 122)])
  let upper := set.inter (.ofRanges [(65, 90)])
  let added :=
    (lower.ranges.map fun range => (range.1 - 32, range.2 - 32)) ++
      (upper.ranges.map fun range => (range.1 + 32, range.2 + 32))
  .ofRanges (set.ranges ++ added)

/-- Close a set under case if case is ignored. -/
def foldIf (options : Options) (set : CharSet) : CharSet :=
  if !options.ignoreCase then set
  else if options.unicode then set.foldCase
  else foldAscii set

/-- A set that matches whole characters only: any set of characters, but of
bytes only those within ASCII. -/
def wholeChars? (options : Options) (set : CharSet) : Option CharSet :=
  if options.unicode || set.isAscii then some set else none

def negateIf (negated : Bool) (set : CharSet) : CharSet :=
  if negated then set.complement else set

/-- Case comes before negation. -/
def foldAndNegate? (options : Options) (negated : Bool) (set : CharSet) : Option CharSet :=
  wholeChars? options (negateIf negated (foldIf options set))

/-- A written character within a class. -/
def classChar? (options : Options) (written : Written) : Option Nat :=
  if options.unicode || written.char.toNat < 128 then some written.char.toNat else none

/-- The set of a class with a letter of its own. -/
def letterSet (options : Options) (kind : LetterClass) : CharSet :=
  if options.unicode then
    match kind with
    | .digit => .digit
    | .blank => .blank
    | .word => .word
  else
    match kind with
    | .digit => .asciiDigit
    | .blank => .asciiBlank
    | .word => .asciiWord

def letterSet? (options : Options) (kind : LetterClass) (negated : Bool) : Option CharSet :=
  wholeChars? options (negateIf negated (letterSet options kind))

/-- The set of a property, which only makes sense for characters. -/
def propertySet? (options : Options) (query : Query) (negated : Bool) : Option CharSet :=
  if options.unicode then
    let set :=
      match query with
      | .single name => Property.named? name
      | .valued property value => Property.valued? property value
    set.bind (foldAndNegate? options negated)
  else none

def combine (kind : SetOperation) (left right : CharSet) : CharSet :=
  match kind with
  | .intersection => left.inter right
  | .difference => left.difference right
  | .symmetricDifference => left.symmetricDifference right

mutual

/-- The set of one item of a class. -/
def ClassItem.set? (options : Options) : ClassItem → Option CharSet
  | .char written => (classChar? options written).map fun point => .ofRanges [(point, point)]
  | .range low high => do
    let low ← classChar? options low
    let high ← classChar? options high
    some (.ofRanges [(low, high)])
  | .ascii set negated => foldAndNegate? options negated set
  | .letter kind negated => letterSet? options kind negated
  | .property query negated => propertySet? options query negated
  | .nested negated body => (body.set? options).bind (foldAndNegate? options negated)

/-- The set of the inside of a class, before case and negation. -/
def ClassBody.set? (options : Options) : ClassBody → Option CharSet
  | .items items => (itemSets options items).map fun ranges => .ofRanges ranges
  | .operation kind left right => do
    let left ← left.set? options
    let right ← right.set? options
    some (combine kind (foldIf options left) (foldIf options right))

/-- The ranges of all items. -/
def itemSets (options : Options) : List ClassItem → Option (List (Nat × Nat))
  | [] => some []
  | item :: rest => do
    let set ← item.set? options
    let later ← itemSets options rest
    some (set.ranges ++ later)

end

/-! ## Patterns -/

/-- A written character on its own. -/
def charPattern? (options : Options) (written : Written) : Option Pattern :=
  if !options.unicode && written.isByte && 127 < written.char.toNat then none
  else
    let set := CharSet.singleton written.char
    if options.unicode || written.char.toNat < 128 then some (.charIn (foldIf options set))
    else some (.charIn set)

/-- The dot: any character, or any that does not end a line. -/
def dotPattern? (options : Options) : Option Pattern :=
  if !options.unicode then none
  else if options.dotMatchesAll then some (.charIn .all)
  else if options.returnLines then
    some (.charIn (CharSet.ofRanges [(10, 10), (13, 13)]).complement)
  else some (.charIn inLine)

def anchorCondition (options : Options) (anchor : Anchor) : Condition :=
  let word := if options.unicode then CharSet.word else CharSet.asciiWord
  match anchor with
  | .lineStart =>
    if !options.multiLine then .textStart
    else if options.returnLines then .returnLineStart
    else .lineStart
  | .lineEnd =>
    if !options.multiLine then .textEnd
    else if options.returnLines then .returnLineEnd
    else .lineEnd
  | .textStart => .textStart
  | .textEnd => .textEnd
  | .wordBoundary => .wordBoundary word
  | .notWordBoundary => .notWordBoundary word
  | .wordStart => .wordStart word
  | .wordEnd => .wordEnd word
  | .wordStartHalf => .wordStartHalf word
  | .wordEndHalf => .wordEndHalf word

/-- A repetition; one that is to happen zero times keeps nothing of its body. -/
def repetition (options : Options) (body : Pattern) (least : Nat) (most : Option Nat)
    (greedy : Bool) : Pattern :=
  if most = some 0 then .empty
  else if least = 1 && most = some 1 then body
  else .repeated body least most (greedy != options.swapGreed)

mutual

/-- The pattern of a tree, and the options in force after it. An option switched
within a group holds up to the end of that group. -/
def Tree.meaning? (options : Options) : Tree → Option (Pattern × Options)
  | .empty => some (.empty, options)
  | .switches switches => some (.empty, options.switch switches)
  | .char written => (charPattern? options written).map (·, options)
  | .dot => (dotPattern? options).map (·, options)
  | .anchor anchor => some (.check (anchorCondition options anchor), options)
  | .letter kind negated => (letterSet? options kind negated).map (.charIn ·, options)
  | .property query negated => (propertySet? options query negated).map (.charIn ·, options)
  | .bracket negated body =>
    ((body.set? options).bind (foldAndNegate? options negated)).map (.charIn ·, options)
  | .repeated body least most greedy =>
    (body.meaning? options).map fun meant =>
      (repetition meant.2 meant.1 least most greedy, meant.2)
  | .group (.capture index _) body =>
    (body.meaning? options).map fun meant => (.group index meant.1, options)
  | .group (.plain switches) body =>
    (body.meaning? (options.switch switches)).map fun meant => (meant.1, options)
  | .either branches =>
    (listMeaning? options branches).map fun meant => (anyOf meant.1, meant.2)
  | .concat parts =>
    (listMeaning? options parts).map fun meant => (concat meant.1, meant.2)

/-- The patterns of trees in order, each under the options left by the one before. -/
def listMeaning? (options : Options) : List Tree → Option (List Pattern × Options)
  | [] => some ([], options)
  | tree :: rest =>
    match tree.meaning? options with
    | none => none
    | some (pattern, options) =>
      (listMeaning? options rest).map fun later => (pattern :: later.1, later.2)

end

end RunTriage.Pattern
