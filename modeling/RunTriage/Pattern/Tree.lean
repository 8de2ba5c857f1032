import RunTriage.Pattern.Property

/-!
Contract: the written form of a pattern as a tree.

Owns:
- trees of patterns and of character classes, as they are written and before
  any option is applied;
- the depth of nesting, which is limited.

Does not own: reading a text into a tree, which is in
`RunTriage.Pattern.Reader`, and what a tree means, which is in
`RunTriage.Pattern.Meaning`.
-/

namespace RunTriage.Pattern

/-- An option that a pattern can switch on or off within itself. -/
inductive Switch where
  | ignoreCase
  | multiLine
  | dotMatchesAll
  | swapGreed
  | unicode
  | returnLines
  | ignoreSpace
deriving DecidableEq, Repr

/-- Options switched on or off together. -/
abbrev Switches := List (Switch × Bool)

/-- The setting of an option, if it is among the ones switched. -/
def Switches.setting? (switches : Switches) (switch : Switch) : Option Bool :=
  (switches.find? fun entry => entry.1 = switch).map Prod.snd

/-- A character as written. One written as two hexadecimal digits stands for a
byte where patterns are read as bytes. -/
structure Written where
  char : Char
  isByte : Bool
deriving DecidableEq, Repr

/-- The classes with a letter of their own. -/
inductive LetterClass where
  | digit
  | blank
  | word
deriving DecidableEq, Repr

/-- How a property is asked for. -/
inductive Query where
  | single (name : String)
  | valued (property value : String)
deriving DecidableEq, Repr

/-- Operations between the parts of a class. -/
inductive SetOperation where
  | intersection
  | difference
  | symmetricDifference
deriving DecidableEq, Repr

mutual

/-- One item of a class. -/
inductive ClassItem where
  | char (written : Written)
  | range (low high : Written)
  | ascii (set : CharSet) (negated : Bool)
  | letter (kind : LetterClass) (negated : Bool)
  | property (query : Query) (negated : Bool)
  | nested (negated : Bool) (body : ClassBody)

/-- The inside of a class in brackets. -/
inductive ClassBody where
  | items (list : List ClassItem)
  | operation (kind : SetOperation) (left right : ClassBody)

end

/-- A condition on a position as written; some depend on options. -/
inductive Anchor where
  | lineStart
  | lineEnd
  | textStart
  | textEnd
  | wordBoundary
  | notWordBoundary
  | wordStart
  | wordEnd
  | wordStartHalf
  | wordEndHalf
deriving DecidableEq, Repr

/-- How a group was opened. -/
inductive GroupKind where
  | capture (index : Nat) (name : Option String)
  | plain (switches : Switches)
deriving DecidableEq, Repr

/-- A pattern as written. -/
inductive Tree where
  | empty
  | switches (switches : Switches)
  | char (written : Written)
  | dot
  | anchor (anchor : Anchor)
  | letter (kind : LetterClass) (negated : Bool)
  | property (query : Query) (negated : Bool)
  | bracket (negated : Bool) (body : ClassBody)
  | repeated (body : Tree) (least : Nat) (most : Option Nat) (greedy : Bool)
  | group (kind : GroupKind) (body : Tree)
  | either (branches : List Tree)
  | concat (parts : List Tree)

namespace Tree

/-- The tree of parts in order; no part or a single one needs no node. -/
def ofParts : List Tree → Tree
  | [] => .empty
  | [part] => part
  | parts => .concat parts

/-- The tree of alternatives; a single one needs no node. -/
def ofBranches : List Tree → Tree
  | [branch] => branch
  | branches => .either branches

/-- A repetition may follow anything but nothing and a change of options. -/
def isRepeatable : Tree → Bool
  | .empty => false
  | .switches _ => false
  | _ => true

end Tree

mutual

/-- Levels of nesting within an item of a class. -/
def ClassItem.depth : ClassItem → Nat
  | .nested _ body => body.depth + 1
  | _ => 0

def ClassBody.depth : ClassBody → Nat
  | .items [] => 0
  | .items [item] => item.depth
  | .items (item :: rest) => max item.depth (itemsDepth rest) + 1
  | .operation _ left right => max left.depth right.depth + 1

def itemsDepth : List ClassItem → Nat
  | [] => 0
  | item :: rest => max item.depth (itemsDepth rest)

end

mutual

/-- Levels of nesting within a tree. -/
def Tree.depth : Tree → Nat
  | .bracket _ body => body.depth + 1
  | .repeated body _ _ _ => body.depth + 1
  | .group _ body => body.depth + 1
  | .either branches => listDepth branches + 1
  | .concat parts => listDepth parts + 1
  | _ => 0

def listDepth : List Tree → Nat
  | [] => 0
  | tree :: rest => max tree.depth (listDepth rest)

end

/-- Trees may nest this deep. -/
def greatestTreeDepth : Nat := 250

end RunTriage.Pattern
