import RunTriage.Pattern.CharSet

/-!
Contract: the abstract form of patterns over text.

Owns:
- `Pattern` and the conditions on a position that a pattern may contain;
- short names for common patterns, with which fixed patterns are written down.

Does not own: the written form of patterns, which is in
`RunTriage.Pattern.Reader`, and what a pattern matches, which is in
`RunTriage.Pattern.Match`.
-/

namespace RunTriage

namespace Pattern

/-- A condition on a position of the text that takes no character. Those on
words hold for words over a given set of characters. -/
inductive Condition where
  | textStart
  | textEnd
  | lineStart
  | lineEnd
  | returnLineStart
  | returnLineEnd
  | wordBoundary (word : CharSet)
  | notWordBoundary (word : CharSet)
  | wordStart (word : CharSet)
  | wordEnd (word : CharSet)
  | wordStartHalf (word : CharSet)
  | wordEndHalf (word : CharSet)
deriving DecidableEq, Repr

end Pattern

/-- A pattern. Of the ways to match, an earlier alternative goes before a later
one, and a greedy repetition goes on before it stops. -/
inductive Pattern where
  | empty
  | charIn (set : Pattern.CharSet)
  | check (condition : Pattern.Condition)
  | sequence (first second : Pattern)
  | either (first second : Pattern)
  | repeated (body : Pattern) (least : Nat) (most : Option Nat) (greedy : Bool)
  | group (index : Nat) (body : Pattern)
deriving DecidableEq, Repr, Inhabited

namespace Pattern

/-- Patterns one after the other. -/
def concat : List Pattern → Pattern
  | [] => .empty
  | [pattern] => pattern
  | pattern :: rest => .sequence pattern (concat rest)

/-- Any of the patterns; without one, none of which matches. -/
def anyOf : List Pattern → Pattern
  | [] => .charIn .empty
  | [pattern] => pattern
  | pattern :: rest => .either pattern (anyOf rest)

def literal (char : Char) : Pattern := .charIn (.singleton char)

/-- The characters of a text in order. -/
def text (chars : String) : Pattern := concat (chars.toList.map literal)

/-- None or more, as many as possible. -/
def zeroOrMore (body : Pattern) : Pattern := .repeated body 0 none true

/-- One or more, as many as possible. -/
def oneOrMore (body : Pattern) : Pattern := .repeated body 1 none true

/-- One or none, preferably one. -/
def optional (body : Pattern) : Pattern := .repeated body 0 (some 1) true

/-- Every character but the line feed. -/
def inLine : CharSet := (CharSet.singleton '\n').complement

end Pattern

end RunTriage
