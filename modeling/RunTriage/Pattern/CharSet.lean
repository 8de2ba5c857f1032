import RunTriage.Pattern.Tables.Fold
import RunTriage.Pattern.Tables.Word
import RunTriage.Text.Blank

/-!
Contract: sets of characters as ascending lists of code point ranges.

Owns:
- membership, and union, complement, intersection and differences of sets;
- the sets of digits, blanks and word characters, within ASCII and beyond it;
- closing a set under case folding.

Does not own: sets named by a property, which are in `RunTriage.Pattern.Property`.
-/

namespace RunTriage.Pattern

/-- A set of characters. The ranges are disjoint, do not touch and ascend. -/
structure CharSet where
  ranges : List (Nat × Nat)
deriving DecidableEq, Repr, Inhabited

namespace CharSet

/-- The greatest code point. -/
def greatest : Nat := 0x10FFFF

/-- Look-up that stops at the first range beyond the code point. -/
def rangesContain : List (Nat × Nat) → Nat → Bool
  | [], _ => false
  | (low, high) :: rest, point =>
    if point < low then false
    else if point ≤ high then true
    else rangesContain rest point

def contains (set : CharSet) (char : Char) : Bool :=
  rangesContain set.ranges char.toNat

/-- Join a range with the ones after it that it overlaps or touches. -/
def joinInto (low high : Nat) : List (Nat × Nat) → List (Nat × Nat)
  | [] => [(low, high)]
  | (nextLow, nextHigh) :: rest =>
    if nextLow ≤ high + 1 then joinInto low (max high nextHigh) rest
    else (low, high) :: joinInto nextLow nextHigh rest

/-- The set of the code points of ranges in any order. -/
def ofRanges (ranges : List (Nat × Nat)) : CharSet :=
  match (ranges.filter fun range => range.1 ≤ range.2).mergeSort
      fun left right => left.1 ≤ right.1 with
  | [] => ⟨[]⟩
  | (low, high) :: rest => ⟨joinInto low high rest⟩

def empty : CharSet := ⟨[]⟩

def singleton (char : Char) : CharSet := ⟨[(char.toNat, char.toNat)]⟩

def range (low high : Char) : CharSet := ofRanges [(low.toNat, high.toNat)]

def isEmpty (set : CharSet) : Bool := set.ranges.isEmpty

def union (left right : CharSet) : CharSet :=
  ofRanges (left.ranges ++ right.ranges)

/-- The gaps between ranges, from a code point on. -/
def gaps (start : Nat) : List (Nat × Nat) → List (Nat × Nat)
  | [] => if start ≤ greatest then [(start, greatest)] else []
  | (low, high) :: rest =>
    if start < low then (start, low - 1) :: gaps (high + 1) rest
    else gaps (high + 1) rest

def complement (set : CharSet) : CharSet := ⟨gaps 0 set.ranges⟩

def inter (left right : CharSet) : CharSet :=
  (left.complement.union right.complement).complement

def difference (left right : CharSet) : CharSet :=
  left.inter right.complement

def symmetricDifference (left right : CharSet) : CharSet :=
  (left.difference right).union (right.difference left)

/-- Every character. -/
def all : CharSet := ⟨[(0, greatest)]⟩

/-- Every character lies within ASCII. -/
def isAscii (set : CharSet) : Bool :=
  set.ranges.all fun range => range.2 < 128

/-! ## Reading tables -/

def hexDigitValue (char : Char) : Nat :=
  if char.isDigit then char.toNat - 48 else char.toNat - 87

def hexValue (digits : List Char) : Nat :=
  digits.foldl (fun value digit => value * 16 + hexDigitValue digit) 0

/-- A range written `low-high`, or a single code point. -/
def readRange (word : String) : Nat × Nat :=
  let chars := word.toList
  let low := chars.takeWhile (· ≠ '-')
  let high := (chars.dropWhile (· ≠ '-')).drop 1
  if high.isEmpty then (hexValue low, hexValue low) else (hexValue low, hexValue high)

/-- The ranges of a table whose lines hold ascending ranges between blanks. -/
def readRanges (lines : List String) : List (Nat × Nat) :=
  lines.flatMap fun line => (line.splitOn " ").map readRange

def ofTable (lines : List String) : CharSet := ofRanges (readRanges lines)

/-! ## Standard sets -/

def asciiDigit : CharSet := ⟨[(48, 57)]⟩

def asciiWord : CharSet := ⟨[(48, 57), (65, 90), (95, 95), (97, 122)]⟩

def asciiBlank : CharSet := ⟨[(9, 13), (32, 32)]⟩

/-- Decimal digits of every script. -/
def digit : CharSet := ⟨(48, 57) :: readRanges Tables.digitBeyondAscii⟩

/-- The ranges of word characters beyond ASCII. -/
def wordBeyondAscii : List (Nat × Nat) := readRanges Tables.wordBeyondAscii

/-- Letters, marks, decimal digits, connecting punctuation and joiners. -/
def word : CharSet :=
  ⟨(48, 57) :: (65, 90) :: (95, 95) :: (97, 122) :: wordBeyondAscii⟩

def blank : CharSet := ⟨Text.blankRanges⟩

/-! ## Case -/

/-- The classes of characters that differ in case only. -/
def foldClasses : List (List Nat) :=
  Tables.foldClasses.flatMap fun line =>
    (line.splitOn " ").map fun word =>
      (word.splitOn "+").map fun point => hexValue point.toList

/-- The set with every character added that differs from a member in case only. -/
def foldCase (set : CharSet) : CharSet :=
  let added := foldClasses.flatMap fun members =>
    if members.any (rangesContain set.ranges) then members.map fun point => (point, point)
    else []
  ofRanges (set.ranges ++ added)

end CharSet

end RunTriage.Pattern
