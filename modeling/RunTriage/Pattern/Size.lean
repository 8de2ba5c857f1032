import RunTriage.Pattern.Basic

/-!
Contract: how large the automaton of a pattern would be.

Owns:
- the ranges of encoded bytes of a set of characters;
- the size of a pattern, counted as an automaton over encoded bytes with a fixed
  cost for each state and each transition;
- the limit on that size.

Does not own: matching, which builds no automaton.
-/

namespace RunTriage.Pattern

/-! ## Encoded ranges -/

/-- The bytes of a code point in UTF-8. -/
def encode (point : Nat) : List Nat :=
  if point < 0x80 then [point]
  else if point < 0x800 then [0xC0 + point / 64, 0x80 + point % 64]
  else if point < 0x10000 then
    [0xE0 + point / 4096, 0x80 + point / 64 % 64, 0x80 + point % 64]
  else
    [0xF0 + point / 262144, 0x80 + point / 4096 % 64, 0x80 + point / 64 % 64, 0x80 + point % 64]

/-- The greatest code points with one, two and three bytes, and the last one
before the surrogates. -/
def encodingBreaks : List Nat := [0x7F, 0x7FF, 0xD7FF, 0xDFFF, 0xFFFF]

/-- The first place within a range after which it has to be split so that all
its members are encoded alike except for ranges of bytes. -/
def splitPoint? (low high : Nat) : Option Nat :=
  match encodingBreaks.find? fun point => low ≤ point && point < high with
  | some point => some point
  | none =>
    if high < 0x80 then none
    else
      [64, 4096, 262144].findSome? fun block =>
        if low / block = high / block then none
        else if low % block ≠ 0 then some (low / block * block + block - 1)
        else if high % block ≠ block - 1 then some (high / block * block - 1)
        else none

/-- The ranges of bytes at each place of the encoding, for each part of a range. -/
def encodedRanges : Nat → Nat → Nat → List (List (Nat × Nat))
  | 0, _, _ => []
  | fuel + 1, low, high =>
    match splitPoint? low high with
    | some point => encodedRanges fuel low point ++ encodedRanges fuel (point + 1) high
    | none =>
      if 0xD800 ≤ low && low ≤ 0xDFFF then []
      else [(encode low).zip (encode high)]

/-- Number of places of a sequence that are not shared with the sequence before. -/
def newPlaces : List (Nat × Nat) → List (Nat × Nat) → Nat
  | first :: left, second :: right =>
    if first = second then newPlaces left right else right.length + 1
  | _, right => right.length

/-- Number of distinct beginnings among sequences in order. -/
def countBeginnings : List (Nat × Nat) → List (List (Nat × Nat)) → Nat
  | _, [] => 0
  | before, places :: rest => newPlaces before places + countBeginnings places rest

/-! ## Sizes -/

def stateSize : Nat := 32

def transitionSize : Nat := 8

def branchSize : Nat := 4

def setSize (set : CharSet) : Nat :=
  if set.isAscii then
    if set.ranges.length ≤ 1 then stateSize
    else stateSize + transitionSize * set.ranges.length
  else
    match set.ranges with
    | [(low, high)] =>
      if low = high then stateSize * (encode low).length
      else
        let sequences := encodedRanges 64 low high
        stateSize * (countBeginnings [] sequences + 2) + branchSize * sequences.length
    | ranges =>
      let sequences := ranges.flatMap fun range => encodedRanges 64 range.1 range.2
      stateSize * (countBeginnings [] sequences + 2) + branchSize * sequences.length

/-- The size of a pattern. -/
def size : Pattern → Nat
  | .empty => stateSize
  | .charIn set => setSize set
  | .check _ => stateSize
  | .sequence first second => size first + size second
  | .either first second => size first + size second + stateSize + 2 * branchSize
  | .repeated body least most _ =>
    let one := size body
    let branch := stateSize + 2 * branchSize
    match most with
    | none => max least 1 * one + branch
    | some most => least * one + (most - least) * (one + branch) + stateSize
  | .group _ body => size body + 2 * stateSize

/-- The greatest size of a pattern. -/
def greatestSize : Nat := 10 * Nat.pow 2 20

end RunTriage.Pattern
