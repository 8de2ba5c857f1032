import RunTriage.Line.Basic

/-!
Contract: the part of a log around some of its lines.

Owns:
- which lines are highlighted, and which lines near them are shown;
- the items of an excerpt: lines, and counts of lines left out;
- the sums of positions and the context, which have to fit into 64 bits.

Does not own: how items are printed, which is in `RunTriage.Report`.
-/

namespace RunTriage

/-- An item of an excerpt. -/
inductive ExcerptItem where
  | line (position : Nat) (line : Line) (highlighted : Bool)
  /-- Lines left out. -/
  | skipped (count : Nat)
deriving DecidableEq, Repr, Inhabited

/-- Why a log has no excerpt. -/
inductive ExcerptError where
  /-- A position and the context add up to more than 64 bits hold. -/
  | overflow
deriving DecidableEq, Repr

def ExcerptError.message : ExcerptError → String
  | .overflow => "attempt to add with overflow"

namespace Excerpt

/-- The position behind another one by the context. Positions are counted with 64 bits. -/
def reach (position context : Nat) : Except ExcerptError Nat :=
  if position + context < Nat.pow 2 64 then .ok (position + context) else .error .overflow

/-- Lines with the mark of those that occur among others. -/
def markLines (log highlights : List Line) : List (Line × Bool) :=
  log.map fun line => (line, highlights.contains line)

/-- Positions of the marked lines, from a position on. -/
def markedPositions (position : Nat) : List (Line × Bool) → List Nat
  | [] => []
  | (_, marked) :: rest =>
    if marked then position :: markedPositions (position + 1) rest
    else markedPositions (position + 1) rest

/-- The positions around which lines are shown: those of the marked lines, or the
first and the last one if there are none. -/
def anchors (lines : List (Line × Bool)) : List Nat :=
  match markedPositions 0 lines with
  | [] => if lines.isEmpty then [] else [0, lines.length - 1]
  | positions => positions

/-- Anchors without those that are too far before a position. -/
def dropPassed (context position : Nat) : List Nat → Except ExcerptError (List Nat)
  | [] => .ok []
  | anchor :: rest => do
    if (← reach anchor context) < position then dropPassed context position rest
    else return anchor :: rest

/-- The next anchor, if there is one, is near enough to a position. -/
def isShown (context position : Nat) : List Nat → Except ExcerptError Bool
  | [] => .ok false
  | anchor :: _ => do return anchor ≤ (← reach position context)

/-- The item for lines left out, if there are any. -/
def skippedItem (count : Nat) : List ExcerptItem :=
  if 0 < count then [.skipped count] else []

/-- The items of lines from a position on, behind a number of lines left out. -/
def itemsFrom (context : Nat) :
    Nat → List Nat → Nat → List (Line × Bool) → Except ExcerptError (List ExcerptItem)
  | _, _, skipped, [] => .ok (skippedItem skipped)
  | position, anchors, skipped, (line, marked) :: rest => do
    let anchors ← dropPassed context position anchors
    if ← isShown context position anchors then
      let later ← itemsFrom context (position + 1) anchors 0 rest
      return skippedItem skipped ++ .line position line marked :: later
    else itemsFrom context (position + 1) anchors (skipped + 1) rest

end Excerpt

/-- The lines of a log that are at most `context` lines away from a highlighted one.
Without any highlighted line, the first and the last line take their place. A sum that
does not fit leaves the log without an excerpt. -/
def excerpt (log highlights : List Line) (context : Nat) :
    Except ExcerptError (List ExcerptItem) :=
  let lines := Excerpt.markLines log highlights
  Excerpt.itemsFrom context 0 (Excerpt.anchors lines) 0 lines

end RunTriage
