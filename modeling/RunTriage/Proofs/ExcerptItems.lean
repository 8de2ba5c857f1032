import Mathlib.Data.List.Chain
import RunTriage.Proofs.ExcerptLines

/-!
Contract: an excerpt accounts for every line of its log.

Owns:
- the positions that items stand for, which are those of the log in order;
- gaps, which are never empty and never next to each other;
- `IsExact`, everything that an excerpt tells of a log, with its anchors told from the lines.

Does not own: the lines that are shown and highlighted, which are in
`RunTriage.Proofs.ExcerptLines`.
-/

namespace RunTriage

/-- The item stands for lines left out. -/
def ExcerptItem.IsGap : ExcerptItem → Prop
  | .line .. => False
  | .skipped _ => True

namespace Excerpt

/-! ## The positions of items -/

/-- The positions that items stand for. A gap goes on at `next`, behind the item before it. -/
def positionsFrom (next : Nat) : List ExcerptItem → List Nat
  | [] => []
  | .line position _ _ :: rest => position :: positionsFrom (position + 1) rest
  | .skipped count :: rest => List.range' next count ++ positionsFrom (next + count) rest

theorem positionsFrom_skippedItem (next skipped : Nat) (items : List ExcerptItem) :
    positionsFrom next (skippedItem skipped ++ items) =
      List.range' next skipped ++ positionsFrom (next + skipped) items := by
  unfold skippedItem
  split
  · rfl
  · have noneSkipped : skipped = 0 := by omega
    subst noneSkipped
    rfl

/-- The items account for the lines left out before them and for every line. -/
theorem Leaves.positionsFrom_eq {shown : Nat → Prop} {position next skipped : Nat}
    {lines : List (Line × Bool)} {items : List ExcerptItem}
    (leaves : Leaves shown position skipped lines items) (isPosition : position = next + skipped) :
    positionsFrom next items = List.range' next (skipped + lines.length) := by
  induction leaves generalizing next with
  | done position skipped =>
    have gap := positionsFrom_skippedItem next skipped []
    simpa [positionsFrom] using gap
  | line _ _ inductionHypothesis =>
    subst isPosition
    rw [positionsFrom_skippedItem, positionsFrom, inductionHypothesis rfl, Nat.zero_add,
      List.length_cons, ← List.range'_succ, List.range'_append_1]
  | gap _ _ inductionHypothesis =>
    rw [inductionHypothesis (by omega), List.length_cons]
    congr 1
    omega

/-! ## Gaps -/

section Gaps

variable {shown : Nat → Prop} {position skipped count : Nat} {lines : List (Line × Bool)}
  {items : List ExcerptItem}

theorem pos_of_mem_skippedItem (member : .skipped count ∈ skippedItem skipped) : 0 < count := by
  unfold skippedItem at member
  split at member
  · simp only [List.mem_singleton, ExcerptItem.skipped.injEq] at member
    omega
  · cases member

theorem Leaves.pos_of_mem (leaves : Leaves shown position skipped lines items)
    (member : .skipped count ∈ items) : 0 < count := by
  induction leaves with
  | done => exact pos_of_mem_skippedItem member
  | line _ _ inductionHypothesis =>
    rcases List.mem_append.mp member with inGap | behindGap
    · exact pos_of_mem_skippedItem inGap
    · rcases List.mem_cons.mp behindGap with isLine | later
      · cases isLine
      · exact inductionHypothesis later
  | gap _ _ inductionHypothesis => exact inductionHypothesis member

/-- Neighbours of which at most one is a gap. -/
def Apart (left right : ExcerptItem) : Prop := ¬(left.IsGap ∧ right.IsGap)

theorem isChain_line_cons (index : Nat) (line : Line) (marked : Bool) {items : List ExcerptItem}
    (apart : items.IsChain Apart) : (.line index line marked :: items).IsChain Apart := by
  refine List.isChain_cons.mpr ⟨?_, apart⟩
  intro next _ bothGaps
  exact bothGaps.1

theorem Leaves.isChain (leaves : Leaves shown position skipped lines items) :
    items.IsChain Apart := by
  induction leaves with
  | done =>
    unfold skippedItem
    split
    · exact List.isChain_singleton _
    · exact List.isChain_nil
  | @line position _ line marked _ _ _ _ behindLine =>
    have behindGap := isChain_line_cons position line marked behindLine
    -- A gap can only stand right before the line that ends it.
    unfold skippedItem
    split
    · refine List.isChain_cons_cons.mpr ⟨?_, behindGap⟩
      intro bothGaps
      exact bothGaps.2
    · exact behindGap
  | gap _ _ inductionHypothesis => exact inductionHypothesis

end Gaps

/-! ## The anchors of a log -/

section Anchors

variable {log highlights : List Line} {position : Nat}

/-- A position of a highlighted line, or an end of a log without any. -/
def IsAnchor (log highlights : List Line) (position : Nat) : Prop :=
  (∃ line ∈ highlights, log[position]? = some line) ∨
    (∀ line ∈ log, line ∉ highlights) ∧ position < log.length ∧
      (position = 0 ∨ position + 1 = log.length)

theorem markedPositions_eq_nil_iff :
    markedPositions 0 (markLines log highlights) = [] ↔ ∀ line ∈ log, line ∉ highlights := by
  rw [List.eq_nil_iff_forall_not_mem]
  simp only [mem_markedPositions_markLines]
  constructor
  · intro noneMarked line inLog isHighlight
    obtain ⟨index, isLine⟩ := List.mem_iff_getElem?.mp inLog
    exact noneMarked index ⟨line, isHighlight, isLine⟩
  · rintro noHighlight index ⟨line, isHighlight, isLine⟩
    exact noHighlight line (List.mem_of_getElem? isLine) isHighlight

theorem mem_anchors_markLines :
    position ∈ anchors (markLines log highlights) ↔ IsAnchor log highlights position := by
  by_cases noneMarked : markedPositions 0 (markLines log highlights) = []
  · have noHighlight := markedPositions_eq_nil_iff.mp noneMarked
    have noMarked : ¬∃ line ∈ highlights, log[position]? = some line := by
      rintro ⟨line, isHighlight, isLine⟩
      exact noHighlight line (List.mem_of_getElem? isLine) isHighlight
    rw [IsAnchor, or_iff_right noMarked, and_iff_right noHighlight, anchors, noneMarked]
    cases log with
    | nil => simp [markLines]
    | cons first rest =>
      simp only [markLines, List.map_cons, List.isEmpty_cons, Bool.false_eq_true, if_false,
        List.length_cons, List.length_map, List.mem_cons, List.not_mem_nil, or_false]
      omega
  · have someHighlight : ¬∀ line ∈ log, line ∉ highlights := fun noHighlight =>
      noneMarked (markedPositions_eq_nil_iff.mpr noHighlight)
    rw [anchors_eq_markedPositions noneMarked, mem_markedPositions_markLines, IsAnchor,
      or_iff_left fun atEnd => someHighlight atEnd.1]

end Anchors

/-! ## Exact excerpts -/

/-- What the items of an excerpt tell of a log. -/
structure IsExact (log highlights : List Line) (context : Nat) (items : List ExcerptItem) :
    Prop where
  positions : positionsFrom 0 items = List.range log.length
  shown : ∀ index < log.length, (∃ line marked, .line index line marked ∈ items) ↔
    ∃ anchor, IsAnchor log highlights anchor ∧ index ≤ anchor + context ∧ anchor ≤ index + context
  carried : ∀ index line marked, .line index line marked ∈ items →
    log[index]? = some line ∧ (marked = true ↔ line ∈ highlights)
  filled : ∀ count, .skipped count ∈ items → 0 < count
  apart : items.IsChain Apart

theorem isExact_of_excerpt {log highlights : List Line} {context : Nat} {items : List ExcerptItem}
    (isExcerpt : excerpt log highlights context = .ok items) :
    IsExact log highlights context items where
  positions := by
    have sameLength : (markLines log highlights).length = log.length := List.length_map _
    rw [(leaves_of_excerpt isExcerpt).positionsFrom_eq rfl, Nat.zero_add, sameLength,
      List.range_eq_range']
  shown := by
    intro index inside
    simp only [line_mem_excerpt isExcerpt, Near, mem_anchors_markLines]
    constructor
    · rintro ⟨line, marked, _, near⟩
      exact near
    · intro near
      exact ⟨log[index], _, ⟨List.getElem?_eq_getElem inside, rfl⟩, near⟩
  carried := by
    intro index line marked member
    obtain ⟨⟨isLine, isMarked⟩, _⟩ := (line_mem_excerpt isExcerpt).mp member
    refine ⟨isLine, ?_⟩
    rw [isMarked, List.contains_iff_mem]
  filled := fun _ => (leaves_of_excerpt isExcerpt).pos_of_mem
  apart := (leaves_of_excerpt isExcerpt).isChain

/-- With a context that is small enough, a log has an excerpt, which accounts for every line of the
log once and in order, shows exactly the lines near an anchor, and counts the others in gaps as wide
as can be. -/
theorem isExact_excerpt {log highlights : List Line} {context : Nat}
    (small : log.length + context < 2 ^ 64) :
    ∃ items, excerpt log highlights context = .ok items ∧
      IsExact log highlights context items := by
  obtain ⟨items, isExcerpt⟩ := exists_excerpt small highlights
  exact ⟨items, isExcerpt, isExact_of_excerpt isExcerpt⟩

/-- A log in which the lines around two failures leave a single line between them. -/
def pausedFailures : List Line :=
  ["start", "boom", "wait", "wait", "wait", "boom"].map Line.ofMessage

theorem isExact_excerpt_pausedFailures :
    pausedFailures.length + 1 < 2 ^ 64 ∧
      IsExact pausedFailures [.ofMessage "boom", .ofMessage "crash"] 1
        [.line 0 (.ofMessage "start") false, .line 1 (.ofMessage "boom") true,
          .line 2 (.ofMessage "wait") false, .skipped 1, .line 4 (.ofMessage "wait") false,
          .line 5 (.ofMessage "boom") true] := by
  have isExcerpt : excerpt pausedFailures [.ofMessage "boom", .ofMessage "crash"] 1 =
      .ok [.line 0 (.ofMessage "start") false, .line 1 (.ofMessage "boom") true,
        .line 2 (.ofMessage "wait") false, .skipped 1, .line 4 (.ofMessage "wait") false,
        .line 5 (.ofMessage "boom") true] := by decide
  have small : pausedFailures.length + 1 < 2 ^ 64 := by decide
  obtain ⟨items, isItems, isExact⟩ :=
    @isExact_excerpt pausedFailures [.ofMessage "boom", .ofMessage "crash"] 1 small
  rw [isExcerpt] at isItems
  cases isItems
  exact ⟨small, isExact⟩

end Excerpt

end RunTriage
