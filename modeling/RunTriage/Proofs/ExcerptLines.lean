import Mathlib.Algebra.Group.Nat.Defs
import Mathlib.Tactic.SplitIfs
import RunTriage.Excerpt

/-!
Contract: which lines of a log an excerpt shows, and which of them it highlights.

Owns:
- `Near`, the positions that are close enough to an anchor;
- the walk over a log, which drops only anchors that are near no later position, and which stops
  exactly at sums that do not fit into 64 bits;
- `Leaves`, the items that a walk leaves for the positions that are to be shown;
- the anchors, which are the positions of the marked lines if there are any.

Does not own: the counts of lines left out.
-/

namespace RunTriage.Excerpt

/-! ## Steps that may fail -/

section Steps

variable {α β : Type} {first : Except ExcerptError α} {next : α → Except ExcerptError β}

theorem bind_eq_ok_iff {result : β} :
    first >>= next = .ok result ↔ ∃ middle, first = .ok middle ∧ next middle = .ok result := by
  cases first <;> simp [bind, Except.bind]

theorem bind_eq_error_iff {error : ExcerptError} :
    first >>= next = .error error ↔
      first = .error error ∨ ∃ middle, first = .ok middle ∧ next middle = .error error := by
  cases first <;> simp [bind, Except.bind]

end Steps

/-! ## The walk over the anchors -/

/-- A position is at most `context` away from an anchor. -/
def Near (context : Nat) (anchors : List Nat) (position : Nat) : Prop :=
  ∃ anchor ∈ anchors, position ≤ anchor + context ∧ anchor ≤ position + context

section Walk

variable {context position later anchor : Nat} {anchors left : List Nat}

theorem near_cons : Near context (anchor :: anchors) position ↔
    position ≤ anchor + context ∧ anchor ≤ position + context ∨ Near context anchors position := by
  simp [Near]

theorem dropPassed_cons : dropPassed context position (anchor :: anchors) =
    if anchor + context < 2 ^ 64 then
      if anchor + context < position then dropPassed context position anchors
      else .ok (anchor :: anchors)
    else .error .overflow := by
  rw [dropPassed, reach, Nat.pow_eq]
  split <;> rfl

theorem isShown_cons : isShown context position (anchor :: anchors) =
    if position + context < 2 ^ 64 then .ok (decide (anchor ≤ position + context))
    else .error .overflow := by
  rw [isShown, reach, Nat.pow_eq]
  split <;> rfl

theorem sublist_of_dropPassed (isLeft : dropPassed context position anchors = .ok left) :
    left.Sublist anchors := by
  induction anchors with
  | nil =>
    cases isLeft
    exact List.Sublist.refl _
  | cons anchor rest inductionHypothesis =>
    rw [dropPassed_cons] at isLeft
    split_ifs at isLeft
    · exact (inductionHypothesis isLeft).cons anchor
    · cases isLeft
      exact List.Sublist.refl _

/-- An anchor that is dropped at a position is before every later one by more than the context. -/
theorem mem_of_dropPassed (isLeft : dropPassed context position anchors = .ok left)
    (notPassed : position ≤ anchor + context) : anchor ∈ left ↔ anchor ∈ anchors := by
  induction anchors with
  | nil =>
    cases isLeft
    exact Iff.rfl
  | cons first rest inductionHypothesis =>
    rw [dropPassed_cons] at isLeft
    split_ifs at isLeft with fits passed
    · have other : anchor ≠ first := by
        rintro rfl
        exact Nat.not_le_of_lt passed notPassed
      rw [inductionHypothesis isLeft, List.mem_cons, or_iff_right other]
    · cases isLeft
      exact Iff.rfl

theorem near_of_dropPassed (isLeft : dropPassed context position anchors = .ok left)
    (notEarlier : position ≤ later) : Near context left later ↔ Near context anchors later := by
  refine exists_congr fun anchor => and_congr_left fun ⟨notPassed, _⟩ => ?_
  exact mem_of_dropPassed isLeft (Nat.le_trans notEarlier notPassed)

/-- The first anchor that is left decides whether a position is near to any. -/
theorem isShown_iff {shown : Bool} (ascending : anchors.Pairwise (· ≤ ·))
    (isLeft : dropPassed context position anchors = .ok left)
    (isDecided : isShown context position left = .ok shown) :
    shown = true ↔ Near context anchors position := by
  induction anchors with
  | nil =>
    cases isLeft
    cases isDecided
    simp [Near]
  | cons anchor rest inductionHypothesis =>
    obtain ⟨least, restAscending⟩ := List.pairwise_cons.mp ascending
    rw [dropPassed_cons] at isLeft
    rw [near_cons]
    split_ifs at isLeft with fits passed
    · rw [inductionHypothesis restAscending isLeft,
        or_iff_right fun near => Nat.not_le_of_lt passed near.1]
    · cases isLeft
      rw [isShown_cons] at isDecided
      split_ifs at isDecided
      cases isDecided
      rw [decide_eq_true_iff]
      constructor
      · exact fun reached => .inl ⟨Nat.le_of_not_lt passed, reached⟩
      · rintro (⟨_, reached⟩ | ⟨other, member, _, reached⟩)
        · exact reached
        · exact Nat.le_trans (least other member) reached

end Walk

/-! ## The items of a walk -/

/-- The items for lines from a position on, of which some are to be shown, behind a number of lines
left out. -/
inductive Leaves (shown : Nat → Prop) :
    Nat → Nat → List (Line × Bool) → List ExcerptItem → Prop
  | done (position skipped : Nat) : Leaves shown position skipped [] (skippedItem skipped)
  | line {position skipped : Nat} {line : Line} {marked : Bool} {rest : List (Line × Bool)}
      {items : List ExcerptItem} :
      shown position → Leaves shown (position + 1) 0 rest items →
      Leaves shown position skipped ((line, marked) :: rest)
        (skippedItem skipped ++ .line position line marked :: items)
  | gap {position skipped : Nat} {line : Line} {marked : Bool} {rest : List (Line × Bool)}
      {items : List ExcerptItem} :
      ¬shown position → Leaves shown (position + 1) (skipped + 1) rest items →
      Leaves shown position skipped ((line, marked) :: rest) items

section Items

variable {context position index skipped : Nat} {anchors : List Nat} {line : Line} {marked : Bool}
  {lines : List (Line × Bool)} {items : List ExcerptItem}

/-- Only the positions still to come matter. -/
theorem Leaves.congr {shown other : Nat → Prop} (leaves : Leaves shown position skipped lines items)
    (same : ∀ later, position ≤ later → (shown later ↔ other later)) :
    Leaves other position skipped lines items := by
  induction leaves with
  | done position skipped => exact .done position skipped
  | line isShown _ inductionHypothesis =>
    exact .line ((same _ (Nat.le_refl _)).mp isShown)
      (inductionHypothesis fun later isLater => same later (Nat.le_of_succ_le isLater))
  | gap notShown _ inductionHypothesis =>
    exact .gap (mt (same _ (Nat.le_refl _)).mpr notShown)
      (inductionHypothesis fun later isLater => same later (Nat.le_of_succ_le isLater))

/-- A walk that comes to its end shows the lines near an anchor. -/
theorem leaves_of_itemsFrom (ascending : anchors.Pairwise (· ≤ ·))
    (isWalk : itemsFrom context position anchors skipped lines = .ok items) :
    Leaves (Near context anchors) position skipped lines items := by
  induction lines generalizing position anchors skipped items with
  | nil =>
    cases isWalk
    exact .done position skipped
  | cons first rest inductionHypothesis =>
    obtain ⟨line, marked⟩ := first
    obtain ⟨left, isLeft, behindDrop⟩ := bind_eq_ok_iff.mp isWalk
    obtain ⟨shown, isDecided, behindChoice⟩ := bind_eq_ok_iff.mp behindDrop
    have isNear := isShown_iff ascending isLeft isDecided
    have leftAscending := ascending.sublist (sublist_of_dropPassed isLeft)
    have sameLater (later : Nat) (isLater : position + 1 ≤ later) :
        Near context left later ↔ Near context anchors later :=
      near_of_dropPassed isLeft (Nat.le_of_succ_le isLater)
    cases shown with
    | true =>
      obtain ⟨later, isLater, isItems⟩ := bind_eq_ok_iff.mp behindChoice
      cases isItems
      exact .line (isNear.mp rfl) ((inductionHypothesis leftAscending isLater).congr sameLater)
    | false =>
      have notNear : ¬Near context anchors position := fun near => nomatch isNear.mpr near
      exact .gap notNear ((inductionHypothesis leftAscending behindChoice).congr sameLater)

end Items

/-! ## Sums that do not fit -/

/-- An anchor is not passed yet at a position, and the sum of the position does not fit into 64
bits. -/
def Exceeds (context : Nat) (anchors : List Nat) (position : Nat) : Prop :=
  2 ^ 64 ≤ position + context ∧ ∃ anchor ∈ anchors, position ≤ anchor + context

section Sums

variable {context position skipped anchor : Nat} {anchors left : List Nat}
  {lines : List (Line × Bool)} {items : List ExcerptItem}

theorem exists_of_dropPassed (isStopped : dropPassed context position anchors = .error .overflow) :
    ∃ anchor ∈ anchors, 2 ^ 64 ≤ anchor + context := by
  induction anchors with
  | nil => cases isStopped
  | cons anchor rest inductionHypothesis =>
    rw [dropPassed_cons] at isStopped
    split_ifs at isStopped with fits passed
    · obtain ⟨other, member, exceeds⟩ := inductionHypothesis isStopped
      exact ⟨other, List.mem_cons_of_mem _ member, exceeds⟩
    · exact ⟨anchor, List.mem_cons_self, Nat.le_of_not_lt fits⟩

theorem notPassed_of_dropPassed
    (isLeft : dropPassed context position anchors = .ok (anchor :: left)) :
    position ≤ anchor + context := by
  induction anchors with
  | nil => cases isLeft
  | cons first rest inductionHypothesis =>
    rw [dropPassed_cons] at isLeft
    split_ifs at isLeft with fits passed
    · exact inductionHypothesis isLeft
    · cases isLeft
      exact Nat.le_of_not_lt passed

theorem exceeds_of_isShown (isLeft : dropPassed context position anchors = .ok left)
    (isStopped : isShown context position left = .error .overflow) :
    Exceeds context left position := by
  cases left with
  | nil => cases isStopped
  | cons anchor rest =>
    rw [isShown_cons] at isStopped
    split_ifs at isStopped with fits
    exact ⟨Nat.le_of_not_lt fits, anchor, List.mem_cons_self, notPassed_of_dropPassed isLeft⟩

theorem fits_of_isShown {shown : Bool} (member : anchor ∈ left)
    (isDecided : isShown context position left = .ok shown) : position + context < 2 ^ 64 := by
  cases left with
  | nil => cases member
  | cons first rest =>
    rw [isShown_cons] at isDecided
    split_ifs at isDecided with fits
    exact fits

/-- A walk that comes to its end has taken no sum that does not fit. -/
theorem not_exceeds_of_itemsFrom
    (isWalk : itemsFrom context position anchors skipped lines = .ok items) {index : Nat}
    (notEarlier : position ≤ index) (inside : index < position + lines.length) :
    ¬Exceeds context anchors index := by
  rintro ⟨exceeds, anchor, member, notPassed⟩
  induction lines generalizing position anchors skipped items with
  | nil => exact absurd inside (Nat.not_lt_of_le notEarlier)
  | cons first rest inductionHypothesis =>
    obtain ⟨left, isLeft, behindDrop⟩ := bind_eq_ok_iff.mp isWalk
    obtain ⟨shown, isDecided, behindChoice⟩ := bind_eq_ok_iff.mp behindDrop
    have isLeftOver : anchor ∈ left :=
      (mem_of_dropPassed isLeft (Nat.le_trans notEarlier notPassed)).mpr member
    have fits := fits_of_isShown isLeftOver isDecided
    have isLater : position + 1 ≤ index := by omega
    have insideRest : index < position + 1 + rest.length := by
      rw [List.length_cons] at inside
      omega
    cases shown with
    | true =>
      obtain ⟨later, isRest, _⟩ := bind_eq_ok_iff.mp behindChoice
      exact inductionHypothesis isRest isLater insideRest isLeftOver
    | false => exact inductionHypothesis behindChoice isLater insideRest isLeftOver

/-- A walk is stopped only by a sum that does not fit. -/
theorem exists_exceeds_of_itemsFrom
    (inside : ∀ anchor ∈ anchors, anchor < position + lines.length)
    (isStopped : itemsFrom context position anchors skipped lines = .error .overflow) :
    ∃ index < position + lines.length, Exceeds context anchors index := by
  induction lines generalizing position anchors skipped with
  | nil => cases isStopped
  | cons first rest inductionHypothesis =>
    obtain ⟨line, marked⟩ := first
    rcases bind_eq_error_iff.mp isStopped with atDrop | ⟨left, isLeft, behindDrop⟩
    · obtain ⟨anchor, member, exceeds⟩ := exists_of_dropPassed atDrop
      exact ⟨anchor, inside anchor member, exceeds, anchor, member, Nat.le_add_right _ _⟩
    have ofLeft (index : Nat) : Exceeds context left index → Exceeds context anchors index :=
      fun ⟨exceeds, anchor, member, notPassed⟩ =>
        ⟨exceeds, anchor, (sublist_of_dropPassed isLeft).subset member, notPassed⟩
    rcases bind_eq_error_iff.mp behindDrop with atChoice | ⟨shown, isDecided, behindChoice⟩
    · exact ⟨position, by simp, ofLeft position (exceeds_of_isShown isLeft atChoice)⟩
    have sameEnd : position + 1 + rest.length = position + ((line, marked) :: rest).length := by
      rw [List.length_cons]
      omega
    rw [← sameEnd] at inside ⊢
    have leftInside : ∀ anchor ∈ left, anchor < position + 1 + rest.length :=
      fun anchor member => inside anchor ((sublist_of_dropPassed isLeft).subset member)
    have inRest : ∃ index < position + 1 + rest.length, Exceeds context left index := by
      cases shown with
      | true =>
        rcases bind_eq_error_iff.mp behindChoice with isRest | ⟨_, _, returned⟩
        · exact inductionHypothesis leftInside isRest
        · cases returned
      | false => exact inductionHypothesis leftInside behindChoice
    obtain ⟨index, insideRest, exceeds⟩ := inRest
    exact ⟨index, insideRest, ofLeft index exceeds⟩

end Sums

/-! ## The lines of an excerpt -/

theorem line_not_mem_skippedItem {index skipped : Nat} {line : Line} {marked : Bool} :
    ExcerptItem.line index line marked ∉ skippedItem skipped := by
  unfold skippedItem
  split <;> simp

/-- The lines among the items are those at the positions that are to be shown. -/
theorem Leaves.line_mem {shown : Nat → Prop} {position skipped index : Nat} {line : Line}
    {marked : Bool} {lines : List (Line × Bool)} {items : List ExcerptItem}
    (leaves : Leaves shown position skipped lines items) :
    .line index line marked ∈ items ↔
      ((line, marked), index) ∈ lines.zipIdx position ∧ shown index := by
  induction leaves with
  | done => simp [line_not_mem_skippedItem]
  | @line position skipped firstLine firstMarked rest items isShown _ inductionHypothesis =>
    have isHead : ((line, marked), index) = ((firstLine, firstMarked), position) ↔
        ExcerptItem.line index line marked = .line position firstLine firstMarked := by
      simp only [Prod.mk.injEq, ExcerptItem.line.injEq]
      exact and_comm
    have isShownFirst : ExcerptItem.line index line marked =
        .line position firstLine firstMarked → shown index := by
      rintro isFirst
      cases isFirst
      exact isShown
    rw [List.zipIdx_cons, List.mem_cons, isHead, List.mem_append, List.mem_cons,
      or_iff_right line_not_mem_skippedItem, inductionHypothesis, or_and_right,
      and_iff_left_of_imp isShownFirst]
  | @gap position skipped firstLine firstMarked rest items notShown _ inductionHypothesis =>
    rw [List.zipIdx_cons, List.mem_cons, inductionHypothesis, or_and_right, or_iff_right]
    rintro ⟨isFirst, isShown⟩
    cases isFirst
    exact notShown isShown

/-! ## The anchors of an excerpt -/

section Anchors

variable {position index : Nat} {lines : List (Line × Bool)}

theorem mem_markedPositions : index ∈ markedPositions position lines ↔
    ∃ line, ((line, true), index) ∈ lines.zipIdx position := by
  induction lines generalizing position with
  | nil => simp [markedPositions]
  | cons first rest inductionHypothesis =>
    obtain ⟨line, marked⟩ := first
    cases marked <;> simp [markedPositions, inductionHypothesis, exists_or]

theorem pairwise_markedPositions (position : Nat) (lines : List (Line × Bool)) :
    (markedPositions position lines).Pairwise (· < ·) := by
  induction lines generalizing position with
  | nil => exact .nil
  | cons first rest inductionHypothesis =>
    unfold markedPositions
    split
    · refine List.pairwise_cons.mpr ⟨fun later member => ?_, inductionHypothesis (position + 1)⟩
      obtain ⟨line, isLater⟩ := mem_markedPositions.mp member
      exact List.le_snd_of_mem_zipIdx isLater
    · exact inductionHypothesis (position + 1)

/-- The first and the last line serve as anchors only if no line is marked. -/
theorem anchors_eq_markedPositions (marked : markedPositions 0 lines ≠ []) :
    anchors lines = markedPositions 0 lines := by
  unfold anchors
  split
  · contradiction
  · rfl

theorem pairwise_anchors (lines : List (Line × Bool)) : (anchors lines).Pairwise (· ≤ ·) := by
  unfold anchors
  split
  · split
    · exact .nil
    · simp
  · exact (pairwise_markedPositions 0 lines).imp Nat.le_of_lt

theorem anchors_lt_length : ∀ anchor ∈ anchors lines, anchor < lines.length := by
  intro anchor member
  unfold anchors at member
  split at member
  · split at member
    · cases member
    · rename_i someLine
      have positive : 0 < lines.length := List.length_pos_iff.mpr (by simpa using someLine)
      simp only [List.mem_cons, List.not_mem_nil, or_false] at member
      omega
  · obtain ⟨line, isLine⟩ := mem_markedPositions.mp member
    simpa using List.snd_lt_of_mem_zipIdx isLine

end Anchors

/-! ## The excerpt of a log -/

section Log

variable {log highlights : List Line} {context index : Nat} {line : Line} {marked : Bool}

theorem mem_zipIdx_markLines : ((line, marked), index) ∈ (markLines log highlights).zipIdx ↔
    log[index]? = some line ∧ marked = highlights.contains line := by
  rw [List.mk_mem_zipIdx_iff_getElem?, markLines, List.getElem?_map, Option.map_eq_some_iff]
  constructor
  · rintro ⟨found, isFound, same⟩
    cases same
    exact ⟨isFound, rfl⟩
  · rintro ⟨isLine, rfl⟩
    exact ⟨line, isLine, rfl⟩

theorem mem_markedPositions_markLines : index ∈ markedPositions 0 (markLines log highlights) ↔
    ∃ line ∈ highlights, log[index]? = some line := by
  simp only [mem_markedPositions, mem_zipIdx_markLines]
  refine exists_congr fun line => ?_
  rw [eq_comm (a := true), List.contains_iff_mem, and_comm]

theorem lt_length_of_mem_anchors {anchor : Nat}
    (member : anchor ∈ anchors (markLines log highlights)) : anchor < log.length := by
  have inside := anchors_lt_length anchor member
  rwa [markLines, List.length_map] at inside

/-- A log has no excerpt exactly if one of its positions has a sum that does not fit before all
anchors are passed. -/
theorem excerpt_eq_error_iff : excerpt log highlights context = .error .overflow ↔
    ∃ index < log.length, Exceeds context (anchors (markLines log highlights)) index := by
  have sameLength : (markLines log highlights).length = log.length := List.length_map _
  rw [excerpt]
  constructor
  · intro isStopped
    have stops := exists_exceeds_of_itemsFrom (by simpa using anchors_lt_length) isStopped
    rwa [Nat.zero_add, sameLength] at stops
  · rintro ⟨index, inside, exceeds⟩
    cases isWalk : itemsFrom context 0 (anchors (markLines log highlights)) 0
      (markLines log highlights) with
    | error error =>
      cases error
      rfl
    | ok items =>
      rw [← sameLength, ← Nat.zero_add (List.length _)] at inside
      exact absurd exceeds (not_exceeds_of_itemsFrom isWalk (Nat.zero_le index) inside)

/-- A context that is small enough for every position gives an excerpt. -/
theorem exists_excerpt (small : log.length + context < 2 ^ 64) (highlights : List Line) :
    ∃ items, excerpt log highlights context = .ok items := by
  cases isExcerpt : excerpt log highlights context with
  | ok items => exact ⟨items, rfl⟩
  | error error =>
    cases error
    obtain ⟨index, inside, exceeds, _⟩ := excerpt_eq_error_iff.mp isExcerpt
    omega

section Items

variable {items : List ExcerptItem} (isExcerpt : excerpt log highlights context = .ok items)

include isExcerpt

/-- The items of an excerpt are those for the positions near an anchor. -/
theorem leaves_of_excerpt : Leaves (Near context (anchors (markLines log highlights))) 0 0
    (markLines log highlights) items :=
  leaves_of_itemsFrom (pairwise_anchors _) isExcerpt

/-- An excerpt shows the lines near an anchor, each at its position and marked if it is one of the
highlights. -/
theorem line_mem_excerpt : .line index line marked ∈ items ↔
    (log[index]? = some line ∧ marked = highlights.contains line) ∧
      Near context (anchors (markLines log highlights)) index := by
  rw [(leaves_of_excerpt isExcerpt).line_mem, mem_zipIdx_markLines]

/-- The highlighted lines of an excerpt are all lines of the log that are among the highlights. -/
theorem highlighted_mem_excerpt :
    .line index line true ∈ items ↔ log[index]? = some line ∧ line ∈ highlights := by
  rw [line_mem_excerpt isExcerpt, eq_comm (a := true), List.contains_iff_mem,
    and_iff_left_iff_imp]
  rintro ⟨isLine, isHighlight⟩
  have isMarked := mem_markedPositions_markLines.mpr ⟨line, isHighlight, isLine⟩
  rw [anchors_eq_markedPositions (List.ne_nil_of_mem isMarked)]
  exact ⟨index, isMarked, Nat.le_add_right .., Nat.le_add_right ..⟩

end Items

end Log

end RunTriage.Excerpt
