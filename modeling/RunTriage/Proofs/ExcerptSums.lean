import RunTriage.Proofs.ExcerptItems

/-!
Contract: excerpts with contexts of any size.

Owns:
- the excerpt that shows a whole log;
- contexts so great that a sum does not fit into 64 bits, which leave a log without an excerpt.

Does not own: what every excerpt tells of its log, which is in `RunTriage.Proofs.ExcerptItems`.
-/

namespace RunTriage.Excerpt

/-- Every line of a log at its position. -/
def wholeLog (log highlights : List Line) : List ExcerptItem :=
  (markLines log highlights).zipIdx.map fun entry => .line entry.2 entry.1.1 entry.1.2

/-- If every line is to be shown, only those before them are left out. -/
theorem Leaves.eq_of_all_shown {shown : Nat → Prop} {position skipped : Nat}
    {lines : List (Line × Bool)} {items : List ExcerptItem}
    (leaves : Leaves shown position skipped lines items)
    (all : ∀ index, position ≤ index → index < position + lines.length → shown index) :
    items = skippedItem skipped ++
      (lines.zipIdx position).map fun entry => .line entry.2 entry.1.1 entry.1.2 := by
  induction leaves with
  | done => simp
  | line _ _ inductionHypothesis =>
    rw [List.length_cons] at all
    have later := inductionHypothesis fun index least most => all index (by omega) (by omega)
    have noGap : skippedItem 0 = [] := rfl
    rw [later, noGap]
    rfl
  | gap notShown _ _ => exact absurd (all _ (Nat.le_refl _) (by simp)) notShown

section Log

variable {log highlights : List Line} {context : Nat}

theorem exists_isAnchor (someLine : 0 < log.length) (highlights : List Line) :
    ∃ anchor, IsAnchor log highlights anchor := by
  by_cases noHighlight : ∀ line ∈ log, line ∉ highlights
  · exact ⟨0, .inr ⟨noHighlight, someLine, .inl rfl⟩⟩
  · push Not at noHighlight
    obtain ⟨line, inLog, isHighlight⟩ := noHighlight
    obtain ⟨index, isLine⟩ := List.mem_iff_getElem?.mp inLog
    exact ⟨index, .inl ⟨line, isHighlight, isLine⟩⟩

theorem excerpt_eq_error_iff_isAnchor : excerpt log highlights context = .error .overflow ↔
    ∃ index < log.length, 2 ^ 64 ≤ index + context ∧
      ∃ anchor, IsAnchor log highlights anchor ∧ index ≤ anchor + context := by
  simp only [excerpt_eq_error_iff, Exceeds, mem_anchors_markLines]

/-- A context as wide as the log shows all of it, unless the sum for its last line does not fit. -/
theorem excerpt_of_wide (accepted : context < 2 ^ 64) (wide : log.length ≤ context) :
    excerpt log highlights context =
      if 2 ^ 64 < log.length + context then .error .overflow
      else .ok (wholeLog log highlights) := by
  split
  · rename_i exceeds
    have someLine : 0 < log.length := by omega
    obtain ⟨anchor, isAnchor⟩ := exists_isAnchor someLine highlights
    exact excerpt_eq_error_iff_isAnchor.mpr
      ⟨log.length - 1, by omega, by omega, anchor, isAnchor, by omega⟩
  · rename_i fits
    cases isExcerpt : excerpt log highlights context with
    | error error =>
      cases error
      obtain ⟨index, inside, exceeds, _⟩ := excerpt_eq_error_iff.mp isExcerpt
      omega
    | ok items =>
      have sameLength : (markLines log highlights).length = log.length := List.length_map _
      refine congrArg Except.ok ((leaves_of_excerpt isExcerpt).eq_of_all_shown ?_)
      intro index _ inside
      rw [Nat.zero_add, sameLength] at inside
      obtain ⟨anchor, isAnchor⟩ := exists_isAnchor (Nat.zero_lt_of_lt inside) highlights
      have member := mem_anchors_markLines.mpr isAnchor
      have anchorInside := lt_length_of_mem_anchors member
      exact ⟨anchor, member, by omega, by omega⟩

/-- A log has no excerpt exactly if one of its lines is not out of reach behind every anchor, and
its position and the context do not fit into 64 bits together. An excerpt highlights just the lines
that are to be highlighted, and with a context as wide as the log it shows every line. -/
theorem highlights_shown_unless_overflow (log highlights : List Line)
    (accepted : context < 2 ^ 64) :
    (excerpt log highlights context = .error .overflow ↔
      ∃ index < log.length, 2 ^ 64 ≤ index + context ∧
        ∃ anchor, IsAnchor log highlights anchor ∧ index ≤ anchor + context) ∧
      (∀ items, excerpt log highlights context = .ok items → ∀ index line,
        .line index line true ∈ items ↔ log[index]? = some line ∧ line ∈ highlights) ∧
      (log.length ≤ context → excerpt log highlights context =
        if 2 ^ 64 < log.length + context then .error .overflow
        else .ok (wholeLog log highlights)) :=
  ⟨excerpt_eq_error_iff_isAnchor, fun _ isExcerpt _ _ => highlighted_mem_excerpt isExcerpt,
    excerpt_of_wide accepted⟩

end Log

/-- A log that ends with a failure. -/
def bootFailure : List Line := ["boot", "boom"].map Line.ofMessage

/-- The greatest context for which every sum fits shows everything. -/
theorem highlights_shown_bootFailure :
    2 ^ 64 - 2 < 2 ^ 64 ∧ bootFailure.length ≤ 2 ^ 64 - 2 ∧
      excerpt bootFailure [.ofMessage "boom"] (2 ^ 64 - 2) =
        .ok [.line 0 (.ofMessage "boot") false, .line 1 (.ofMessage "boom") true] := by
  have accepted : 2 ^ 64 - 2 < 2 ^ 64 := by decide
  have wide : bootFailure.length ≤ 2 ^ 64 - 2 := by decide
  obtain ⟨_, _, whole⟩ :=
    highlights_shown_unless_overflow bootFailure [.ofMessage "boom"] accepted
  refine ⟨accepted, wide, (whole wide).trans ?_⟩
  decide

/-- With one line more of context, the sum for the failure does not fit, and there is no excerpt. -/
theorem no_excerpt_at_greatest_context :
    2 ^ 64 - 1 < 2 ^ 64 ∧ bootFailure.length ≤ 2 ^ 64 - 1 ∧
      bootFailure[1]? = some (.ofMessage "boom") ∧
      excerpt bootFailure [.ofMessage "boom"] (2 ^ 64 - 1) = .error .overflow := by
  decide

end RunTriage.Excerpt
