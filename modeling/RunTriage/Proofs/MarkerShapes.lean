import RunTriage.Proofs.PatternSpans
import RunTriage.Session.Marker

/-!
Contract: what the lines look like that the patterns of markers match.

Owns: the shapes of node lines, group headers and teardown headers, which exclude one another.

Does not own: what a node line tells, which is in `RunTriage.Proofs.NodeText`, and which marker
lines a stream has, and where.
-/

namespace RunTriage.Session

open Pattern

section Shapes

variable {subject : Subject} {start stop : Nat}

/-! ## Headers -/

theorem spans_lineStart_iff : Spans subject lineStart start stop ↔ start = 0 ∧ stop = start := by
  constructor
  · rintro (_ | _ | holds)
    exact ⟨by simpa [Condition.holds] using holds, rfl⟩
  · rintro ⟨rfl, rfl⟩
    exact .check rfl

theorem run_of_rule {char : Char} (spans : Spans subject (rule char) start stop) :
    start < stop ∧ ∀ position, start ≤ position → position < stop →
      subject[position]? = some char := by
  obtain ⟨onward, run⟩ := run_of_oneOrMore spans
  refine ⟨onward, fun position least most => ?_⟩
  obtain ⟨other, isChar, isIn⟩ := run position least most
  rw [contains_singleton] at isIn
  rw [isChar, isIn]

/-- A group header starts with an equals sign. -/
theorem head_of_group (spans : Spans subject groupPattern start stop) :
    subject[0]? = some '=' := by
  simp only [groupPattern, spans_concat_cons, spans_lineStart_iff] at spans
  obtain ⟨_, ⟨rfl, rfl⟩, _, rule, _⟩ := spans
  obtain ⟨onward, run⟩ := run_of_rule rule
  exact run 0 (Nat.le_refl 0) onward

/-- A teardown header starts with dashes up to a space. -/
theorem head_of_teardown (spans : Spans subject teardownPattern start stop) :
    ∃ space, 0 < space ∧ (∀ position < space, subject[position]? = some '-') ∧
      subject[space]? = some ' ' := by
  simp only [teardownPattern, spans_concat_cons, spans_lineStart_iff] at spans
  obtain ⟨_, ⟨rfl, rfl⟩, space, rule, _, isSpace, _⟩ := spans
  obtain ⟨onward, run⟩ := run_of_rule rule
  exact ⟨space, onward, fun position => run position (Nat.zero_le _),
    (spans_literal_iff.mp isSpace).1⟩

/-- A node line starts with the characters of a path up to a dot. -/
theorem head_of_node (spans : Spans subject nodePattern start stop) :
    ∃ dot, 0 < dot ∧ Run subject pathChars 0 dot ∧ subject[dot]? = some '.' := by
  simp only [nodePattern, spans_concat_cons, spans_lineStart_iff, spans_group_iff] at spans
  obtain ⟨_, ⟨rfl, rfl⟩, _, ⟨dot, path, extension⟩, _⟩ := spans
  obtain ⟨onward, run⟩ := run_of_oneOrMore path
  have isExtension : text ".py" = concat [literal '.', literal 'p', literal 'y'] := rfl
  rw [concat_singleton, isExtension, spans_concat_cons] at extension
  obtain ⟨_, isDot, _⟩ := extension
  exact ⟨dot, onward, run, (spans_literal_iff.mp isDot).1⟩

/-! ## Lines of one kind only -/

theorem not_pathChars : pathChars.contains '=' = false ∧ pathChars.contains ' ' = false := by
  decide +kernel

theorem opensGroup_of_isNode {text : String} (node : isNode text = true) :
    opensGroup text = false := by
  refine Bool.eq_false_iff.mpr fun group => ?_
  obtain ⟨_, _, _, nodeSpans⟩ := isMatch_iff.mp node
  obtain ⟨_, _, _, groupSpans⟩ := isMatch_iff.mp group
  obtain ⟨dot, onward, run, _⟩ := head_of_node nodeSpans
  obtain ⟨char, isChar, isIn⟩ := run 0 (Nat.le_refl 0) onward
  rw [head_of_group groupSpans] at isChar
  cases isChar
  rw [not_pathChars.1] at isIn
  cases isIn

theorem opensGroup_of_opensTeardown {text : String} (teardown : opensTeardown text = true) :
    opensGroup text = false := by
  refine Bool.eq_false_iff.mpr fun group => ?_
  obtain ⟨_, _, _, teardownSpans⟩ := isMatch_iff.mp teardown
  obtain ⟨_, _, _, groupSpans⟩ := isMatch_iff.mp group
  obtain ⟨space, onward, dashes, _⟩ := head_of_teardown teardownSpans
  have isDash := dashes 0 onward
  rw [head_of_group groupSpans] at isDash
  cases isDash

theorem isNode_of_opensTeardown {text : String} (teardown : opensTeardown text = true) :
    isNode text = false := by
  refine Bool.eq_false_iff.mpr fun node => ?_
  obtain ⟨_, _, _, teardownSpans⟩ := isMatch_iff.mp teardown
  obtain ⟨_, _, _, nodeSpans⟩ := isMatch_iff.mp node
  obtain ⟨space, _, dashes, isSpace⟩ := head_of_teardown teardownSpans
  obtain ⟨dot, _, run, isDot⟩ := head_of_node nodeSpans
  rcases Nat.lt_trichotomy space dot with before | rfl | behind
  · obtain ⟨char, isChar, isIn⟩ := run space (Nat.zero_le _) before
    rw [isSpace] at isChar
    cases isChar
    rw [not_pathChars.2] at isIn
    cases isIn
  · rw [isSpace] at isDot
    cases isDot
  · rw [dashes dot behind] at isDot
    cases isDot

end Shapes

end RunTriage.Session
