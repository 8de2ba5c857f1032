import RunTriage.Filter
import RunTriage.Proofs.EnclosedGroups
import RunTriage.Proofs.PatternSpans

/-!
Contract: when a filter matches from the start of a message.

Owns:
- the pattern of a text that is bound to the start, if the text is a pattern of its own;
- the lines that a filter with constraints accepts;
- the texts whose filters match elsewhere: those that are no patterns of their own, unless their
  filters never match.

Does not own: reading such a text in parentheses, which is in `RunTriage.Proofs.EnclosedGroups`.
-/

namespace RunTriage

namespace Pattern

/-! ## Patterns bound to the start -/

theorem exists_tree_of_compile {text : String} {pattern : Pattern}
    (isCompiled : compile text = .ok pattern) :
    ∃ tree options, Reader.read? text = some tree ∧
      tree.meaning? .default = some (pattern, options) := by
  rw [compile] at isCompiled
  split at isCompiled
  · cases isCompiled
  · rename_i meant options isMeant
    split at isCompiled <;> cases isCompiled
    obtain ⟨tree, isRead, means⟩ := Option.bind_eq_some_iff.mp isMeant
    exact ⟨tree, options, isRead, means⟩

theorem meaning?_bound {own : Tree} {pattern : Pattern} {options : Options}
    (means : own.meaning? .default = some (pattern, options)) :
    (Tree.concat [.anchor .lineStart, .group (.plain []) own]).meaning? .default =
      some (.sequence (.check .textStart) pattern, .default) := by
  have sameOptions : Options.default.switch [] = .default := rfl
  simp only [Tree.meaning?, listMeaning?, sameOptions, means, Option.map_some]
  rfl

/-- A text that is a pattern on its own and bound to the start of a line is the same pattern in
both cases. -/
theorem compile_bound {text : String} {own bound : Pattern} (isOwn : compile text = .ok own)
    (isBound : compile ("^(?:" ++ text ++ ")") = .ok bound) :
    bound = .sequence (.check .textStart) own := by
  obtain ⟨ownTree, _, isRead, means⟩ := exists_tree_of_compile isOwn
  obtain ⟨boundTree, _, isBoundRead, boundMeans⟩ := exists_tree_of_compile isBound
  rw [Reader.read?_bound isRead isBoundRead, meaning?_bound means] at boundMeans
  cases boundMeans
  rfl

theorem isMatch_bound {own : Pattern} {text : String} :
    (Pattern.sequence (.check .textStart) own).isMatch text = true ↔
      ∃ stop, Spans (subjectOf text) own 0 stop := by
  rw [isMatch_iff]
  constructor
  · rintro ⟨_, _, stop, _ | _ | _ | ⟨atStart, spans⟩⟩
    cases atStart with
    | check holds =>
      obtain rfl := of_decide_eq_true holds
      exact ⟨stop, spans⟩
  · rintro ⟨stop, spans⟩
    exact ⟨0, Nat.zero_le _, stop, .sequence (.check rfl) spans⟩

end Pattern

namespace Filter

open Pattern (Spans subjectOf)

/-- Accept only lines whose attributes each have one of the values listed for it. -/
def withAttributes (filter : Filter) (attributes : List (String × List String)) : Filter :=
  attributes.foldl (fun filter entry => filter.withAttribute entry.1 entry.2) filter

theorem withAttributes_eq (filter : Filter) (attributes : List (String × List String)) :
    filter.withAttributes attributes =
      { filter with attributes := filter.attributes ++ attributes } := by
  induction attributes generalizing filter with
  | nil =>
    rw [List.append_nil]
    rfl
  | cons entry rest inductionHypothesis =>
    show (filter.withAttribute entry.1 entry.2).withAttributes rest = _
    rw [inductionHypothesis, withAttribute]
    simp

/-- A filter with constraints on attributes accepts a line if the attributes have accepted values,
and the text, as a pattern of its own, matches from the start of the message. -/
def MatchesFromStart (text : String) (filter : Filter) : Prop :=
  ∀ (attributes : List (String × List String)) (line : Line),
    (filter.withAttributes attributes).accepts line = true ↔
      (∀ entry ∈ attributes, acceptsAttribute line entry.1 entry.2 = true) ∧
        ∃ own, Pattern.compile text = .ok own ∧ ∃ stop, Spans (subjectOf line.message) own 0 stop

section OfPattern

variable {text : String} {filter : Filter}

theorem compile_of_ofPattern (isMade : ofPattern text = .ok filter) :
    Pattern.compile ("^(?:" ++ text ++ ")") = .ok filter.pattern ∧ filter.attributes = [] := by
  rw [ofPattern] at isMade
  split at isMade <;> cases isMade
  rename_i isCompiled
  exact ⟨isCompiled, rfl⟩

theorem accepts_withAttributes (isMade : ofPattern text = .ok filter)
    (attributes : List (String × List String)) (line : Line) :
    (filter.withAttributes attributes).accepts line = true ↔
      (∀ entry ∈ attributes, acceptsAttribute line entry.1 entry.2 = true) ∧
        filter.pattern.isMatch line.message = true := by
  rw [withAttributes_eq, accepts, (compile_of_ofPattern isMade).2, List.nil_append,
    Bool.and_eq_true, List.all_eq_true]

theorem isMatch_of_own (isMade : ofPattern text = .ok filter) {own : Pattern}
    (isOwn : Pattern.compile text = .ok own) (message : String) :
    filter.pattern.isMatch message = true ↔ ∃ stop, Spans (subjectOf message) own 0 stop := by
  rw [Pattern.compile_bound isOwn (compile_of_ofPattern isMade).1, Pattern.isMatch_bound]

/-- A filter matches from the start exactly if its text is a pattern of its own or the filter never
matches. -/
theorem matchesFromStart_iff (isMade : ofPattern text = .ok filter) :
    MatchesFromStart text filter ↔
      (∃ own, Pattern.compile text = .ok own) ∨
        ∀ message, filter.pattern.isMatch message = false := by
  constructor
  · intro fromStart
    by_cases isOwn : ∃ own, Pattern.compile text = .ok own
    · exact .inl isOwn
    · refine .inr fun message => Bool.eq_false_iff.mpr fun isMatch => ?_
      have accepted := (accepts_withAttributes isMade [] (.ofMessage message)).mpr
        ⟨List.forall_mem_nil _, isMatch⟩
      obtain ⟨_, own, isCompiled, _⟩ := (fromStart [] (.ofMessage message)).mp accepted
      exact isOwn ⟨own, isCompiled⟩
  · intro either attributes line
    rw [accepts_withAttributes isMade]
    refine and_congr_right fun _ => ?_
    by_cases isOwn : ∃ own, Pattern.compile text = .ok own
    · obtain ⟨own, isOwn⟩ := isOwn
      rw [isMatch_of_own isMade isOwn]
      constructor
      · exact fun spans => ⟨own, isOwn, spans⟩
      · rintro ⟨same, isSame, spans⟩
        cases isOwn.symm.trans isSame
        exact spans
    · have never := either.resolve_left isOwn line.message
      refine iff_of_false (Bool.eq_false_iff.mp never) ?_
      rintro ⟨own, isCompiled, _⟩
      exact isOwn ⟨own, isCompiled⟩

end OfPattern

/-- The filter for messages that start with one of two words. -/
def bootFilter : Filter :=
  ⟨"^(?:boot|start)", .sequence (.check .textStart) (.either (.text "boot") (.text "start")), []⟩

theorem matchesFromStart_bootFilter :
    ofPattern "boot|start" = .ok bootFilter ∧ MatchesFromStart "boot|start" bootFilter ∧
      bootFilter.accepts (.ofMessage "started") = true ∧
      bootFilter.accepts (.ofMessage "restarted") = false := by
  have isMade : ofPattern "boot|start" = .ok bootFilter := by decide +kernel
  have isOwn : Pattern.compile "boot|start" = .ok (.either (.text "boot") (.text "start")) := by
    decide +kernel
  exact ⟨isMade, (matchesFromStart_iff isMade).mpr (.inl ⟨_, isOwn⟩), by decide +kernel,
    by decide +kernel⟩

/-- The filter of a text that closes the parenthesis before it and opens the one behind it. -/
def unbalancedFilter : Filter :=
  ⟨"^(?:a)|(?:b)", .either (.sequence (.check .textStart) (.literal 'a')) (.literal 'b'), []⟩

/-- The text is no pattern of its own, but it has a filter, which accepts a message that it matches
in the middle only. -/
theorem unbalancedFilter_matches_middle :
    ofPattern "a)|(?:b" = .ok unbalancedFilter ∧
      Pattern.compile "a)|(?:b" = .error .malformed ∧
      unbalancedFilter.accepts (.ofMessage "xb") = true ∧
      (∀ stop, ¬Spans (subjectOf "xb") unbalancedFilter.pattern 0 stop) ∧
      ¬MatchesFromStart "a)|(?:b" unbalancedFilter := by
  have malformed : Pattern.compile "a)|(?:b" = .error .malformed := by decide +kernel
  have accepted : unbalancedFilter.accepts (.ofMessage "xb") = true := by decide +kernel
  refine ⟨by decide +kernel, malformed, accepted, fun stop spans => ?_, fun fromStart => ?_⟩
  · have isHead : (subjectOf "xb")[0]? = some 'x' := rfl
    cases spans with
    | eitherFirst bound =>
      cases bound with
      | sequence atStart isFirst =>
        cases atStart
        rw [Pattern.spans_literal_iff, isHead] at isFirst
        cases isFirst.1
    | eitherSecond isSecond =>
      rw [Pattern.spans_literal_iff, isHead] at isSecond
      cases isSecond.1
  · obtain ⟨_, own, isOwn, _⟩ := (fromStart [] (.ofMessage "xb")).mp accepted
    rw [malformed] at isOwn
    cases isOwn

end Filter

end RunTriage
