import RunTriage.Proofs.Registration

/-!
Contract: what the indexes of a collection of rules find.

Owns: the look-up by code, which finds the one rule or fallback with a code, and the look-up by
test, which finds the rules that apply to it, each once and in the order of registration.

Does not own: how the indexes are kept, which is in `RunTriage.Proofs.Registration`.
-/

namespace RunTriage.RuleBook

section FindByCode

variable {book : RuleBook} {code : String} {rule : Rule}

/-- A look-up by code finds a rule or fallback with the code. -/
theorem Registered.mem_of_find? (registered : Registered book)
    (found : book.find? code = some rule) : rule ∈ book.all ∧ rule.code = code := by
  rw [find?, registered.isCoded code] at found
  cases isPosition : book.rules.findIdx? fun rule => rule.code = code with
  | some position =>
    rw [isPosition] at found
    obtain ⟨inside, sameCode, _⟩ := List.findIdx?_eq_some_iff_getElem.mp isPosition
    obtain ⟨_, isRule⟩ := List.getElem?_eq_some_iff.mp found
    rw [isRule] at sameCode
    have member : rule ∈ book.rules := List.mem_of_getElem? found
    exact ⟨List.mem_append_left _ member, of_decide_eq_true sameCode⟩
  | none =>
    rw [isPosition] at found
    have sameCode := List.find?_some found
    have member := List.mem_of_find?_eq_some found
    exact ⟨List.mem_append_right _ member, of_decide_eq_true sameCode⟩

/-- A look-up by code that finds nothing passes over no rule or fallback. -/
theorem Registered.code_ne_of_find? (registered : Registered book)
    (missing : book.find? code = none) : ∀ rule ∈ book.all, rule.code ≠ code := by
  rw [find?, registered.isCoded code] at missing
  cases isPosition : book.rules.findIdx? fun rule => rule.code = code with
  | some position =>
    rw [isPosition] at missing
    obtain ⟨inside, _, _⟩ := List.findIdx?_eq_some_iff_getElem.mp isPosition
    have outside : book.rules.length ≤ position := List.getElem?_eq_none_iff.mp missing
    omega
  | none =>
    rw [isPosition] at missing
    intro rule member sameCode
    rcases List.mem_append.mp member with isRule | isFallback
    · have passed := List.findIdx?_eq_none_iff.mp isPosition rule isRule
      rw [decide_eq_true sameCode] at passed
      cases passed
    · exact List.find?_eq_none.mp missing rule isFallback (decide_eq_true sameCode)

/-- Codes are different, so a look-up finds the rule or fallback with the code, whichever it is. -/
theorem Registered.find?_eq_some_iff (registered : Registered book) :
    book.find? code = some rule ↔ rule ∈ book.all ∧ rule.code = code := by
  refine ⟨registered.mem_of_find?, ?_⟩
  rintro ⟨member, sameCode⟩
  cases found : book.find? code with
  | none => exact absurd sameCode (registered.code_ne_of_find? found rule member)
  | some other =>
    obtain ⟨isOther, otherCode⟩ := registered.mem_of_find? found
    have same := List.inj_on_of_nodup_map registered.nodup_codes member isOther
      (sameCode.trans otherCode.symm)
    rw [same]

end FindByCode

/-- In a collection that was accepted, the rules tried on a test are those of the list that apply to
it, in the order of the list and each once, however often they name the test. All codes of rules
and fallbacks are different, and a look-up by code finds the rule or fallback with that code and
nothing else. -/
theorem lookups_of_ofRules {rules : List Rule} {book : RuleBook}
    (accepted : ofRules rules = .ok book) :
    (∀ key, book.candidates key = rules.filter fun rule => rule.appliesTo key) ∧
      (∀ key, ((book.candidates key).map Rule.code).Nodup) ∧
      book.all = rules ++ Fallback.all.map Fallback.rule ∧
      (book.all.map Rule.code).Nodup ∧
      ∀ code rule, book.find? code = some rule ↔ rule ∈ book.all ∧ rule.code = code := by
  have registered := registered_of_ofRules accepted
  have isRules := rules_of_ofRules accepted
  have candidates (key : TestKey) :
      book.candidates key = book.rules.filter fun rule => rule.appliesTo key :=
    registered.indexed.candidates_eq key
  refine ⟨fun key => ?_, fun key => ?_, ?_, registered.nodup_codes, fun code rule => ?_⟩
  · rw [candidates, isRules]
  · have distinct : (book.rules.map Rule.code).Nodup := List.pairwise_map.mpr registered.distinct
    rw [candidates]
    exact distinct.sublist (List.filter_sublist.map Rule.code)
  · rw [all, isRules]
  · exact registered.find?_eq_some_iff

/-- A rule for a list of tests. -/
def ruleFor (code : String) (scope : Scope) : Rule :=
  .ofSymptoms code "" scope [.outcome [.failed]]

/-- Rules for every test around rules for one test, which is named twice by the first of them. -/
def keyedRules : List Rule :=
  [ruleFor "A" .everywhere, ruleFor "B" (.only [⟨"a.py", "t"⟩, ⟨"b.py", "t"⟩, ⟨"a.py", "t"⟩]),
    ruleFor "C" (.only [⟨"b.py", "t"⟩]), ruleFor "D" .everywhere,
    ruleFor "E" (.only [⟨"a.py", "t"⟩])]

/-- The rule that names the test twice is tried on it once. -/
theorem lookups_of_keyedRules :
    ∃ book, ofRules keyedRules = .ok book ∧
      (book.candidates ⟨"a.py", "t"⟩).map Rule.code = ["A", "B", "D", "E"] ∧
      book.find? "D" = some (ruleFor "D" .everywhere) ∧
      book.find? "TAINT-TD" = some Fallback.taintTeardown.rule ∧
      book.find? "Z" = none := by
  have accepted : ofRules keyedRules = .ok _ := rfl
  obtain ⟨candidates, _, isAll, _, finds⟩ := lookups_of_ofRules accepted
  refine ⟨_, accepted, ?_, ?_, ?_, ?_⟩
  · rw [candidates]
    rfl
  · refine (finds _ _).mpr ⟨?_, rfl⟩
    rw [isAll]
    simp [keyedRules]
  · refine (finds _ _).mpr ⟨?_, rfl⟩
    rw [isAll]
    simp [Fallback.all]
  · refine Option.eq_none_iff_forall_ne_some.mpr fun rule found => ?_
    obtain ⟨member, isLast⟩ := (finds _ _).mp found
    have used : "Z" ∈ (keyedRules ++ Fallback.all.map Fallback.rule).map Rule.code := by
      rw [← isAll, ← isLast]
      exact List.mem_map_of_mem member
    exact absurd used (by decide)

end RunTriage.RuleBook
