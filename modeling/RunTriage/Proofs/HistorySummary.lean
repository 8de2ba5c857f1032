import RunTriage.Proofs.InformativeRules

/-!
Contract: the history of a run is the summary of what happened in it.

Owns: the history before each test, from any history on: its taint, the codes it has shown and
those it suppresses, each told by the start, the rules that fired and the findings of rules.

Does not own: which rules fire, which is in `RunTriage.Proofs.Firing`, and which findings follow,
which is in `RunTriage.Proofs.Reporting`.
-/

namespace RunTriage

/-- Nothing of the first history is taken back in the second one. -/
structure History.GrowsTo (earlier later : History) : Prop where
  tainted : earlier.tainted = true → later.tainted = true
  suppressed : earlier.suppressed ⊆ later.suppressed
  shown : earlier.shown ⊆ later.shown

/-! ## Sets of codes stay sets -/

theorem History.Canonical.historyAfter {history : History} (canonical : history.Canonical)
    (rule : Rule) : (Examination.historyAfter rule history).Canonical := by
  unfold Examination.historyAfter
  split
  · exact canonical.apply rule
  · exact (canonical.markShown rule.code).apply rule

theorem Examination.canonical_ofRules (record : TestRecord) (rules : List Rule) {history : History}
    (canonical : history.Canonical) : (ofRules record rules history).history.Canonical := by
  induction rules generalizing history with
  | nil => exact canonical
  | cons rule rest inductionHypothesis =>
    cases found : rule.fires? history record with
    | none =>
      rw [ofRules_of_silent found]
      exact inductionHypothesis canonical
    | some lines =>
      rw [ofRules_of_fires found]
      exact inductionHypothesis (canonical.historyAfter rule)

namespace Diagnosis

variable {book : RuleBook} {start : History} {tests : List TestRecord}

theorem canonical_historyBefore (canonical : start.Canonical) (test : Nat) :
    (historyBefore book start tests test).Canonical := by
  induction test with
  | zero => exact canonical
  | succ test inductionHypothesis =>
    cases found : tests[test]? with
    | none => rwa [historyBefore_succ_of_none found]
    | some record =>
      rw [historyBefore_succ found]
      exact Examination.canonical_ofRules record _ inductionHypothesis

/-! ## One test after the other -/

/-- The findings at a position and the history behind it are what the diagnosis of the test there
gives, from the history before it. -/
theorem ofTest_historyBefore {test : Nat} {record : TestRecord}
    (found : tests[test]? = some record) :
    ofTest book (historyBefore book start tests test) record =
      ⟨findingsAt book start tests test, historyBefore book start tests (test + 1)⟩ := by
  rw [findingsAt_of_getElem? found, historyBefore_succ found, ← history_ofTest]

/-! ## The codes of a history -/

section Registered

variable (registered : book.Registered)

include registered

theorem mem_suppressed_historyBefore (code : String) (test : Nat) :
    code ∈ (historyBefore book start tests test).suppressed ↔
      code ∈ start.suppressed ∨
        ∃ earlier < test, ∃ rule, Fires book start tests earlier rule ∧ code ∈ rule.suppresses := by
  have suppressed : (historyBefore book start tests test).isSuppressed code = true ↔
      start.isSuppressed code = true ∨
        ∃ earlier < test, ∃ rule, Fires book start tests earlier rule ∧ code ∈ rule.suppresses :=
    isSuppressed_historyBefore registered code test
  simpa only [History.isSuppressed, List.contains_iff_mem] using suppressed

/-- The codes shown before a test are those of the start and those that rules were reported with. In
contrast to `hasShown_historyBefore`, the code may be one of a fallback. -/
theorem mem_shown_historyBefore (code : String) (test : Nat) :
    code ∈ (historyBefore book start tests test).shown ↔
      code ∈ start.shown ∨
        ∃ earlier < test, ∃ finding ∈ findingsAt book start tests earlier,
          finding.isFallback = false ∧ finding.code = code := by
  induction test with
  | zero => simp [historyBefore_zero]
  | succ test inductionHypothesis =>
    rw [Nat.exists_lt_succ_right, ← or_assoc, ← inductionHypothesis]
    cases found : tests[test]? with
    | none => simp [historyBefore_succ_of_none found, findingsAt_of_none found]
    | some record =>
      have shown := (summary_examine registered (historyBefore book start tests test) record).shown
        code
      simp only [History.hasShown, List.contains_iff_mem] at shown
      rw [historyBefore_succ found, shown, findingsAt_of_getElem? found,
        ← filter_not_isFallback registered]
      simp [and_assoc]

/-- Findings of rules never show the code of a fallback. -/
theorem code_mem_shown_historyBefore (fallback : Fallback) (test : Nat) :
    fallback.code ∈ (historyBefore book start tests test).shown ↔ fallback.code ∈ start.shown := by
  rw [mem_shown_historyBefore registered]
  refine or_iff_left ?_
  rintro ⟨_, _, finding, _, isRule, same⟩
  rw [Finding.isFallback, same, RuleBook.isReserved_code] at isRule
  cases isRule

theorem growsTo_historyBefore {test later : Nat} (isLater : test ≤ later) :
    (historyBefore book start tests test).GrowsTo (historyBefore book start tests later) := by
  have widen {holds : Nat → Prop} : (∃ earlier < test, holds earlier) →
      ∃ earlier < later, holds earlier :=
    fun ⟨earlier, isEarlier, held⟩ => ⟨earlier, Nat.lt_of_lt_of_le isEarlier isLater, held⟩
  refine ⟨?_, fun code => ?_, fun code => ?_⟩
  · rw [tainted_historyBefore registered, tainted_historyBefore registered]
    exact Or.imp_right widen
  · rw [mem_suppressed_historyBefore registered, mem_suppressed_historyBefore registered]
    exact Or.imp_right widen
  · rw [mem_shown_historyBefore registered, mem_shown_historyBefore registered]
    exact Or.imp_right widen

end Registered

/-- From any history on, the history before each test, and behind the last one, is a summary of what
happened before it. It is tainted if it was at the start or if a tainting rule has fired. It
suppresses the codes of the start and those that the rules which fired suppress, reported or not.
It has shown the codes of the start and those of the findings of rules, so no finding ever shows a
fallback. Nothing is taken back. -/
theorem historyBefore_summary {rules : List Rule} {book : RuleBook}
    (accepted : RuleBook.ofRules rules = .ok book) (start : History) (tests : List TestRecord) :
    historyBefore book start tests 0 = start ∧
      historyBefore book start tests tests.length = (continued book start tests).history ∧
      (∀ test record, tests[test]? = some record →
        ofTest book (historyBefore book start tests test) record =
          ⟨findingsAt book start tests test, historyBefore book start tests (test + 1)⟩) ∧
      (∀ test,
        ((historyBefore book start tests test).tainted = true ↔
          start.tainted = true ∨
            ∃ earlier < test, ∃ rule, Fires book start tests earlier rule ∧ rule.taints = true) ∧
        (∀ code, code ∈ (historyBefore book start tests test).suppressed ↔
          code ∈ start.suppressed ∨
            ∃ earlier < test, ∃ rule, Fires book start tests earlier rule ∧
              code ∈ rule.suppresses) ∧
        ∀ code, code ∈ (historyBefore book start tests test).shown ↔
          code ∈ start.shown ∨
            ∃ earlier < test, ∃ finding ∈ findingsAt book start tests earlier,
              finding.isFallback = false ∧ finding.code = code) ∧
      (∀ test (fallback : Fallback),
        fallback.code ∈ (historyBefore book start tests test).shown ↔
          fallback.code ∈ start.shown) ∧
      (∀ test later, test ≤ later →
        (historyBefore book start tests test).GrowsTo (historyBefore book start tests later)) ∧
      (start.Canonical → ∀ test, (historyBefore book start tests test).Canonical) := by
  have registered := RuleBook.registered_of_ofRules accepted
  refine ⟨historyBefore_zero, ?_, fun test record found => ofTest_historyBefore found,
    fun test => ⟨?_, fun code => ?_, fun code => ?_⟩, fun test fallback => ?_,
    fun test later isLater => growsTo_historyBefore registered isLater,
    fun canonical test => canonical_historyBefore canonical test⟩
  · rw [historyBefore, List.take_length]
  · exact tainted_historyBefore registered test
  · exact mem_suppressed_historyBefore registered code test
  · exact mem_shown_historyBefore registered code test
  · exact code_mem_shown_historyBefore registered fallback test

/-- A history in which a rule that is reported once has been shown, and a code is suppressed. -/
def continuedHistory : History := ⟨false, ["A"], ["TAINT"]⟩

/-- The rule that has been shown is passed over, so what it suppresses is not suppressed. The second
rule silences itself, but only once it was reported. -/
theorem historyBefore_summary_interferingRules :
    ∃ book, RuleBook.ofRules interferingRules = .ok book ∧
      (continued book continuedHistory [failedTest]).history =
        ⟨false, ["A", "B", "C"], ["B", "TAINT"]⟩ ∧
      (∃ earlier < 1, ∃ rule, Fires book continuedHistory [failedTest] earlier rule ∧
        "B" ∈ rule.suppresses) ∧
      ¬∃ earlier < 1, ∃ rule, Fires book continuedHistory [failedTest] earlier rule ∧
        "C" ∈ rule.suppresses := by
  have accepted : RuleBook.ofRules interferingRules = .ok _ := rfl
  obtain ⟨_, _, _, told, _⟩ := historyBefore_summary accepted continuedHistory [failedTest]
  obtain ⟨_, suppressed, _⟩ := told 1
  refine ⟨_, accepted, by cbv, ?_, ?_⟩
  · refine ((suppressed "B").mp ?_).resolve_left (by decide)
    exact List.contains_iff_mem.mp (by cbv)
  · refine mt (fun fired => (suppressed "C").mpr (.inr fired)) ?_
    exact mt List.contains_iff_mem.mpr (Bool.eq_false_iff.mp (by cbv))

end Diagnosis

end RunTriage
