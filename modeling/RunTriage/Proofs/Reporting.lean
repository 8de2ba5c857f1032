import Mathlib.Data.List.Permutation
import RunTriage.Proofs.Firing

/-!
Contract: which rules a run reports.

Owns:
- the findings of rules on each test: those of the rules that fire and are not
  silenced, in the order of registration;
- the bounds that follow for rules of which one report is enough, and for silenced
  codes.

Does not own: the findings of fallbacks, which are in `RunTriage.Proofs.Fallback`.
-/

namespace RunTriage.Diagnosis

variable {book : RuleBook} {start : History} {tests : List TestRecord}

section Registered

variable (registered : book.Registered)

include registered

theorem pair_sublist_candidates {key : TestKey} {first second : Rule}
    (isFirst : first ∈ book.candidates key) (isSecond : second ∈ book.candidates key) :
    [first, second].Sublist (book.candidates key) ↔ book.Precedes first second := by
  rw [registered.indexed.candidates_eq] at isFirst isSecond ⊢
  refine ⟨fun ordered => ordered.trans List.filter_sublist, fun ordered => ?_⟩
  have kept := ordered.filter fun rule => rule.appliesTo key
  rwa [List.filter_eq_self.mpr] at kept
  intro rule member
  have isEither : rule = first ∨ rule = second := by simpa using member
  rcases isEither with rfl | rfl
  · exact (List.mem_filter.mp isFirst).2
  · exact (List.mem_filter.mp isSecond).2

/-- A rule is reported for a test if it fires and nothing has silenced it. -/
theorem reports_iff {test : Nat} {record : TestRecord} (found : tests[test]? = some record)
    (rule : Rule) :
    Examination.Reports record (book.candidates record.key)
        (historyBefore book start tests test) rule ↔
      Fires book start tests test rule ∧ start.isSuppressed rule.code = false ∧
        ¬Silenced book start tests test rule := by
  constructor
  · rintro ⟨member, fires, heard, unsilenced⟩
    have notBefore := mt (isSuppressed_historyBefore registered rule.code test).mpr
      (Bool.eq_false_iff.mp heard)
    refine ⟨(fires_iff registered found rule).mpr ⟨member, fires⟩,
      Bool.eq_false_iff.mpr fun initially => notBefore (.inl initially), ?_⟩
    rintro ⟨earlier, other, otherFires, suppresses, isEarlier | ⟨rfl, before⟩⟩
    · exact notBefore (.inr ⟨earlier, isEarlier, other, otherFires, suppresses⟩)
    · obtain ⟨otherMember, otherFires⟩ := (fires_iff registered found other).mp otherFires
      have ordered := (pair_sublist_candidates registered otherMember member).mpr before
      exact unsilenced other ordered otherFires suppresses
  · rintro ⟨ruleFires, initially, notSilenced⟩
    obtain ⟨member, fires⟩ := (fires_iff registered found rule).mp ruleFires
    refine ⟨member, fires, Bool.eq_false_iff.mpr fun silenced => ?_, ?_⟩
    · rcases (isSuppressed_historyBefore registered rule.code test).mp silenced with
        atStart | ⟨earlier, isEarlier, other, otherFires, suppresses⟩
      · exact Bool.eq_false_iff.mp initially atStart
      · exact notSilenced ⟨earlier, other, otherFires, suppresses, .inl isEarlier⟩
    · intro other ordered otherFires suppresses
      have otherMember : other ∈ book.candidates record.key := ordered.subset (by simp)
      exact notSilenced ⟨test, other, (fires_iff registered found other).mpr
        ⟨otherMember, otherFires⟩, suppresses,
        .inr ⟨rfl, (pair_sublist_candidates registered otherMember member).mp ordered⟩⟩

/-- The findings of rules on a test, in the order of registration. -/
theorem findings_of_rules (start : History) {test : Nat} {record : TestRecord}
    (found : tests[test]? = some record) :
    ∃ reported : List Rule, reported.Sublist book.rules ∧
      (∀ rule, rule ∈ reported ↔
        Fires book start tests test rule ∧ start.isSuppressed rule.code = false ∧
          ¬Silenced book start tests test rule) ∧
      ((findingsAt book start tests test).filter fun finding => !finding.isFallback) =
        reported.map (Rule.finding record) := by
  obtain ⟨reported, ordered, members, shown⟩ := Examination.findings_ofRules record
    (book.candidates record.key) (historyBefore book start tests test)
    (candidates_pairwise registered record.key)
  refine ⟨reported, ?_, fun rule => (members rule).trans (reports_iff registered found rule), ?_⟩
  · rw [registered.indexed.candidates_eq] at ordered
    exact ordered.trans List.filter_sublist
  · rw [findingsAt_of_getElem? found, filter_not_isFallback registered, examine, shown]

/-! ## How often a rule is reported -/

/-- A finding with the code of a rule comes from this rule, which has fired unsilenced. -/
theorem fires_of_mem_findingsAt {test : Nat} {rule : Rule} (inBook : rule ∈ book.rules)
    {finding : Finding} (member : finding ∈ findingsAt book start tests test)
    (sameCode : finding.code = rule.code) :
    Fires book start tests test rule ∧ ¬Silenced book start tests test rule := by
  cases found : tests[test]? with
  | none =>
    rw [findingsAt_of_none found] at member
    cases member
  | some record =>
    obtain ⟨reported, ordered, members, shown⟩ :=
      findings_of_rules registered start found
    have unreserved : finding.isFallback = false := by
      rw [Finding.isFallback, sameCode]
      exact registered.unreserved rule inBook
    have fromRule : finding ∈ reported.map (Rule.finding record) := by
      rw [← shown, List.mem_filter]
      exact ⟨member, by simp [unreserved]⟩
    obtain ⟨source, sourceMember, rfl⟩ := List.mem_map.mp fromRule
    have same : source = rule :=
      registered.eq_of_code (ordered.subset sourceMember) inBook sameCode
    obtain ⟨fires, _, heard⟩ := (members source).mp sourceMember
    exact same ▸ ⟨fires, heard⟩

/-- A rule is reported at most once for a test. -/
theorem count_findingsAt_le_one {rule : Rule} (inBook : rule ∈ book.rules) (test : Nat) :
    ((findingsAt book start tests test).map Finding.code).count rule.code ≤ 1 := by
  cases found : tests[test]? with
  | none => simp [findingsAt_of_none found]
  | some record =>
    obtain ⟨reported, ordered, _, shown⟩ := findings_of_rules registered start found
    have onlyRules : ((findingsAt book start tests test).map Finding.code).count rule.code =
        ((reported.map (Rule.finding record)).map Finding.code).count rule.code := by
      rw [← shown, List.count_eq_countP, List.count_eq_countP, List.countP_map, List.countP_map,
        List.countP_filter]
      refine List.countP_congr fun finding _ => ?_
      have unreserved := registered.unreserved rule inBook
      by_cases same : finding.code = rule.code <;> simp [Finding.isFallback, same, unreserved]
    have distinct : ((reported.map (Rule.finding record)).map Finding.code).Nodup := by
      rw [List.map_map, List.Nodup, List.pairwise_map]
      exact registered.distinct.sublist ordered
    rw [onlyRules]
    exact List.nodup_iff_count.mp distinct rule.code

/-- A rule of which one report is enough is reported at most once in a run. -/
theorem count_findings_le_one {rule : Rule} (inBook : rule ∈ book.rules)
    (onlyOnce : rule.onlyOnce = true) (count : Nat) :
    (((List.range count).flatMap (findingsAt book start tests)).map Finding.code).count
      rule.code ≤ 1 := by
  induction count with
  | zero => simp
  | succ test inductionHypothesis =>
    rw [List.range_succ, List.flatMap_append, List.map_append, List.count_append,
      List.flatMap_singleton]
    by_cases reported : ReportedBefore book start tests test rule.code
    · have absent : rule.code ∉ (findingsAt book start tests test).map Finding.code := by
        intro present
        obtain ⟨finding, member, sameCode⟩ := List.mem_map.mp present
        obtain ⟨record, _, _, _, _, notPassed⟩ :=
          (fires_of_mem_findingsAt registered inBook member sameCode).1
        exact notPassed ⟨onlyOnce, .inr reported⟩
      rw [List.count_eq_zero_of_not_mem absent]
      exact inductionHypothesis
    · have absent : rule.code ∉
          ((List.range test).flatMap (findingsAt book start tests)).map Finding.code := by
        intro present
        obtain ⟨finding, member, sameCode⟩ := List.mem_map.mp present
        obtain ⟨earlier, inRange, member⟩ := List.mem_flatMap.mp member
        exact reported ⟨earlier, List.mem_range.mp inRange, finding, member, sameCode⟩
      rw [List.count_eq_zero_of_not_mem absent, Nat.zero_add]
      exact count_findingsAt_le_one registered inBook test

end Registered

/-! ## The findings of rules over a run -/

/-- The rules reported for the tests of a run are exactly those that fire and are not
silenced, in the order of tests and of registration, each at most once for a test and
with the lines that make it fire. A rule of which one report is enough is reported at
most once in the run, and a silenced code never. -/
theorem findings_of_rules_exact {rules : List Rule} {book : RuleBook}
    (accepted : RuleBook.ofRules rules = .ok book) (tests : List TestRecord) :
    (ofTests book tests).findings =
        (List.range tests.length).flatMap (findingsAt book .start tests) ∧
      (∀ test record, tests[test]? = some record →
        ∃ reported : List Rule, reported.Sublist rules ∧
          (∀ rule, rule ∈ reported ↔
            Fires book .start tests test rule ∧ ¬Silenced book .start tests test rule) ∧
          (∀ rule ∈ reported,
            rule.evidence? record = some (Rule.finding record rule).lines) ∧
          ((findingsAt book .start tests test).filter fun finding => !finding.isFallback) =
            reported.map (Rule.finding record)) ∧
      (∀ rule ∈ rules, ∀ test,
        ((findingsAt book .start tests test).map Finding.code).count rule.code ≤ 1) ∧
      (∀ rule ∈ rules, rule.onlyOnce = true →
        ((ofTests book tests).findings.map Finding.code).count rule.code ≤ 1) ∧
      (∀ rule ∈ rules, ∀ test, Silenced book .start tests test rule →
        ∀ finding ∈ findingsAt book .start tests test, finding.code ≠ rule.code) := by
  have registered := RuleBook.registered_of_ofRules accepted
  rw [← RuleBook.rules_of_ofRules accepted, ofTests, findings_eq_flatMap_findingsAt]
  refine ⟨rfl, fun test record found => ?_, fun rule inBook => ?_, fun rule inBook onlyOnce => ?_,
    fun rule inBook test silenced finding member sameCode => ?_⟩
  · obtain ⟨reported, ordered, members, shown⟩ :=
      findings_of_rules registered .start found
    have fromStart : History.start.isSuppressed = fun _ => false := rfl
    simp only [fromStart, true_and] at members
    refine ⟨reported, ordered, members, fun rule member => ?_, shown⟩
    obtain ⟨other, same, _, _, fires, _⟩ := ((members rule).mp member).1
    rw [found] at same
    cases same
    obtain ⟨lines, isEvidence⟩ := Option.isSome_iff_exists.mp fires
    simp [Rule.finding, isEvidence]
  · exact count_findingsAt_le_one registered inBook
  · exact count_findings_le_one registered inBook onlyOnce tests.length
  · exact (fires_of_mem_findingsAt registered inBook member sameCode).2 silenced

/-- A rule that fires on every failed test. -/
def ruleForFailures (code : String) (onlyOnce : Bool) (suppresses : List String) : Rule :=
  { Rule.ofSymptoms code code .everywhere [.outcome [.failed]] with
    onlyOnce := onlyOnce
    suppresses := suppresses }

/-- A rule that is reported once and silences the last one, a rule that silences itself,
and a rule that is never heard. -/
def interferingRules : List Rule :=
  [ruleForFailures "A" true ["C"], ruleForFailures "B" false ["B"], ruleForFailures "C" false []]

def failedTest : TestRecord := { TestRecord.ofId ⟨"a.py", "t", none⟩ with outcome := some .failed }

/-- Of two equal failures only the first is reported, and the last rule not at all. -/
theorem findings_of_interferingRules :
    ∃ book, RuleBook.ofRules interferingRules = .ok book ∧
      (ofTests book [failedTest, failedTest]).findings.map Finding.code = ["A", "B"] ∧
      (∀ rule ∈ interferingRules, rule.onlyOnce = true →
        ((ofTests book [failedTest, failedTest]).findings.map Finding.code).count rule.code ≤ 1) ∧
      ∃ reported : List Rule, reported.Sublist interferingRules ∧
        (∀ rule, rule ∈ reported ↔ Fires book .start [failedTest, failedTest] 1 rule ∧
          ¬Silenced book .start [failedTest, failedTest] 1 rule) ∧
        reported.map (Rule.finding failedTest) = [] := by
  have accepted : RuleBook.ofRules interferingRules = .ok _ := rfl
  obtain ⟨_, perTest, _, onlyOnce, _⟩ :=
    findings_of_rules_exact accepted [failedTest, failedTest]
  obtain ⟨reported, ordered, members, _, shown⟩ := perTest 1 failedTest rfl
  refine ⟨_, accepted, by cbv, onlyOnce, reported, ordered, members, ?_⟩
  rw [← shown]
  cbv

end RunTriage.Diagnosis
