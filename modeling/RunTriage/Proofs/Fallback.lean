import RunTriage.Proofs.Reporting

/-!
Contract: what a run reports for failures that no rule explains.

Owns:
- when a test is explained and when a run is tainted, told by the rules that fire;
- the fallbacks of each test, and the place they take among its findings;
- suppressing the code of a fallback, which changes no finding.

Does not own: the findings of rules, which are in `RunTriage.Proofs.Reporting`.
-/

namespace RunTriage

/-! ## Suppressing the code of a fallback -/

/-- The rule without the fallbacks among the codes that it suppresses. -/
def Rule.withoutReserved (rule : Rule) : Rule :=
  { rule with suppresses := rule.suppresses.filter fun code => !Fallback.isReserved code }

/-- Two histories differ at most in which fallbacks are suppressed. -/
structure History.Alike (left right : History) : Prop where
  tainted : left.tainted = right.tainted
  shown : left.shown = right.shown
  suppressed : ∀ code, Fallback.isReserved code = false →
    left.isSuppressed code = right.isSuppressed code

namespace History.Alike

variable {left right : History} {rule : Rule}

theorem refl (history : History) : Alike history history := ⟨rfl, rfl, fun _ _ => rfl⟩

theorem fires? (alike : Alike left right) (rule : Rule) (record : TestRecord) :
    rule.withoutReserved.fires? right record = rule.fires? left record := by
  have sameShown : right.hasShown rule.code = left.hasShown rule.code := by
    rw [hasShown, hasShown, alike.shown]
  simp only [Rule.fires?, passesOver, Rule.withoutReserved, sameShown]
  rfl

theorem markShown (alike : Alike left right) (code : String) :
    Alike (left.markShown code) (right.markShown code) :=
  ⟨alike.tainted, by simp [History.markShown, alike.shown], alike.suppressed⟩

theorem apply (alike : Alike left right) (rule : Rule) :
    Alike (left.apply rule) (right.apply rule.withoutReserved) := by
  refine ⟨?_, alike.shown, fun code unreserved => ?_⟩
  · rw [tainted_apply, tainted_apply, alike.tainted]
    rfl
  · simp [alike.suppressed code unreserved, Rule.withoutReserved, unreserved]

theorem historyAfter (alike : Alike left right)
    (unreserved : Fallback.isReserved rule.code = false) :
    Alike (Examination.historyAfter rule left)
      (Examination.historyAfter rule.withoutReserved right) := by
  have sameCode : rule.withoutReserved.code = rule.code := rfl
  unfold Examination.historyAfter
  rw [sameCode, ← alike.suppressed rule.code unreserved]
  split
  · exact alike.apply rule
  · exact (alike.markShown rule.code).apply rule

end History.Alike

/-- Trying rules without their suppressed fallbacks finds the same, and leaves a history
that differs at most in suppressed fallbacks. -/
theorem Examination.ofRules_withoutReserved (record : TestRecord) (rules : List Rule)
    (unreserved : ∀ rule ∈ rules, Fallback.isReserved rule.code = false)
    {left right : History} (alike : left.Alike right) :
    (ofRules record (rules.map Rule.withoutReserved) right).findings =
        (ofRules record rules left).findings ∧
      (ofRules record (rules.map Rule.withoutReserved) right).explained =
        (ofRules record rules left).explained ∧
      (ofRules record rules left).history.Alike
        (ofRules record (rules.map Rule.withoutReserved) right).history := by
  induction rules generalizing left right with
  | nil => exact ⟨rfl, rfl, alike⟩
  | cons rule rest inductionHypothesis =>
    have ruleUnreserved := unreserved rule List.mem_cons_self
    have restUnreserved := fun other member => unreserved other (List.mem_cons_of_mem rule member)
    rw [List.map_cons]
    cases found : rule.fires? left record with
    | none =>
      rw [ofRules_of_silent found, ofRules_of_silent ((alike.fires? rule record).trans found)]
      exact inductionHypothesis restUnreserved alike
    | some lines =>
      obtain ⟨findings, explained, history⟩ :=
        inductionHypothesis restUnreserved (alike.historyAfter ruleUnreserved)
      rw [ofRules_of_fires found, ofRules_of_fires ((alike.fires? rule record).trans found)]
      refine ⟨?_, ?_, history⟩
      · have sameReport : report record rule.withoutReserved lines right =
            report record rule lines left := by
          unfold report
          rw [alike.suppressed rule.code ruleUnreserved]
          rfl
        simp only [sameReport, findings]
      · simp only [explained]
        rfl

namespace Diagnosis

variable {book pruned : RuleBook} {start : History} {tests : List TestRecord}

theorem candidates_withoutReserved (registered : book.Registered)
    (prunedRegistered : pruned.Registered)
    (sameRules : pruned.rules = book.rules.map Rule.withoutReserved) (key : TestKey) :
    pruned.candidates key = (book.candidates key).map Rule.withoutReserved := by
  rw [prunedRegistered.indexed.candidates_eq, registered.indexed.candidates_eq, sameRules,
    List.filter_map]
  rfl

/-- The findings of a test are the same without the suppressed fallbacks. -/
theorem simulates_withoutReserved (registered : book.Registered)
    (prunedRegistered : pruned.Registered)
    (sameRules : pruned.rules = book.rules.map Rule.withoutReserved) :
    Simulates History.Alike Eq book pruned := by
  intro left right alike record
  have unreserved : ∀ rule ∈ book.candidates record.key,
      Fallback.isReserved rule.code = false := fun rule member =>
    registered.unreserved rule ((mem_candidates registered).mp member).1
  obtain ⟨findings, explained, history⟩ :=
    Examination.ofRules_withoutReserved record (book.candidates record.key) unreserved alike
  rw [← candidates_withoutReserved registered prunedRegistered sameRules]
    at findings explained history
  refine ⟨?_, history⟩
  rw [findings_ofTest, findings_ofTest, remaining, remaining, examine, examine, findings,
    explained, history.tainted]

theorem findingsAt_withoutReserved (registered : book.Registered)
    (prunedRegistered : pruned.Registered)
    (sameRules : pruned.rules = book.rules.map Rule.withoutReserved) (start : History)
    (tests : List TestRecord) (test : Nat) :
    findingsAt pruned start tests test = findingsAt book start tests test :=
  ((simulates_withoutReserved registered prunedRegistered sameRules).findingsAt rfl (.refl start)
    tests test).symm

theorem registrable_withoutReserved {rules : List Rule} (registrable : RuleBook.Registrable rules) :
    RuleBook.Registrable (rules.map Rule.withoutReserved) := by
  refine ⟨List.pairwise_map.mpr registrable.distinct, fun rule member => ?_⟩
  obtain ⟨original, isOriginal, rfl⟩ := List.mem_map.mp member
  have admits := registrable.alone original isOriginal
  exact ⟨admits.unreserved, admits.unused, admits.symptoms⟩

/-! ## Explanation and taint -/

/-- A rule that is not harmless fires on the test, reported or not. -/
def Explained (book : RuleBook) (start : History) (tests : List TestRecord) (test : Nat) : Prop :=
  ∃ rule, Fires book start tests test rule ∧ rule.harmless = false

/-- A tainting rule has fired by the end of the test, on this test or an earlier one,
reported or not. -/
def TaintedBy (book : RuleBook) (start : History) (tests : List TestRecord) (test : Nat) : Prop :=
  ∃ earlier ≤ test, ∃ rule, Fires book start tests earlier rule ∧ rule.taints = true

section Registered

variable (registered : book.Registered)

include registered

theorem explained_iff (start : History) {test : Nat} {record : TestRecord}
    (found : tests[test]? = some record) :
    (examine book (historyBefore book start tests test) record).explained = true ↔
      Explained book start tests test := by
  rw [(summary_examine registered _ record).explained, exists_fires_iff registered found, Explained]

theorem tainted_iff (start : History) {test : Nat} {record : TestRecord}
    (found : tests[test]? = some record) :
    (examine book (historyBefore book start tests test) record).history.tainted = true ↔
      start.tainted = true ∨ TaintedBy book start tests test := by
  rw [← historyBefore_succ found, tainted_historyBefore registered]
  simp only [Nat.lt_succ_iff, TaintedBy]

end Registered

/-! ## The fallbacks of a test -/

/-- The outcomes that ask for an explanation; one that is not known does so too. -/
def failingOutcomes : List (Option Outcome) :=
  [none, some .failed, some .error, some .expectedFailure]

theorem needsExplanation_iff (record : TestRecord) :
    record.needsExplanation = true ↔ record.outcome ∈ failingOutcomes := by
  cases outcome : record.outcome with
  | none => simp [TestRecord.needsExplanation, failingOutcomes, outcome]
  | some known => cases known <;> simp [TestRecord.needsExplanation, failingOutcomes, outcome,
      Outcome.isBenign]

theorem teardownFailed_iff (record : TestRecord) :
    record.teardownFailed = true ↔ record.teardownOutcome = some .error := by
  simp [TestRecord.teardownFailed]

open Classical in
/-- The findings of a test: those of its rules, then the fallback for the test, then
the fallback for its teardown. -/
theorem findingsAt_eq_append (registered : book.Registered) {test : Nat} {record : TestRecord}
    (found : tests[test]? = some record) (untainted : start.tainted = false) :
    findingsAt book start tests test =
      ((findingsAt book start tests test).filter fun finding => !finding.isFallback) ++
        ((if ¬Explained book start tests test ∧ record.outcome ∈ failingOutcomes then
          [⟨record, if TaintedBy book start tests test then "TAINT" else "UNKNOWN",
            likelyEvidence record.messages⟩]
        else []) ++
        if ¬Explained book start tests test ∧ record.teardownOutcome = some .error then
          [⟨record, if TaintedBy book start tests test then "TAINT-TD" else "UNKNOWN-TD",
            likelyEvidence (record.teardown.getD [])⟩]
        else []) := by
  have explained := explained_iff registered start found
  have tainted := tainted_iff registered start found
  rw [untainted] at tainted
  rw [findingsAt_of_getElem? found, filter_not_isFallback registered, findings_ofTest, remaining]
  by_cases isExplained : Explained book start tests test
  · simp [explained.mpr isExplained, isExplained]
  · have notExplained := Bool.eq_false_iff.mpr (mt explained.mp isExplained)
    simp only [notExplained, fallbacks, needsExplanation_iff, teardownFailed_iff, isExplained]
    by_cases isTainted : TaintedBy book start tests test
    · have afterTaint := tainted.mpr (.inr isTainted)
      simp [afterTaint, isTainted, Fallback.ofTest, Fallback.ofTeardown, Fallback.code]
    · have noTaint := Bool.eq_false_iff.mpr (mt tainted.mp (by simpa using isTainted))
      simp [noTaint, isTainted, Fallback.ofTest, Fallback.ofTeardown, Fallback.code]

/-- Once a tainting rule has fired, no failure is reported as unknown. -/
theorem code_ne_unknown (registered : book.Registered) (untainted : start.tainted = false)
    {test : Nat} (tainted : TaintedBy book start tests test) {finding : Finding}
    (member : finding ∈ findingsAt book start tests test) :
    finding.code ≠ "UNKNOWN" ∧ finding.code ≠ "UNKNOWN-TD" := by
  cases found : tests[test]? with
  | none =>
    rw [findingsAt_of_none found] at member
    cases member
  | some record =>
    rw [findingsAt_eq_append registered found untainted, List.mem_append, List.mem_append]
      at member
    rcases member with ofRule | ofTest | ofTeardown
    · have unreserved : Fallback.isReserved finding.code = false := by
        simpa [Finding.isFallback] using (List.mem_filter.mp ofRule).2
      constructor
      · intro isUnknown
        rw [isUnknown] at unreserved
        exact absurd unreserved (by decide)
      · intro isUnknown
        rw [isUnknown] at unreserved
        exact absurd unreserved (by decide)
    · split at ofTest
      · rw [List.mem_singleton.mp ofTest]
        show "TAINT" ≠ "UNKNOWN" ∧ "TAINT" ≠ "UNKNOWN-TD"
        decide
      · cases ofTest
    · split at ofTeardown
      · rw [List.mem_singleton.mp ofTeardown]
        show "TAINT-TD" ≠ "UNKNOWN" ∧ "TAINT-TD" ≠ "UNKNOWN-TD"
        decide
      · cases ofTeardown

theorem TaintedBy.mono {test later : Nat} (tainted : TaintedBy book start tests test)
    (isLater : test ≤ later) : TaintedBy book start tests later := by
  obtain ⟨earlier, isEarlier, rule, fires, taints⟩ := tainted
  exact ⟨earlier, Nat.le_trans isEarlier isLater, rule, fires, taints⟩

/-- A failure for which nothing is reported is explained by a rule that was silenced. -/
theorem exists_silenced_of_findingsAt_eq_nil (registered : book.Registered)
    (untainted : start.tainted = false) (heardAll : start.suppressed = [])
    {test : Nat} {record : TestRecord} (found : tests[test]? = some record)
    (failed : record.outcome ∈ failingOutcomes ∨ record.teardownOutcome = some .error)
    (nothing : findingsAt book start tests test = []) :
    ∃ rule, Fires book start tests test rule ∧ rule.harmless = false ∧
      Silenced book start tests test rule := by
  have parts := findingsAt_eq_append registered found untainted
  have explained : Explained book start tests test := by
    refine Classical.byContradiction fun notExplained => ?_
    rw [nothing, eq_comm, List.append_eq_nil_iff, List.append_eq_nil_iff] at parts
    obtain ⟨_, noFallback, noTeardownFallback⟩ := parts
    rcases failed with testFailed | teardownFailed
    · rw [if_pos ⟨notExplained, testFailed⟩] at noFallback
      cases noFallback
    · rw [if_pos ⟨notExplained, teardownFailed⟩] at noTeardownFallback
      cases noTeardownFallback
  obtain ⟨rule, fires, harmful⟩ := explained
  refine ⟨rule, fires, harmful, ?_⟩
  refine Classical.byContradiction fun notSilenced => ?_
  obtain ⟨reported, _, members, shown⟩ := findings_of_rules registered start found
  have heard : start.isSuppressed rule.code = false := by simp [History.isSuppressed, heardAll]
  have isReported := (members rule).mpr ⟨fires, heard, notSilenced⟩
  rw [nothing, List.filter_nil, eq_comm, List.map_eq_nil_iff] at shown
  rw [shown] at isReported
  cases isReported

open Classical in
/-- A test gets at most one fallback for itself and one for its teardown, after the
findings of its rules, and exactly if no rule that is not harmless fires on it. They tell
of a taint exactly if a tainting rule has fired by then. Suppressing a fallback changes
nothing, and a failure without any finding is one that a silenced rule explains. -/
theorem fallbacks_exact {rules : List Rule} {book : RuleBook}
    (accepted : RuleBook.ofRules rules = .ok book) (tests : List TestRecord) :
    (ofTests book tests).findings =
        (List.range tests.length).flatMap (findingsAt book .start tests) ∧
      (∀ test record, tests[test]? = some record →
        findingsAt book .start tests test =
          ((findingsAt book .start tests test).filter fun finding => !finding.isFallback) ++
            ((if ¬Explained book .start tests test ∧ record.outcome ∈ failingOutcomes then
              [⟨record, if TaintedBy book .start tests test then "TAINT" else "UNKNOWN",
                likelyEvidence record.messages⟩]
            else []) ++
            if ¬Explained book .start tests test ∧ record.teardownOutcome = some .error then
              [⟨record, if TaintedBy book .start tests test then "TAINT-TD" else "UNKNOWN-TD",
                likelyEvidence (record.teardown.getD [])⟩]
            else [])) ∧
      (∀ test, TaintedBy book .start tests test → ∀ later ≥ test,
        ∀ finding ∈ findingsAt book .start tests later,
          finding.code ≠ "UNKNOWN" ∧ finding.code ≠ "UNKNOWN-TD") ∧
      (∃ pruned, RuleBook.ofRules (rules.map Rule.withoutReserved) = .ok pruned ∧
        (ofTests pruned tests).findings = (ofTests book tests).findings ∧
        ∀ test, findingsAt pruned .start tests test = findingsAt book .start tests test) ∧
      ∀ test record, tests[test]? = some record →
        (record.outcome ∈ failingOutcomes ∨ record.teardownOutcome = some .error) →
        findingsAt book .start tests test = [] →
        ∃ rule, Fires book .start tests test rule ∧ rule.harmless = false ∧
          Silenced book .start tests test rule := by
  have registered := RuleBook.registered_of_ofRules accepted
  have untainted : History.start.tainted = false := rfl
  refine ⟨findings_eq_flatMap_findingsAt, fun test record found => ?_,
    fun test tainted later isLater finding member => ?_, ?_,
    fun test record found failed nothing => ?_⟩
  · exact findingsAt_eq_append registered found untainted
  · exact code_ne_unknown registered untainted (tainted.mono isLater) member
  · obtain ⟨pruned, prunedAccepted⟩ := RuleBook.exists_ofRules_iff.mpr
      (registrable_withoutReserved (RuleBook.exists_ofRules_iff.mp ⟨book, accepted⟩))
    have sameRules : pruned.rules = book.rules.map Rule.withoutReserved := by
      rw [RuleBook.rules_of_ofRules prunedAccepted, RuleBook.rules_of_ofRules accepted]
    have sameFindings := findingsAt_withoutReserved registered
      (RuleBook.registered_of_ofRules prunedAccepted) sameRules .start tests
    refine ⟨pruned, prunedAccepted, ?_, sameFindings⟩
    rw [ofTests, ofTests, findings_eq_flatMap_findingsAt, findings_eq_flatMap_findingsAt]
    exact congrArg (List.range tests.length).flatMap (funext sameFindings)
  · exact exists_silenced_of_findingsAt_eq_nil registered untainted rfl found failed nothing

/-- A harmless rule that taints the run and suppresses a fallback, and a rule that
explains errors but silences itself. -/
def taintingRules : List Rule :=
  [{ ruleForFailures "H" false ["TAINT"] with harmless := true, taints := true },
    { ruleForFailures "S" false ["S"] with symptoms := [.outcome [.error]] }]

/-- A test of unknown outcome, a failure in test and teardown, and two errors. -/
def variedTests : List TestRecord :=
  [{ failedTest with outcome := none },
    { failedTest with teardownOutcome := some .error },
    { failedTest with outcome := some .error },
    { failedTest with outcome := some .error }]

/-- The suppressed fallback is reported all the same, and the last error, for which
nothing is reported, is explained by the rule that has silenced itself. -/
theorem fallbacks_of_taintingRules :
    ∃ book, RuleBook.ofRules taintingRules = .ok book ∧
      (ofTests book variedTests).findings.map Finding.code =
        ["UNKNOWN", "H", "TAINT", "TAINT-TD", "S"] ∧
      ∃ rule, Fires book .start variedTests 3 rule ∧ rule.harmless = false ∧
        Silenced book .start variedTests 3 rule := by
  have accepted : RuleBook.ofRules taintingRules = .ok _ := rfl
  obtain ⟨_, _, _, _, silenced⟩ := fallbacks_exact accepted variedTests
  refine ⟨_, accepted, by cbv, silenced 3 { failedTest with outcome := some .error } rfl ?_ ?_⟩
  · exact .inl (by decide)
  · cbv

end Diagnosis

end RunTriage
