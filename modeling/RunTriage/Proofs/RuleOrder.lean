import RunTriage.Proofs.Reporting
import RunTriage.Proofs.Tables

/-!
Contract: the order of two neighbouring rules, neither of which silences the other, matters
only for the order of their findings.

Owns:
- `Examination.ofRules_append`, which tries the rules of a list one part after the other;
- `Exchanged`, which holds of two lists that differ in the order of two neighbours;
- the runs of two collections that differ in the order of two neighbouring rules.

Does not own: rules that silence each other, of which the earlier one is heard.
-/

namespace RunTriage

/-! ## Histories -/

namespace History

theorem apply_comm (history : History) (first second : Rule) :
    (history.apply first).apply second = (history.apply second).apply first := by
  have suppressed : sortedStrings (sortedStrings (history.suppressed ++ first.suppresses) ++
      second.suppresses) = sortedStrings (sortedStrings (history.suppressed ++ second.suppresses) ++
        first.suppresses) := by
    refine sortedStrings_congr fun code => ?_
    simp only [List.mem_append, mem_sortedStrings]
    exact or_right_comm
  simp only [apply, suppressed, Bool.or_right_comm]

theorem markShown_comm (history : History) (first second : String) :
    (history.markShown first).markShown second = (history.markShown second).markShown first := by
  have shown : sortedStrings (second :: sortedStrings (first :: history.shown)) =
      sortedStrings (first :: sortedStrings (second :: history.shown)) := by
    refine sortedStrings_congr fun code => ?_
    simp only [List.mem_cons, mem_sortedStrings]
    exact or_left_comm
  simp only [markShown, shown]

/-- Marking a code and applying a rule touch different parts of a history. -/
theorem markShown_apply (history : History) (rule : Rule) (code : String) :
    (history.apply rule).markShown code = (history.markShown code).apply rule := rfl

end History

namespace Examination

/-- Neither rule silences the other one. -/
structure Independent (first second : Rule) : Prop where
  spared : second.code ∉ first.suppresses
  sparing : first.code ∉ second.suppresses

theorem Independent.symm {first second : Rule} (independent : Independent first second) :
    Independent second first := ⟨independent.sparing, independent.spared⟩

theorem isSuppressed_of_independent {first second : Rule} (independent : Independent first second)
    (history : History) :
    (historyAfter second history).isSuppressed first.code = history.isSuppressed first.code := by
  simp [independent.sparing]

/-- Two rules that do not silence each other leave the same history in either order. -/
theorem historyAfter_comm {first second : Rule} (independent : Independent first second)
    (history : History) :
    historyAfter second (historyAfter first history) =
      historyAfter first (historyAfter second history) := by
  have secondHeard := isSuppressed_of_independent independent.symm history
  have firstHeard := isSuppressed_of_independent independent history
  conv_lhs => rw [historyAfter, secondHeard]
  conv_rhs => rw [historyAfter, firstHeard]
  unfold historyAfter
  split <;> split <;>
    simp only [History.markShown_apply, History.apply_comm _ first second,
      History.markShown_comm _ first.code second.code]

/-! ## One rule -/

variable {record : TestRecord} {history : History} {rule : Rule}

/-- The finding of a rule that is tried on a test, if it is reported. -/
def findingOf? (record : TestRecord) (history : History) (rule : Rule) : Option Finding :=
  if rule.fires history record && !history.isSuppressed rule.code then some (rule.finding record)
  else none

/-- The history after a rule was tried on a test. -/
def historyPast (record : TestRecord) (rule : Rule) (history : History) : History :=
  if rule.fires history record then historyAfter rule history else history

theorem code_of_mem_findingOf? {finding : Finding}
    (member : finding ∈ findingOf? record history rule) : finding.code = rule.code := by
  unfold findingOf? at member
  split at member
  · cases member
    rfl
  · cases member

theorem ofRules_singleton (record : TestRecord) (rule : Rule) (history : History) :
    ofRules record [rule] history =
      { findings := (findingOf? record history rule).toList
        explained := rule.fires history record && !rule.harmless
        history := historyPast record rule history } := by
  cases fires : rule.fires? history record with
  | none =>
    have silent : rule.fires history record = false := by simp [Rule.fires, fires]
    simp [ofRules, fires, silent, findingOf?, historyPast]
  | some lines =>
    have isFiring : rule.fires history record = true := by simp [Rule.fires, fires]
    have isReport : report record rule lines history = (findingOf? record history rule).toList := by
      rw [report, findingOf?, isFiring, Rule.finding_of_fires? fires]
      cases history.isSuppressed rule.code <;> rfl
    simp [ofRules, fires, isFiring, isReport, historyPast]

/-! ## Several rules -/

/-- The rules of a list are tried part by part. -/
theorem ofRules_append (record : TestRecord) (front back : List Rule) (history : History) :
    ofRules record (front ++ back) history =
      { findings := (ofRules record front history).findings ++
          (ofRules record back (ofRules record front history).history).findings
        explained := (ofRules record front history).explained ||
          (ofRules record back (ofRules record front history).history).explained
        history := (ofRules record back (ofRules record front history).history).history } := by
  induction front generalizing history with
  | nil => simp [ofRules]
  | cons rule rest inductionHypothesis =>
    rw [List.cons_append]
    cases fires : rule.fires? history record with
    | none => rw [ofRules_of_silent fires, ofRules_of_silent fires, inductionHypothesis]
    | some lines =>
      rw [ofRules_of_fires fires, ofRules_of_fires fires, inductionHypothesis]
      simp only [List.append_assoc, Bool.or_assoc]

section Neighbours

variable {first second : Rule} (different : first.code ≠ second.code)
  (independent : Independent first second)

include different

theorem fires_historyPast :
    second.fires (historyPast record first history) record = second.fires history record := by
  unfold historyPast
  split
  · rw [Rule.fires, fires?_historyAfter different, Rule.fires]
  · rfl

include independent

theorem findingOf?_historyPast :
    findingOf? record (historyPast record first history) second =
      findingOf? record history second := by
  have sameSilence : (historyPast record first history).isSuppressed second.code =
      history.isSuppressed second.code := by
    unfold historyPast
    split
    · exact isSuppressed_of_independent independent.symm history
    · rfl
  rw [findingOf?, fires_historyPast different, sameSilence, findingOf?]

theorem historyPast_comm (record : TestRecord) (history : History) :
    historyPast record second (historyPast record first history) =
      historyPast record first (historyPast record second history) := by
  conv_lhs => rw [historyPast, fires_historyPast different]
  conv_rhs => rw [historyPast, fires_historyPast (Ne.symm different)]
  unfold historyPast
  split <;> split
  · exact historyAfter_comm independent history
  · rfl
  · rfl
  · rfl

/-- Trying one rule and then the other finds what each of them finds by itself. -/
theorem ofRules_pair (record : TestRecord) (history : History) :
    ofRules record [first, second] history =
      { findings := (findingOf? record history first).toList ++
          (findingOf? record history second).toList
        explained := (first.fires history record && !first.harmless) ||
          (second.fires history record && !second.harmless)
        history := historyPast record second (historyPast record first history) } := by
  have split : [first, second] = [first] ++ [second] := rfl
  rw [split, ofRules_append, ofRules_singleton, ofRules_singleton]
  simp only [findingOf?_historyPast different independent, fires_historyPast different]

end Neighbours

end Examination

/-! ## Neighbours in a list -/

/-- The lists differ at most in the order of a finding of one rule and a finding of another one,
which stand next to each other. -/
inductive Exchanged (first second : Rule) : List Finding → List Finding → Prop
  | intro (front back : List Finding) {ofFirst ofSecond : Option Finding}
      (isFirst : ∀ finding ∈ ofFirst, finding.code = first.code)
      (isSecond : ∀ finding ∈ ofSecond, finding.code = second.code) :
      Exchanged first second (front ++ (ofFirst.toList ++ ofSecond.toList ++ back))
        (front ++ (ofSecond.toList ++ ofFirst.toList ++ back))

namespace Exchanged

variable {first second : Rule} {left right : List Finding}

theorem refl (first second : Rule) (findings : List Finding) :
    Exchanged first second findings findings := by
  have nothing (code : String) : ∀ finding ∈ (none : Option Finding), finding.code = code :=
    fun finding member => absurd member (Option.not_mem_none finding)
  have unchanged := Exchanged.intro findings [] (nothing first.code) (nothing second.code)
  simpa using unchanged

theorem append (exchanged : Exchanged first second left right) (more : List Finding) :
    Exchanged first second (left ++ more) (right ++ more) := by
  cases exchanged with
  | intro front back isFirst isSecond =>
    rw [List.append_assoc front, List.append_assoc _ back, List.append_assoc front,
      List.append_assoc _ back]
    exact .intro front (back ++ more) isFirst isSecond

/-- The findings of fallbacks are not among those that are exchanged. -/
theorem fallbacks_eq (exchanged : Exchanged first second left right)
    (firstUnreserved : Fallback.isReserved first.code = false)
    (secondUnreserved : Fallback.isReserved second.code = false) :
    left.filter Finding.isFallback = right.filter Finding.isFallback := by
  cases exchanged with
  | @intro front back ofFirst ofSecond isFirst isSecond =>
    have noFirst : ofFirst.toList.filter Finding.isFallback = [] := by
      refine List.filter_eq_nil_iff.mpr fun finding member => ?_
      rw [Finding.isFallback, isFirst finding (Option.mem_toList.mp member), firstUnreserved]
      exact Bool.false_ne_true
    have noSecond : ofSecond.toList.filter Finding.isFallback = [] := by
      refine List.filter_eq_nil_iff.mpr fun finding member => ?_
      rw [Finding.isFallback, isSecond finding (Option.mem_toList.mp member), secondUnreserved]
      exact Bool.false_ne_true
    simp only [List.filter_append, noFirst, noSecond]

end Exchanged

/-! ## One test -/

/-- Two examinations differ at most in the order of the findings of two rules. -/
structure Examination.AgreesUpTo (first second : Rule) (left right : Examination) : Prop where
  findings : Exchanged first second left.findings right.findings
  explained : left.explained = right.explained
  history : left.history = right.history

namespace Examination

variable {first second : Rule} (different : first.code ≠ second.code)
  (independent : Independent first second)

include different independent

theorem ofRules_exchange (record : TestRecord) (front back : List Rule) (history : History) :
    AgreesUpTo first second (ofRules record (front ++ ([first, second] ++ back)) history)
      (ofRules record (front ++ ([second, first] ++ back)) history) := by
  simp only [ofRules_append, ofRules_pair different independent,
    ofRules_pair (Ne.symm different) independent.symm, historyPast_comm different independent]
  refine ⟨?_, ?_, rfl⟩
  · exact .intro _ _ (fun _ => code_of_mem_findingOf?) fun _ => code_of_mem_findingOf?
  · dsimp only
    rw [Bool.or_comm (first.fires _ _ && _)]

/-- The two rules stand next to each other among the rules for a test as well, if both of them
are tried on it. -/
theorem ofRules_filter_exchange (record : TestRecord) (front back : List Rule) (history : History)
    (keep : Rule → Bool) :
    AgreesUpTo first second
      (ofRules record ((front ++ first :: second :: back).filter keep) history)
      (ofRules record ((front ++ second :: first :: back).filter keep) history) := by
  simp only [List.filter_append, List.filter_cons]
  cases keepFirst : keep first <;> cases keepSecond : keep second
  · exact ⟨.refl _ _ _, rfl, rfl⟩
  · exact ⟨.refl _ _ _, rfl, rfl⟩
  · exact ⟨.refl _ _ _, rfl, rfl⟩
  · exact ofRules_exchange different independent record _ _ history

end Examination

namespace Diagnosis

variable {book exchanged : RuleBook} {front back : List Rule} {first second : Rule}

section Registered

variable (registered : book.Registered) (exchangedRegistered : exchanged.Registered)
  (rules : book.rules = front ++ first :: second :: back)
  (exchangedRules : exchanged.rules = front ++ second :: first :: back)
  (independent : Examination.Independent first second)

include registered rules in
theorem different_neighbours : first.code ≠ second.code := by
  have distinct := registered.distinct
  rw [rules, List.pairwise_append] at distinct
  exact (List.pairwise_cons.mp distinct.2.1).1 second List.mem_cons_self

include registered exchangedRegistered rules exchangedRules independent

theorem simulates_exchange : Simulates Eq (Exchanged first second) book exchanged := by
  rintro history _ rfl record
  have agrees := Examination.ofRules_filter_exchange (different_neighbours registered rules)
    independent record front back history fun rule => rule.appliesTo record.key
  rw [← rules, ← exchangedRules, ← registered.indexed.candidates_eq,
    ← exchangedRegistered.indexed.candidates_eq] at agrees
  have sameRemaining : remaining (examine book history record) record =
      remaining (examine exchanged history record) record := by
    rw [remaining, remaining, examine, examine, agrees.explained, agrees.history]
  refine ⟨?_, agrees.history⟩
  rw [findings_ofTest, findings_ofTest, sameRemaining]
  exact agrees.findings.append _

end Registered

/-! ## Two neighbouring rules -/

/-- Two neighbouring rules that do not silence each other can change places. Each test gets the
same findings, except that a finding of one of the two rules and a finding of the other one,
which stand next to each other, change places as well; it gets the same fallbacks; and the
history after the run is the same. -/
theorem ofTests_exchange_neighbours (accepted :
      RuleBook.ofRules (front ++ first :: second :: back) = .ok book)
    (spared : second.code ∉ first.suppresses) (sparing : first.code ∉ second.suppresses) :
    ∃ exchanged, RuleBook.ofRules (front ++ second :: first :: back) = .ok exchanged ∧
      ∀ tests,
        (∀ test,
          Exchanged first second (findingsAt book .start tests test)
              (findingsAt exchanged .start tests test) ∧
            (findingsAt book .start tests test).filter Finding.isFallback =
              (findingsAt exchanged .start tests test).filter Finding.isFallback) ∧
          (ofTests book tests).findings =
            (List.range tests.length).flatMap (findingsAt book .start tests) ∧
          (ofTests exchanged tests).findings =
            (List.range tests.length).flatMap (findingsAt exchanged .start tests) ∧
          (ofTests book tests).history = (ofTests exchanged tests).history := by
  have reordered : (front ++ first :: second :: back).Perm (front ++ second :: first :: back) :=
    (List.Perm.swap second first back).append_left front
  obtain ⟨exchanged, exchangedAccepted⟩ := RuleBook.exists_ofRules_iff.mpr
    ((RuleBook.exists_ofRules_iff.mp ⟨book, accepted⟩).perm reordered)
  have registered := RuleBook.registered_of_ofRules accepted
  have exchangedRegistered := RuleBook.registered_of_ofRules exchangedAccepted
  have rules := RuleBook.rules_of_ofRules accepted
  have exchangedRules := RuleBook.rules_of_ofRules exchangedAccepted
  have isFirst : first ∈ book.rules := by simp [rules]
  have isSecond : second ∈ book.rules := by simp [rules]
  have simulates := simulates_exchange registered exchangedRegistered rules exchangedRules
    ⟨spared, sparing⟩
  refine ⟨exchanged, exchangedAccepted, fun tests => ⟨fun test => ?_,
    findings_eq_flatMap_findingsAt, findings_eq_flatMap_findingsAt, simulates.history rfl tests⟩⟩
  have isExchanged := simulates.findingsAt (.refl first second []) (rfl : History.start = .start)
    tests test
  exact ⟨isExchanged, isExchanged.fallbacks_eq (registered.unreserved first isFirst)
    (registered.unreserved second isSecond)⟩

/-- Of the interfering rules, the one that is reported once and the one that silences itself can
change places. -/
theorem ofTests_exchange_interferingRules :
    let once := ruleForFailures "A" true ["C"]
    let selfSilencing := ruleForFailures "B" false ["B"]
    let tests := [failedTest, failedTest]
    ∃ book exchanged, RuleBook.ofRules interferingRules = .ok book ∧
      RuleBook.ofRules [selfSilencing, once, ruleForFailures "C" false []] = .ok exchanged ∧
      selfSilencing.code ∉ once.suppresses ∧ once.code ∉ selfSilencing.suppresses ∧
      (ofTests book tests).findings.map Finding.code = ["A", "B"] ∧
      (ofTests exchanged tests).findings.map Finding.code = ["B", "A"] ∧
      Exchanged once selfSilencing (findingsAt book .start tests 0)
        (findingsAt exchanged .start tests 0) ∧
      (ofTests book tests).history = (ofTests exchanged tests).history := by
  intro once selfSilencing tests
  obtain ⟨book, accepted⟩ : ∃ book, RuleBook.ofRules
      ([] ++ once :: selfSilencing :: [ruleForFailures "C" false []]) = .ok book := ⟨_, rfl⟩
  have spared : selfSilencing.code ∉ once.suppresses := by decide
  have sparing : once.code ∉ selfSilencing.suppresses := by decide
  obtain ⟨exchanged, exchangedAccepted, alike⟩ :=
    ofTests_exchange_neighbours accepted spared sparing
  obtain ⟨perTest, _, _, history⟩ := alike tests
  have codes : (ofTests book tests).findings.map Finding.code = ["A", "B"] := by
    cases accepted
    cbv
  have exchangedCodes : (ofTests exchanged tests).findings.map Finding.code = ["B", "A"] := by
    cases exchangedAccepted
    cbv
  exact ⟨book, exchanged, accepted, exchangedAccepted, spared, sparing, codes, exchangedCodes,
    (perTest 0).1, history⟩

end Diagnosis

end RunTriage
