import RunTriage.Proofs.Reporting
import RunTriage.Proofs.Tables

/-!
Contract: a rule that only informs changes nothing but its own findings.

Owns:
- `Rule.IsInformative`, the rules without consequences for a run;
- `History.AgreesBut`, which holds of two histories that differ at most in whether one code
  has been shown;
- the runs with and without such a rule, wherever it stands among the others.

Does not own: the findings of the rule itself, which other rules may silence.
-/

namespace RunTriage

/-- The rule only informs: it explains nothing, does not taint the run, and silences no code. -/
structure Rule.IsInformative (rule : Rule) : Prop where
  harmless : rule.harmless = true
  untainting : rule.taints = false
  silencesNothing : rule.suppresses = []

namespace History

/-! ## Histories that agree but for one code -/

/-- Both lists are sets in ascending order. -/
structure Canonical (history : History) : Prop where
  shown : sortedStrings history.shown = history.shown
  suppressed : sortedStrings history.suppressed = history.suppressed

theorem canonical_start : Canonical start := ⟨rfl, rfl⟩

theorem Canonical.markShown {history : History} (canonical : Canonical history) (code : String) :
    Canonical (history.markShown code) :=
  ⟨sortedStrings_sortedStrings _, canonical.suppressed⟩

theorem Canonical.apply {history : History} (canonical : Canonical history) (rule : Rule) :
    Canonical (history.apply rule) :=
  ⟨canonical.shown, sortedStrings_sortedStrings _⟩

/-- The second history is the first one without the reports of a code. -/
structure AgreesBut (code : String) (left right : History) : Prop where
  canonical : Canonical left
  tainted : left.tainted = right.tainted
  suppressed : left.suppressed = right.suppressed
  shown : left.shown.filter (fun shown => shown != code) = right.shown

theorem AgreesBut.atStart (code : String) : AgreesBut code start start :=
  ⟨canonical_start, rfl, rfl, rfl⟩

namespace AgreesBut

variable {code : String} {left right : History} {rule : Rule}

theorem isSuppressed (agrees : AgreesBut code left right) (other : String) :
    left.isSuppressed other = right.isSuppressed other := by
  rw [History.isSuppressed, History.isSuppressed, agrees.suppressed]

theorem hasShown (agrees : AgreesBut code left right) {other : String} (different : other ≠ code) :
    left.hasShown other = right.hasShown other := by
  rw [Bool.eq_iff_iff, History.hasShown, History.hasShown, ← agrees.shown]
  simp [different]

theorem fires? (agrees : AgreesBut code left right) (different : rule.code ≠ code)
    (record : TestRecord) : rule.fires? left record = rule.fires? right record := by
  rw [Rule.fires?, Rule.fires?, passesOver, passesOver, agrees.hasShown different]

theorem markShown (agrees : AgreesBut code left right) {other : String}
    (different : other ≠ code) :
    AgreesBut code (left.markShown other) (right.markShown other) where
  canonical := agrees.canonical.markShown other
  tainted := agrees.tainted
  suppressed := agrees.suppressed
  shown := by
    rw [History.markShown, filter_sortedStrings, List.filter_cons_of_pos (by simpa using different),
      agrees.shown]
    rfl

theorem markShown_self (agrees : AgreesBut code left right) :
    AgreesBut code (left.markShown code) right where
  canonical := agrees.canonical.markShown code
  tainted := agrees.tainted
  suppressed := agrees.suppressed
  shown := by
    rw [History.markShown, filter_sortedStrings, List.filter_cons_of_neg (by simp),
      ← filter_sortedStrings, agrees.canonical.shown, agrees.shown]

theorem apply (agrees : AgreesBut code left right) (rule : Rule) :
    AgreesBut code (left.apply rule) (right.apply rule) where
  canonical := agrees.canonical.apply rule
  tainted := by rw [tainted_apply, tainted_apply, agrees.tainted]
  suppressed := by rw [History.apply, History.apply, agrees.suppressed]
  shown := agrees.shown

theorem apply_informative (agrees : AgreesBut code left right) (informative : rule.IsInformative) :
    AgreesBut code (left.apply rule) right where
  canonical := agrees.canonical.apply rule
  tainted := by rw [tainted_apply, informative.untainting, Bool.or_false, agrees.tainted]
  suppressed := by
    rw [History.apply, informative.silencesNothing, List.append_nil, agrees.canonical.suppressed,
      agrees.suppressed]
  shown := agrees.shown

theorem historyAfter (agrees : AgreesBut code left right) (different : rule.code ≠ code) :
    AgreesBut code (Examination.historyAfter rule left) (Examination.historyAfter rule right) := by
  unfold Examination.historyAfter
  rw [agrees.isSuppressed]
  split
  · exact agrees.apply rule
  · exact (agrees.markShown different).apply rule

/-- An informative rule leaves no trace but the report of its code. -/
theorem historyAfter_informative (agrees : AgreesBut rule.code left right)
    (informative : rule.IsInformative) :
    AgreesBut rule.code (Examination.historyAfter rule left) right := by
  unfold Examination.historyAfter
  split
  · exact agrees.apply_informative informative
  · exact agrees.markShown_self.apply_informative informative

end AgreesBut

end History

/-! ## One test -/

/-- The rules without those of a code. -/
def withoutCode (code : String) (rules : List Rule) : List Rule :=
  rules.filter fun rule => rule.code != code

/-- The findings without those of a code. -/
def Finding.without (code : String) (findings : List Finding) : List Finding :=
  findings.filter fun finding => finding.code != code

theorem Finding.without_append (code : String) (front back : List Finding) :
    without code (front ++ back) = without code front ++ without code back :=
  List.filter_append _ _

theorem Examination.ofRules_withoutCode (record : TestRecord) {code : String} (rules : List Rule)
    (informative : ∀ rule ∈ rules, rule.code = code → rule.IsInformative) {left right : History}
    (agrees : left.AgreesBut code right) :
    let whole := ofRules record rules left
    let rest := ofRules record (withoutCode code rules) right
    Finding.without code whole.findings = rest.findings ∧ whole.explained = rest.explained ∧
      whole.history.AgreesBut code rest.history := by
  induction rules generalizing left right with
  | nil => exact ⟨rfl, rfl, agrees⟩
  | cons rule rules inductionHypothesis =>
    obtain ⟨ruleInformative, restInformative⟩ := List.forall_mem_cons.mp informative
    by_cases isExtra : rule.code = code
    · subst isExtra
      have absent : withoutCode rule.code (rule :: rules) = withoutCode rule.code rules := by
        simp [withoutCode]
      rw [absent]
      cases fires : rule.fires? left record with
      | none =>
        rw [ofRules_of_silent fires]
        exact inductionHypothesis restInformative agrees
      | some lines =>
        rw [ofRules_of_fires fires]
        have isInformative := ruleInformative rfl
        obtain ⟨findings, explained, history⟩ := inductionHypothesis restInformative
          (agrees.historyAfter_informative isInformative)
        have ownFindings : Finding.without rule.code (report record rule lines left) = [] := by
          unfold report Finding.without
          split <;> simp
        refine ⟨?_, ?_, history⟩
        · rw [← findings, Finding.without_append, ownFindings, List.nil_append]
        · rw [isInformative.harmless, ← explained]
          rfl
    · have kept : withoutCode code (rule :: rules) = rule :: withoutCode code rules := by
        simp [withoutCode, isExtra]
      rw [kept]
      have sameFiring := agrees.fires? isExtra record
      cases fires : rule.fires? left record with
      | none =>
        rw [ofRules_of_silent fires, ofRules_of_silent (sameFiring.symm.trans fires)]
        exact inductionHypothesis restInformative agrees
      | some lines =>
        rw [ofRules_of_fires fires, ofRules_of_fires (sameFiring.symm.trans fires)]
        obtain ⟨findings, explained, history⟩ := inductionHypothesis restInformative
          (agrees.historyAfter isExtra)
        have sameReport : Finding.without code (report record rule lines left) =
            report record rule lines right := by
          unfold report Finding.without
          rw [agrees.isSuppressed]
          split <;> simp [isExtra]
        refine ⟨?_, ?_, history⟩
        · rw [← findings, ← sameReport, Finding.without_append]
        · rw [explained]

namespace Diagnosis

variable {larger book : RuleBook} {code : String}

section WithoutCode

variable (largerRegistered : larger.Registered) (registered : book.Registered)
  (sameRules : book.rules = withoutCode code larger.rules)

include largerRegistered registered sameRules

theorem candidates_withoutCode (key : TestKey) :
    book.candidates key = withoutCode code (larger.candidates key) := by
  rw [registered.indexed.candidates_eq, largerRegistered.indexed.candidates_eq, sameRules,
    withoutCode, withoutCode, List.filter_filter, List.filter_filter]
  simp only [Bool.and_comm]

variable (informative : ∀ rule ∈ larger.rules, rule.code = code → rule.IsInformative)
  (unreserved : Fallback.isReserved code = false)

include informative unreserved

/-- Beside the run with the informative rule, the one without it finds the rest. -/
theorem simulates_withoutCode : Simulates (History.AgreesBut code)
    (fun findings others => Finding.without code findings = others) larger book := by
  intro left right agrees record
  have candidateInformative : ∀ rule ∈ larger.candidates record.key,
      rule.code = code → rule.IsInformative := fun rule member =>
    informative rule ((mem_candidates largerRegistered).mp member).1
  obtain ⟨findings, explained, history⟩ :=
    Examination.ofRules_withoutCode record _ candidateInformative agrees
  rw [← candidates_withoutCode largerRegistered registered sameRules] at findings explained history
  refine ⟨?_, history⟩
  have fallbacksStay (examination : Examination) :
      Finding.without code (remaining examination record) = remaining examination record := by
    refine List.filter_eq_self.mpr fun finding member => ?_
    have isFallback := isFallback_of_mem_remaining member
    rw [bne_iff_ne]
    rintro rfl
    rw [Finding.isFallback, unreserved] at isFallback
    cases isFallback
  have sameRemaining : remaining (examine larger left record) record =
      remaining (examine book right record) record := by
    rw [remaining, remaining, examine, examine, explained, history.tainted]
  show Finding.without code (ofTest larger left record).findings =
    (ofTest book right record).findings
  rw [findings_ofTest, findings_ofTest, Finding.without_append, fallbacksStay, sameRemaining,
    examine, examine, findings]

end WithoutCode

/-! ## One more rule -/

/-- A rule that only informs can be registered anywhere among other rules, and it changes nothing
but its own findings: all other findings of every test, the taint, the silenced codes, and the
other codes shown are the same without it. -/
theorem ofTests_insert_informative {before after : List Rule} {book : RuleBook} {extra : Rule}
    (accepted : RuleBook.ofRules (before ++ after) = .ok book) (admits : book.Admits extra)
    (informative : extra.IsInformative) :
    ∃ larger, RuleBook.ofRules (before ++ extra :: after) = .ok larger ∧
      ∀ tests,
        Finding.without extra.code (ofTests larger tests).findings =
            (ofTests book tests).findings ∧
          (∀ test, Finding.without extra.code (findingsAt larger .start tests test) =
            findingsAt book .start tests test) ∧
          (ofTests larger tests).history.tainted = (ofTests book tests).history.tainted ∧
          (ofTests larger tests).history.suppressed = (ofTests book tests).history.suppressed ∧
          (ofTests larger tests).history.shown.filter (fun code => code != extra.code) =
            (ofTests book tests).history.shown := by
  have rules := RuleBook.rules_of_ofRules accepted
  have unused : ∀ known ∈ before ++ after, known.code ≠ extra.code := rules ▸ admits.unused
  have registrable := ((RuleBook.exists_ofRules_iff.mp ⟨book, accepted⟩).cons
    ⟨admits.unreserved, by simp [RuleBook.empty], admits.symptoms⟩ unused).perm
      List.perm_middle.symm
  obtain ⟨larger, largerAccepted⟩ := RuleBook.exists_ofRules_iff.mpr registrable
  have largerRules := RuleBook.rules_of_ofRules largerAccepted
  have registered := RuleBook.registered_of_ofRules accepted
  have largerRegistered := RuleBook.registered_of_ofRules largerAccepted
  have others : withoutCode extra.code (before ++ after) = before ++ after :=
    List.filter_eq_self.mpr fun known member => bne_iff_ne.mpr (unused known member)
  have sameRules : book.rules = withoutCode extra.code larger.rules := by
    rw [rules, largerRules, ← others, withoutCode, withoutCode, List.filter_append,
      List.filter_append, List.filter_cons_of_neg (by simp)]
  have onlyExtra : ∀ rule ∈ larger.rules, rule.code = extra.code → rule.IsInformative := by
    intro rule member sameCode
    have isExtra := largerRegistered.eq_of_code member
      (largerRules ▸ List.mem_append_right before List.mem_cons_self) sameCode
    exact isExtra ▸ informative
  refine ⟨larger, largerAccepted, fun tests => ?_⟩
  have simulates := simulates_withoutCode largerRegistered registered sameRules onlyExtra
    admits.unreserved
  have history := simulates.history (.atStart extra.code) tests
  have perTest := simulates.findingsAt rfl (.atStart extra.code) tests
  refine ⟨?_, perTest, history.tainted, history.suppressed, history.shown⟩
  rw [ofTests, ofTests, findings_eq_flatMap_findingsAt, findings_eq_flatMap_findingsAt,
    Finding.without, List.filter_flatMap]
  exact congrArg (List.range tests.length).flatMap (funext perTest)

/-- A rule that is reported once and silences the next one, and a rule for the same failures. -/
def silencingRules : List Rule := [ruleForFailures "A" true ["H"], ruleForFailures "C" false []]

/-- A harmless rule for the same failures, which the other rules may silence. -/
def harmlessRule : Rule := { ruleForFailures "H" false [] with harmless := true }

/-- Of two equal failures the harmless rule in front is reported for the first one only, since it
is silenced then. -/
theorem ofTests_insert_harmlessRule :
    ∃ book larger, RuleBook.ofRules silencingRules = .ok book ∧
      RuleBook.ofRules (harmlessRule :: silencingRules) = .ok larger ∧
      (ofTests larger [failedTest, failedTest]).findings.map Finding.code =
        ["H", "A", "C", "C"] ∧
      Finding.without "H" (ofTests larger [failedTest, failedTest]).findings =
        (ofTests book [failedTest, failedTest]).findings := by
  have accepted : RuleBook.ofRules ([] ++ silencingRules) = .ok _ := rfl
  have unused : ∀ known ∈ silencingRules, known.code ≠ harmlessRule.code := by
    simp [silencingRules, harmlessRule, ruleForFailures, Rule.ofSymptoms]
  obtain ⟨larger, largerAccepted, unchanged⟩ := ofTests_insert_informative accepted
    (⟨by decide, unused, List.cons_ne_nil _ _⟩ : RuleBook.Admits _ harmlessRule) ⟨rfl, rfl, rfl⟩
  refine ⟨_, larger, accepted, largerAccepted, ?_, (unchanged [failedTest, failedTest]).1⟩
  cases largerAccepted
  cbv

end Diagnosis

end RunTriage
