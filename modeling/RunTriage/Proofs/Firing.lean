import RunTriage.Proofs.Examination
import RunTriage.Proofs.Registration

/-!
Contract: which rules fire on the tests of a run.

Owns:
- firing and silencing, told by the findings of earlier tests alone;
- the history before each test, which holds exactly the reports, the silenced codes
  and the taint of the tests before it;
- `Simulates`, which compares the runs of two collections test by test.

Does not own: which findings follow, which is in `RunTriage.Proofs.Reporting` for
rules and in `RunTriage.Proofs.Fallback` for failures without an explanation.
-/

namespace RunTriage

/-- A rule was registered before another one. -/
def RuleBook.Precedes (book : RuleBook) (first second : Rule) : Prop :=
  [first, second].Sublist book.rules

namespace Diagnosis

variable (book : RuleBook) (start : History) (tests : List TestRecord)

/-! ## Firing, told by findings -/

/-- The findings of the test at a position, in a run that starts from a history. -/
def findingsAt (test : Nat) : List Finding :=
  (((eachTest book start tests)[test]?).map Diagnosis.findings).getD []

/-- A code was reported for a test before the one at a position. -/
def ReportedBefore (test : Nat) (code : String) : Prop :=
  ∃ earlier < test, ∃ finding ∈ findingsAt book start tests earlier, finding.code = code

/-- A rule fires on the test at a position: it is tried on this test, one of its
symptoms holds, and it is not a rule for which one report is enough and which has been
reported for an earlier test. -/
def Fires (test : Nat) (rule : Rule) : Prop :=
  ∃ record, tests[test]? = some record ∧ rule ∈ book.rules ∧
    rule.appliesTo record.key = true ∧ (rule.evidence? record).isSome = true ∧
    ¬(rule.onlyOnce = true ∧
      (start.hasShown rule.code = true ∨ ReportedBefore book start tests test rule.code))

/-- The code of a rule is silenced for the test at a position: a rule that suppresses
it has fired on an earlier test, or on the same test and was registered earlier. -/
def Silenced (test : Nat) (rule : Rule) : Prop :=
  ∃ earlier other, Fires book start tests earlier other ∧ rule.code ∈ other.suppresses ∧
    (earlier < test ∨ earlier = test ∧ book.Precedes other rule)

/-! ## The tests of a run one after the other -/

/-- The history before the test at a position. -/
def historyBefore (test : Nat) : History :=
  (continued book start (tests.take test)).history

/-- What trying the rules on a record after a history gives. -/
def examine (history : History) (record : TestRecord) : Examination :=
  Examination.ofRules record (book.candidates record.key) history

variable {book start tests}

theorem history_ofTest (history : History) (record : TestRecord) :
    (ofTest book history record).history = (examine book history record).history := rfl

theorem findings_continued (history : History) (tests : List TestRecord) :
    (continued book history tests).findings =
      (eachTest book history tests).flatMap Diagnosis.findings := by
  induction tests generalizing history with
  | nil => rfl
  | cons record rest inductionHypothesis =>
    simp only [continued, eachTest, List.flatMap_cons, inductionHypothesis]

theorem history_continued_concat (history : History) (tests : List TestRecord)
    (record : TestRecord) :
    (continued book history (tests ++ [record])).history =
      (ofTest book (continued book history tests).history record).history := by
  induction tests generalizing history with
  | nil => rfl
  | cons first rest inductionHypothesis =>
    simp only [List.cons_append, continued, inductionHypothesis]

theorem length_eachTest (history : History) (tests : List TestRecord) :
    (eachTest book history tests).length = tests.length := by
  induction tests generalizing history with
  | nil => rfl
  | cons record rest inductionHypothesis => simp [eachTest, inductionHypothesis]

theorem getElem?_eachTest (history : History) (tests : List TestRecord) (test : Nat) :
    (eachTest book history tests)[test]? =
      tests[test]?.map (ofTest book (historyBefore book history tests test)) := by
  induction tests generalizing history test with
  | nil => rfl
  | cons record rest inductionHypothesis =>
    cases test with
    | zero => rfl
    | succ test =>
      simp only [eachTest, List.getElem?_cons_succ, inductionHypothesis, historyBefore,
        List.take_succ_cons, continued]

theorem findingsAt_of_getElem? {test : Nat} {record : TestRecord}
    (found : tests[test]? = some record) :
    findingsAt book start tests test =
      (ofTest book (historyBefore book start tests test) record).findings := by
  simp [findingsAt, getElem?_eachTest, found]

theorem findingsAt_of_none {test : Nat} (missing : tests[test]? = none) :
    findingsAt book start tests test = [] := by
  simp [findingsAt, getElem?_eachTest, missing]

/-- The findings of a run are those of its tests in their order. -/
theorem findings_eq_flatMap_findingsAt :
    (continued book start tests).findings =
      (List.range tests.length).flatMap (findingsAt book start tests) := by
  have perTest : (eachTest book start tests).map Diagnosis.findings =
      (List.range tests.length).map (findingsAt book start tests) := by
    refine List.ext_getElem (by simp [length_eachTest]) fun test below _ => ?_
    have inside : test < (eachTest book start tests).length := by simpa using below
    simp [findingsAt, List.getElem?_eq_getElem inside]
  rw [findings_continued, List.flatMap_def, perTest, List.flatMap_def]

theorem historyBefore_zero : historyBefore book start tests 0 = start := rfl

theorem historyBefore_succ {test : Nat} {record : TestRecord}
    (found : tests[test]? = some record) :
    historyBefore book start tests (test + 1) =
      (examine book (historyBefore book start tests test) record).history := by
  rw [historyBefore, List.take_add_one, found, Option.toList_some, history_continued_concat,
    history_ofTest, historyBefore]

theorem historyBefore_succ_of_none {test : Nat} (missing : tests[test]? = none) :
    historyBefore book start tests (test + 1) = historyBefore book start tests test := by
  rw [historyBefore, List.take_add_one, missing, Option.toList_none, List.append_nil, historyBefore]

/-! ## Two collections side by side -/

/-- From related histories, two collections report matching findings for any test and leave
related histories. -/
def Simulates (Related : History → History → Prop)
    (Matched : List Finding → List Finding → Prop) (book other : RuleBook) : Prop :=
  ∀ ⦃left right⦄, Related left right → ∀ record,
    Matched (ofTest book left record).findings (ofTest other right record).findings ∧
      Related (ofTest book left record).history (ofTest other right record).history

section Simulates

variable {Related : History → History → Prop} {Matched : List Finding → List Finding → Prop}
  {other : RuleBook} {left right : History}

theorem Simulates.history (simulates : Simulates Related Matched book other)
    (related : Related left right) (tests : List TestRecord) :
    Related (continued book left tests).history (continued other right tests).history := by
  induction tests generalizing left right with
  | nil => exact related
  | cons record rest inductionHypothesis => exact inductionHypothesis (simulates related record).2

/-- The findings of every test of the two runs match. -/
theorem Simulates.findingsAt (simulates : Simulates Related Matched book other)
    (nothing : Matched [] []) (related : Related left right) (tests : List TestRecord)
    (test : Nat) :
    Matched (findingsAt book left tests test) (findingsAt other right tests test) := by
  cases found : tests[test]? with
  | none =>
    rw [findingsAt_of_none found, findingsAt_of_none found]
    exact nothing
  | some record =>
    rw [findingsAt_of_getElem? found, findingsAt_of_getElem? found]
    exact (simulates (simulates.history related (tests.take test)) record).1

end Simulates

/-! ## Findings of rules and of fallbacks -/

/-- The findings that are added for a test once its rules were tried. -/
def remaining (examination : Examination) (record : TestRecord) : List Finding :=
  if examination.explained then [] else fallbacks record examination.history.tainted

theorem findings_ofTest (history : History) (record : TestRecord) :
    (ofTest book history record).findings =
      (examine book history record).findings ++
        remaining (examine book history record) record := rfl

theorem isFallback_of_mem_fallbacks {record : TestRecord} {tainted : Bool} {finding : Finding}
    (member : finding ∈ fallbacks record tainted) : finding.isFallback = true := by
  unfold fallbacks at member
  rcases List.mem_append.mp member with ofTest | ofTeardown
  · split at ofTest
    · rw [List.mem_singleton.mp ofTest]
      exact RuleBook.isReserved_code _
    · cases ofTest
  · split at ofTeardown
    · rw [List.mem_singleton.mp ofTeardown]
      exact RuleBook.isReserved_code _
    · cases ofTeardown

theorem isFallback_of_mem_remaining {examination : Examination} {record : TestRecord}
    {finding : Finding} (member : finding ∈ remaining examination record) :
    finding.isFallback = true := by
  unfold remaining at member
  split at member
  · cases member
  · exact isFallback_of_mem_fallbacks member

section Registered

variable (registered : book.Registered)

include registered

theorem candidates_pairwise (key : TestKey) :
    (book.candidates key).Pairwise fun left right => left.code ≠ right.code := by
  rw [registered.indexed.candidates_eq]
  exact registered.distinct.filter _

theorem mem_candidates {key : TestKey} {rule : Rule} :
    rule ∈ book.candidates key ↔ rule ∈ book.rules ∧ rule.appliesTo key = true := by
  rw [registered.indexed.candidates_eq, List.mem_filter]

/-- The rules of a test leave behind what those that fire do. -/
theorem summary_examine (history : History) (record : TestRecord) :
    Examination.Summary record (book.candidates record.key) history
      (examine book history record) :=
  Examination.summary_ofRules _ history (candidates_pairwise registered record.key)

theorem isFallback_of_mem_examine {history : History} {record : TestRecord} {finding : Finding}
    (member : finding ∈ (examine book history record).findings) :
    finding.isFallback = false := by
  obtain ⟨reported, ordered, _, shown⟩ := Examination.findings_ofRules record
    (book.candidates record.key) history (candidates_pairwise registered record.key)
  rw [examine, shown] at member
  obtain ⟨rule, ruleMember, rfl⟩ := List.mem_map.mp member
  have inBook := ((mem_candidates registered).mp (ordered.subset ruleMember)).1
  exact registered.unreserved rule inBook

/-- Of the findings of a test, those without a reserved code come from its rules. -/
theorem filter_not_isFallback (history : History) (record : TestRecord) :
    ((ofTest book history record).findings.filter fun finding => !finding.isFallback) =
      (examine book history record).findings := by
  rw [findings_ofTest, List.filter_append, List.filter_eq_self.mpr, List.filter_eq_nil_iff.mpr,
    List.append_nil]
  · intro finding member
    simp [isFallback_of_mem_remaining member]
  · intro finding member
    simp [isFallback_of_mem_examine registered member]

theorem exists_code_findings_ofTest {code : String}
    (unreserved : Fallback.isReserved code = false) (history : History) (record : TestRecord) :
    (∃ finding ∈ (ofTest book history record).findings, finding.code = code) ↔
      ∃ finding ∈ (examine book history record).findings, finding.code = code := by
  rw [← filter_not_isFallback registered]
  refine exists_congr fun finding => ?_
  rw [List.mem_filter]
  constructor
  · rintro ⟨member, rfl⟩
    exact ⟨⟨member, by simpa [Finding.isFallback] using unreserved⟩, rfl⟩
  · rintro ⟨⟨member, _⟩, same⟩
    exact ⟨member, same⟩

/-! ## The history before a test -/

theorem hasShown_historyBefore {code : String} (unreserved : Fallback.isReserved code = false)
    (test : Nat) :
    (historyBefore book start tests test).hasShown code = true ↔
      start.hasShown code = true ∨ ReportedBefore book start tests test code := by
  induction test with
  | zero => simp [historyBefore_zero, ReportedBefore]
  | succ test inductionHypothesis =>
    rw [ReportedBefore, Nat.exists_lt_succ_right, ← ReportedBefore, ← or_assoc,
      ← inductionHypothesis]
    cases found : tests[test]? with
    | none =>
      rw [historyBefore_succ_of_none found, findingsAt_of_none found]
      simp
    | some record =>
      rw [historyBefore_succ found, (summary_examine registered _ record).shown,
        findingsAt_of_getElem? found, exists_code_findings_ofTest registered unreserved]

/-- Firing, told by the history before the test. -/
theorem fires_iff {test : Nat} {record : TestRecord} (found : tests[test]? = some record)
    (rule : Rule) :
    Fires book start tests test rule ↔
      rule ∈ book.candidates record.key ∧
        rule.fires (historyBefore book start tests test) record = true := by
  rw [mem_candidates registered, Rule.fires_eq]
  constructor
  · rintro ⟨other, same, inBook, applies, shown, notPassed⟩
    rw [found] at same
    cases same
    rw [← hasShown_historyBefore registered (registered.unreserved rule inBook)] at notPassed
    refine ⟨⟨inBook, applies⟩, ?_⟩
    rw [Bool.and_eq_true, Bool.not_eq_true', ← Bool.not_eq_true, History.passesOver,
      Bool.and_eq_true]
    exact ⟨notPassed, shown⟩
  · rintro ⟨⟨inBook, applies⟩, fires⟩
    rw [Bool.and_eq_true, Bool.not_eq_true'] at fires
    refine ⟨record, found, inBook, applies, fires.2, ?_⟩
    rw [← hasShown_historyBefore registered (registered.unreserved rule inBook)]
    simpa [History.passesOver] using fires.1

theorem exists_fires_iff {test : Nat} {record : TestRecord}
    (found : tests[test]? = some record) (holds : Rule → Prop) :
    (∃ rule ∈ book.candidates record.key,
        rule.fires (historyBefore book start tests test) record = true ∧ holds rule) ↔
      ∃ rule, Fires book start tests test rule ∧ holds rule := by
  refine exists_congr fun rule => ?_
  rw [fires_iff registered found, and_assoc]

omit registered in
theorem not_fires_of_none {test : Nat} (missing : tests[test]? = none) (rule : Rule) :
    ¬Fires book start tests test rule := by
  rintro ⟨record, found, _⟩
  rw [missing] at found
  cases found

theorem tainted_historyBefore (test : Nat) :
    (historyBefore book start tests test).tainted = true ↔
      start.tainted = true ∨
        ∃ earlier < test, ∃ rule, Fires book start tests earlier rule ∧ rule.taints = true := by
  induction test with
  | zero => simp [historyBefore_zero]
  | succ test inductionHypothesis =>
    rw [Nat.exists_lt_succ_right, ← or_assoc, ← inductionHypothesis]
    cases found : tests[test]? with
    | none => simp [historyBefore_succ_of_none found, not_fires_of_none found]
    | some record =>
      rw [historyBefore_succ found, (summary_examine registered _ record).tainted,
        exists_fires_iff registered found]

theorem isSuppressed_historyBefore (code : String) (test : Nat) :
    (historyBefore book start tests test).isSuppressed code = true ↔
      start.isSuppressed code = true ∨
        ∃ earlier < test, ∃ rule, Fires book start tests earlier rule ∧
          code ∈ rule.suppresses := by
  induction test with
  | zero => simp [historyBefore_zero]
  | succ test inductionHypothesis =>
    rw [Nat.exists_lt_succ_right, ← or_assoc, ← inductionHypothesis]
    cases found : tests[test]? with
    | none => simp [historyBefore_succ_of_none found, not_fires_of_none found]
    | some record =>
      rw [historyBefore_succ found, (summary_examine registered _ record).suppressed,
        exists_fires_iff registered found]

end Registered

end Diagnosis

end RunTriage
