import RunTriage.Diagnosis

/-!
Contract: what trying rules on one test does.

Owns:
- what each step of a history does to the questions that are asked of it;
- the result of trying rules with different codes: which of them fire depends on the
  history before the test only, and which are reported also on the rules before them.

Does not own: several tests one after the other, which are in
`RunTriage.Proofs.Firing`.
-/

namespace RunTriage

/-! ## Histories -/

namespace History

@[simp] theorem hasShown_markShown (history : History) (shown code : String) :
    (history.markShown shown).hasShown code = (code == shown || history.hasShown code) := by
  rw [Bool.eq_iff_iff]
  simp [hasShown, markShown, mem_sortedStrings]

@[simp] theorem isSuppressed_markShown (history : History) (shown code : String) :
    (history.markShown shown).isSuppressed code = history.isSuppressed code := rfl

@[simp] theorem tainted_markShown (history : History) (shown : String) :
    (history.markShown shown).tainted = history.tainted := rfl

@[simp] theorem hasShown_apply (history : History) (rule : Rule) (code : String) :
    (history.apply rule).hasShown code = history.hasShown code := rfl

@[simp] theorem isSuppressed_apply (history : History) (rule : Rule) (code : String) :
    (history.apply rule).isSuppressed code =
      (history.isSuppressed code || rule.suppresses.contains code) := by
  simp [isSuppressed, apply, mem_sortedStrings]

@[simp] theorem tainted_apply (history : History) (rule : Rule) :
    (history.apply rule).tainted = (history.tainted || rule.taints) := rfl

end History

/-! ## One rule -/

/-- The rule fires on a test after a history. -/
def Rule.fires (rule : Rule) (history : History) (record : TestRecord) : Bool :=
  (rule.fires? history record).isSome

theorem Rule.fires_eq (rule : Rule) (history : History) (record : TestRecord) :
    rule.fires history record =
      (!history.passesOver rule && (rule.evidence? record).isSome) := by
  unfold Rule.fires Rule.fires?
  by_cases passed : history.passesOver rule = true <;> simp [passed]

/-- What is reported for a rule that fires on a test, with the lines that make it
fire. -/
def Rule.finding (record : TestRecord) (rule : Rule) : Finding :=
  ⟨record, rule.code, (rule.evidence? record).getD []⟩

theorem Rule.finding_of_fires? {rule : Rule} {history : History} {record : TestRecord}
    {lines : List Line} (found : rule.fires? history record = some lines) :
    rule.finding record = ⟨record, rule.code, lines⟩ := by
  unfold Rule.fires? at found
  split at found
  · cases found
  · simp [Rule.finding, found]

namespace Examination

@[simp] theorem tainted_historyAfter (rule : Rule) (history : History) :
    (historyAfter rule history).tainted = (history.tainted || rule.taints) := by
  unfold historyAfter
  split <;> rfl

@[simp] theorem isSuppressed_historyAfter (rule : Rule) (history : History) (code : String) :
    (historyAfter rule history).isSuppressed code =
      (history.isSuppressed code || rule.suppresses.contains code) := by
  unfold historyAfter
  split <;> simp

theorem hasShown_historyAfter (rule : Rule) (history : History) (code : String) :
    (historyAfter rule history).hasShown code =
      ((!history.isSuppressed rule.code && code == rule.code) || history.hasShown code) := by
  unfold historyAfter
  split
  · rename_i silenced
    simp [silenced]
  · rename_i heard
    simp [heard]

/-- Whether a rule fires is not changed by a rule with another code. -/
theorem fires?_historyAfter {rule other : Rule} (different : rule.code ≠ other.code)
    (history : History) (record : TestRecord) :
    other.fires? (historyAfter rule history) record = other.fires? history record := by
  simp [Rule.fires?, History.passesOver, hasShown_historyAfter, Ne.symm different]

/-! ## Several rules -/

variable {record : TestRecord} {rule : Rule} {rest : List Rule} {history : History}

theorem ofRules_of_silent (silent : rule.fires? history record = none) :
    ofRules record (rule :: rest) history = ofRules record rest history := by
  simp [ofRules, silent]

theorem ofRules_of_fires {lines : List Line}
    (found : rule.fires? history record = some lines) :
    ofRules record (rule :: rest) history =
      { findings := report record rule lines history ++
          (ofRules record rest (historyAfter rule history)).findings
        explained := !rule.harmless ||
          (ofRules record rest (historyAfter rule history)).explained
        history := (ofRules record rest (historyAfter rule history)).history } := by
  simp [ofRules, found]

/-- Rules with other codes fire after a rule as they fire before it. -/
theorem exists_fires_historyAfter (different : ∀ other ∈ rest, rule.code ≠ other.code)
    (holds : Rule → Prop) :
    (∃ other ∈ rest, other.fires (historyAfter rule history) record = true ∧ holds other) ↔
      ∃ other ∈ rest, other.fires history record = true ∧ holds other := by
  refine exists_congr fun other => and_congr_right fun member => ?_
  rw [Rule.fires, fires?_historyAfter (different other member), Rule.fires]

/-- What trying rules leaves behind, told by the rules that fire after the history
before the test. -/
structure Summary (record : TestRecord) (rules : List Rule) (history : History)
    (result : Examination) : Prop where
  explained : result.explained = true ↔
    ∃ rule ∈ rules, rule.fires history record = true ∧ rule.harmless = false
  tainted : result.history.tainted = true ↔
    history.tainted = true ∨
      ∃ rule ∈ rules, rule.fires history record = true ∧ rule.taints = true
  suppressed : ∀ code, result.history.isSuppressed code = true ↔
    history.isSuppressed code = true ∨
      ∃ rule ∈ rules, rule.fires history record = true ∧ code ∈ rule.suppresses
  shown : ∀ code, result.history.hasShown code = true ↔
    history.hasShown code = true ∨ ∃ finding ∈ result.findings, finding.code = code

theorem mem_codes_report {lines : List Line} {code : String} :
    (∃ finding ∈ report record rule lines history, finding.code = code) ↔
      history.isSuppressed rule.code = false ∧ rule.code = code := by
  unfold report
  split <;> simp_all

theorem summary_ofRules (rules : List Rule) (history : History)
    (distinct : rules.Pairwise fun left right => left.code ≠ right.code) :
    Summary record rules history (ofRules record rules history) := by
  induction rules generalizing history with
  | nil => constructor <;> simp [ofRules]
  | cons rule rest inductionHypothesis =>
    obtain ⟨different, restDistinct⟩ := List.pairwise_cons.mp distinct
    cases found : rule.fires? history record with
    | none =>
      have silent : rule.fires history record = false := by simp [Rule.fires, found]
      have summary := inductionHypothesis history restDistinct
      rw [ofRules_of_silent found]
      refine ⟨?_, ?_, ?_, summary.shown⟩
      · simp [summary.explained, silent]
      · simp [summary.tainted, silent]
      · simp [summary.suppressed, silent]
    | some lines =>
      have fires : rule.fires history record = true := by simp [Rule.fires, found]
      have summary := inductionHypothesis (historyAfter rule history) restDistinct
      rw [ofRules_of_fires found]
      refine ⟨?_, ?_, fun code => ?_, fun code => ?_⟩
      · simp [summary.explained, exists_fires_historyAfter different, fires]
      · simp [summary.tainted, exists_fires_historyAfter different, fires, or_assoc]
      · simp [summary.suppressed, exists_fires_historyAfter different, fires, or_assoc]
      · simp only [summary.shown, hasShown_historyAfter, List.mem_append, or_and_right,
          exists_or, mem_codes_report]
        simp only [Bool.or_eq_true, Bool.and_eq_true, Bool.not_eq_true', beq_iff_eq,
          eq_comm (a := code)]
        rw [or_assoc, or_left_comm]

/-! ## Which rules are reported -/

theorem pair_sublist_cons {first second head : Rule} {tail : List Rule} :
    [first, second].Sublist (head :: tail) ↔
      [first, second].Sublist tail ∨ first = head ∧ second ∈ tail := by
  rw [List.sublist_cons_iff]
  refine or_congr_right ⟨?_, ?_⟩
  · rintro ⟨_, same, inTail⟩
    cases same
    exact ⟨rfl, List.singleton_sublist.mp inTail⟩
  · rintro ⟨rfl, inTail⟩
    exact ⟨[second], rfl, List.singleton_sublist.mpr inTail⟩

/-- The rule is reported among the rules tried on a test: it fires, and neither the
history nor a rule that fired before it silences its code. -/
structure Reports (record : TestRecord) (rules : List Rule) (history : History)
    (rule : Rule) : Prop where
  member : rule ∈ rules
  fires : rule.fires history record = true
  heard : history.isSuppressed rule.code = false
  unsilenced : ∀ other, [other, rule].Sublist rules → other.fires history record = true →
    rule.code ∉ other.suppresses

theorem reports_cons_silent (silent : rule.fires history record = false) {other : Rule} :
    Reports record (rule :: rest) history other ↔ Reports record rest history other := by
  constructor
  · rintro ⟨member, fires, heard, unsilenced⟩
    rcases List.mem_cons.mp member with isRule | inRest
    · rw [isRule, silent] at fires
      cases fires
    · exact ⟨inRest, fires, heard, fun earlier before =>
        unsilenced earlier (pair_sublist_cons.mpr (.inl before))⟩
  · rintro ⟨member, fires, heard, unsilenced⟩
    refine ⟨List.mem_cons_of_mem rule member, fires, heard, fun earlier before earlierFires => ?_⟩
    rcases pair_sublist_cons.mp before with inRest | ⟨isRule, _⟩
    · exact unsilenced earlier inRest earlierFires
    · rw [isRule, silent] at earlierFires
      cases earlierFires

/-- A rule that fires first is reported unless the history silences it. -/
theorem reports_head (different : ∀ other ∈ rest, rule.code ≠ other.code)
    (fires : rule.fires history record = true) :
    Reports record (rule :: rest) history rule ↔ history.isSuppressed rule.code = false := by
  have fresh : rule ∉ rest := fun member => different rule member rfl
  refine ⟨Reports.heard, fun heard => ⟨List.mem_cons_self, fires, heard, ?_⟩⟩
  intro other before
  rcases pair_sublist_cons.mp before with inRest | ⟨_, inRest⟩
  · exact absurd (inRest.subset (by simp)) fresh
  · exact absurd inRest fresh

/-- A later rule is reported after one that fires as it would be from the history that
this one leaves behind. -/
theorem reports_tail (different : ∀ other ∈ rest, rule.code ≠ other.code)
    (fires : rule.fires history record = true) {other : Rule} (isLater : other ∈ rest) :
    Reports record (rule :: rest) history other ↔
      Reports record rest (historyAfter rule history) other := by
  have sameFiring : ∀ later ∈ rest,
      later.fires (historyAfter rule history) record = later.fires history record :=
    fun later member => by rw [Rule.fires, fires?_historyAfter (different later member), Rule.fires]
  constructor
  · rintro ⟨_, otherFires, heard, unsilenced⟩
    refine ⟨isLater, (sameFiring other isLater).trans otherFires, ?_, ?_⟩
    · have spared := unsilenced rule (pair_sublist_cons.mpr (.inr ⟨rfl, isLater⟩)) fires
      simp [heard, spared]
    · intro earlier before earlierFires
      have inRest : earlier ∈ rest := before.subset (by simp)
      rw [sameFiring earlier inRest] at earlierFires
      exact unsilenced earlier (pair_sublist_cons.mpr (.inl before)) earlierFires
  · rintro ⟨_, otherFires, heard, unsilenced⟩
    rw [isSuppressed_historyAfter, Bool.or_eq_false_iff] at heard
    refine ⟨List.mem_cons_of_mem rule isLater, (sameFiring other isLater).symm.trans otherFires,
      heard.1, ?_⟩
    intro earlier before earlierFires
    rcases pair_sublist_cons.mp before with inRest | ⟨isRule, _⟩
    · have member : earlier ∈ rest := inRest.subset (by simp)
      exact unsilenced earlier inRest ((sameFiring earlier member).trans earlierFires)
    · rw [isRule]
      simpa using heard.2

/-- The findings of a test are those of the rules that are reported, in their order. -/
theorem findings_ofRules (record : TestRecord) (rules : List Rule) (history : History)
    (distinct : rules.Pairwise fun left right => left.code ≠ right.code) :
    ∃ reported : List Rule, reported.Sublist rules ∧
      (∀ rule, rule ∈ reported ↔ Reports record rules history rule) ∧
      (ofRules record rules history).findings = reported.map (Rule.finding record) := by
  induction rules generalizing history with
  | nil => exact ⟨[], .slnil, fun rule => ⟨nofun, fun reports => reports.member⟩, rfl⟩
  | cons rule rest inductionHypothesis =>
    obtain ⟨different, restDistinct⟩ := List.pairwise_cons.mp distinct
    cases found : rule.fires? history record with
    | none =>
      have silent : rule.fires history record = false := by simp [Rule.fires, found]
      obtain ⟨reported, ordered, members, shown⟩ := inductionHypothesis history restDistinct
      rw [ofRules_of_silent found]
      refine ⟨reported, ordered.cons rule, fun other => ?_, shown⟩
      rw [members, reports_cons_silent silent]
    | some lines =>
      have fires : rule.fires history record = true := by simp [Rule.fires, found]
      obtain ⟨reported, ordered, members, shown⟩ :=
        inductionHypothesis (historyAfter rule history) restDistinct
      have later : ∀ other, other ∈ reported ↔
          other ∈ rest ∧ Reports record (rule :: rest) history other := by
        intro other
        rw [members]
        refine ⟨fun reports => ⟨reports.member, ?_⟩, fun ⟨inRest, reports⟩ => ?_⟩
        · exact (reports_tail different fires reports.member).mpr reports
        · exact (reports_tail different fires inRest).mp reports
      have split : ∀ other, Reports record (rule :: rest) history other ↔
          other = rule ∧ history.isSuppressed rule.code = false ∨ other ∈ reported := by
        intro other
        rw [later, ← reports_head different fires]
        constructor
        · intro reports
          rcases List.mem_cons.mp reports.member with isRule | inRest
          · exact .inl ⟨isRule, isRule ▸ reports⟩
          · exact .inr ⟨inRest, reports⟩
        · rintro (⟨isRule, reports⟩ | ⟨_, reports⟩)
          · exact isRule ▸ reports
          · exact reports
      rw [ofRules_of_fires found]
      by_cases silenced : history.isSuppressed rule.code = true
      · refine ⟨reported, ordered.cons rule, fun other => by simp [split, silenced], ?_⟩
        simpa [report, silenced] using shown
      · refine ⟨rule :: reported, ordered.cons_cons rule,
          fun other => by simp [split, silenced], ?_⟩
        simp [report, silenced, shown, Rule.finding_of_fires? found]

end Examination

end RunTriage
