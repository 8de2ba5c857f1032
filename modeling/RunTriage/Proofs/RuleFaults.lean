import RunTriage.Proofs.Registration
import RunTriage.Proofs.SymptomFaults

/-!
Contract: when a document of rules is accepted, what it then stands for, and which error it gives
otherwise.

Owns:
- the faults of a written rule, and why a rule is refused beside earlier ones;
- making rules, which fails with the fault of the first rule that has one;
- registering them, which fails with the first rule that is refused;
- the rules of an accepted document.

Does not own: the faults of symptoms, which are in `RunTriage.Proofs.SymptomFaults`.
-/

namespace RunTriage

namespace RuleForm

/-! ## Making rules -/

/-- The symptoms of a rule and their parts at every depth, in depth-first order. -/
def nodes (form : RuleForm) : List SymptomForm := form.symptoms.flatMap SymptomForm.nodes

/-- Nothing is wrong with the scope and the symptoms of a rule, at any depth. -/
structure IsSound (form : RuleForm) : Prop where
  scope : ∀ text, form.scope = .word text → text = "*"
  searches : ∀ search, .search search ∈ form.nodes → search.IsSound
  conjunctions : ∀ parts, .all parts ∈ form.nodes → parts ≠ []

/-- Why the form has no scope: the word for every test is the only word. -/
def scopeFault? (form : RuleForm) : Option RuleError :=
  match form.scope with
  | .word text => if text = "*" then none else some (.scope form.code text)
  | .keys _ => none

/-- Why the form stands for no rule. A fault of the scope comes first, then the first one of the
symptoms. -/
def fault? (form : RuleForm) : Option RuleError :=
  form.scopeFault?.or ((form.nodes.findSome? SymptomForm.ownFault?).map (.symptom form.code))

theorem scopeFault?_eq_none_iff {form : RuleForm} :
    form.scopeFault? = none ↔ ∀ text, form.scope = .word text → text = "*" := by
  unfold scopeFault?
  cases form.scope <;> simp

theorem fault?_eq_none_iff {form : RuleForm} : form.fault? = none ↔ form.IsSound := by
  rw [fault?, Option.or_eq_none_iff, scopeFault?_eq_none_iff, Option.map_eq_none_iff,
    SymptomForm.findSome?_ownFault?_eq_none_iff]
  exact ⟨fun ⟨scope, searches, conjunctions⟩ => ⟨scope, searches, conjunctions⟩,
    fun sound => ⟨sound.scope, sound.searches, sound.conjunctions⟩⟩

/-- The rule is what the form says. -/
structure Describes (equivalents : Equivalents) (form : RuleForm) (rule : Rule) : Prop where
  code : rule.code = form.code
  message : rule.message = form.message
  scope : form.scope = .word "*" ∧ rule.scope = .everywhere ∨
    ∃ tests, form.scope = .keys tests ∧ rule.scope = .only tests
  symptoms : SymptomForm.toSymptoms equivalents form.symptoms = .ok rule.symptoms
  taints : rule.taints = form.taints
  harmless : rule.harmless = form.harmless
  onlyOnce : rule.onlyOnce = form.onlyOnce
  suppresses : ∀ code, code ∈ rule.suppresses ↔ code ∈ form.suppresses

theorem faultOf_toScope (form : RuleForm) : faultOf form.toScope = form.scopeFault? := by
  unfold toScope scopeFault? everywhereWord
  cases form.scope with
  | word text =>
    dsimp only
    split <;> rfl
  | keys tests => rfl

section Made

variable (equivalents : Equivalents)

theorem faultOf_toRule (form : RuleForm) : faultOf (form.toRule equivalents) = form.fault? := by
  have symptoms : faultOf (SymptomForm.toSymptoms equivalents form.symptoms) =
      form.nodes.findSome? SymptomForm.ownFault? :=
    SymptomForm.faultOf_toSymptoms equivalents form.symptoms
  rw [fault?, ← form.faultOf_toScope, ← symptoms, toRule]
  cases form.toScope
  · rfl
  · cases SymptomForm.toSymptoms equivalents form.symptoms <;> rfl

theorem faultOf_toRules (forms : List RuleForm) :
    faultOf (toRules equivalents forms) = forms.findSome? fault? := by
  induction forms with
  | nil => rfl
  | cons form rest inductionHypothesis =>
    rw [toRules, List.findSome?_cons, ← form.faultOf_toRule equivalents, ← inductionHypothesis]
    cases form.toRule equivalents
    · rfl
    · cases toRules equivalents rest <;> rfl

variable {equivalents}

theorem describes_of_toRule {form : RuleForm} {rule : Rule}
    (isMade : form.toRule equivalents = .ok rule) : form.Describes equivalents rule := by
  unfold toRule at isMade
  split at isMade
  · cases isMade
  · rename_i scope isScope
    split at isMade
    · cases isMade
    · rename_i symptoms areSymptoms
      cases isMade
      refine ⟨rfl, rfl, ?_, areSymptoms, rfl, rfl, rfl, mem_sortedStrings form.suppresses⟩
      unfold toScope everywhereWord at isScope
      split at isScope
      · rename_i text isWord
        split_ifs at isScope with isEverywhere
        · cases isScope
          exact .inl ⟨isEverywhere ▸ isWord, rfl⟩
      · rename_i tests isKeys
        cases isScope
        exact .inr ⟨tests, isKeys, rfl⟩

theorem describes_of_toRules {forms : List RuleForm} {rules : List Rule}
    (areMade : toRules equivalents forms = .ok rules) :
    List.Forall₂ (Describes equivalents) forms rules := by
  induction forms generalizing rules with
  | nil =>
    cases areMade
    exact .nil
  | cons form rest inductionHypothesis =>
    unfold toRules at areMade
    split at areMade
    · cases areMade
    · rename_i rule isMade
      split at areMade
      · cases areMade
      · rename_i others othersMade
        cases areMade
        exact .cons (describes_of_toRule isMade) (inductionHypothesis othersMade)

theorem Describes.symptoms_eq_nil_iff {form : RuleForm} {rule : Rule}
    (describes : form.Describes equivalents rule) : rule.symptoms = [] ↔ form.symptoms = [] := by
  rw [← List.length_eq_zero_iff, ← List.length_eq_zero_iff,
    SymptomForm.length_of_toSymptoms equivalents describes.symptoms]

end Made

/-! ## Registering rules -/

/-- Why a rule is refused behind earlier ones. -/
def refusal? (earlier : List RuleForm) (form : RuleForm) : Option RegistrationError :=
  if Fallback.isReserved form.code = true then some (.reserved form.code)
  else if form.code ∈ earlier.map RuleForm.code then some (.duplicate form.code)
  else if form.symptoms = [] then some (.noSymptoms form.code)
  else none

/-- No rule is refused behind those before it. -/
structure AreRegistrable (forms : List RuleForm) : Prop where
  unreserved : ∀ form ∈ forms, Fallback.isReserved form.code = false
  symptoms : ∀ form ∈ forms, form.symptoms ≠ []
  distinct : (forms.map RuleForm.code).Nodup

theorem areRegistrable_nil : AreRegistrable [] := ⟨by nofun, by nofun, .nil⟩

theorem AreRegistrable.of_append {earlier later : List RuleForm}
    (registrable : AreRegistrable (earlier ++ later)) : AreRegistrable earlier where
  unreserved := (List.forall_mem_append.mp registrable.unreserved).1
  symptoms := (List.forall_mem_append.mp registrable.symptoms).1
  distinct := registrable.distinct.sublist ((List.sublist_append_left _ _).map _)

/-- One more rule can be registered if it is not refused. -/
theorem areRegistrable_concat {earlier : List RuleForm} {form : RuleForm} :
    AreRegistrable (earlier ++ [form]) ↔ AreRegistrable earlier ∧ form.refusal? earlier = none := by
  have notRefused : form.refusal? earlier = none ↔
      Fallback.isReserved form.code = false ∧ form.code ∉ earlier.map RuleForm.code ∧
        form.symptoms ≠ [] := by
    unfold refusal?
    split_ifs <;> simp_all
  rw [notRefused]
  constructor
  · rintro ⟨unreserved, symptoms, distinct⟩
    rw [List.forall_mem_append, List.forall_mem_singleton] at unreserved symptoms
    rw [List.map_append, List.map_singleton, ← List.concat_eq_append, List.nodup_concat] at distinct
    exact ⟨⟨unreserved.1, symptoms.1, distinct.2⟩, unreserved.2, distinct.1, symptoms.2⟩
  · rintro ⟨⟨unreserved, symptoms, distinct⟩, isUnreserved, isNew, hasSymptoms⟩
    refine ⟨?_, ?_, ?_⟩
    · rw [List.forall_mem_append, List.forall_mem_singleton]
      exact ⟨unreserved, isUnreserved⟩
    · rw [List.forall_mem_append, List.forall_mem_singleton]
      exact ⟨symptoms, hasSymptoms⟩
    · rw [List.map_append, List.map_singleton, ← List.concat_eq_append, List.nodup_concat]
      exact ⟨isNew, distinct⟩

/-- Why the first rule that is refused is, behind earlier ones and those before it. -/
def firstRefusal? (earlier : List RuleForm) : List RuleForm → Option RegistrationError
  | [] => none
  | form :: rest => (form.refusal? earlier).or (firstRefusal? (earlier ++ [form]) rest)

theorem firstRefusal?_eq_none_iff {earlier : List RuleForm} (registrable : AreRegistrable earlier)
    (forms : List RuleForm) :
    firstRefusal? earlier forms = none ↔ AreRegistrable (earlier ++ forms) := by
  induction forms generalizing earlier with
  | nil => simpa [firstRefusal?] using registrable
  | cons form rest inductionHypothesis =>
    rw [firstRefusal?, Option.or_eq_none_iff, List.append_cons earlier form rest]
    constructor
    · rintro ⟨notRefused, noneRefused⟩
      exact (inductionHypothesis (areRegistrable_concat.mpr ⟨registrable, notRefused⟩)).mp
        noneRefused
    · intro allRegistrable
      have concat : AreRegistrable (earlier ++ [form]) := allRegistrable.of_append
      exact ⟨(areRegistrable_concat.mp concat).2, (inductionHypothesis concat).mpr allRegistrable⟩

theorem exists_of_firstRefusal? {earlier forms : List RuleForm}
    (registrable : AreRegistrable earlier) {cause : RegistrationError}
    (refused : firstRefusal? earlier forms = some cause) :
    ∃ before form after, forms = before ++ form :: after ∧
      AreRegistrable (earlier ++ before) ∧ form.refusal? (earlier ++ before) = some cause := by
  induction forms generalizing earlier with
  | nil => cases refused
  | cons form rest inductionHypothesis =>
    rw [firstRefusal?] at refused
    cases isRefused : form.refusal? earlier with
    | some known =>
      rw [isRefused, Option.some_or] at refused
      cases refused
      exact ⟨[], form, rest, rfl, by rwa [List.append_nil], by rwa [List.append_nil]⟩
    | none =>
      rw [isRefused, Option.none_or] at refused
      obtain ⟨before, found, after, rfl, registrable, isFound⟩ :=
        inductionHypothesis (areRegistrable_concat.mpr ⟨registrable, isRefused⟩) refused
      rw [List.append_assoc, List.singleton_append] at registrable isFound
      exact ⟨form :: before, found, after, rfl, registrable, isFound⟩

/-- Registration refuses a rule for the reason its form gives. -/
theorem faultOf_register {equivalents : Equivalents} {book : RuleBook}
    (registered : book.Registered) {earlier : List RuleForm}
    (sameCodes : book.rules.map Rule.code = earlier.map RuleForm.code) {form : RuleForm}
    {rule : Rule} (describes : form.Describes equivalents rule) :
    faultOf (book.register rule) = form.refusal? earlier := by
  have isUsed : book.hasCode rule.code = true ↔ form.code ∈ earlier.map RuleForm.code := by
    rw [← sameCodes, ← describes.code, ← not_iff_not, Bool.not_eq_true,
      registered.isCoded.hasCode_eq_false]
    simp
  have isEmpty : rule.symptoms.isEmpty = true ↔ form.symptoms = [] := by
    rw [List.isEmpty_iff, describes.symptoms_eq_nil_iff]
  rw [describes.code] at isUsed
  unfold RuleBook.register refusal?
  rw [describes.code]
  simp only [isUsed, isEmpty]
  split_ifs <;> rfl

/-- Registration refuses the first rule that is refused behind those before it. -/
theorem faultOf_registerAll {equivalents : Equivalents} {book : RuleBook}
    (registered : book.Registered) {earlier : List RuleForm}
    (sameCodes : book.rules.map Rule.code = earlier.map RuleForm.code) {forms : List RuleForm}
    {rules : List Rule} (describe : List.Forall₂ (Describes equivalents) forms rules) :
    faultOf (book.registerAll rules) = firstRefusal? earlier forms := by
  induction describe generalizing book earlier with
  | nil => rfl
  | @cons form rule _ _ describes _ inductionHypothesis =>
    rw [RuleBook.registerAll, firstRefusal?, ← faultOf_register registered sameCodes describes]
    cases step : book.register rule with
    | error cause => rfl
    | ok larger =>
      have sameLater : larger.rules.map Rule.code = (earlier ++ [form]).map RuleForm.code := by
        rw [(RuleBook.register_eq_ok step).2.2, RuleBook.rules_push, List.map_append,
          List.map_append, sameCodes, List.map_singleton, List.map_singleton, describes.code]
      exact inductionHypothesis (registered.register step) sameLater

end RuleForm

/-! ## Documents -/

/-- Nothing is wrong with any rule of a document, and none is refused behind those before it. -/
structure RuleFile.IsSound (file : RuleFile) : Prop where
  rules : ∀ form ∈ file.rules, form.IsSound
  registrable : RuleForm.AreRegistrable file.rules

namespace RuleFile

variable {file : RuleFile}

theorem faultOf_toRuleBook (file : RuleFile) :
    faultOf file.toRuleBook =
      (file.rules.findSome? RuleForm.fault?).or
        ((RuleForm.firstRefusal? [] file.rules).map .registration) := by
  rw [toRuleBook, ← RuleForm.faultOf_toRules file.toEquivalents]
  cases areMade : RuleForm.toRules file.toEquivalents file.rules with
  | error cause => rfl
  | ok rules =>
    have refused : faultOf (RuleBook.ofRules rules) = RuleForm.firstRefusal? [] file.rules :=
      RuleForm.faultOf_registerAll RuleBook.registered_empty rfl
        (RuleForm.describes_of_toRules areMade)
    dsimp only
    rw [← refused]
    cases RuleBook.ofRules rules <;> rfl

theorem findSome?_fault?_eq_none_iff {forms : List RuleForm} :
    forms.findSome? RuleForm.fault? = none ↔ ∀ form ∈ forms, form.IsSound := by
  simp only [List.findSome?_eq_none_iff, RuleForm.fault?_eq_none_iff]

theorem exists_toRuleBook_iff : (∃ book, file.toRuleBook = .ok book) ↔ file.IsSound := by
  rw [exists_ok_iff, faultOf_toRuleBook, Option.or_eq_none_iff, Option.map_eq_none_iff,
    findSome?_fault?_eq_none_iff,
    RuleForm.firstRefusal?_eq_none_iff RuleForm.areRegistrable_nil, List.nil_append]
  exact ⟨fun ⟨rules, registrable⟩ => ⟨rules, registrable⟩,
    fun sound => ⟨sound.rules, sound.registrable⟩⟩

theorem describes_of_toRuleBook {book : RuleBook} (accepted : file.toRuleBook = .ok book) :
    List.Forall₂ (RuleForm.Describes file.toEquivalents) file.rules book.rules := by
  unfold toRuleBook at accepted
  split at accepted
  · cases accepted
  · rename_i rules areMade
    split at accepted
    · rename_i known isBook
      cases accepted
      rw [RuleBook.rules_of_ofRules isBook]
      exact RuleForm.describes_of_toRules areMade
    · cases accepted

/-- A document is accepted exactly if every rule has a scope that is the word for every test or a
list of tests, if at every depth of its symptoms the patterns of filters and anchors are patterns
once they are bound to the start of a message, the windows are positive, finite and can be counted
in milliseconds, and a conjunction has parts, and if every rule has a symptom, a code that is not
reserved and one that no other rule has.

The collection then holds the rules as they are written, in their order. A document that is not
accepted gives the fault of the first rule that has one, with the first of the faults of its
symptoms in depth-first order. Only if no rule has one, it gives the reason why the first rule that
is refused behind those before it is. -/
theorem toRuleBook_exact (file : RuleFile) :
    ((∃ book, file.toRuleBook = .ok book) ↔ file.IsSound) ∧
      (∀ book, file.toRuleBook = .ok book →
        List.Forall₂ (RuleForm.Describes file.toEquivalents) file.rules book.rules) ∧
      ∀ error, file.toRuleBook = .error error →
        (∃ before form after, file.rules = before ++ form :: after ∧
          (∀ earlier ∈ before, earlier.IsSound) ∧ form.fault? = some error) ∨
        (∀ form ∈ file.rules, form.IsSound) ∧
          ∃ before form after cause, file.rules = before ++ form :: after ∧
            RuleForm.AreRegistrable before ∧ form.refusal? before = some cause ∧
              error = .registration cause := by
  refine ⟨exists_toRuleBook_iff, fun book => describes_of_toRuleBook, fun error isRefused => ?_⟩
  rw [eq_error_iff, faultOf_toRuleBook, Option.or_eq_some_iff, List.findSome?_eq_some_iff,
    findSome?_fault?_eq_none_iff, Option.map_eq_some_iff] at isRefused
  rcases isRefused with ⟨before, form, after, isSplit, isFault, noFault⟩ |
    ⟨sound, cause, isCause, rfl⟩
  · refine .inl ⟨before, form, after, isSplit, fun earlier member => ?_, isFault⟩
    exact RuleForm.fault?_eq_none_iff.mp (noFault earlier member)
  · obtain ⟨before, form, after, isSplit, registrable, isRefused⟩ :=
      RuleForm.exists_of_firstRefusal? RuleForm.areRegistrable_nil isCause
    exact .inr ⟨sound, before, form, after, cause, isSplit, registrable, isRefused, rfl⟩

end RuleFile

end RunTriage
