import Mathlib.Data.List.Nodup
import RunTriage.Proofs.Tables
import RunTriage.RuleBook

/-!
Contract: what registration guarantees of a collection of rules.

Owns:
- `RuleBook.Registered`, the property of every collection that registration makes;
- the index laws: a look-up by test gives the rules that apply to it, in the order
  of registration, and a look-up by code gives the position of the rule with it.

Does not own: what the rules do once they are tried on a test.
-/

namespace RunTriage.RuleBook

/-! ## The index by test -/

/-- Rules with their positions. -/
def placed (rules : List Rule) : List Placed := rules.mapIdx Placed.mk

/-- The rule is tried on every test. -/
def isUniversal (rule : Rule) : Bool := rule.scope = .everywhere

/-- The rule lists a test by its key. -/
def isKeyedBy (key : TestKey) (rule : Rule) : Bool :=
  match rule.scope with
  | .everywhere => false
  | .only tests => tests.contains key

theorem appliesTo_eq (key : TestKey) (rule : Rule) :
    rule.appliesTo key = (isKeyedBy key rule || isUniversal rule) := by
  cases scope : rule.scope <;> simp [Rule.appliesTo, isKeyedBy, isUniversal, scope]

theorem not_isUniversal_of_isKeyedBy {key : TestKey} {rule : Rule}
    (keyed : isKeyedBy key rule = true) : isUniversal rule = false := by
  cases scope : rule.scope with
  | everywhere => simp [isKeyedBy, scope] at keyed
  | only tests => simp [isUniversal, scope]

theorem placed_concat (rules : List Rule) (rule : Rule) :
    placed (rules ++ [rule]) = placed rules ++ [⟨rules.length, rule⟩] := by
  simp [placed]

theorem map_rule_placed (rules : List Rule) : (placed rules).map Placed.rule = rules :=
  List.ext_getElem (by simp [placed]) (by simp [placed])

theorem pairwise_position_placed (rules : List Rule) :
    (placed rules).Pairwise fun left right => left.position < right.position := by
  rw [List.pairwise_iff_getElem]
  intro first second firstBelow secondBelow before
  simpa [placed] using before

theorem under_addUnder (key added : TestKey) (entry : Placed)
    (index : List (TestKey × List Placed)) :
    under key (addUnder added entry index) =
      under key index ++ (if added = key then [entry] else []) := by
  induction index with
  | nil => simp [addUnder, under]
  | cons first rest inductionHypothesis =>
    obtain ⟨stored, known⟩ := first
    by_cases isStored : stored = added
    · subst isStored
      by_cases wanted : stored = key <;> simp [addUnder, under, wanted]
    · by_cases wanted : stored = key
      · have different : added ≠ key := fun same => isStored (wanted.trans same.symm)
        simp [addUnder, under, wanted, different, Ne.symm different]
      · simp [addUnder, under, isStored, wanted, inductionHypothesis]

/-- A rule that is put under several keys is found once under each of them. -/
theorem under_foldl_addUnder (key : TestKey) (entry : Placed) (keys : List TestKey)
    (distinct : keys.Nodup) (index : List (TestKey × List Placed)) :
    under key (keys.foldl (fun index added => addUnder added entry index) index) =
      under key index ++ (if key ∈ keys then [entry] else []) := by
  induction keys generalizing index with
  | nil => simp
  | cons first rest inductionHypothesis =>
    obtain ⟨fresh, restDistinct⟩ := List.nodup_cons.mp distinct
    rw [List.foldl_cons, inductionHypothesis restDistinct, under_addUnder]
    by_cases isFirst : first = key
    · subst isFirst
      simp [fresh]
    · simp [isFirst, Ne.symm isFirst]

/-- The index holds what it should: the rules for a key, and those for every test. -/
structure Indexed (book : RuleBook) : Prop where
  everywhere : book.everywhere = (placed book.rules).filter fun entry => isUniversal entry.rule
  keyed : ∀ key, under key book.keyed =
    (placed book.rules).filter fun entry => isKeyedBy key entry.rule

theorem indexed_empty : Indexed empty := ⟨rfl, fun _ => rfl⟩

theorem rules_push (book : RuleBook) (rule : Rule) :
    (book.push rule).rules = book.rules ++ [rule] := by
  cases scope : rule.scope <;> simp [push, scope]

theorem Indexed.push {book : RuleBook} (indexed : Indexed book) (rule : Rule) :
    Indexed (book.push rule) := by
  constructor
  · rw [rules_push, placed_concat, List.filter_append, ← indexed.everywhere]
    cases scope : rule.scope <;> simp [RuleBook.push, isUniversal, scope]
  · intro key
    rw [rules_push, placed_concat, List.filter_append, ← indexed.keyed key]
    cases scope : rule.scope with
    | everywhere => simp [RuleBook.push, isKeyedBy, scope]
    | only tests =>
      have stored := under_foldl_addUnder key ⟨book.rules.length, rule⟩ tests.eraseDups
        (nodup_eraseDups tests) book.keyed
      simpa [RuleBook.push, isKeyedBy, scope, List.mem_eraseDups, List.filter_cons]
        using stored

/-- Merging two parts of an ascending list that share nothing gives back the entries
of both in their order. -/
theorem merge_filter (entries : List Placed) (left right : Placed → Bool)
    (ascending : entries.Pairwise fun first second => first.position < second.position)
    (disjoint : ∀ entry ∈ entries, left entry = true → right entry = false) :
    List.merge (entries.filter left) (entries.filter right)
        (fun first second => first.position < second.position) =
      entries.filter fun entry => left entry || right entry := by
  induction entries with
  | nil => simp
  | cons first rest inductionHypothesis =>
    obtain ⟨least, restAscending⟩ := List.pairwise_cons.mp ascending
    have merged := inductionHypothesis restAscending fun entry member =>
      disjoint entry (List.mem_cons_of_mem first member)
    by_cases inLeft : left first = true
    · have notRight := disjoint first List.mem_cons_self inLeft
      simp only [List.filter_cons, inLeft, notRight, Bool.true_or, if_true, Bool.false_eq_true,
        if_false, ← merged]
      cases others : rest.filter right with
      | nil => simp
      | cons other tail =>
        have member : other ∈ rest.filter right := others ▸ List.mem_cons_self
        have isLater := least other (List.mem_filter.mp member).1
        rw [List.cons_merge_cons_pos _ _ _ (by simpa using isLater)]
    · by_cases inRight : right first = true
      · simp only [List.filter_cons, inLeft, inRight, Bool.or_true, if_true, Bool.false_eq_true,
          if_false, ← merged]
        cases others : rest.filter left with
        | nil => simp
        | cons other tail =>
          have member : other ∈ rest.filter left := others ▸ List.mem_cons_self
          have isLater := least other (List.mem_filter.mp member).1
          rw [List.cons_merge_cons_neg _ _ _ (by simpa using Nat.le_of_lt isLater)]
      · simp [inLeft, inRight, merged]

/-- The look-up by test finds the rules that apply to it, in the order of
registration. -/
theorem Indexed.candidates_eq {book : RuleBook} (indexed : Indexed book) (key : TestKey) :
    book.candidates key = book.rules.filter fun rule => rule.appliesTo key := by
  have merged := merge_filter (placed book.rules) (fun entry => isKeyedBy key entry.rule)
    (fun entry => isUniversal entry.rule) (pairwise_position_placed book.rules)
    fun entry _ => not_isUniversal_of_isKeyedBy
  calc book.candidates key
      = ((placed book.rules).filter fun entry => entry.rule.appliesTo key).map Placed.rule := by
        rw [candidates, indexed.everywhere, indexed.keyed key, merged]
        simp only [appliesTo_eq]
    _ = ((placed book.rules).map Placed.rule).filter fun rule => rule.appliesTo key := by
        rw [List.filter_map, Function.comp_def]
    _ = book.rules.filter fun rule => rule.appliesTo key := by rw [map_rule_placed]

/-! ## The index by code -/

/-- The index finds the position of the rule with a code. -/
def IsCoded (book : RuleBook) : Prop :=
  ∀ code, book.positionOf? code = book.rules.findIdx? fun rule => rule.code = code

theorem isCoded_empty : IsCoded empty := fun _ => rfl

theorem positionOf?_push (book : RuleBook) (rule : Rule) (code : String) :
    (book.push rule).positionOf? code =
      if rule.code = code then some book.rules.length else book.positionOf? code := by
  have stored : (book.push rule).coded = (rule.code, book.rules.length) :: book.coded := by
    cases scope : rule.scope <;> simp [push, scope]
  rw [positionOf?, stored, List.find?_cons]
  by_cases same : rule.code = code <;> simp [same, positionOf?]

theorem IsCoded.hasCode_eq_false {book : RuleBook} (isCoded : IsCoded book) {code : String} :
    book.hasCode code = false ↔ ∀ known ∈ book.rules, known.code ≠ code := by
  rw [hasCode, isCoded code, Option.isSome_eq_false_iff, Option.isNone_iff_eq_none,
    List.findIdx?_eq_none_iff]
  simp

/-- A new code is found at the end, and the others where they were. -/
theorem IsCoded.push {book : RuleBook} (isCoded : IsCoded book) {rule : Rule}
    (unused : ∀ known ∈ book.rules, known.code ≠ rule.code) : IsCoded (book.push rule) := by
  intro code
  rw [positionOf?_push, rules_push, List.findIdx?_append, isCoded code]
  by_cases same : rule.code = code
  · subst same
    have missing : book.rules.findIdx? (fun known => known.code = rule.code) = none := by
      rw [List.findIdx?_eq_none_iff]
      simpa using unused
    simp [missing]
  · simp [same]

/-! ## Registration -/

/-- What registration guarantees. -/
structure Registered (book : RuleBook) : Prop where
  indexed : Indexed book
  isCoded : IsCoded book
  distinct : book.rules.Pairwise fun left right => left.code ≠ right.code
  unreserved : ∀ rule ∈ book.rules, Fallback.isReserved rule.code = false

theorem Registered.eq_of_code {book : RuleBook} (registered : Registered book)
    {left right : Rule} (isLeft : left ∈ book.rules) (isRight : right ∈ book.rules)
    (sameCode : left.code = right.code) : left = right :=
  List.inj_on_of_nodup_map (List.pairwise_map.mpr registered.distinct) isLeft isRight sameCode

theorem registered_empty : Registered empty :=
  ⟨indexed_empty, isCoded_empty, .nil, by simp [empty]⟩

/-- What a successful registration has checked, and its result. -/
theorem register_eq_ok {book larger : RuleBook} {rule : Rule}
    (accepted : book.register rule = .ok larger) :
    Fallback.isReserved rule.code = false ∧ book.hasCode rule.code = false ∧
      larger = book.push rule := by
  unfold register at accepted
  split at accepted
  · cases accepted
  · split at accepted
    · cases accepted
    · split at accepted
      · cases accepted
      · rename_i notReserved notUsed _
        exact ⟨by simpa using notReserved, by simpa using notUsed, by cases accepted; rfl⟩

theorem Registered.register {book larger : RuleBook} {rule : Rule}
    (registered : Registered book) (accepted : book.register rule = .ok larger) :
    Registered larger := by
  obtain ⟨notReserved, notUsed, rfl⟩ := register_eq_ok accepted
  have unused := registered.isCoded.hasCode_eq_false.mp notUsed
  refine ⟨registered.indexed.push rule, registered.isCoded.push unused, ?_, ?_⟩
  · rw [rules_push, List.pairwise_append]
    refine ⟨registered.distinct, List.pairwise_singleton _ _, ?_⟩
    intro known member other isNew
    rw [List.mem_singleton.mp isNew]
    exact unused known member
  · intro other member
    rw [rules_push, List.mem_append, List.mem_singleton] at member
    rcases member with known | isNew
    · exact registered.unreserved other known
    · rw [isNew]; exact notReserved

theorem registerAll_eq_ok {book larger : RuleBook} {rules : List Rule}
    (registered : Registered book) (accepted : book.registerAll rules = .ok larger) :
    Registered larger ∧ larger.rules = book.rules ++ rules := by
  induction rules generalizing book with
  | nil =>
    cases accepted
    exact ⟨registered, (List.append_nil _).symm⟩
  | cons rule rest inductionHypothesis =>
    unfold registerAll at accepted
    split at accepted
    · rename_i next step
      obtain ⟨done, rules⟩ := inductionHypothesis (registered.register step) accepted
      refine ⟨done, ?_⟩
      rw [rules, (register_eq_ok step).2.2, rules_push, List.append_assoc, List.singleton_append]
    · cases accepted

theorem registered_of_ofRules {rules : List Rule} {book : RuleBook}
    (accepted : ofRules rules = .ok book) : Registered book :=
  (registerAll_eq_ok registered_empty accepted).1

theorem rules_of_ofRules {rules : List Rule} {book : RuleBook}
    (accepted : ofRules rules = .ok book) : book.rules = rules :=
  (registerAll_eq_ok registered_empty accepted).2

theorem isReserved_code (fallback : Fallback) : Fallback.isReserved fallback.code = true := by
  cases fallback <;> decide

theorem nodup_fallbackCodes : (Fallback.all.map Fallback.code).Nodup := by decide

/-- No two rules or fallbacks have the same code. -/
theorem Registered.nodup_codes {book : RuleBook} (registered : Registered book) :
    (book.all.map Rule.code).Nodup := by
  rw [all, List.map_append, List.map_map, List.nodup_append]
  refine ⟨List.pairwise_map.mpr registered.distinct, nodup_fallbackCodes, ?_⟩
  rintro code isRule other isFallback rfl
  obtain ⟨rule, member, rfl⟩ := List.mem_map.mp isRule
  obtain ⟨fallback, _, sameCode⟩ := List.mem_map.mp isFallback
  have unreserved := registered.unreserved rule member
  rw [← sameCode] at unreserved
  rw [show (Rule.code ∘ Fallback.rule) fallback = fallback.code from rfl,
    isReserved_code fallback] at unreserved
  cases unreserved

/-! ## When registration succeeds -/

/-- The rule can be registered beside the rules of a collection. -/
structure Admits (book : RuleBook) (rule : Rule) : Prop where
  unreserved : Fallback.isReserved rule.code = false
  unused : ∀ known ∈ book.rules, known.code ≠ rule.code
  symptoms : rule.symptoms ≠ []

theorem register_of_admits {book : RuleBook} {rule : Rule} (registered : Registered book)
    (admits : Admits book rule) : book.register rule = .ok (book.push rule) := by
  simp [register, admits.unreserved, registered.isCoded.hasCode_eq_false.mpr admits.unused,
    admits.symptoms]

theorem admits_of_register {book larger : RuleBook} {rule : Rule} (registered : Registered book)
    (accepted : book.register rule = .ok larger) : Admits book rule := by
  obtain ⟨notReserved, notUsed, _⟩ := register_eq_ok accepted
  refine ⟨notReserved, registered.isCoded.hasCode_eq_false.mp notUsed, fun none => ?_⟩
  simp [register, notReserved, notUsed, none] at accepted

/-- Every rule of the list can be registered, whatever the others are, and their codes
differ. -/
structure Registrable (rules : List Rule) : Prop where
  distinct : rules.Pairwise fun left right => left.code ≠ right.code
  alone : ∀ rule ∈ rules, Admits empty rule

/-- The order of the rules does not matter. -/
theorem Registrable.perm {left right : List Rule} (registrable : Registrable left)
    (same : left.Perm right) : Registrable right where
  distinct := (same.pairwise_iff fun {_ _} different => Ne.symm different).mp registrable.distinct
  alone := fun rule member => registrable.alone rule (same.mem_iff.mpr member)

theorem Registrable.cons {rules : List Rule} (registrable : Registrable rules) {rule : Rule}
    (alone : Admits empty rule) (unused : ∀ known ∈ rules, known.code ≠ rule.code) :
    Registrable (rule :: rules) where
  distinct := List.pairwise_cons.mpr
    ⟨fun known member => Ne.symm (unused known member), registrable.distinct⟩
  alone := List.forall_mem_cons.mpr ⟨alone, registrable.alone⟩

theorem exists_registerAll {book : RuleBook} {rules : List Rule}
    (registered : Registered book) (registrable : Registrable rules)
    (fresh : ∀ rule ∈ rules, ∀ known ∈ book.rules, known.code ≠ rule.code) :
    ∃ larger, book.registerAll rules = .ok larger := by
  induction rules generalizing book with
  | nil => exact ⟨book, rfl⟩
  | cons rule rest inductionHypothesis =>
    obtain ⟨different, restDistinct⟩ := List.pairwise_cons.mp registrable.distinct
    have alone := registrable.alone rule List.mem_cons_self
    have admits : Admits book rule :=
      ⟨alone.unreserved, fresh rule List.mem_cons_self, alone.symptoms⟩
    have restRegistrable : Registrable rest :=
      ⟨restDistinct, fun other member => registrable.alone other (List.mem_cons_of_mem _ member)⟩
    have accepted := register_of_admits registered admits
    rw [registerAll, accepted]
    refine inductionHypothesis (registered.register accepted) restRegistrable
      fun other member known isKnown => ?_
    rw [rules_push, List.mem_append, List.mem_singleton] at isKnown
    rcases isKnown with inBook | isRule
    · exact fresh other (List.mem_cons_of_mem _ member) known inBook
    · rw [isRule]
      exact different other member

theorem admits_of_registerAll {book larger : RuleBook} {rules : List Rule}
    (registered : Registered book) (accepted : book.registerAll rules = .ok larger) :
    ∀ rule ∈ rules, Admits empty rule := by
  induction rules generalizing book with
  | nil => nofun
  | cons rule rest inductionHypothesis =>
    unfold registerAll at accepted
    split at accepted
    · rename_i next step
      intro other member
      rcases List.mem_cons.mp member with isRule | inRest
      · have admits := admits_of_register registered step
        rw [isRule]
        exact ⟨admits.unreserved, by simp [empty], admits.symptoms⟩
      · exact inductionHypothesis (registered.register step) accepted other inRest
    · cases accepted

/-- Registration succeeds exactly if each rule is acceptable by itself and no code is
used twice. -/
theorem exists_ofRules_iff {rules : List Rule} :
    (∃ book, ofRules rules = .ok book) ↔ Registrable rules := by
  constructor
  · rintro ⟨book, accepted⟩
    refine ⟨?_, admits_of_registerAll registered_empty accepted⟩
    have registered := registered_of_ofRules accepted
    rw [← rules_of_ofRules accepted]
    exact registered.distinct
  · intro registrable
    exact exists_registerAll registered_empty registrable (by simp [empty])

end RunTriage.RuleBook
