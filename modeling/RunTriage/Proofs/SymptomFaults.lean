import RunTriage.Proofs.FloatOrder
import RunTriage.RuleFile.Meaning

/-!
Contract: which written symptoms stand for nothing, and why.

Owns:
- the faults of filters, windows and searches, told by what is written alone;
- the parts of a symptom at every depth, each before its own parts;
- making symptoms, which fails with the first fault of a part in this order, and only then.

Does not own: the rules that symptoms belong to, which are in `RunTriage.Proofs.RuleFaults`.
-/

namespace RunTriage

/-- Why a result is missing. -/
def faultOf {ε α : Type} : Except ε α → Option ε
  | .ok _ => none
  | .error cause => some cause

section FaultOf

variable {ε α : Type} {result : Except ε α}

theorem eq_error_iff {cause : ε} : result = .error cause ↔ faultOf result = some cause := by
  cases result <;> simp [faultOf]

theorem exists_ok_iff : (∃ value, result = .ok value) ↔ faultOf result = none := by
  cases result <;> simp [faultOf]

end FaultOf

/-! ## Filters -/

/-- The text is a pattern once it is bound to the start of a message. -/
def Filter.IsPattern (text : String) : Prop :=
  ∃ pattern, Pattern.compile ("^(?:" ++ text ++ ")") = .ok pattern

namespace FilterForm

/-- Why the form stands for no filter. -/
def fault? (form : FilterForm) : Option FilterError :=
  (faultOf (Pattern.compile ("^(?:" ++ form.pattern ++ ")"))).map (FilterError.mk form.pattern)

theorem fault?_eq_none_iff {form : FilterForm} :
    form.fault? = none ↔ Filter.IsPattern form.pattern := by
  rw [fault?, Option.map_eq_none_iff, ← exists_ok_iff, Filter.IsPattern]

theorem faultOf_toFilter (equivalents : Equivalents) (form : FilterForm) :
    faultOf (form.toFilter equivalents) = form.fault? := by
  unfold toFilter Filter.ofPattern fault? Filter.anchored
  cases Pattern.compile ("^(?:" ++ form.pattern ++ ")") <;> rfl

end FilterForm

/-! ## Windows -/

namespace Search

/-- A window lasts a positive number of seconds that can be counted in milliseconds. -/
structure IsWindowLength (seconds : Float) : Prop where
  finite : seconds.isFinite = true
  positive : 0.0 < seconds
  countable : (seconds * 1000.0).round ≤ durationBound

/-- Why a window cannot last so many seconds. -/
def windowFault? (seconds : Float) : Option SearchError :=
  if ¬(seconds.isFinite = true ∧ 0.0 < seconds) then some (.notPositive seconds)
  else if ¬(seconds * 1000.0).round ≤ durationBound then some (.tooLong seconds)
  else none

variable {seconds : Float}

theorem windowFault?_eq_none_iff : windowFault? seconds = none ↔ IsWindowLength seconds := by
  unfold windowFault?
  constructor
  · intro noFault
    split_ifs at noFault with isPositive isCountable
    exact ⟨isPositive.1, isPositive.2, isCountable⟩
  · rintro ⟨finite, positive, countable⟩
    rw [if_neg (not_not_intro ⟨finite, positive⟩), if_neg (not_not_intro countable)]

/-- A finite number is either positive or at most zero. -/
theorem not_le_zero_iff (finite : seconds.isFinite = true) : ¬seconds ≤ 0.0 ↔ 0.0 < seconds :=
  FloatOrder.not_le_iff (FloatOrder.isNumber_of_isFinite finite)
    (FloatOrder.isNumber_of_isFinite rfl)

theorem faultOf_durationOfSeconds (seconds : Float) :
    faultOf (durationOfSeconds seconds) = windowFault? seconds := by
  have refused : (!seconds.isFinite || seconds ≤ 0.0) = true ↔
      ¬(seconds.isFinite = true ∧ 0.0 < seconds) := by
    cases isFinite : seconds.isFinite
    · simp
    · simp [← not_le_zero_iff isFinite]
  unfold durationOfSeconds windowFault?
  by_cases isRefused : (!seconds.isFinite || seconds ≤ 0.0) = true
  · rw [if_pos isRefused, if_pos (refused.mp isRefused)]
    rfl
  · rw [if_neg isRefused, if_neg (mt refused.mpr isRefused)]
    by_cases isCountable : (seconds * 1000.0).round ≤ durationBound
    · rw [if_pos isCountable, if_neg (not_not_intro isCountable)]
      rfl
    · rw [if_neg isCountable, if_pos isCountable]
      rfl

end Search

/-! ## Searches -/

namespace SearchForm

/-- Why the form stands for no search. A fault of the filter comes before one of the anchor, and
that before one of the window. -/
def fault? (form : SearchForm) : Option SearchError :=
  (form.filter.fault?.map .filter).or
    (((form.anchor.bind FilterForm.fault?).map .filter).or
      (form.seconds.bind Search.windowFault?))

/-- Nothing is wrong with the filter, the anchor and the window. -/
structure IsSound (form : SearchForm) : Prop where
  pattern : Filter.IsPattern form.filter.pattern
  anchor : ∀ anchor ∈ form.anchor, Filter.IsPattern anchor.pattern
  window : ∀ seconds ∈ form.seconds, Search.IsWindowLength seconds

theorem fault?_eq_none_iff {form : SearchForm} : form.fault? = none ↔ form.IsSound := by
  rw [fault?, Option.or_eq_none_iff, Option.or_eq_none_iff, Option.map_eq_none_iff,
    Option.map_eq_none_iff, Option.bind_eq_none_iff, Option.bind_eq_none_iff,
    FilterForm.fault?_eq_none_iff]
  simp only [FilterForm.fault?_eq_none_iff, Search.windowFault?_eq_none_iff]
  exact ⟨fun ⟨pattern, anchor, window⟩ => ⟨pattern, anchor, window⟩,
    fun sound => ⟨sound.pattern, sound.anchor, sound.window⟩⟩

variable (equivalents : Equivalents) (form : SearchForm)

theorem faultOf_toAnchor :
    faultOf (form.toAnchor equivalents) =
      (form.anchor.bind FilterForm.fault?).map SearchError.filter := by
  unfold toAnchor
  cases form.anchor with
  | none => rfl
  | some anchor =>
    dsimp only
    rw [Option.bind_some, ← anchor.faultOf_toFilter equivalents]
    cases anchor.toFilter equivalents <;> rfl

theorem faultOf_toDuration : faultOf form.toDuration = form.seconds.bind Search.windowFault? := by
  unfold toDuration
  cases form.seconds with
  | none => rfl
  | some seconds =>
    dsimp only
    rw [Option.bind_some, ← Search.faultOf_durationOfSeconds]
    cases Search.durationOfSeconds seconds <;> rfl

theorem faultOf_toSearch : faultOf (form.toSearch equivalents) = form.fault? := by
  rw [fault?, ← form.filter.faultOf_toFilter equivalents, ← form.faultOf_toAnchor equivalents,
    ← form.faultOf_toDuration, toSearch]
  cases form.filter.toFilter equivalents
  · rfl
  · cases form.toAnchor equivalents
    · rfl
    · cases form.toDuration <;> rfl

end SearchForm

/-! ## Symptoms -/

namespace SymptomForm

mutual

/-- The symptom and its parts at every depth. Each stands before its own parts, and these before
the parts that follow it. -/
def nodes : SymptomForm → List SymptomForm
  | .search form => [.search form]
  | .outcome outcomes => [.outcome outcomes]
  | .all parts => .all parts :: listNodes parts

def listNodes : List SymptomForm → List SymptomForm
  | [] => []
  | part :: rest => nodes part ++ listNodes rest

end

theorem listNodes_eq (parts : List SymptomForm) : listNodes parts = parts.flatMap nodes := by
  induction parts with
  | nil => rfl
  | cons part rest inductionHypothesis =>
    rw [listNodes, inductionHypothesis, List.flatMap_cons]

theorem nodes_search (form : SearchForm) : nodes (.search form) = [.search form] := rfl

theorem nodes_outcome (outcomes : List Outcome) : nodes (.outcome outcomes) = [.outcome outcomes] :=
  rfl

theorem nodes_all (parts : List SymptomForm) :
    nodes (.all parts) = .all parts :: parts.flatMap nodes :=
  congrArg _ (listNodes_eq parts)

/-- Why the form stands for no symptom, apart from the faults of its parts. -/
def ownFault? : SymptomForm → Option SymptomError
  | .search form => form.fault?.map .search
  | .outcome _ => none
  | .all parts => if parts = [] then some .noParts else none

/-- Nothing is wrong with any of the parts if the searches among them are sound and none of the
others lacks parts. -/
theorem findSome?_ownFault?_eq_none_iff {nodes : List SymptomForm} :
    nodes.findSome? ownFault? = none ↔
      (∀ form, .search form ∈ nodes → form.IsSound) ∧ ∀ parts, .all parts ∈ nodes → parts ≠ [] := by
  rw [List.findSome?_eq_none_iff]
  constructor
  · refine fun noFault => ⟨fun form member => ?_, fun parts member isEmpty => ?_⟩
    · exact SearchForm.fault?_eq_none_iff.mp (Option.map_eq_none_iff.mp (noFault _ member))
    · have fault := noFault _ member
      rw [ownFault?, if_pos isEmpty] at fault
      cases fault
  · rintro ⟨searches, conjunctions⟩ node member
    cases node with
    | search form =>
      rw [ownFault?, SearchForm.fault?_eq_none_iff.mpr (searches form member), Option.map_none]
    | outcome outcomes => rfl
    | all parts => exact if_neg (conjunctions parts member)

section Made

variable (equivalents : Equivalents)

theorem toSymptom_search (form : SearchForm) :
    toSymptom equivalents (.search form) =
      match form.toSearch equivalents with
      | .ok query => .ok (.search query)
      | .error cause => .error (.search cause) := (rfl)

theorem toSymptom_outcome (outcomes : List Outcome) :
    toSymptom equivalents (.outcome outcomes) = .ok (.ofOutcomes outcomes) := (rfl)

theorem toSymptom_noParts : toSymptom equivalents (.all []) = .error .noParts := (rfl)

theorem toSymptom_all (part : SymptomForm) (rest : List SymptomForm) :
    toSymptom equivalents (.all (part :: rest)) =
      match toSymptoms equivalents (part :: rest) with
      | .ok symptoms => .ok (.all symptoms)
      | .error cause => .error cause := (rfl)

mutual

/-- Making a symptom fails with the first fault of it and of its parts. -/
theorem faultOf_toSymptom (form : SymptomForm) :
    faultOf (form.toSymptom equivalents) = form.nodes.findSome? ownFault? := by
  match form with
  | .search form =>
    rw [nodes_search, List.findSome?_singleton, ownFault?, ← form.faultOf_toSearch equivalents,
      toSymptom_search]
    cases form.toSearch equivalents <;> rfl
  | .outcome outcomes =>
    rw [nodes_outcome, List.findSome?_singleton, toSymptom_outcome]
    rfl
  | .all [] =>
    rw [nodes_all, toSymptom_noParts]
    rfl
  | .all (part :: rest) =>
    have noOwnFault : ownFault? (.all (part :: rest)) = none := by simp [ownFault?]
    rw [nodes_all, List.findSome?_cons, noOwnFault, toSymptom_all]
    dsimp only
    rw [← faultOf_toSymptoms (part :: rest)]
    cases toSymptoms equivalents (part :: rest) <;> rfl

theorem faultOf_toSymptoms (forms : List SymptomForm) :
    faultOf (toSymptoms equivalents forms) = (forms.flatMap nodes).findSome? ownFault? := by
  match forms with
  | [] => rfl
  | part :: rest =>
    rw [List.flatMap_cons, List.findSome?_append, ← faultOf_toSymptom part,
      ← faultOf_toSymptoms rest, toSymptoms]
    cases part.toSymptom equivalents
    · rfl
    · cases toSymptoms equivalents rest <;> rfl

end

/-- There is one symptom for each form. -/
theorem length_of_toSymptoms {forms : List SymptomForm} {symptoms : List Symptom}
    (areMade : toSymptoms equivalents forms = .ok symptoms) : symptoms.length = forms.length := by
  induction forms generalizing symptoms with
  | nil =>
    cases areMade
    rfl
  | cons part rest inductionHypothesis =>
    rw [toSymptoms] at areMade
    split at areMade
    · cases areMade
    · split at areMade
      · cases areMade
      · rename_i others othersMade
        cases areMade
        rw [List.length_cons, List.length_cons, inductionHypothesis othersMade]

end Made

end SymptomForm

end RunTriage
