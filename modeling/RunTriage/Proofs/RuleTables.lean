import RunTriage.Proofs.RecordFields
import RunTriage.RuleFile.Reader

/-!
Contract: the tables of rules that were written down are in order once they have been read.

Owns:
- the searches of a document, at every depth of its symptoms;
- documents whose tables are in order;
- the order of the tables of every document that is read, whatever its format.

Does not own: the stored form of a document, which is in `RunTriage.Proofs.StoredRules`.
-/

namespace RunTriage

/-! ## Documents -/

/-- The tables of a search are in order. -/
structure SearchForm.IsSorted (form : SearchForm) : Prop where
  filter : form.filter.attributes.Ascending
  anchor : ∀ anchor ∈ form.anchor, anchor.attributes.Ascending

mutual

/-- Every search in a symptom. -/
def SymptomForm.searches : SymptomForm → List SearchForm
  | .search form => [form]
  | .outcome _ => []
  | .all parts => SymptomForm.listSearches parts

def SymptomForm.listSearches : List SymptomForm → List SearchForm
  | [] => []
  | part :: rest => part.searches ++ SymptomForm.listSearches rest

end

theorem SymptomForm.listSearches_eq (parts : List SymptomForm) :
    SymptomForm.listSearches parts = parts.flatMap SymptomForm.searches := by
  induction parts with
  | nil => rfl
  | cons part rest inductionHypothesis =>
    rw [listSearches, inductionHypothesis, List.flatMap_cons]

/-- Every search in a document. -/
def RuleFile.searches (file : RuleFile) : List SearchForm :=
  file.rules.flatMap fun rule => rule.symptoms.flatMap SymptomForm.searches

/-- The tables of a document are in order. -/
structure RuleFile.IsSorted (file : RuleFile) : Prop where
  equivalents : file.equivalents.Ascending
  searches : ∀ search ∈ file.searches, search.IsSorted

/-! ## Tables that are read -/

/-- An optional field is left out, or it is read. -/
theorem eq_or_exists_of_optionalField? {α β : Type} {absent value : β} {read? : α → Option β}
    {field : Option α} (isRead : optionalField? absent read? field = some value) :
    value = absent ∨ ∃ given, read? given = some value := by
  cases field with
  | none =>
    cases isRead
    exact .inl rfl
  | some given => exact .inr ⟨given, isRead⟩

theorem ascending_of_optionalField? {α β : Type} {read? : α → Option (SortedTable β)}
    (ascending : ∀ value table, read? value = some table → table.Ascending)
    {field : Option α} {table : SortedTable β}
    (isRead : optionalField? [] read? field = some table) : table.Ascending := by
  rcases eq_or_exists_of_optionalField? isRead with rfl | ⟨value, tableRead⟩
  · exact SortedTable.ascending_nil
  · exact ascending value table tableRead

theorem ValuesForm.ascending_of_tableOfDatum? (value : Datum) (table : SortedTable ValuesForm)
    (isRead : tableOfDatum? value = some table) : table.Ascending := by
  simp only [tableOfDatum?, Option.bind_eq_some_iff, Option.map_eq_some_iff] at isRead
  obtain ⟨entries, -, values, -, rfl⟩ := isRead
  exact SortedTable.ascending_ofEntries values

theorem FilterForm.ascending_of_ofDatum? {value : Datum} {form : FilterForm}
    (isRead : ofDatum? value = some form) : form.attributes.Ascending := by
  unfold ofDatum? at isRead
  split at isRead
  · simp only [Option.bind_eq_bind, Option.bind_eq_some_iff, Option.pure_def,
      Option.some.injEq] at isRead
    obtain ⟨pattern, -, attributes, attributesRead, rfl⟩ := isRead
    exact ascending_of_optionalField? ValuesForm.ascending_of_tableOfDatum? attributesRead
  · cases isRead

theorem SearchForm.isSorted_of_ofFields? {fields : List (Option Datum)} {form : SearchForm}
    (isRead : ofFields? fields = some form) : form.IsSorted := by
  unfold ofFields? at isRead
  split at isRead
  · simp only [Option.bind_eq_bind, Option.bind_eq_some_iff, Option.pure_def,
      Option.some.injEq] at isRead
    obtain ⟨pattern, -, attributes, attributesRead, path, -, anchor, anchorRead, seconds, -, most,
      -, missing, -, rfl⟩ := isRead
    refine ⟨ascending_of_optionalField? ValuesForm.ascending_of_tableOfDatum? attributesRead, ?_⟩
    rintro filter rfl
    rcases eq_or_exists_of_optionalField? anchorRead with isNone | ⟨given, givenRead⟩
    · cases isNone
    · unfold Datum.option? at givenRead
      split at givenRead
      · cases givenRead
      · rw [Option.map_eq_some_iff] at givenRead
        obtain ⟨known, filterRead, isFilter⟩ := givenRead
        cases isFilter
        exact FilterForm.ascending_of_ofDatum? filterRead
  · cases isRead

/-- A symptom that was read is a search, outcomes, or parts that were read in turn. -/
theorem SymptomForm.read?_cases {rounds : Nat} {isRoot : Bool} {value : Datum}
    {form : SymptomForm} (isRead : read? (rounds + 1) isRoot value = some form) :
    (∃ fields search, SearchForm.ofFields? fields = some search ∧ form = .search search) ∨
      (∃ outcomes, form = .outcome outcomes) ∨
      ∃ (items : List Datum) (parts : List SymptomForm),
        items.mapM (read? rounds false) = some parts ∧ form = .all parts := by
  -- The root differs only in how the kind is named.
  cases isRoot
  all_goals
    simp only [read?, Option.bind_eq_bind, Option.bind_eq_some_iff, Option.pure_def, if_true,
      Bool.false_eq_true, if_false, Prod.exists] at isRead
    obtain ⟨kind, rest, -, name, -, isRead⟩ := isRead
    split_ifs at isRead
    · simp only [Option.bind_eq_some_iff, Option.some.injEq] at isRead
      obtain ⟨search, ⟨fields, -, searchRead⟩, rfl⟩ := isRead
      exact .inl ⟨fields, search, searchRead, rfl⟩
    · split at isRead
      · simp only [Option.bind_eq_some_iff, Option.some.injEq] at isRead
        obtain ⟨_, -, outcomes, -, rfl⟩ := isRead
        exact .inr (.inl ⟨outcomes, rfl⟩)
      · cases isRead
    · split at isRead
      · simp only [Option.bind_eq_some_iff, Option.some.injEq] at isRead
        obtain ⟨items, -, parts, partsRead, rfl⟩ := isRead
        exact .inr (.inr ⟨items, parts, partsRead, rfl⟩)
      · cases isRead

theorem SymptomForm.isSorted_of_read? {rounds : Nat} {isRoot : Bool} {value : Datum}
    {form : SymptomForm} (isRead : read? rounds isRoot value = some form) :
    ∀ search ∈ form.searches, search.IsSorted := by
  induction rounds generalizing isRoot value form with
  | zero => cases isRead
  | succ rounds inductionHypothesis =>
    obtain ⟨fields, search, searchRead, rfl⟩ | ⟨outcomes, rfl⟩ | ⟨items, parts, partsRead, rfl⟩ :=
      read?_cases isRead
    · intro other member
      rw [List.mem_singleton.mp member]
      exact SearchForm.isSorted_of_ofFields? searchRead
    · intro search member
      cases member
    · rw [searches, listSearches_eq]
      intro search member
      obtain ⟨part, inParts, inPart⟩ := List.mem_flatMap.mp member
      obtain ⟨item, -, partRead⟩ := exists_of_mem_mapM partsRead inParts
      exact inductionHypothesis partRead search inPart

theorem RuleForm.isSorted_of_read? {α : Type} {format : Format α} {value : α} {form : RuleForm}
    (isRead : read? format value = some form) :
    ∀ search ∈ form.symptoms.flatMap SymptomForm.searches, search.IsSorted := by
  unfold read? at isRead
  split at isRead
  · simp only [Option.bind_eq_bind, Option.bind_eq_some_iff, Option.pure_def,
      Option.some.injEq] at isRead
    obtain ⟨_, -, _, -, _, -, _, -, _, -, _, -, _, -, _, -, symptoms, symptomsRead, rfl⟩ := isRead
    intro search member
    obtain ⟨symptom, inSymptoms, inSymptom⟩ := List.mem_flatMap.mp member
    obtain ⟨item, -, itemRead⟩ := exists_of_mem_mapM symptomsRead inSymptoms
    obtain ⟨datum, -, symptomRead⟩ := Option.bind_eq_some_iff.mp itemRead
    exact SymptomForm.isSorted_of_read? symptomRead search inSymptom
  · cases isRead

theorem RuleFile.ascending_of_readEquivalents? {α : Type} {format : Format α} (value : α)
    (table : SortedTable (List String)) (isRead : readEquivalents? format value = some table) :
    table.Ascending := by
  simp only [readEquivalents?, Option.bind_eq_some_iff, Option.map_eq_some_iff] at isRead
  obtain ⟨entries, -, lists, -, rfl⟩ := isRead
  exact SortedTable.ascending_ofEntries lists

/-- The tables of a document are in order once it has been read, in any format. -/
theorem RuleFile.isSorted_of_read? {α : Type} {format : Format α} {value : α} {file : RuleFile}
    (isRead : read? format value = some file) : file.IsSorted := by
  unfold read? at isRead
  split at isRead
  · simp only [Option.bind_eq_bind, Option.bind_eq_some_iff, Option.pure_def,
      Option.some.injEq] at isRead
    obtain ⟨equivalents, equivalentsRead, rules, rulesRead, rfl⟩ := isRead
    refine ⟨ascending_of_optionalField? ascending_of_readEquivalents? equivalentsRead, ?_⟩
    intro search member
    obtain ⟨rule, inRules, inRule⟩ := List.mem_flatMap.mp member
    rcases eq_or_exists_of_optionalField? rulesRead with rfl | ⟨given, givenRead⟩
    · cases inRules
    · obtain ⟨items, -, itemsRead⟩ := Option.bind_eq_some_iff.mp givenRead
      obtain ⟨item, -, ruleRead⟩ := exists_of_mem_mapM itemsRead inRules
      exact RuleForm.isSorted_of_read? ruleRead search inRule
  · cases isRead

end RunTriage
