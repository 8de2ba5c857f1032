import RunTriage.Proofs.RuleTables
import RunTriage.RuleFile.Meaning
import RunTriage.RuleFile.Stored

/-!
Contract: rules that were written down survive being stored and read again.

Owns:
- documents whose windows are finite;
- reading the stored form of such a document, whatever the order of members in it;
- reading, storing and reading again a document of either format.

Does not own: the text of the stored form, whose reader has a limit on nesting.
-/

namespace RunTriage

/-! ## Finite windows -/

/-- Every window is a number of seconds, neither infinite nor undefined. -/
def SearchForm.HasFiniteWindow (form : SearchForm) : Prop :=
  ∀ seconds ∈ form.seconds, seconds.isFinite = true

/-- The search is told by its stored form. -/
structure SearchForm.IsStorable (form : SearchForm) : Prop where
  sorted : form.IsSorted
  finite : form.HasFiniteWindow

def RuleFile.HasFiniteWindows (file : RuleFile) : Prop :=
  ∀ search ∈ file.searches, search.HasFiniteWindow

/-! ## The kind of a symptom -/

namespace SymptomForm

/-- The kind is taken out of a table, and the other entries are left. -/
theorem splitKind?_ofEntries {entries others : List (String × Datum)} {kind : Datum}
    (same : entries.Perm ((kindField, kind) :: others))
    (distinct : kindField ∉ SortedTable.keys others) :
    ∃ rest, splitKind? (Datum.ofEntries entries) = some (kind, Datum.ofEntries rest) ∧
      rest.Perm others := by
  have isNew : ∀ entry ∈ others, entry.1 ≠ kindField := fun entry member isKind =>
    distinct (List.mem_map.mpr ⟨entry, member, isKind⟩)
  have noOther : others.filter (fun entry => entry.1 = kindField) = [] := by
    simpa [List.filter_eq_nil_iff] using isNew
  have allOthers : others.filter (fun entry => !decide (entry.1 = kindField)) = others := by
    simpa [List.filter_eq_self] using isNew
  have kindEntry := same.filter fun entry => entry.1 = kindField
  have otherEntries := same.filter fun entry => !decide (entry.1 = kindField)
  rw [List.filter_cons_of_pos (by simp), noOther, List.perm_singleton] at kindEntry
  rw [List.filter_cons_of_neg (by simp), allOthers] at otherEntries
  refine ⟨_, ?_, otherEntries⟩
  have isKind (entry : String × Datum) :
      decide ((Datum.text entry.1).text? = some kindField) = decide (entry.1 = kindField) := by
    simp [Datum.text?]
  simp only [Datum.ofEntries, splitKind?, List.filter_map, Function.comp_def, isKind, kindEntry,
    List.map_cons, List.map_nil]

section Kinds

variable {rounds : Nat} {isRoot : Bool} {value rest : Datum}

theorem map_eq_bind_some {α β : Type} (result : Option α) (convert : α → β) :
    result.map convert = result.bind fun value => some (convert value) :=
  Option.map_eq_bind

theorem read?_message (isSplit : splitKind? value = some (.text "message", rest)) :
    read? (rounds + 1) isRoot value =
      ((rest.fields? SearchForm.fieldNames).bind SearchForm.ofFields?).map .search := by
  cases isRoot <;>
    simp [read?, isSplit, Datum.text?, Datum.choice?, map_eq_bind_some]

theorem read?_status {states : List Datum}
    (isSplit : splitKind? value = some (.text "status", rest))
    (isField : rest.fields? ["states"] = some [some (.list states)]) :
    read? (rounds + 1) isRoot value = (states.mapM Outcome.ofDatum?).map .outcome := by
  cases isRoot <;>
    simp [read?, isSplit, isField, Datum.text?, Datum.choice?, Datum.list?, map_eq_bind_some]

theorem read?_all {parts : List Datum}
    (isSplit : splitKind? value = some (.text "all", rest))
    (isField : rest.fields? ["predicates"] = some [some (.list parts)]) :
    read? (rounds + 1) isRoot value = (parts.mapM (read? rounds false)).map .all := by
  cases isRoot <;>
    simp [read?, isSplit, isField, Datum.text?, Datum.choice?, Datum.list?, map_eq_bind_some]

end Kinds

end SymptomForm

/-! ## Reading stored forms -/

theorem SymptomForm.listToJson_eq (parts : List SymptomForm) :
    SymptomForm.listToJson parts = parts.map SymptomForm.toJson := by
  induction parts with
  | nil => rfl
  | cons part rest inductionHypothesis => rw [listToJson, inductionHypothesis, List.map_cons]

section Stored

variable {order : Json.MemberOrder}

theorem Json.reordered_strings (values : List String) :
    (strings values).reordered order = strings values := by
  simp [strings, reordered, reorderedItems_eq]

theorem Datum.ofJson_strings (values : List String) :
    ofJson (Json.strings values) = .list (values.map .text) := by
  simp [Json.strings, ofJson, ofItems_eq]

theorem ValuesForm.ofDatum?_toJson (form : ValuesForm) :
    ofDatum? (Datum.ofJson (form.toJson.reordered order)) = some form := by
  cases form with
  | one value => rfl
  | many values =>
    have texts : (values.map Datum.text).mapM Datum.text? = some values := by
      apply mapM_written
      intro text _
      rfl
    rw [toJson, Json.reordered_strings, Datum.ofJson_strings, ofDatum?, Datum.texts?, Datum.list?,
      Option.bind_some, texts, Option.map_some]
    intro value isText
    cases isText

variable (keeps : order.Keeps)

include keeps

theorem ValuesForm.tableOfDatum?_attributesJson {attributes : SortedTable ValuesForm}
    (ascending : attributes.Ascending) :
    tableOfDatum? (Datum.ofJson ((FilterForm.attributesJson attributes).reordered order)) =
      some attributes := by
  have distinct : (SortedTable.keys (attributes.map fun entry =>
      (entry.1, entry.2.toJson))).Nodup :=
    (List.pairwise_map.mpr (ascending.mapValues toJson)).imp String.ne_of_lt
  obtain ⟨entries, isTable, same⟩ := Datum.exists_ofJson_reordered_object keeps distinct
  have inOrder : (Datum.membersInOrder order
      (attributes.map fun entry => (entry.1, entry.2.toJson))).mapM
        (fun entry => (ofDatum? entry.2).map fun values => (entry.1, values)) =
      some attributes := by
    rw [Datum.membersInOrder, List.map_map]
    apply mapM_written
    intro entry _
    simp only [Function.comp_apply, ofDatum?_toJson, Option.map_some]
  obtain ⟨others, areRead, perm⟩ := mapM_of_perm inOrder same
  rw [tableOfDatum?, FilterForm.attributesJson, isTable, Datum.entries?_ofEntries,
    Option.bind_some, areRead, Option.map_some, ascending.ofEntries_eq perm]

theorem FilterForm.ofDatum?_toJson {form : FilterForm} (ascending : form.attributes.Ascending) :
    ofDatum? (Datum.ofJson (form.toJson.reordered order)) = some form := by
  have attributesRead := ValuesForm.tableOfDatum?_attributesJson keeps ascending
  rw [ofDatum?, toJson, Datum.fields?_ofJson_reordered_object keeps (by simp [SortedTable.keys])]
  simp [fieldNames, SortedTable.find?, Json.reordered, Datum.ofJson, Datum.text?, optionalField?,
    attributesRead]

theorem SearchForm.ofFields?_fields {form : SearchForm} (storable : form.IsStorable) :
    ofFields? (fieldNames.map fun name => (SortedTable.find? form.fields name).map
      fun value => Datum.ofJson (value.reordered order)) = some form := by
  obtain ⟨sorted, finite⟩ := storable
  have attributesRead := ValuesForm.tableOfDatum?_attributesJson keeps sorted.filter
  have anchorRead : Datum.option? FilterForm.ofDatum? (Datum.ofJson
      ((Json.ofOption (form.anchor.map FilterForm.toJson)).reordered order)) =
      some form.anchor := by
    apply Datum.option?_ofJson_ofOption
    · intro anchor known
      exact FilterForm.ofDatum?_toJson keeps (sorted.anchor anchor known)
    · intro anchor _ isNull
      cases isNull
  have secondsRead : Datum.option? Datum.number? (Datum.ofJson
      ((Json.ofOption (form.seconds.map finiteJson)).reordered order)) = some form.seconds := by
    apply Datum.option?_ofJson_ofOption
    · intro seconds known
      rw [finiteJson, if_pos (finite seconds known)]
      rfl
    · intro seconds known isNull
      rw [finiteJson, if_pos (finite seconds known)] at isNull
      cases isNull
  have mostRead : Datum.option? Datum.count? (Datum.ofJson
      ((Json.ofOption (form.most.map Json.count)).reordered order)) = some form.most := by
    apply Datum.option?_ofJson_ofOption
    · intro most _
      simp [Json.count, Json.reordered, Datum.ofJson, Datum.count?]
    · intro most _ isNull
      cases isNull
  simp [fieldNames, fields, SortedTable.find?, Json.reordered, Datum.ofJson, Datum.text?,
    Datum.bool?, optionalField?, ofFields?, attributesRead, anchorRead, secondsRead, mostRead]

/-- The stored form of a symptom is a table, out of which its kind is taken. -/
theorem SymptomForm.exists_splitKind? (word : String) (members : List (String × Json))
    (distinct : (SortedTable.keys ((kindField, Json.string word) :: members)).Nodup) :
    ∃ entries rest,
      Datum.ofJson ((Json.object ((kindField, .string word) :: members)).reordered order) =
          Datum.ofEntries entries ∧
        splitKind? (Datum.ofEntries entries) = some (.text word, Datum.ofEntries rest) ∧
          rest.Perm (Datum.membersInOrder order members) ∧ rest ⊆ entries := by
  obtain ⟨entries, isTable, same⟩ := Datum.exists_ofJson_reordered_object keeps distinct
  have isNew : kindField ∉ SortedTable.keys (Datum.membersInOrder order members) := by
    rw [Datum.keys_membersInOrder]
    exact (List.nodup_cons.mp distinct).1
  obtain ⟨rest, isSplit, restSame⟩ := splitKind?_ofEntries same isNew
  refine ⟨entries, rest, isTable, isSplit, restSame, ?_⟩
  intro entry member
  exact same.symm.subset (List.mem_cons_of_mem _ (restSame.subset member))

/-- A symptom is read from its stored form by as many rounds as the form is deep. -/
theorem SymptomForm.read?_toJson {rounds : Nat} {form : SymptomForm} {isRoot : Bool}
    (storable : ∀ search ∈ form.searches, search.IsStorable)
    (enough : (Datum.ofJson (form.toJson.reordered order)).depth < rounds) :
    read? rounds isRoot (Datum.ofJson (form.toJson.reordered order)) = some form := by
  induction rounds generalizing form isRoot with
  | zero => exact absurd enough (Nat.not_lt_zero _)
  | succ rounds inductionHypothesis =>
    cases form with
    | search form =>
      obtain ⟨entries, rest, isTable, isSplit, same, _⟩ := exists_splitKind? keeps
        "message" form.fields (by simp [SortedTable.keys, SearchForm.fields, kindField])
      have fieldsRead := SearchForm.ofFields?_fields keeps (storable form List.mem_cons_self)
      rw [toJson, isTable, read?_message isSplit, Datum.fields?_of_perm (by
          simp [SortedTable.keys, SearchForm.fields]) same, Option.bind_some, fieldsRead,
        Option.map_some]
    | outcome outcomes =>
      obtain ⟨entries, rest, isTable, isSplit, same, _⟩ := exists_splitKind? keeps
        "status" [("states", .strings (outcomes.map Outcome.keyword))]
        (by simp [SortedTable.keys, kindField])
      have isField := Datum.fields?_of_perm (by simp [SortedTable.keys]) same ["states"]
      simp only [List.map_cons, List.map_nil, SortedTable.find?, if_true, Option.map_some,
        Json.reordered_strings, Datum.ofJson_strings] at isField
      have outcomesRead : ((outcomes.map Outcome.keyword).map Datum.text).mapM Outcome.ofDatum? =
          some outcomes := by
        rw [List.map_map]
        apply mapM_written
        intro outcome _
        exact Outcome.ofKeyword?_keyword outcome
      rw [toJson, isTable, read?_status isSplit isField, outcomesRead, Option.map_some]
    | all parts =>
      obtain ⟨entries, rest, isTable, isSplit, same, restMember⟩ := exists_splitKind? keeps
        "all" [("predicates", .array (listToJson parts))] (by simp [SortedTable.keys, kindField])
      have isField := Datum.fields?_of_perm (by simp [SortedTable.keys]) same ["predicates"]
      have partsValue : Datum.ofJson ((Json.array (listToJson parts)).reordered order) =
          .list (parts.map fun part => Datum.ofJson (part.toJson.reordered order)) := by
        simp [Json.reordered, Json.reorderedItems_eq, Datum.ofJson, Datum.ofItems_eq,
          listToJson_eq]
      simp only [List.map_cons, List.map_nil, SortedTable.find?, if_true, Option.map_some,
        partsValue] at isField
      rw [searches, listSearches_eq] at storable
      have partsRead : (parts.map fun part =>
          Datum.ofJson (part.toJson.reordered order)).mapM (read? rounds false) = some parts := by
        apply mapM_written
        intro part member
        apply inductionHypothesis
        · intro search inPart
          exact storable search (List.mem_flatMap.mpr ⟨part, member, inPart⟩)
        · -- A part lies two levels deeper: in a list, which is in a table.
          have inList := Datum.depth_lt_of_mem_list (List.mem_map_of_mem
            (f := fun part : SymptomForm => Datum.ofJson (part.toJson.reordered order)) member)
          have inTable := Datum.depth_lt_of_mem_ofEntries (restMember (same.symm.subset (by
            simp only [Datum.membersInOrder, List.map_cons, List.map_nil, partsValue]
            exact List.mem_singleton_self _)))
          rw [toJson, isTable] at enough
          omega
      rw [toJson, isTable, read?_all isSplit isField, partsRead, Option.map_some]

theorem SymptomForm.mapM_listToJson {symptoms : List SymptomForm}
    (storable : ∀ search ∈ symptoms.flatMap searches, search.IsStorable) :
    ((listToJson symptoms).map (Json.reordered order)).mapM
      (fun item => ofDatum? (Datum.ofJson item)) = some symptoms := by
  rw [listToJson_eq, List.map_map]
  apply mapM_written
  intro symptom member
  refine read?_toJson keeps ?_ (Nat.lt_succ_self _)
  intro search inside
  exact storable search (List.mem_flatMap.mpr ⟨symptom, member, inside⟩)

theorem TestKey.ofDatum?_toJson (key : TestKey) :
    ofDatum? (Datum.ofJson (key.toJson.reordered order)) = some key := by
  rw [ofDatum?, toJson, Datum.fields?_ofJson_reordered_object keeps (by simp [SortedTable.keys])]
  simp [SortedTable.find?, Json.reordered, Datum.ofJson, Datum.text?]

theorem ScopeForm.ofDatum?_toJson (form : ScopeForm) :
    ofDatum? (Datum.ofJson (form.toJson.reordered order)) = some form := by
  cases form with
  | word text => rfl
  | keys tests =>
    have testsRead : (tests.map fun key => Datum.ofJson (key.toJson.reordered order)).mapM
        TestKey.ofDatum? = some tests := by
      apply mapM_written
      intro key _
      exact TestKey.ofDatum?_toJson keeps key
    have value : Datum.ofJson ((toJson (.keys tests)).reordered order) =
        .list (tests.map fun key => Datum.ofJson (key.toJson.reordered order)) := by
      simp [toJson, Json.reordered, Json.reorderedItems_eq, Datum.ofJson, Datum.ofItems_eq]
    rw [value, ofDatum?, testsRead, Option.map_some]

theorem RuleForm.read?_toJson {form : RuleForm}
    (storable : ∀ search ∈ form.symptoms.flatMap SymptomForm.searches, search.IsStorable) :
    read? Json.format (form.toJson.reordered order) = some form := by
  have scopeRead := ScopeForm.ofDatum?_toJson keeps form.scope
  have symptomsRead := SymptomForm.mapM_listToJson keeps storable
  rw [read?, toJson, Json.fields?_reordered_object keeps (by simp [SortedTable.keys])]
  simp [fieldNames, SortedTable.find?, Json.reordered_strings, Json.reordered, optionalField?,
    Json.reorderedItems_eq, scopeRead, symptomsRead]

theorem RuleFile.readEquivalents?_toJson {equivalents : SortedTable (List String)}
    (ascending : equivalents.Ascending) :
    readEquivalents? Json.format ((Json.object (equivalents.map fun entry =>
      (entry.1, .strings entry.2))).reordered order) = some equivalents := by
  have distinct : (SortedTable.keys (equivalents.map fun entry =>
      (entry.1, Json.strings entry.2))).Nodup :=
    (List.pairwise_map.mpr (ascending.mapValues Json.strings)).imp String.ne_of_lt
  obtain ⟨stored, isStored, same⟩ := Json.perm_reordered_object keeps distinct
  have inOrder : ((equivalents.map fun entry => (entry.1, Json.strings entry.2)).map
      fun member => (member.1, member.2.reordered order)).mapM
        (fun entry => (Json.format.texts? entry.2).map fun others => (entry.1, others)) =
      some equivalents := by
    rw [List.map_map]
    apply mapM_written
    intro entry _
    simp [Json.reordered_strings]
  obtain ⟨others, areRead, perm⟩ := mapM_of_perm inOrder same
  rw [isStored, readEquivalents?, Json.format_entries?_object, Option.bind_some, areRead,
    Option.map_some, ascending.ofEntries_eq perm]

/-- A document is read from its stored form, whatever the order of the members in it. -/
theorem RuleFile.ofJson?_reordered_toJson {file : RuleFile} (sorted : file.IsSorted)
    (finite : file.HasFiniteWindows) :
    ofJson? (file.toJson.reordered order) = some file := by
  have equivalentsRead := readEquivalents?_toJson keeps sorted.equivalents
  have rulesRead : ((file.rules.map RuleForm.toJson).map (Json.reordered order)).mapM
      (RuleForm.read? Json.format) = some file.rules := by
    rw [List.map_map]
    apply mapM_written
    intro rule member
    apply RuleForm.read?_toJson keeps
    intro search inside
    have inFile : search ∈ file.searches := List.mem_flatMap.mpr ⟨rule, member, inside⟩
    exact ⟨sorted.searches search inFile, finite search inFile⟩
  rw [ofJson?, read?, toJson, Json.fields?_reordered_object keeps (by simp [SortedTable.keys])]
  simp only [fieldNames, List.map_cons, List.map_nil, SortedTable.find?, String.reduceEq, if_true,
    if_false, Option.map_some, optionalField?, Option.pure_def, Option.bind_eq_bind]
  rw [equivalentsRead, Option.bind_some, Json.reordered_array, Json.format_items?_array,
    Option.bind_some, rulesRead, Option.bind_some]

end Stored

/-! ## Stored documents -/

namespace RuleFile

/-- A document survives being stored and read again, and so do its rules or the reason why it has
none. A document that was read, in either format, is in order, so that reading, storing and reading
again is the same as reading once. -/
theorem ofJson?_stored {order : Json.MemberOrder} (keeps : order.Keeps) :
    (∀ file : RuleFile, file.IsSorted → file.HasFiniteWindows →
      ofJson? file.toJson = some file ∧ ofJson? (file.toJson.reordered order) = some file ∧
        (ofJson? (file.toJson.reordered order)).map toRuleBook = some file.toRuleBook) ∧
      (∀ text, (∀ file ∈ ofYaml? text, file.HasFiniteWindows) →
        ((ofYaml? text).bind fun file => ofJson? (file.toJson.reordered order)) = ofYaml? text) ∧
      ∀ value, (∀ file ∈ ofJson? value, file.HasFiniteWindows) →
        ((ofJson? value).bind fun file => ofJson? (file.toJson.reordered order)) =
          ofJson? value := by
  have again {parsed : Option RuleFile} (sorted : ∀ file ∈ parsed, file.IsSorted)
      (finite : ∀ file ∈ parsed, file.HasFiniteWindows) :
      (parsed.bind fun file => ofJson? (file.toJson.reordered order)) = parsed := by
    cases parsed with
    | none => rfl
    | some file => exact ofJson?_reordered_toJson keeps (sorted file rfl) (finite file rfl)
  refine ⟨?_, ?_, ?_⟩
  · intro file sorted finite
    have isRead := ofJson?_reordered_toJson keeps sorted finite
    have asWritten := ofJson?_reordered_toJson Json.MemberOrder.keeps_id sorted finite
    rw [Json.reordered_id] at asWritten
    exact ⟨asWritten, isRead, congrArg (Option.map toRuleBook) isRead⟩
  · intro text finite
    refine again ?_ finite
    intro file isRead
    obtain ⟨document, -, rulesRead⟩ := Option.bind_eq_some_iff.mp isRead
    exact isSorted_of_read? rulesRead
  · intro value finite
    refine again ?_ finite
    intro file isRead
    exact isSorted_of_read? isRead

/-- A window behind an anchor. -/
def windowSearch : SearchForm where
  filter := ⟨"timeout", [("level", .many ["warning", "error"]), ("thread", .one "main")]⟩
  path := "test/call"
  anchor := some ⟨"started", []⟩
  seconds := some 2.5
  most := none
  missing := true

def windowRules : RuleFile where
  equivalents := [("warning", ["warn", "WARN"])]
  rules := [{
    code := "SLOW"
    message := "Slow start"
    scope := .keys [⟨"test_start.py", "test_cold"⟩]
    taints := true
    harmless := false
    onlyOnce := false
    suppresses := ["LATE"]
    symptoms := [.all [.outcome [.failed, .error], .all [.search windowSearch]]] }]

def windowText : String :=
  "classifiers:\n- code: SLOW\n  message: Slow start\n  tests: '*'\n  predicates:\n" ++
    "  - type: message\n    pattern: timeout\n    max_time: 2.5\n"

theorem ofJson?_stored_windowRules :
    windowRules.IsSorted ∧ windowRules.HasFiniteWindows ∧
      ofJson? (windowRules.toJson.reordered SortedTable.ofEntries) = some windowRules ∧
        (∀ file ∈ ofYaml? windowText, file.HasFiniteWindows) ∧
          ((ofYaml? windowText).bind fun file =>
            ofJson? (file.toJson.reordered SortedTable.ofEntries)) = ofYaml? windowText := by
  have one : windowRules.searches = [windowSearch] := rfl
  have sorted : windowRules.IsSorted := by
    refine ⟨by simp [SortedTable.Ascending, windowRules], ?_⟩
    rw [one, List.forall_mem_singleton]
    refine ⟨?_, ?_⟩
    · simp only [SortedTable.Ascending, windowSearch]
      decide
    · rintro _ ⟨rfl⟩
      exact SortedTable.ascending_nil
  have finite : windowRules.HasFiniteWindows := by
    rw [HasFiniteWindows, one, List.forall_mem_singleton]
    rintro _ ⟨rfl⟩
    decide
  have textFinite : ∀ file ∈ ofYaml? windowText, file.HasFiniteWindows := by
    have areFinite : ((ofYaml? windowText).all fun file =>
        file.searches.all fun search => search.seconds.all Float.isFinite) = true := by
      decide +kernel
    intro file isRead search member seconds known
    have fileFinite := Option.all_eq_true _ _ |>.mp areFinite file isRead
    have searchFinite := List.all_eq_true.mp fileFinite search member
    exact Option.all_eq_true _ _ |>.mp searchFinite seconds known
  obtain ⟨document, text, -⟩ := ofJson?_stored Json.MemberOrder.keeps_ofEntries
  exact ⟨sorted, finite, (document windowRules sorted finite).2.1, textFinite,
    text windowText textFinite⟩

end RuleFile

end RunTriage
