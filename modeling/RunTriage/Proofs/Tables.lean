import Mathlib.Data.List.Induction
import Mathlib.Data.List.Perm.Basic
import RunTriage.SortedTable

/-!
Contract: tables are determined by their look-ups, and sets of strings by their members.

Owns:
- what each operation on a table does to the look-ups;
- the order of keys after each operation;
- extensionality of tables and of sets of strings;
- lists without their repetitions, which name no item twice;
- the entries of a table that was put in order.

Does not own: the operations themselves, which are in `RunTriage.SortedTable`.
-/

namespace RunTriage

namespace SortedTable

variable {β γ : Type}

/-! ## Look-ups -/

theorem find?_insert (table : SortedTable β) (key : String) (value : β) (other : String) :
    find? (insert table key value) other =
      if key = other then some value else find? table other := by
  split
  · rename_i same
    rw [← same, find?_insert_self]
  · rename_i different
    exact find?_insert_of_ne table value different

theorem find?_alter (table : SortedTable β) (key : String) (change : Option β → β)
    (other : String) :
    find? (alter table key change) other =
      if key = other then some (change (find? table key)) else find? table other :=
  find?_insert table key _ other

theorem find?_erase (table : SortedTable β) (key other : String) :
    find? (erase table key) other = if key = other then none else find? table other := by
  induction table with
  | nil => simp [erase]
  | cons entry rest inductionHypothesis =>
    obtain ⟨stored, value⟩ := entry
    simp only [erase, ne_eq, decide_not] at inductionHypothesis
    by_cases removed : stored = key
    · subst removed
      by_cases wanted : stored = other
      · simpa [erase, wanted] using inductionHypothesis
      · simp [erase, find?, wanted, inductionHypothesis]
    · by_cases wanted : stored = other
      · subst wanted
        simp [erase, find?, removed, Ne.symm removed]
      · simp [erase, find?, removed, wanted, inductionHypothesis]

theorem find?_mapValues (table : SortedTable β) (change : β → γ) (key : String) :
    find? (table.map fun entry => (entry.1, change entry.2)) key =
      (find? table key).map change := by
  induction table with
  | nil => rfl
  | cons entry rest inductionHypothesis =>
    obtain ⟨stored, value⟩ := entry
    by_cases wanted : stored = key <;> simp [find?, wanted, inductionHypothesis]

theorem find?_filter_key (table : SortedTable β) (keep : String → Bool) (key : String) :
    find? (table.filter fun entry => keep entry.1) key =
      if keep key then find? table key else none := by
  induction table with
  | nil => simp
  | cons entry rest inductionHypothesis =>
    obtain ⟨stored, value⟩ := entry
    by_cases wanted : stored = key
    · subst wanted
      cases isKept : keep stored
      · simp [isKept, inductionHypothesis]
      · simp [isKept, find?]
    · cases isKept : keep stored
      · simp [isKept, find?, wanted, inductionHypothesis]
      · simp [isKept, find?, wanted, inductionHypothesis]

/-- Under one key stands at most one entry. -/
theorem filter_key_eq {table : SortedTable β} (distinct : (keys table).Nodup) (key : String) :
    (table.filter fun entry => entry.1 = key) =
      ((find? table key).map fun value => (key, value)).toList := by
  induction table with
  | nil => rfl
  | cons entry rest inductionHypothesis =>
    obtain ⟨stored, value⟩ := entry
    obtain ⟨isNew, restDistinct⟩ := List.nodup_cons.mp distinct
    by_cases wanted : stored = key
    · subst wanted
      have others : (rest.filter fun entry => entry.1 = stored) = [] := by
        rw [List.filter_eq_nil_iff]
        rintro entry member isStored
        exact isNew (List.mem_map.mpr ⟨entry, member, of_decide_eq_true isStored⟩)
      simp [find?, others]
    · simp [find?, wanted, inductionHypothesis restDistinct]

/-! ## Entries -/

theorem eq_or_mem_of_mem_insert {table : SortedTable β} {key : String} {value : β}
    {entry : String × β} (member : entry ∈ insert table key value) :
    entry = (key, value) ∨ entry ∈ table := by
  induction table with
  | nil => exact .inl (List.mem_singleton.mp member)
  | cons first rest inductionHypothesis =>
    obtain ⟨stored, old⟩ := first
    unfold insert at member
    split at member
    · exact List.mem_cons.mp member
    · split at member
      · exact (List.mem_cons.mp member).imp_right (List.mem_cons_of_mem _)
      · rcases List.mem_cons.mp member with isFirst | inRest
        · exact .inr (isFirst ▸ List.mem_cons_self)
        · exact (inductionHypothesis inRest).imp_right (List.mem_cons_of_mem _)

theorem insert_mapValues (table : SortedTable β) (key : String) (value : β) (change : β → γ) :
    (insert table key value).map (fun entry => (entry.1, change entry.2)) =
      insert (table.map fun entry => (entry.1, change entry.2)) key (change value) := by
  induction table with
  | nil => rfl
  | cons first rest inductionHypothesis =>
    obtain ⟨stored, old⟩ := first
    simp only [insert, List.map_cons, ← inductionHypothesis]
    split
    · rfl
    · split <;> rfl

/-! ## The order of keys -/

theorem ascending_nil : Ascending ([] : SortedTable β) := .nil

theorem Ascending.erase {table : SortedTable β} (ascending : Ascending table) (key : String) :
    Ascending (SortedTable.erase table key) := List.Pairwise.filter _ ascending

theorem Ascending.alter {table : SortedTable β} (ascending : Ascending table) (key : String)
    (change : Option β → β) : Ascending (SortedTable.alter table key change) :=
  ascending.insert key _

theorem Ascending.mapValues {table : SortedTable β} (ascending : Ascending table)
    (change : β → γ) : Ascending (table.map fun entry => (entry.1, change entry.2)) :=
  List.pairwise_map.mpr ascending

/-! ## Extensionality -/

theorem mem_of_find? {table : SortedTable β} {key : String} {value : β}
    (found : find? table key = some value) : (key, value) ∈ table := by
  induction table with
  | nil => cases found
  | cons entry rest inductionHypothesis =>
    obtain ⟨stored, known⟩ := entry
    by_cases wanted : stored = key
    · simp only [find?, wanted, if_true, Option.some.injEq] at found
      simp [wanted, found]
    · simp only [find?, wanted, if_false] at found
      exact List.mem_cons_of_mem _ (inductionHypothesis found)

theorem Ascending.find?_of_mem {table : SortedTable β} (ascending : Ascending table)
    {key : String} {value : β} (member : (key, value) ∈ table) :
    find? table key = some value := by
  induction table with
  | nil => cases member
  | cons entry rest inductionHypothesis =>
    obtain ⟨stored, known⟩ := entry
    obtain ⟨least, restAscending⟩ := List.pairwise_cons.mp ascending
    rcases List.mem_cons.mp member with isFirst | inRest
    · cases isFirst
      simp [find?]
    · have isLater := least (key, value) inRest
      have different : stored ≠ key := String.ne_of_lt isLater
      simp only [find?, different, if_false]
      exact inductionHypothesis restAscending inRest

/-- Inserting a value exchanges what the key held before for what the value holds. -/
theorem Ascending.perm_flatMap_insert {table : SortedTable β} (ascending : Ascending table)
    (key : String) (value : β) (items : β → List γ) :
    ((SortedTable.insert table key value).flatMap (fun entry => items entry.2) ++
        (find? table key).elim [] items).Perm
      (table.flatMap (fun entry => items entry.2) ++ items value) := by
  induction table with
  | nil => simp [SortedTable.insert]
  | cons first rest inductionHypothesis =>
    obtain ⟨stored, old⟩ := first
    obtain ⟨least, restAscending⟩ := List.pairwise_cons.mp ascending
    by_cases before : key < stored
    · have missing : find? ((stored, old) :: rest) key = none := by
        refine Option.eq_none_iff_forall_ne_some.mpr fun known found => ?_
        rcases List.mem_cons.mp (mem_of_find? found) with isFirst | inRest
        · exact String.ne_of_lt before (congrArg Prod.fst isFirst)
        · exact String.lt_irrefl key (String.lt_trans before (least _ inRest))
      rw [missing, SortedTable.insert, if_pos before, List.flatMap_cons, Option.elim_none,
        List.append_nil]
      exact List.perm_append_comm
    · by_cases same : stored = key
      · subst same
        simp only [SortedTable.insert, find?, before, if_true, if_false, List.flatMap_cons,
          Option.elim_some]
        refine List.perm_append_comm.trans ?_
        rw [List.append_assoc]
        exact List.perm_append_comm.append_left (items old)
      · simp only [SortedTable.insert, find?, before, same, if_false, List.flatMap_cons,
          List.append_assoc]
        exact (inductionHypothesis restAscending).append_left (items old)

theorem Ascending.nodup {table : SortedTable β} (ascending : Ascending table) : table.Nodup :=
  List.Pairwise.imp (fun isLess isSame => String.ne_of_lt isLess (congrArg Prod.fst isSame))
    ascending

/-- A table is determined by its entries in any order. -/
theorem Ascending.eq_of_perm {left right : SortedTable β} (leftAscending : Ascending left)
    (rightAscending : Ascending right) (same : left.Perm right) : left = right := by
  refine same.eq_of_pairwise ?_ leftAscending rightAscending
  intro first second _ _ isLess isGreater
  exact absurd (String.lt_trans isLess isGreater) (String.lt_irrefl first.1)

/-- Two tables with the same look-ups are equal. -/
theorem Ascending.ext {left right : SortedTable β} (leftAscending : Ascending left)
    (rightAscending : Ascending right) (same : ∀ key, find? left key = find? right key) :
    left = right := by
  refine leftAscending.eq_of_perm rightAscending ?_
  rw [List.perm_ext_iff_of_nodup leftAscending.nodup rightAscending.nodup]
  rintro ⟨key, value⟩
  constructor
  · exact fun member => mem_of_find? ((same key).symm.trans (leftAscending.find?_of_mem member))
  · exact fun member => mem_of_find? ((same key).trans (rightAscending.find?_of_mem member))

/-! ## Tables from entries -/

theorem perm_insert {table : SortedTable β} {key : String} (isNew : key ∉ keys table) (value : β) :
    (insert table key value).Perm ((key, value) :: table) := by
  induction table with
  | nil => exact List.Perm.refl _
  | cons first rest inductionHypothesis =>
    obtain ⟨stored, old⟩ := first
    rw [keys, List.map_cons, List.mem_cons, not_or] at isNew
    unfold insert
    split
    · exact List.Perm.refl _
    · rw [if_neg (Ne.symm isNew.1)]
      exact ((inductionHypothesis isNew.2).cons _).trans (List.Perm.swap ..)

/-- Entries under different keys are only put in order. -/
theorem perm_ofEntries {entries : List (String × β)} (distinct : (keys entries).Nodup) :
    (ofEntries entries).Perm entries := by
  induction entries using List.reverseRecOn with
  | nil => exact List.Perm.refl _
  | append_singleton init last inductionHypothesis =>
    rw [keys, List.map_append, List.nodup_append] at distinct
    obtain ⟨initDistinct, -, apart⟩ := distinct
    have initPerm := inductionHypothesis initDistinct
    have isNew : last.1 ∉ keys (ofEntries init) := by
      intro member
      exact apart _ ((initPerm.map Prod.fst).subset member) _ (by simp) rfl
    rw [ofEntries, List.foldl_concat, ← ofEntries]
    exact (perm_insert isNew last.2).trans
      ((initPerm.cons last).trans (List.perm_append_singleton last init).symm)

theorem ofEntries_mapValues (entries : List (String × β)) (change : β → γ) :
    ofEntries (entries.map fun entry => (entry.1, change entry.2)) =
      (ofEntries entries).map fun entry => (entry.1, change entry.2) := by
  induction entries using List.reverseRecOn with
  | nil => rfl
  | append_singleton init last inductionHypothesis =>
    simp only [ofEntries, List.map_append, List.map_singleton, List.foldl_concat]
      at inductionHypothesis ⊢
    rw [inductionHypothesis, insert_mapValues]

/-- Entries of a table in any order are the table again once they are put in order. -/
theorem Ascending.ofEntries_eq {table : SortedTable β} (ascending : Ascending table)
    {entries : List (String × β)} (same : entries.Perm table) : ofEntries entries = table := by
  have distinct : (keys table).Nodup :=
    (List.pairwise_map.mpr ascending).imp String.ne_of_lt
  refine (ascending_ofEntries entries).eq_of_perm ascending ?_
  exact (perm_ofEntries ((same.map Prod.fst).nodup_iff.mpr distinct)).trans same

end SortedTable

/-! ## Lists without repetitions -/

/-- Of the items of a list that repeat earlier ones none is left. -/
theorem nodup_eraseDups {α : Type} [BEq α] [LawfulBEq α] (items : List α) :
    items.eraseDups.Nodup := by
  induction size : items.length using Nat.strongRecOn generalizing items with
  | ind size inductionHypothesis =>
    cases items with
    | nil => simp
    | cons first rest =>
      rw [List.eraseDups_cons, List.nodup_cons]
      refine ⟨by simp [List.mem_eraseDups], ?_⟩
      refine inductionHypothesis _ ?_ _ rfl
      have shorter := List.length_filter_le (fun item => !item == first) rest
      rw [← size, List.length_cons]
      omega

/-! ## Sets of strings -/

theorem nodup_sortedStrings (values : List String) : (sortedStrings values).Nodup :=
  (pairwise_sortedStrings values).imp String.ne_of_lt

/-- A set of strings is determined by its members. -/
theorem eq_sortedStrings {members values : List String}
    (ascending : members.Pairwise fun left right => left < right)
    (same : ∀ value, value ∈ members ↔ value ∈ values) : members = sortedStrings values := by
  have distinct : members.Nodup := ascending.imp String.ne_of_lt
  have perm : members.Perm (sortedStrings values) := by
    rw [List.perm_ext_iff_of_nodup distinct (nodup_sortedStrings values)]
    exact fun value => (same value).trans (mem_sortedStrings values value).symm
  refine perm.eq_of_pairwise ?_ ascending (pairwise_sortedStrings values)
  intro first second _ _ isLess isGreater
  exact absurd (String.lt_trans isLess isGreater) (String.lt_irrefl first)

theorem sortedStrings_congr {left right : List String}
    (same : ∀ value, value ∈ left ↔ value ∈ right) : sortedStrings left = sortedStrings right :=
  eq_sortedStrings (pairwise_sortedStrings left) fun value =>
    (mem_sortedStrings left value).trans (same value)

theorem sortedStrings_sortedStrings (values : List String) :
    sortedStrings (sortedStrings values) = sortedStrings values :=
  sortedStrings_congr (mem_sortedStrings values)

theorem filter_sortedStrings (values : List String) (keep : String → Bool) :
    (sortedStrings values).filter keep = sortedStrings (values.filter keep) := by
  refine eq_sortedStrings ((pairwise_sortedStrings values).filter keep) fun value => ?_
  rw [List.mem_filter, List.mem_filter, mem_sortedStrings]

/-- A list without repetitions has the same members as its set, each once. -/
theorem perm_sortedStrings {values : List String} (distinct : values.Nodup) :
    (sortedStrings values).Perm values := by
  rw [List.perm_ext_iff_of_nodup (nodup_sortedStrings values) distinct]
  exact mem_sortedStrings values

end RunTriage
