/-!
Contract: finite maps from strings to values, kept as lists in ascending order
of their keys.

Owns:
- look-up, insertion, removal and update of one key;
- building a table in which the last value of a repeated key counts;
- the order of keys, which every insertion keeps;
- sets of strings, which are the keys of a table.

Does not own: the order of strings, which is by code point.
-/

namespace RunTriage

/-- Entries with strictly ascending keys. -/
abbrev SortedTable (β : Type) := List (String × β)

namespace SortedTable

variable {β : Type}

/-- The value stored under a key. -/
def find? (table : SortedTable β) (key : String) : Option β :=
  match table with
  | [] => none
  | (stored, value) :: rest => if stored = key then some value else find? rest key

/-- The table with one key bound to a value, in place of an earlier one. -/
def insert (table : SortedTable β) (key : String) (value : β) : SortedTable β :=
  match table with
  | [] => [(key, value)]
  | (stored, old) :: rest =>
    if key < stored then (key, value) :: (stored, old) :: rest
    else if stored = key then (key, value) :: rest
    else (stored, old) :: insert rest key value

/-- The table without a key. -/
def erase (table : SortedTable β) (key : String) : SortedTable β :=
  table.filter fun entry => entry.1 ≠ key

/-- Replace the value of a key by a function of what is stored there. -/
def alter (table : SortedTable β) (key : String) (change : Option β → β) : SortedTable β :=
  insert table key (change (find? table key))

/-- Insert entries one after the other. -/
def ofEntries (entries : List (String × β)) : SortedTable β :=
  entries.foldl (fun table entry => insert table entry.1 entry.2) []

/-- Keys in ascending order. -/
def keys (table : SortedTable β) : List String :=
  table.map Prod.fst

/-- Values in the order of their keys. -/
def values (table : SortedTable β) : List β :=
  table.map Prod.snd

@[simp] theorem find?_nil (key : String) : find? ([] : SortedTable β) key = none := rfl

theorem find?_insert_self (table : SortedTable β) (key : String) (value : β) :
    find? (insert table key value) key = some value := by
  induction table with
  | nil => simp [insert, find?]
  | cons entry rest inductionHypothesis =>
    obtain ⟨stored, old⟩ := entry
    by_cases before : key < stored
    · simp [insert, find?, before]
    · by_cases same : stored = key
      · simp [insert, find?, same]
      · simp [insert, find?, before, same, inductionHypothesis]

theorem find?_insert_of_ne (table : SortedTable β) {key other : String} (value : β)
    (different : key ≠ other) :
    find? (insert table key value) other = find? table other := by
  induction table with
  | nil => simp [insert, find?, different]
  | cons entry rest inductionHypothesis =>
    obtain ⟨stored, old⟩ := entry
    by_cases before : key < stored
    · simp [insert, find?, before, different]
    · by_cases same : stored = key
      · subst same
        simp [insert, find?, different]
      · simp [insert, find?, before, same, inductionHypothesis]

/-! ## The order of keys -/

/-- The keys ascend strictly. -/
def Ascending (table : SortedTable β) : Prop :=
  table.Pairwise fun left right => left.1 < right.1

theorem mem_keys_insert (table : SortedTable β) (key : String) (value : β) (other : String) :
    other ∈ keys (insert table key value) ↔ other = key ∨ other ∈ keys table := by
  induction table with
  | nil => simp [insert, keys]
  | cons first rest inductionHypothesis =>
    obtain ⟨stored, old⟩ := first
    simp only [keys, List.map_cons, List.mem_cons] at inductionHypothesis ⊢
    by_cases before : key < stored
    · simp [insert, before]
    · by_cases same : stored = key
      · simp [insert, same]
      · simp only [insert, before, same, if_false, List.map_cons, List.mem_cons,
          inductionHypothesis]
        exact or_left_comm

/-- The order of the keys survives an insertion. -/
theorem Ascending.insert {table : SortedTable β} (ascending : Ascending table) (key : String)
    (value : β) : Ascending (SortedTable.insert table key value) := by
  induction table with
  | nil => simp [Ascending, SortedTable.insert]
  | cons first rest inductionHypothesis =>
    obtain ⟨stored, old⟩ := first
    obtain ⟨firstLeast, restAscending⟩ := List.pairwise_cons.mp ascending
    by_cases before : key < stored
    · simp only [SortedTable.insert, before, if_true]
      refine List.pairwise_cons.mpr ⟨fun entry member => ?_, ascending⟩
      rcases List.mem_cons.mp member with isFirst | inRest
      · exact isFirst ▸ before
      · exact String.lt_trans before (firstLeast entry inRest)
    · by_cases same : stored = key
      · subst same
        simp only [SortedTable.insert, before, if_false, if_true]
        exact List.pairwise_cons.mpr ⟨firstLeast, restAscending⟩
      · simp only [SortedTable.insert, before, same, if_false]
        refine List.pairwise_cons.mpr ⟨fun entry member => ?_, inductionHypothesis restAscending⟩
        have inKeys := (mem_keys_insert rest key value entry.1).mp
          (List.mem_map.mpr ⟨entry, member, rfl⟩)
        rcases inKeys with isNew | inRest
        · rw [isNew]
          exact Std.lt_of_le_of_ne (String.not_lt.mp before) same
        · obtain ⟨known, knownInRest, sameKey⟩ := List.mem_map.mp inRest
          exact sameKey ▸ firstLeast known knownInRest

theorem ascending_ofEntries (entries : List (String × β)) : Ascending (ofEntries entries) :=
  List.foldlRecOn entries _ List.Pairwise.nil fun _ ascending entry _ =>
    ascending.insert entry.1 entry.2

end SortedTable

/-- The set of the strings of a list, in ascending order. -/
def sortedStrings (values : List String) : List String :=
  (SortedTable.ofEntries (values.map fun value => (value, ()))).keys

/-- The set has no other members than the list. -/
theorem mem_sortedStrings (values : List String) (value : String) :
    value ∈ sortedStrings values ↔ value ∈ values := by
  have fromTable (pending : List String) (table : SortedTable Unit) :
      value ∈ SortedTable.keys ((pending.map fun value => (value, ())).foldl
          (fun table entry => SortedTable.insert table entry.1 entry.2) table) ↔
        value ∈ pending ∨ value ∈ table.keys := by
    induction pending generalizing table with
    | nil => simp
    | cons first rest inductionHypothesis =>
      simp only [List.map_cons, List.foldl_cons, inductionHypothesis,
        SortedTable.mem_keys_insert, List.mem_cons]
      exact or_left_comm.trans or_assoc.symm
  simpa [sortedStrings, SortedTable.ofEntries, SortedTable.keys] using fromTable values []

/-- The members of the set ascend strictly. -/
theorem pairwise_sortedStrings (values : List String) :
    (sortedStrings values).Pairwise fun left right => left < right :=
  List.pairwise_map.mpr (SortedTable.ascending_ofEntries _)

end RunTriage
