import Mathlib.Data.List.Forall2
import RunTriage.Datum
import RunTriage.Proofs.Tables

/-!
Contract: the fields of a record are read whatever the order of its members.

Owns:
- JSON values whose members stand in another order, at every level;
- reading item by item, where each item is read;
- the fields of a record, and the entries of a table, in such a value and in the data value that
  stands for it.

Does not own: the records that are read, which are in `RunTriage.RuleFile`.
-/

namespace RunTriage

/-! ## Reading item by item -/

section Items

variable {α β : Type} {read : α → Option β}

theorem mapM_eq_some_iff {items : List α} {values : List β} :
    items.mapM read = some values ↔
      List.Forall₂ (fun item value => read item = some value) items values := by
  induction items generalizing values with
  | nil => simp [eq_comm]
  | cons item rest inductionHypothesis =>
    simp only [List.mapM_cons, Option.bind_eq_bind, Option.bind_eq_some_iff, Option.pure_def,
      Option.some.injEq, List.forall₂_cons_left_iff]
    constructor
    · rintro ⟨value, isRead, others, areRead, rfl⟩
      exact ⟨value, others, isRead, inductionHypothesis.mp areRead, rfl⟩
    · rintro ⟨value, others, isRead, areRead, rfl⟩
      exact ⟨value, isRead, others, inductionHypothesis.mpr areRead, rfl⟩

/-- Every value was read from an item. -/
theorem exists_of_mem_mapM {items : List α} {values : List β}
    (areRead : items.mapM read = some values) {value : β} (member : value ∈ values) :
    ∃ item ∈ items, read item = some value := by
  obtain ⟨position, inside, rfl⟩ := List.mem_iff_getElem.mp member
  obtain ⟨sameLength, eachRead⟩ := List.forall₂_iff_get.mp (mapM_eq_some_iff.mp areRead)
  have isItem : position < items.length := sameLength ▸ inside
  exact ⟨items[position], List.getElem_mem isItem, eachRead position isItem inside⟩

theorem mapM_eq_map {items : List α} {result : α → β}
    (each : ∀ item ∈ items, read item = some (result item)) :
    items.mapM read = some (items.map result) := by
  rw [mapM_eq_some_iff, List.forall₂_map_right_iff, List.forall₂_same]
  exact each

/-- Values are read from what was written for them. -/
theorem mapM_written {write : β → α} {values : List β}
    (each : ∀ value ∈ values, read (write value) = some value) :
    (values.map write).mapM read = some values := by
  rw [mapM_eq_some_iff, List.forall₂_map_left_iff, List.forall₂_same]
  exact each

/-- Items in another order give the same values in another order. -/
theorem mapM_of_perm {items stored : List α} {values : List β}
    (areRead : items.mapM read = some values) (same : stored.Perm items) :
    ∃ others, stored.mapM read = some others ∧ others.Perm values := by
  obtain ⟨others, otherRead, perm⟩ := List.perm_comp_forall₂ same (mapM_eq_some_iff.mp areRead)
  exact ⟨others, mapM_eq_some_iff.mpr otherRead, perm⟩

end Items

/-! ## Fields by name -/

/-- Under a name stands what a table has there, if the entries are those of the table. -/
theorem namedFields?_of_perm {α : Type} {entries members : List (String × α)}
    (distinct : (SortedTable.keys members).Nodup) (same : entries.Perm members)
    (names : List String) :
    namedFields? names entries = some (names.map (SortedTable.find? members)) := by
  rw [namedFields?]
  apply mapM_eq_map
  intro name _
  have found := same.filter fun entry => entry.1 = name
  rw [SortedTable.filter_key_eq distinct] at found
  cases stored : SortedTable.find? members name with
  | none =>
    rw [stored] at found
    rw [found.eq_nil]
  | some value =>
    rw [stored] at found
    rw [List.perm_singleton.mp found]

namespace Json

/-! ## Values of a format -/

@[simp] theorem format_text?_string (text : String) : format.text? (.string text) = some text := rfl

@[simp] theorem format_flag?_bool (value : Bool) : format.flag? (.bool value) = some value := rfl

@[simp] theorem format_items?_array (items : List Json) :
    format.items? (.array items) = some items := rfl

@[simp] theorem format_entries?_object (members : List (String × Json)) :
    format.entries? (.object members) = some members := rfl

@[simp] theorem format_datum? (value : Json) : format.datum? value = some (.ofJson value) := rfl

@[simp] theorem format_texts?_strings (values : List String) :
    format.texts? (strings values) = some values := by
  rw [Format.texts?, strings, format_items?_array, Option.bind_some]
  apply mapM_written
  intro text _
  rfl

/-! ## Members in another order -/

/-- A way of putting the members of an object in order. -/
abbrev MemberOrder := List (String × Json) → List (String × Json)

/-- Objects whose members have different names keep their members. -/
def MemberOrder.Keeps (order : MemberOrder) : Prop :=
  ∀ members, (SortedTable.keys members).Nodup → (order members).Perm members

theorem MemberOrder.keeps_id : MemberOrder.Keeps id := fun members _ => List.Perm.refl members

theorem MemberOrder.keeps_ofEntries : MemberOrder.Keeps SortedTable.ofEntries :=
  fun _ distinct => SortedTable.perm_ofEntries distinct

mutual

/-- The value with the members of every object in order. -/
def reordered (order : MemberOrder) : Json → Json
  | .array items => .array (reorderedItems order items)
  | .object members => .object (order (reorderedMembers order members))
  | value => value

def reorderedItems (order : MemberOrder) : List Json → List Json
  | [] => []
  | item :: rest => reordered order item :: reorderedItems order rest

def reorderedMembers (order : MemberOrder) : List (String × Json) → List (String × Json)
  | [] => []
  | (name, value) :: rest => (name, reordered order value) :: reorderedMembers order rest

end

theorem reorderedItems_eq (order : MemberOrder) (items : List Json) :
    reorderedItems order items = items.map (reordered order) := by
  induction items with
  | nil => rfl
  | cons item rest inductionHypothesis => rw [reorderedItems, inductionHypothesis, List.map_cons]

theorem reordered_array (order : MemberOrder) (items : List Json) :
    (array items).reordered order = .array (items.map (reordered order)) := by
  rw [reordered, reorderedItems_eq]

theorem reorderedMembers_eq (order : MemberOrder) (members : List (String × Json)) :
    reorderedMembers order members =
      members.map fun member => (member.1, reordered order member.2) := by
  induction members with
  | nil => rfl
  | cons member rest inductionHypothesis =>
    rw [reorderedMembers, inductionHypothesis, List.map_cons]

mutual

theorem reordered_id : ∀ value : Json, value.reordered id = value
  | .null => rfl
  | .bool _ => rfl
  | .whole _ => rfl
  | .float _ => rfl
  | .string _ => rfl
  | .array items => congrArg array (reorderedItems_id items)
  | .object members => congrArg object (reorderedMembers_id members)

theorem reorderedItems_id : ∀ items : List Json, reorderedItems id items = items
  | [] => rfl
  | item :: rest => by rw [reorderedItems, reordered_id item, reorderedItems_id rest]

theorem reorderedMembers_id :
    ∀ members : List (String × Json), reorderedMembers id members = members
  | [] => rfl
  | (name, value) :: rest => by
    rw [reorderedMembers, reordered_id value, reorderedMembers_id rest]

end

section Object

variable {order : MemberOrder} (keeps : order.Keeps) {members : List (String × Json)}
  (distinct : (SortedTable.keys members).Nodup)

include keeps distinct

/-- An object in order has the members of the object, each of them in order. -/
theorem perm_reordered_object :
    ∃ stored, (object members).reordered order = .object stored ∧
      stored.Perm (members.map fun member => (member.1, member.2.reordered order)) := by
  have sameKeys : SortedTable.keys (reorderedMembers order members) = SortedTable.keys members := by
    simp [reorderedMembers_eq, SortedTable.keys]
  refine ⟨_, rfl, ?_⟩
  rw [← reorderedMembers_eq]
  exact keeps _ (sameKeys ▸ distinct)

theorem fields?_reordered_object (names : List String) :
    format.fields? names ((object members).reordered order) =
      some (names.map fun name => (SortedTable.find? members name).map (reordered order)) := by
  obtain ⟨stored, isStored, same⟩ := perm_reordered_object keeps distinct
  have sameKeys : SortedTable.keys (members.map fun member =>
      (member.1, member.2.reordered order)) = SortedTable.keys members := by
    simp [SortedTable.keys]
  rw [isStored, Format.fields?, format_entries?_object]
  dsimp only
  rw [namedFields?_of_perm (sameKeys ▸ distinct) same]
  exact congrArg some (List.map_congr_left fun name _ =>
    SortedTable.find?_mapValues members (reordered order) name)

end Object

end Json

/-! ## Data values -/

namespace Datum

theorem ofItems_eq (items : List Json) : ofItems items = items.map ofJson := by
  induction items with
  | nil => rfl
  | cons item rest inductionHypothesis => rw [ofItems, inductionHypothesis, List.map_cons]

theorem ofMembers_eq (members : List (String × Json)) :
    ofMembers members = members.map fun member => (.text member.1, ofJson member.2) := by
  induction members with
  | nil => rfl
  | cons member rest inductionHypothesis => rw [ofMembers, inductionHypothesis, List.map_cons]

/-- The table with texts as keys. -/
def ofEntries (entries : List (String × Datum)) : Datum :=
  .table (entries.map fun entry => (.text entry.1, entry.2))

theorem fields?_ofEntries (names : List String) (entries : List (String × Datum)) :
    (ofEntries entries).fields? names = namedFields? names entries := by
  have chosen : chosenEntries? names (entries.map fun entry => (.text entry.1, entry.2)) =
      some entries := by
    apply mapM_written
    intro entry _
    rfl
  rw [ofEntries, fields?, chosen]
  rfl

theorem entries?_ofEntries (entries : List (String × Datum)) :
    (ofEntries entries).entries? = some entries := by
  apply mapM_written
  intro entry _
  rfl

/-- The values of the members of an object, each of them in order. -/
def membersInOrder (order : Json.MemberOrder) (members : List (String × Json)) :
    List (String × Datum) :=
  members.map fun member => (member.1, ofJson (member.2.reordered order))

theorem keys_membersInOrder (order : Json.MemberOrder) (members : List (String × Json)) :
    SortedTable.keys (membersInOrder order members) = SortedTable.keys members := by
  simp [membersInOrder, SortedTable.keys]

/-- An object in order stands for a table with the values of its members. -/
theorem exists_ofJson_reordered_object {order : Json.MemberOrder} (keeps : order.Keeps)
    {members : List (String × Json)} (distinct : (SortedTable.keys members).Nodup) :
    ∃ entries, ofJson ((Json.object members).reordered order) = ofEntries entries ∧
      entries.Perm (membersInOrder order members) := by
  obtain ⟨stored, isStored, same⟩ := Json.perm_reordered_object keeps distinct
  refine ⟨stored.map fun member => (member.1, ofJson member.2), ?_, ?_⟩
  · rw [isStored, ofJson, ofMembers_eq, ofEntries, List.map_map]
    rfl
  · have mapped := same.map fun member => (member.1, ofJson member.2)
    rwa [List.map_map] at mapped

theorem fields?_of_perm {order : Json.MemberOrder} {members : List (String × Json)}
    (distinct : (SortedTable.keys members).Nodup) {entries : List (String × Datum)}
    (same : entries.Perm (membersInOrder order members)) (names : List String) :
    (ofEntries entries).fields? names =
      some (names.map fun name => (SortedTable.find? members name).map
        fun value => ofJson (value.reordered order)) := by
  rw [fields?_ofEntries, namedFields?_of_perm (by rwa [keys_membersInOrder]) same]
  exact congrArg some (List.map_congr_left fun name _ =>
    SortedTable.find?_mapValues members (fun value => ofJson (value.reordered order)) name)

theorem fields?_ofJson_reordered_object {order : Json.MemberOrder} (keeps : order.Keeps)
    {members : List (String × Json)} (distinct : (SortedTable.keys members).Nodup)
    (names : List String) :
    (ofJson ((Json.object members).reordered order)).fields? names =
      some (names.map fun name => (SortedTable.find? members name).map
        fun value => ofJson (value.reordered order)) := by
  obtain ⟨entries, isTable, same⟩ := exists_ofJson_reordered_object keeps distinct
  rw [isTable, fields?_of_perm distinct same]

/-- A value that may be missing is read from what stands for it, which is not nothing. -/
theorem option?_ofJson_ofOption {β : Type} {read? : Datum → Option β} {write : β → Json}
    {order : Json.MemberOrder} (value : Option β)
    (isRead : ∀ known ∈ value, read? (ofJson ((write known).reordered order)) = some known)
    (present : ∀ known ∈ value, ofJson ((write known).reordered order) ≠ .null) :
    option? read? (ofJson ((Json.ofOption (value.map write)).reordered order)) = some value := by
  cases value with
  | none => rfl
  | some known =>
    have knownRead := isRead known rfl
    have notNull := present known rfl
    rw [Option.map_some, Json.ofOption, Option.getD_some, option?]
    · rw [knownRead, Option.map_some]
    · exact notNull

/-! ## Depth -/

theorem depth_lt_of_mem_list {items : List Datum} {item : Datum} (member : item ∈ items) :
    item.depth < (list items).depth := by
  rw [depth, Nat.lt_succ_iff]
  induction items with
  | nil => cases member
  | cons first rest inductionHypothesis =>
    rw [depthOfItems]
    rcases List.mem_cons.mp member with rfl | inRest
    · exact Nat.le_max_left ..
    · exact Nat.le_trans (inductionHypothesis inRest) (Nat.le_max_right ..)

theorem depth_lt_of_mem_ofEntries {entries : List (String × Datum)} {name : String}
    {value : Datum} (member : (name, value) ∈ entries) :
    value.depth < (ofEntries entries).depth := by
  rw [ofEntries, depth, Nat.lt_succ_iff]
  induction entries with
  | nil => cases member
  | cons first rest inductionHypothesis =>
    rw [List.map_cons, depthOfEntries]
    rcases List.mem_cons.mp member with rfl | inRest
    · exact Nat.le_trans (Nat.le_max_right ..) (Nat.le_max_left ..)
    · exact Nat.le_trans (inductionHypothesis inRest) (Nat.le_max_right ..)

end Datum

end RunTriage
