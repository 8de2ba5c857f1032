import RunTriage.Line.Reader
import RunTriage.Proofs.InstantText
import RunTriage.Proofs.JsonText
import RunTriage.Proofs.Tables

/-!
Contract: a line that was read survives being stored and read again.

Owns:
- the entries of a line, which are its core fields and its attributes in one list;
- validity of every line that is read: its time is one of the calendar, and no attribute stands
  under the name of a core field;
- reading the stored form of such a line, whatever the order of its entries.

Does not own: times whose year has not four digits, which the stored form cannot hold.
-/

namespace RunTriage.Line

/-! ## Entries -/

/-- The names that stand for core fields. -/
def coreNames : List String := ["time", "level", "pod", "container", "msg"]

/-- The text of each core field that is present. -/
def coreTexts (line : Line) : List (String × Option String) :=
  [("time", line.time.map Instant.render), ("level", line.level), ("pod", line.pod),
    ("container", line.container), ("msg", some line.message)]

/-- Core fields that are present, then attributes. -/
def entries (line : Line) : List (String × String) :=
  line.coreTexts.filterMap (fun field => field.2.map fun text => (field.1, text)) ++
    line.attributes

theorem mem_entries {line : Line} {name text : String} :
    (name, text) ∈ line.entries ↔
      (name, some text) ∈ line.coreTexts ∨ (name, text) ∈ line.attributes := by
  simp [entries]

theorem keys_entries_sublist (line : Line) :
    (SortedTable.keys line.entries).Sublist (coreNames ++ SortedTable.keys line.attributes) := by
  have core (fields : List (String × Option String)) :
      (SortedTable.keys (fields.filterMap
        fun field => field.2.map fun text => (field.1, text))).Sublist (fields.map Prod.fst) := by
    induction fields with
    | nil => exact List.Sublist.refl _
    | cons field rest inductionHypothesis =>
      obtain ⟨name, value⟩ := field
      cases value with
      | none => exact inductionHypothesis.cons name
      | some text => exact inductionHypothesis.cons_cons name
  rw [SortedTable.keys, entries, List.map_append]
  exact (core line.coreTexts).append (List.Sublist.refl _)

theorem toJson_eq (line : Line) : line.toJson = .ofMembers (Json.textMembers line.entries) := by
  have optional (name : String) (value : Option String) (others : List (String × Option String)) :
      Json.textMembers (((name, value) :: others).filterMap
          fun field => field.2.map fun text => (field.1, text)) =
        optionalMember name value ++ Json.textMembers (others.filterMap
          fun field => field.2.map fun text => (field.1, text)) := by
    cases value <;> rfl
  have split (left right : List (String × String)) :
      Json.textMembers (left ++ right) = Json.textMembers left ++ Json.textMembers right :=
    List.map_append
  rw [toJson, entries, split, coreTexts, optional, optional, optional, optional, optional]
  simp [optionalMember, Json.textMembers]

/-! ## Validity -/

/-- What holds of a line that was read. -/
structure IsValid (line : Line) : Prop where
  time : ∀ time ∈ line.time, time.IsValid
  ascending : line.attributes.Ascending
  apart : ∀ entry ∈ line.attributes, entry.1 ∉ coreNames

theorem isValid_ofMessage (message : String) : (ofMessage message).IsValid :=
  ⟨by simp [ofMessage], SortedTable.ascending_nil, by simp [ofMessage]⟩

theorem IsValid.insert_attribute {line : Line} (valid : line.IsValid) {name : String}
    (text : String) (isOther : name ∉ coreNames) :
    { line with attributes := line.attributes.insert name text }.IsValid := by
  refine ⟨valid.time, valid.ascending.insert name text, ?_⟩
  intro entry member
  rcases SortedTable.eq_or_mem_of_mem_insert member with isNew | isOld
  · exact isNew ▸ isOther
  · exact valid.apart entry isOld

theorem IsValid.nodup_keys_entries {line : Line} (valid : line.IsValid) :
    (SortedTable.keys line.entries).Nodup := by
  refine line.keys_entries_sublist.nodup (List.nodup_append.mpr ⟨by decide, ?_, ?_⟩)
  · exact (List.pairwise_map.mpr valid.ascending).imp String.ne_of_lt
  · rintro _ isCore name member rfl
    obtain ⟨entry, isAttribute, rfl⟩ := List.mem_map.mp member
    exact valid.apart entry isAttribute isCore

/-- Taking a member keeps a line valid. -/
theorem IsValid.takeMember {line next : Line} (valid : line.IsValid) {name : String} {value : Json}
    (isTaken : line.takeMember name value = .ok next) : next.IsValid := by
  unfold Line.takeMember at isTaken
  split_ifs at isTaken with isTime isMessage isLevel isPod isContainer
  · split at isTaken
    · rename_i text
      unfold readTime at isTaken
      split at isTaken
      · rename_i time isRead
        cases isTaken
        refine ⟨?_, valid.ascending, valid.apart⟩
        rintro _ ⟨rfl⟩
        exact Instant.isValid_of_read? isRead
      · cases isTaken
    · cases isTaken
      exact ⟨by simp, valid.ascending, valid.apart⟩
    · cases isTaken
  · cases isTaken
    exact ⟨valid.time, valid.ascending, valid.apart⟩
  · cases isTaken
    exact ⟨valid.time, valid.ascending, valid.apart⟩
  · cases isTaken
    exact ⟨valid.time, valid.ascending, valid.apart⟩
  · cases isTaken
    exact ⟨valid.time, valid.ascending, valid.apart⟩
  · split at isTaken
    · cases isTaken
      exact valid.insert_attribute _ (by simp [coreNames, *])
    · cases isTaken
      exact valid

theorem IsValid.takeMembers {line last : Line} (valid : line.IsValid)
    {members : List (String × Json)} (isTaken : line.takeMembers members = .ok last) :
    last.IsValid := by
  induction members generalizing line with
  | nil =>
    cases isTaken
    exact valid
  | cons member rest inductionHypothesis =>
    unfold Line.takeMembers at isTaken
    split at isTaken
    · rename_i next isNext
      exact inductionHypothesis (valid.takeMember isNext) isTaken
    · cases isTaken

/-- Every line that is read is valid. -/
theorem isValid_of_read {text : String} {line : Line} (isRead : read text = .ok line) :
    line.IsValid := by
  unfold read at isRead
  split at isRead
  · unfold ofJson at isRead
    split at isRead
    · exact (isValid_ofMessage "").takeMembers isRead
    · cases isRead
  · cases isRead

/-! ## Reading a stored line -/

/-- The line as far as it is known from the entries with the given names. -/
def only (line : Line) (names : List String) : Line where
  time := if "time" ∈ names then line.time else none
  level := if "level" ∈ names then line.level else none
  pod := if "pod" ∈ names then line.pod else none
  container := if "container" ∈ names then line.container else none
  message := if "msg" ∈ names then line.message else ""
  attributes := line.attributes.filter fun entry => entry.1 ∈ names

theorem only_nil (line : Line) : line.only [] = ofMessage "" := by
  simp [only, ofMessage]

/-- Names without an entry do not matter. -/
theorem only_eq_self {line : Line} {names : List String}
    (complete : ∀ entry ∈ line.entries, entry.1 ∈ names) : line.only names = line := by
  have core (name text : String) (present : (name, some text) ∈ line.coreTexts) : name ∈ names :=
    complete (name, text) (mem_entries.mpr (.inl present))
  have field (name : String) (value : Option String) (member : (name, value) ∈ line.coreTexts) :
      (if name ∈ names then value else none) = value := by
    cases value with
    | none => simp
    | some text => rw [if_pos (core name text member)]
  have attributes : (line.attributes.filter fun entry => entry.1 ∈ names) = line.attributes := by
    rw [List.filter_eq_self]
    intro entry member
    exact decide_eq_true (complete entry (mem_entries.mpr (.inr member)))
  have time : (if "time" ∈ names then line.time else none) = line.time := by
    cases isTimed : line.time with
    | none => simp
    | some time =>
      rw [if_pos (core "time" time.render (by simp [coreTexts, isTimed]))]
  rw [only, time, field "level" line.level (by simp [coreTexts]),
    field "pod" line.pod (by simp [coreTexts]),
    field "container" line.container (by simp [coreTexts]),
    if_pos (core "msg" line.message (by simp [coreTexts])), attributes]

section Stored

variable {line : Line} (valid : line.IsValid)

include valid

theorem insert_filter_attributes {name text : String} (member : (name, text) ∈ line.attributes)
    (names : List String) :
    SortedTable.insert (line.attributes.filter fun entry => entry.1 ∈ names) name text =
      line.attributes.filter fun entry => entry.1 = name || entry.1 ∈ names := by
  have filtered (keep : String → Bool) :
      SortedTable.Ascending (line.attributes.filter fun entry => keep entry.1) :=
    List.Pairwise.filter _ valid.ascending
  refine ((filtered (· ∈ names)).insert name text).ext
    (filtered fun other => other = name || other ∈ names) fun key => ?_
  rw [SortedTable.find?_insert, SortedTable.find?_filter_key line.attributes (· ∈ names),
    SortedTable.find?_filter_key line.attributes fun other => other = name || other ∈ names]
  by_cases same : name = key
  · subst same
    simp [valid.ascending.find?_of_mem member]
  · simp [same, Ne.symm same]

theorem filter_attributes_core {name : String} (isCore : name ∈ coreNames)
    (names : List String) :
    (line.attributes.filter fun entry => entry.1 = name || entry.1 ∈ names) =
      line.attributes.filter fun entry => entry.1 ∈ names := by
  refine List.filter_congr fun entry member => ?_
  have different : entry.1 ≠ name := fun same => valid.apart entry member (same ▸ isCore)
  simp [different]

variable (fourDigits : ∀ time ∈ line.time, 0 ≤ time.date.year ∧ time.date.year ≤ 9999)

include fourDigits

/-- Taking one entry makes its field known. -/
theorem takeMember_only {name text : String} (member : (name, text) ∈ line.entries)
    (names : List String) :
    (line.only names).takeMember name (.string text) = .ok (line.only (name :: names)) := by
  rcases mem_entries.mp member with isCore | isAttribute
  · have sameAttributes (isName : name ∈ coreNames) := filter_attributes_core valid isName names
    simp only [coreTexts, List.mem_cons, Prod.mk.injEq, List.not_mem_nil, or_false] at isCore
    rcases isCore with ⟨rfl, isTimed⟩ | ⟨rfl, isLevel⟩ | ⟨rfl, isPod⟩ | ⟨rfl, isContainer⟩ |
      ⟨rfl, isMessage⟩
    · obtain ⟨time, isTime, rfl⟩ := Option.map_eq_some_iff.mp isTimed.symm
      have isRead := Instant.read?_render (valid.time time isTime) (fourDigits time isTime).1
        (fourDigits time isTime).2
      simp [takeMember, readTime, isRead, only, isTime, sameAttributes (by decide), Except.map]
    · simp [takeMember, keptText, only, ← isLevel, sameAttributes (by decide)]
    · simp [takeMember, keptText, only, ← isPod, sameAttributes (by decide)]
    · simp [takeMember, keptText, only, ← isContainer, sameAttributes (by decide)]
    · cases isMessage
      simp [takeMember, keptText, only, sameAttributes (by decide)]
  · have isOther := valid.apart _ isAttribute
    simp only [coreNames, List.mem_cons, List.not_mem_nil, or_false, not_or] at isOther
    obtain ⟨notTime, notLevel, notPod, notContainer, notMessage⟩ := isOther
    have inserted := insert_filter_attributes valid isAttribute names
    simp only [takeMember, keptText, notTime, notLevel, notPod, notContainer, notMessage, if_false]
    simp [only, inserted, Ne.symm notTime, Ne.symm notLevel, Ne.symm notPod,
      Ne.symm notContainer, Ne.symm notMessage]

theorem takeMembers_only {members : List (String × Json)}
    (stored : members ⊆ Json.textMembers line.entries) (names : List String) :
    (line.only names).takeMembers members =
      .ok (line.only ((members.map Prod.fst).reverse ++ names)) := by
  induction members generalizing names with
  | nil => rfl
  | cons member rest inductionHypothesis =>
    obtain ⟨isStored, restStored⟩ := List.cons_subset.mp stored
    obtain ⟨⟨name, text⟩, isEntry, rfl⟩ := List.mem_map.mp isStored
    have step := takeMember_only valid fourDigits isEntry names
    simp only [takeMembers, step, inductionHypothesis restStored]
    simp

/-- The entries of a valid line are read as that line, in whatever order they are stored. -/
theorem read_textMembers {stored : List (String × String)} (same : stored.Perm line.entries) :
    read (Json.object (Json.textMembers stored)).compact = .ok line := by
  have distinct : (SortedTable.keys stored).Nodup :=
    (same.map Prod.fst).nodup_iff.mpr valid.nodup_keys_entries
  have sorted : (SortedTable.ofEntries (Json.textMembers stored)).Perm
      (Json.textMembers line.entries) := by
    rw [Json.textMembers, SortedTable.ofEntries_mapValues]
    exact ((SortedTable.perm_ofEntries distinct).trans same).map _
  have taken := takeMembers_only valid fourDigits sorted.subset []
  rw [only_nil, only_eq_self] at taken
  · rw [read, Json.read?_compact_textMembers]
    exact taken
  · intro entry member
    have inMembers : (entry.1, Json.string entry.2) ∈ Json.textMembers line.entries :=
      List.mem_map_of_mem member
    simpa using ⟨_, sorted.mem_iff.mpr inMembers⟩

end Stored

/-! ## Lines that were read -/

/-- A line that was read is read again from its stored form, and from its entries in any other
order, provided that the year of its time has four digits. No attribute hides a core field. -/
theorem read_stored {text : String} {line : Line} (isRead : read text = .ok line)
    (fourDigits : ∀ time ∈ line.time, 0 ≤ time.date.year ∧ time.date.year ≤ 9999) :
    (∀ name ∈ SortedTable.keys line.attributes, name ∉ coreNames) ∧
      read line.toJson.compact = .ok line ∧
        ∀ stored : List (String × String), stored.Perm line.entries →
          read (Json.object (Json.textMembers stored)).compact = .ok line := by
  have valid := isValid_of_read isRead
  have sorted : line.toJson =
      .object (Json.textMembers (SortedTable.ofEntries line.entries)) := by
    rw [toJson_eq, Json.ofMembers, Json.textMembers, SortedTable.ofEntries_mapValues]
    rfl
  refine ⟨?_, ?_, fun stored same => read_textMembers valid fourDigits same⟩
  · intro name member
    obtain ⟨entry, isAttribute, rfl⟩ := List.mem_map.mp member
    exact valid.apart entry isAttribute
  · rw [sorted]
    exact read_textMembers valid fourDigits (SortedTable.perm_ofEntries valid.nodup_keys_entries)

/-- A leap second of another time zone, whose date is not that of Coordinated Universal Time. -/
def leapSecondText : String :=
  "\x7b\"time\":\"2016-12-31T23:59:60.250-05:30\",\"msg\":7,\"level\":null," ++
    "\"Level\":\"\\u00e9\\n\",\"thread\":\x7b\"ids\":[1,2]\x7d\x7d"

def leapSecondLine : Line where
  time := some ⟨⟨2017, 1, 1⟩, 5, 29, 59, 1250000000⟩
  level := none
  pod := none
  container := none
  message := "7"
  attributes := [("Level", "é\n"), ("thread", "\x7b\"ids\":[1,2]\x7d")]

theorem read_stored_leapSecondLine :
    read leapSecondText = .ok leapSecondLine ∧
      (∀ time ∈ leapSecondLine.time, 0 ≤ time.date.year ∧ time.date.year ≤ 9999) ∧
      read leapSecondLine.toJson.compact = .ok leapSecondLine := by
  have isRead : read leapSecondText = .ok leapSecondLine := by decide +kernel
  have fourDigits : ∀ time ∈ leapSecondLine.time,
      0 ≤ time.date.year ∧ time.date.year ≤ 9999 := by decide
  exact ⟨isRead, fourDigits, (read_stored isRead fourDigits).2.1⟩

end RunTriage.Line
