import RunTriage.Proofs.NewestOrder

/-!
Contract: what a bounded collection holds after any sequence of changes.

Owns:
- changes of a collection, and the same changes with a number on each item that is offered, which
  tells items apart that are equal;
- `Accounts`, what the items held have to do with the changes so far, kept by every change;
- what an offered item does to a collection that any changes have led to.

Does not own: the order of the items, which is in `RunTriage.Proofs.NewestOrder`.
-/

namespace RunTriage.Newest

variable {α β : Type}

/-! ## Changes -/

/-- A change of a collection. -/
inductive Change (α : Type) where
  | push (date : Instant) (item : α)
  | retain (keep : α → Bool)

def change (newest : Newest α) : Change α → Newest α
  | .push date item => newest.push date item
  | .retain keep => newest.retain keep

def changeAll (newest : Newest α) (changes : List (Change α)) : Newest α :=
  changes.foldl change newest

theorem changeAll_concat (newest : Newest α) (changes : List (Change α)) (last : Change α) :
    newest.changeAll (changes ++ [last]) = (newest.changeAll changes).change last :=
  List.foldl_concat ..

/-- The change with a number on its item. -/
def Change.withNumber (number : Nat) : Change α → Change (Nat × α)
  | .push date item => .push date (number, item)
  | .retain keep => .retain fun known => keep known.2

/-- Changes with their positions as numbers. -/
def numbered (changes : List (Change α)) : List (Change (Nat × α)) :=
  changes.mapIdx Change.withNumber

theorem numbered_concat (changes : List (Change α)) (last : Change α) :
    numbered (changes ++ [last]) = numbered changes ++ [last.withNumber changes.length] :=
  List.mapIdx_concat

theorem getElem?_concat_eq_some {changes : List (Change α)} {last known : Change α}
    {number : Nat} : (changes ++ [last])[number]? = some known ↔
      changes[number]? = some known ∨ number = changes.length ∧ last = known := by
  rcases Nat.lt_trichotomy number changes.length with earlier | rfl | later
  · rw [List.getElem?_append_left earlier, or_iff_left fun isLast => earlier.ne isLast.1]
  · simp
  · have outside : (changes ++ [last])[number]? = none :=
      List.getElem?_eq_none (by rw [List.length_append]; exact later)
    rw [outside, List.getElem?_eq_none later.le]
    simp [later.ne']

/-! ## Items under other names -/

/-- The collection with every item changed. -/
def mapItems (rename : α → β) (newest : Newest α) : Newest β :=
  ⟨newest.capacity, newest.entries.map fun entry => (entry.1, rename entry.2)⟩

section MapItems

variable (rename : α → β) (newest : Newest α) (date : Instant)

theorem refuses_mapItems : (newest.mapItems rename).refuses date = newest.refuses date := by
  rw [refuses, refuses, positionOf, positionOf, mapItems, List.takeWhile_map, List.length_map]
  rfl

/-- Only its date decides where an item is put. -/
theorem push_mapItems (item : α) :
    (newest.mapItems rename).push date (rename item) = (newest.push date item).mapItems rename := by
  have inserted (entries : List (Instant × α)) :
      insertByDate date (rename item) (entries.map fun entry => (entry.1, rename entry.2)) =
        (insertByDate date item entries).map fun entry => (entry.1, rename entry.2) := by
    induction entries with
    | nil => rfl
    | cons entry rest inductionHypothesis =>
      rw [List.map_cons, insertByDate, insertByDate, inductionHypothesis]
      split <;> rfl
  rw [push, push, refuses_mapItems]
  split
  · rfl
  · rw [mapItems, mapItems, inserted, List.map_take]

theorem retain_mapItems (keep : β → Bool) :
    (newest.mapItems rename).retain keep =
      (newest.retain fun item => keep (rename item)).mapItems rename := by
  rw [retain, retain, mapItems, mapItems, List.filter_map]
  rfl

end MapItems

/-- Numbers on the items make no difference to what is held. -/
theorem changeAll_numbered (capacity : Nat) (changes : List (Change α)) :
    ((empty capacity).changeAll (numbered changes)).mapItems Prod.snd =
      (empty capacity).changeAll changes := by
  induction changes using List.reverseRecOn with
  | nil => rfl
  | append_singleton changes last inductionHypothesis =>
    rw [numbered_concat, changeAll_concat, changeAll_concat, ← inductionHypothesis]
    cases last with
    | push date item => exact (push_mapItems Prod.snd _ date (changes.length, item)).symm
    | retain keep => exact (retain_mapItems Prod.snd _ keep).symm

/-! ## Items and changes -/

/-- The entry comes before another one: it is newer, or of the same date and offered earlier. -/
def Precedes (left right : Instant × Nat × α) : Prop :=
  right.1 < left.1 ∨ left.1 = right.1 ∧ left.2.1 < right.2.1

/-- What is held comes from the changes, under the numbers of the changes that offered it. -/
structure Accounts (capacity : Nat) (changes : List (Change α)) (held : Newest (Nat × α)) :
    Prop where
  sized : held.capacity = capacity
  within : held.entries.length ≤ capacity
  ordered : held.entries.Pairwise Precedes
  offered : ∀ entry ∈ held.entries, changes[entry.2.1]? = some (.push entry.1 entry.2.2)
  spared : ∀ entry ∈ held.entries, ∀ number keep, entry.2.1 < number →
    changes[number]? = some (.retain keep) → keep entry.2.2 = true

theorem Precedes.le {left right : Instant × Nat × α} (precedes : Precedes left right) :
    right.1 ≤ left.1 := by
  rcases precedes with newer | ⟨same, _⟩
  · exact newer.le
  · exact same.ge

/-- An entry with a number greater than all others goes behind those of its own date. -/
theorem pairwise_precedes_place {entries : List (Instant × Nat × α)}
    (ordered : entries.Pairwise Precedes) {entry : Instant × Nat × α}
    (later : ∀ known ∈ entries, known.2.1 < entry.2.1) :
    (place Prod.fst entry entries).Pairwise Precedes := by
  induction entries with
  | nil => exact List.pairwise_singleton _ _
  | cons known rest inductionHypothesis =>
    obtain ⟨knownFirst, restOrdered⟩ := List.pairwise_cons.mp ordered
    obtain ⟨knownEarlier, restEarlier⟩ := List.forall_mem_cons.mp later
    rw [place_cons]
    split
    · rename_i older
      refine List.pairwise_cons.mpr ⟨fun other member => .inl ?_, ordered⟩
      rcases List.mem_cons.mp member with rfl | inRest
      · exact older
      · exact (knownFirst other inRest).le.trans_lt older
    · rename_i notOlder
      refine List.pairwise_cons.mpr ⟨fun other member => ?_,
        inductionHypothesis restOrdered restEarlier⟩
      rcases mem_place.mp member with rfl | inRest
      · exact (lt_or_eq_of_le (not_lt.mp notOlder)).imp_right fun same =>
          ⟨same.symm, knownEarlier⟩
      · exact knownFirst other inRest

namespace Accounts

variable {capacity : Nat} {changes : List (Change α)} {held : Newest (Nat × α)}

theorem number_lt (accounts : Accounts capacity changes held) :
    ∀ entry ∈ held.entries, entry.2.1 < changes.length := fun entry member =>
  (List.getElem?_eq_some_iff.mp (accounts.offered entry member)).1

theorem descending (accounts : Accounts capacity changes held) :
    Descending Prod.fst held.entries := accounts.ordered.imp Precedes.le

theorem entries_push (accounts : Accounts capacity changes held) (date : Instant)
    (item : Nat × α) : (held.push date item).entries =
      (place Prod.fst (date, item) held.entries).take capacity := by
  have within := accounts.within
  rw [← accounts.sized] at within ⊢
  rw [push_eq within]

theorem push (accounts : Accounts capacity changes held) (date : Instant) (item : α) :
    Accounts capacity (changes ++ [.push date item])
      (held.push date (changes.length, item)) where
  sized := by
    rw [Newest.push]
    split <;> exact accounts.sized
  within := by
    rw [accounts.entries_push]
    exact List.length_take_le ..
  ordered := by
    rw [accounts.entries_push]
    exact (pairwise_precedes_place accounts.ordered accounts.number_lt).sublist
      (List.take_sublist ..)
  offered := by
    intro entry member
    rw [accounts.entries_push] at member
    rw [getElem?_concat_eq_some]
    rcases mem_place.mp (List.mem_of_mem_take member) with rfl | known
    · exact .inr ⟨rfl, rfl⟩
    · exact .inl (accounts.offered entry known)
  spared := by
    intro entry member number keep isLater isRetain
    rw [accounts.entries_push] at member
    rcases getElem?_concat_eq_some.mp isRetain with before | ⟨_, isPush⟩
    · rcases mem_place.mp (List.mem_of_mem_take member) with rfl | known
      · exact absurd (List.getElem?_eq_some_iff.mp before).1 isLater.not_gt
      · exact accounts.spared entry known number keep isLater before
    · cases isPush

theorem retain (accounts : Accounts capacity changes held) (keep : α → Bool) :
    Accounts capacity (changes ++ [.retain keep]) (held.retain fun known => keep known.2) where
  sized := accounts.sized
  within := (List.length_filter_le ..).trans accounts.within
  ordered := accounts.ordered.filter _
  offered := by
    intro entry member
    have known := accounts.offered entry (List.mem_of_mem_filter member)
    exact getElem?_concat_eq_some.mpr (.inl known)
  spared := by
    intro entry member number kept isLater isRetain
    obtain ⟨known, isKept⟩ := List.mem_filter.mp member
    rcases getElem?_concat_eq_some.mp isRetain with before | ⟨_, isSame⟩
    · exact accounts.spared entry known number kept isLater before
    · cases isSame
      exact isKept

theorem change (accounts : Accounts capacity changes held) (last : Change α) :
    Accounts capacity (changes ++ [last]) (held.change (last.withNumber changes.length)) := by
  cases last with
  | push date item => exact accounts.push date item
  | retain keep => exact accounts.retain keep

end Accounts

/-- Every change keeps account of what is held. -/
theorem accounts_changeAll (capacity : Nat) (changes : List (Change α)) :
    Accounts capacity changes ((empty capacity).changeAll (numbered changes)) := by
  induction changes using List.reverseRecOn with
  | nil => exact ⟨rfl, Nat.zero_le _, .nil, nofun, nofun⟩
  | append_singleton changes last inductionHypothesis =>
    rw [numbered_concat, changeAll_concat]
    exact inductionHypothesis.change last

/-! ## An offered item -/

/-- An entry is put behind as many others as are not older. -/
theorem getElem?_place_positionOf (entry : Instant × α) (entries : List (Instant × α)) :
    (place Prod.fst entry entries)[positionOf entry.1 entries]? = some entry := by
  induction entries with
  | nil => rfl
  | cons known rest inductionHypothesis =>
    rw [place_cons, positionOf, List.takeWhile_cons]
    by_cases older : known.1 < entry.1
    · simp [older, Instant.isBefore_iff.mpr older]
    · have notBefore : known.1.isBefore entry.1 = false :=
        Bool.eq_false_iff.mpr (mt Instant.isBefore_iff.mp older)
      simpa [older, notBefore, positionOf] using inductionHypothesis

section Offered

variable {newest : Newest α} {date : Instant} {item : α}

theorem push_of_refuses (refused : newest.refuses date = true) :
    newest.push date item = newest := if_pos refused

/-- An item that is not refused is among those kept. -/
theorem mem_push_of_not_refuses (within : newest.entries.length ≤ newest.capacity)
    (accepted : newest.refuses date = false) : (date, item) ∈ (newest.push date item).entries := by
  have room : positionOf date newest.entries < newest.capacity :=
    Nat.lt_of_not_le (of_decide_eq_false accepted)
  have isPlaced := getElem?_place_positionOf (date, item) newest.entries
  rw [push_eq within]
  refine List.mem_of_getElem? (i := positionOf date newest.entries) ?_
  rw [List.getElem?_take_of_lt room, isPlaced]

/-- Whether an item is refused can be told from what is held afterwards. -/
theorem refuses_eq_false_iff_mem (within : newest.entries.length ≤ newest.capacity)
    (fresh : (date, item) ∉ newest.entries) :
    newest.refuses date = false ↔ (date, item) ∈ (newest.push date item).entries := by
  refine ⟨mem_push_of_not_refuses within, fun member => Bool.eq_false_iff.mpr fun refused => ?_⟩
  rw [push_of_refuses refused] at member
  exact fresh member

theorem entries_push_eq_newestFirst (within : newest.entries.length ≤ newest.capacity)
    (descending : Descending Prod.fst newest.entries) :
    (newest.push date item).entries =
      (newestFirst Prod.fst (newest.entries ++ [(date, item)])).take newest.capacity := by
  have isSorted : newest.entries = newestFirst Prod.fst newest.entries :=
    descending.eq_newestFirst fun _ => rfl
  rw [push_eq within, ← place_newestFirst, ← isSorted]

end Offered

/-- Whatever the changes so far, what is held comes from them: no more than the capacity, newest
first and then in the order offered, each item offered by a change of its own and spared by every
removal since. An item that is offered next is refused, and leaves everything as it is, or it is
held afterwards among the newest of what was held before and itself. -/
theorem changes_exact (capacity : Nat) (changes : List (Change α)) :
    let plain := (empty capacity).changeAll changes
    let held := (empty capacity).changeAll (numbered changes)
    held.mapItems Prod.snd = plain ∧ Accounts capacity changes held ∧
      ∀ date item,
        let entry := (date, changes.length, item)
        let pushed := held.push date (changes.length, item)
        pushed.mapItems Prod.snd = plain.push date item ∧
          plain.refuses date = held.refuses date ∧
          (held.refuses date = false ↔ entry ∈ pushed.entries) ∧
          if held.refuses date then pushed = held
          else pushed.entries = (newestFirst Prod.fst (held.entries ++ [entry])).take capacity := by
  intro plain held
  have forgotten : held.mapItems Prod.snd = plain := changeAll_numbered capacity changes
  have accounts : Accounts capacity changes held := accounts_changeAll capacity changes
  have within : held.entries.length ≤ held.capacity := by
    rw [accounts.sized]
    exact accounts.within
  refine ⟨forgotten, accounts, fun date item => ⟨?_, ?_, ?_, ?_⟩⟩
  · rw [← forgotten]
    exact (push_mapItems Prod.snd held date (changes.length, item)).symm
  · rw [← forgotten, refuses_mapItems]
  · -- Its number is that of no change so far, so it cannot have been held before.
    refine refuses_eq_false_iff_mem within fun member => ?_
    exact Nat.lt_irrefl _ (accounts.number_lt _ member)
  · split
    · rename_i refused
      exact push_of_refuses refused
    · rw [entries_push_eq_newestFirst within accounts.descending, accounts.sized]

end RunTriage.Newest
