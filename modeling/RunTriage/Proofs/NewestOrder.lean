import Mathlib.Data.List.Sort
import Mathlib.Data.List.TakeWhile
import RunTriage.Newest
import RunTriage.Proofs.InstantOrder

/-!
Contract: the order in which a bounded collection keeps its items.

Owns:
- `newestFirst`, the stable order by date, what determines it, and when the order in which
  items come does not matter;
- `place`, the insertion of one more item into that order;
- what a bounded collection keeps of its items and one more.

Does not own: which items are offered, and which are taken back.
-/

namespace RunTriage.Newest

variable {α : Type} {date : α → Instant}

/-! ## The order -/

/-- The item is at least as new as another one. -/
def isNotOlder (date : α → Instant) (left right : α) : Bool := !(date left).isBefore (date right)

/-- The items with the newest first, and items of the same date in the order given. -/
def newestFirst (date : α → Instant) (items : List α) : List α :=
  items.mergeSort (isNotOlder date)

/-- No item is older than one that comes after it. -/
def Descending (date : α → Instant) (items : List α) : Prop :=
  items.Pairwise fun left right => date right ≤ date left

theorem isNotOlder_iff {left right : α} :
    isNotOlder date left right = true ↔ date right ≤ date left := by
  rw [isNotOlder, Bool.not_eq_true', ← Bool.not_eq_true, Instant.isBefore_iff, not_lt]

theorem isNotOlder_trans (first second third : α) (left : isNotOlder date first second = true)
    (right : isNotOlder date second third = true) : isNotOlder date first third = true := by
  rw [isNotOlder_iff] at *
  exact right.trans left

theorem isNotOlder_total (left right : α) :
    (isNotOlder date left right || isNotOlder date right left) = true := by
  rw [Bool.or_eq_true, isNotOlder_iff, isNotOlder_iff]
  exact le_total (date right) (date left)

theorem descending_newestFirst (date : α → Instant) (items : List α) :
    Descending date (newestFirst date items) := by
  have sorted := List.pairwise_mergeSort (@isNotOlder_trans α date)
    isNotOlder_total items
  exact sorted.imp isNotOlder_iff.mp

theorem perm_newestFirst (date : α → Instant) (items : List α) :
    (newestFirst date items).Perm items := List.mergeSort_perm _ _

/-- The order is stable: items of the same date stay as they stand. -/
theorem filter_date_newestFirst (date : α → Instant) (items : List α) (instant : Instant) :
    (newestFirst date items).filter (fun item => date item = instant) =
      items.filter fun item => date item = instant := by
  have sameDate : (items.filter fun item => date item = instant).Pairwise fun left right =>
      isNotOlder date left right = true := by
    refine List.pairwise_of_forall_mem_list fun left isLeft right isRight => ?_
    have leftDate := (List.mem_filter.mp isLeft).2
    have rightDate := (List.mem_filter.mp isRight).2
    rw [isNotOlder_iff, of_decide_eq_true leftDate, of_decide_eq_true rightDate]
  have kept : (items.filter fun item => date item = instant).Sublist (newestFirst date items) :=
    List.sublist_mergeSort isNotOlder_trans isNotOlder_total sameDate List.filter_sublist
  have sublist := kept.filter fun item => decide (date item = instant)
  rw [List.filter_filter] at sublist
  simp only [Bool.and_self] at sublist
  exact (sublist.eq_of_length ((perm_newestFirst date items).filter _).length_eq.symm).symm

/-- A list in the order is determined by its items of each date. -/
theorem Descending.eq_of_filter {left right : List α} (leftDescending : Descending date left)
    (rightDescending : Descending date right)
    (same : ∀ instant, left.filter (fun item => date item = instant) =
      right.filter fun item => date item = instant) : left = right := by
  have mem_iff (item : α) : item ∈ left ↔ item ∈ right := by
    have members := congrArg (item ∈ ·) (same (date item))
    simpa using members
  induction left generalizing right with
  | nil =>
    symm
    exact List.eq_nil_iff_forall_not_mem.mpr fun item member => nomatch (mem_iff item).mpr member
  | cons first rest inductionHypothesis =>
    cases right with
    | nil => exact nomatch (mem_iff first).mp List.mem_cons_self
    | cons other others =>
      obtain ⟨firstNewest, restDescending⟩ := List.pairwise_cons.mp leftDescending
      obtain ⟨otherNewest, othersDescending⟩ := List.pairwise_cons.mp rightDescending
      have otherLe : date other ≤ date first := by
        rcases List.mem_cons.mp ((mem_iff other).mpr List.mem_cons_self) with isFirst | inRest
        · rw [isFirst]
        · exact firstNewest other inRest
      have firstLe : date first ≤ date other := by
        rcases List.mem_cons.mp ((mem_iff first).mp List.mem_cons_self) with isOther | inOthers
        · rw [isOther]
        · exact otherNewest first inOthers
      have sameDate : date other = date first := le_antisymm otherLe firstLe
      have heads := same (date first)
      rw [List.filter_cons_of_pos (by simp), List.filter_cons_of_pos (by simp [sameDate])] at heads
      obtain ⟨rfl, tails⟩ := List.cons.inj heads
      have sameRest (instant : Instant) : rest.filter (fun item => date item = instant) =
          others.filter fun item => date item = instant := by
        by_cases here : date first = instant
        · rw [← here]
          exact tails
        · simpa [here] using same instant
      have rest_mem_iff (item : α) : item ∈ rest ↔ item ∈ others := by
        have members := congrArg (item ∈ ·) (sameRest (date item))
        simpa using members
      rw [inductionHypothesis restDescending othersDescending sameRest rest_mem_iff]

/-- Items are in the order if they descend and items of the same date stand as given. -/
theorem Descending.eq_newestFirst {sorted items : List α} (descending : Descending date sorted)
    (same : ∀ instant, sorted.filter (fun item => date item = instant) =
      items.filter fun item => date item = instant) : sorted = newestFirst date items :=
  descending.eq_of_filter (descending_newestFirst date items) fun instant =>
    (same instant).trans (filter_date_newestFirst date items instant).symm

theorem filter_newestFirst (date : α → Instant) (items : List α) (keep : α → Bool) :
    (newestFirst date items).filter keep = newestFirst date (items.filter keep) := by
  refine Descending.eq_newestFirst ((descending_newestFirst date items).filter keep)
    fun instant => ?_
  rw [List.filter_comm, filter_date_newestFirst, List.filter_comm]

/-- Items of different dates stand in the same order wherever they come from. -/
theorem newestFirst_perm {left right : List α} (distinct : (left.map date).Nodup)
    (same : left.Perm right) : newestFirst date left = newestFirst date right := by
  have reordered : (newestFirst date left).Perm (newestFirst date right) :=
    (perm_newestFirst date left).trans (same.trans (perm_newestFirst date right).symm)
  refine reordered.eq_of_pairwise ?_ (descending_newestFirst date left)
    (descending_newestFirst date right)
  intro first second inLeft inRight notNewer notOlder
  have isFirst := (perm_newestFirst date left).mem_iff.mp inLeft
  have isSecond := same.mem_iff.mpr ((perm_newestFirst date right).mem_iff.mp inRight)
  exact List.inj_on_of_nodup_map distinct isFirst isSecond (le_antisymm notOlder notNewer)

theorem map_newestFirst {β : Type} (date : α → Instant) (shown : β → Instant) (change : α → β)
    (sameDate : ∀ item, shown (change item) = date item) (items : List α) :
    (newestFirst date items).map change = newestFirst shown (items.map change) := by
  have dates (instant : Instant) : (fun item => decide (shown (change item) = instant)) =
      fun item => decide (date item = instant) := by
    funext item
    rw [sameDate]
  refine Descending.eq_newestFirst ?_ fun instant => ?_
  · refine List.pairwise_map.mpr ((descending_newestFirst date items).imp ?_)
    intro left right notOlder
    rwa [sameDate, sameDate]
  · rw [List.filter_map, List.filter_map, Function.comp_def, dates, filter_date_newestFirst]

/-! ## Insertion -/

/-- The items with one more, put before the first that is older. -/
def place (date : α → Instant) (item : α) (items : List α) : List α :=
  items.orderedInsert (fun new known => date known < date new) item

theorem place_nil (date : α → Instant) (item : α) : place date item [] = [item] := rfl

theorem place_cons (date : α → Instant) (item known : α) (rest : List α) :
    place date item (known :: rest) =
      if date known < date item then item :: known :: rest else known :: place date item rest :=
  rfl

theorem mem_place {item other : α} {items : List α} :
    other ∈ place date item items ↔ other = item ∨ other ∈ items :=
  List.mem_orderedInsert _

theorem descending_place {items : List α} (descending : Descending date items) (item : α) :
    Descending date (place date item items) := by
  induction items with
  | nil => exact List.pairwise_singleton _ _
  | cons known rest inductionHypothesis =>
    obtain ⟨knownNewest, restDescending⟩ := List.pairwise_cons.mp descending
    rw [place_cons]
    split
    · rename_i older
      refine List.pairwise_cons.mpr ⟨fun other member => ?_, descending⟩
      rcases List.mem_cons.mp member with isKnown | inRest
      · rw [isKnown]
        exact older.le
      · exact (knownNewest other inRest).trans older.le
    · rename_i notOlder
      refine List.pairwise_cons.mpr ⟨fun other member => ?_, inductionHypothesis restDescending⟩
      rcases mem_place.mp member with isItem | inRest
      · rw [isItem]
        exact not_lt.mp notOlder
      · exact knownNewest other inRest

/-- An item is put behind those of its own date. -/
theorem filter_date_place {items : List α} (descending : Descending date items) (item : α)
    (instant : Instant) :
    (place date item items).filter (fun other => date other = instant) =
      (items ++ [item]).filter fun other => date other = instant := by
  induction items with
  | nil => rfl
  | cons known rest inductionHypothesis =>
    obtain ⟨knownNewest, restDescending⟩ := List.pairwise_cons.mp descending
    rw [place_cons]
    split
    · rename_i older
      by_cases here : date item = instant
      · have noneHere : (known :: rest).filter (fun other => date other = instant) = [] := by
          refine List.filter_eq_nil_iff.mpr fun other member => ?_
          have otherLe : date other ≤ date known := by
            rcases List.mem_cons.mp member with isKnown | inRest
            · rw [isKnown]
            · exact knownNewest other inRest
          rw [decide_eq_true_eq, ← here]
          exact (otherLe.trans_lt older).ne
        rw [List.filter_cons_of_pos (by simp [here]), List.filter_append, noneHere]
        simp [here]
      · rw [List.filter_cons_of_neg (by simp [here]), List.filter_append]
        simp [here]
    · rw [List.cons_append, List.filter_cons, List.filter_cons,
        inductionHypothesis restDescending]

/-- Inserting items one by one sorts them. -/
theorem place_newestFirst (date : α → Instant) (item : α) (items : List α) :
    place date item (newestFirst date items) = newestFirst date (items ++ [item]) := by
  have descending := descending_newestFirst date items
  refine (descending_place descending item).eq_newestFirst fun instant => ?_
  rw [filter_date_place descending, List.filter_append, List.filter_append,
    filter_date_newestFirst]

/-- The first items after an insertion depend on the first items before it only. -/
theorem take_place_take (date : α → Instant) (item : α) (count : Nat) (items : List α) :
    (place date item (items.take count)).take count = (place date item items).take count := by
  induction items generalizing count with
  | nil => rw [List.take_nil]
  | cons known rest inductionHypothesis =>
    cases count with
    | zero => rw [List.take_zero, List.take_zero]
    | succ count =>
      rw [List.take_succ_cons, place_cons, place_cons]
      split
      · rw [List.take_succ_cons, List.take_succ_cons, ← List.take_succ_cons (a := known),
          List.take_take, Nat.min_eq_left (Nat.le_succ count)]
      · rw [List.take_succ_cons, List.take_succ_cons, inductionHypothesis]

theorem place_append_of_older {listed : List α} {item : α}
    (older : ∃ known ∈ listed, date known < date item) (others : List α) :
    place date item (listed ++ others) = place date item listed ++ others := by
  induction listed with
  | nil => simp at older
  | cons first rest inductionHypothesis =>
    rw [List.cons_append, place_cons, place_cons]
    split
    · rfl
    · rename_i notOlder
      obtain ⟨known, member, knownOlder⟩ := older
      rcases List.mem_cons.mp member with isFirst | inRest
      · exact absurd (isFirst ▸ knownOlder) notOlder
      · rw [inductionHypothesis ⟨known, inRest, knownOlder⟩, List.cons_append]

theorem place_append_of_not_older {listed : List α} {item : α}
    (notOlder : ∀ known ∈ listed, ¬ date known < date item) (others : List α) :
    place date item (listed ++ others) = listed ++ place date item others := by
  induction listed with
  | nil => rfl
  | cons first rest inductionHypothesis =>
    obtain ⟨firstNotOlder, restNotOlder⟩ := List.forall_mem_cons.mp notOlder
    rw [List.cons_append, place_cons, if_neg firstNotOlder, inductionHypothesis restNotOlder,
      List.cons_append]

theorem place_sublist {listed items : List α} (sublist : listed.Sublist items)
    (descending : Descending date items) (item : α) :
    (place date item listed).Sublist (place date item items) := by
  induction sublist with
  | slnil => exact List.Sublist.refl _
  | @cons listed items known sublist inductionHypothesis =>
    obtain ⟨knownNewest, restDescending⟩ := List.pairwise_cons.mp descending
    rw [place_cons]
    split
    · rename_i older
      -- Everything listed is older than the item as well, which goes to the front of both.
      have allOlder : place date item listed = item :: listed := by
        cases listed with
        | nil => rfl
        | cons first rest =>
          have firstLe := knownNewest first (sublist.subset List.mem_cons_self)
          rw [place_cons, if_pos (firstLe.trans_lt older)]
      rw [allOlder]
      exact (sublist.cons known).cons_cons item
    · exact (inductionHypothesis restDescending).cons known
  | @cons_cons listed items known sublist inductionHypothesis =>
    obtain ⟨_, restDescending⟩ := List.pairwise_cons.mp descending
    rw [place_cons, place_cons]
    split
    · exact (sublist.cons_cons known).cons_cons item
    · exact (inductionHypothesis restDescending).cons_cons known

/-- An item that is put into the order comes first just if everything else is older. -/
theorem singleton_isPrefix_place_iff {items : List α} {item : α}
    (descending : Descending date items) (fresh : item ∉ items) :
    [item].IsPrefix (place date item items) ↔ ∀ known ∈ items, date known < date item := by
  cases items with
  | nil => exact iff_of_true (List.prefix_refl [item]) fun _ member => nomatch member
  | cons first rest =>
    obtain ⟨firstNewest, _⟩ := List.pairwise_cons.mp descending
    rw [place_cons]
    by_cases firstOlder : date first < date item
    · rw [if_pos firstOlder]
      refine iff_of_true ⟨first :: rest, rfl⟩ fun known member => ?_
      rcases List.mem_cons.mp member with isFirst | inRest
      · rw [isFirst]
        exact firstOlder
      · exact (firstNewest known inRest).trans_lt firstOlder
    · rw [if_neg firstOlder]
      refine iff_of_false (fun isPrefix => ?_) fun allOlder =>
        firstOlder (allOlder first List.mem_cons_self)
      obtain ⟨isFirst, _⟩ := List.cons_prefix_cons.mp isPrefix
      exact fresh (isFirst ▸ List.mem_cons_self)

/-- If a list in the order goes on behind the items that are listed, then the items listed
after an insertion begin the whole list again, except where there is room for the item
among those listed and an item that is left out does not make way for it. -/
theorem take_place_isPrefix_iff {listed left : List α} {item : α} {capacity : Nat}
    (descending : Descending date (listed ++ left)) (within : listed.length ≤ capacity)
    (fresh : item ∉ left) :
    ((place date item listed).take capacity).IsPrefix (place date item (listed ++ left)) ↔
      (listed.length < capacity → ∀ known ∈ left, date known < date item) := by
  obtain ⟨_, leftDescending, listedNewer⟩ := List.pairwise_append.mp descending
  by_cases older : ∃ known ∈ listed, date known < date item
  · have leftOlder : ∀ known ∈ left, date known < date item := by
      obtain ⟨last, isListed, lastOlder⟩ := older
      intro known isLeft
      exact (listedNewer last isListed known isLeft).trans_lt lastOlder
    rw [place_append_of_older older]
    refine iff_of_true ?_ fun _ => leftOlder
    exact (List.take_prefix capacity _).trans (List.prefix_append _ left)
  · have notOlder : ∀ known ∈ listed, ¬ date known < date item :=
      fun known member isOlder => older ⟨known, member, isOlder⟩
    have atEnd := place_append_of_not_older notOlder []
    rw [List.append_nil] at atEnd
    rw [place_append_of_not_older notOlder, atEnd, place_nil]
    rcases Nat.lt_or_ge listed.length capacity with room | full
    · have whole : (listed ++ [item]).take capacity = listed ++ [item] := by
        apply List.take_of_length_le
        rw [List.length_append, List.length_singleton]
        exact room
      rw [whole, List.prefix_append_right_inj, singleton_isPrefix_place_iff leftDescending fresh]
      exact ⟨fun allOlder _ => allOlder, fun allOlder => allOlder room⟩
    · have exactly : listed.length = capacity := Nat.le_antisymm within full
      rw [← exactly, List.take_left]
      refine iff_of_true (List.prefix_append _ _) fun room => ?_
      exact absurd room (Nat.lt_irrefl _)

/-! ## The collection -/

/-- The items with their dates. -/
def dated (date : α → Instant) (items : List α) : List (Instant × α) :=
  items.map fun item => (date item, item)

theorem insertByDate_eq_place (instant : Instant) (item : α) (entries : List (Instant × α)) :
    insertByDate instant item entries = place Prod.fst (instant, item) entries := by
  induction entries with
  | nil => rfl
  | cons entry rest inductionHypothesis =>
    rw [insertByDate, place_cons, inductionHypothesis]
    simp only [Instant.isBefore_iff]

/-- A collection that is not larger than its capacity keeps the newest of its items and one
more. If it refuses the item, that one is not among them. -/
theorem push_eq {newest : Newest α} (within : newest.entries.length ≤ newest.capacity)
    (instant : Instant) (item : α) :
    newest.push instant item =
      ⟨newest.capacity, (place Prod.fst (instant, item) newest.entries).take newest.capacity⟩ := by
  unfold push
  rw [insertByDate_eq_place]
  split
  · rename_i refused
    have full : newest.capacity ≤ positionOf instant newest.entries := of_decide_eq_true refused
    have noneOlder : (newest.entries.takeWhile fun entry => !entry.1.isBefore instant) =
        newest.entries :=
      (List.takeWhile_prefix _).eq_of_length_le (within.trans full)
    have notOlder : ∀ entry ∈ newest.entries, ¬ entry.1 < (instant, item).1 := by
      intro entry member
      exact not_lt.mpr (isNotOlder_iff.mp (List.takeWhile_eq_self_iff.mp noneOlder entry member))
    have exactly : newest.entries.length = newest.capacity := by
      rw [positionOf, noneOlder] at full
      exact Nat.le_antisymm within full
    have atEnd := place_append_of_not_older notOlder []
    rw [List.append_nil] at atEnd
    rw [atEnd, ← exactly, List.take_left, exactly]
  · rfl

theorem place_dated (date : α → Instant) (item : α) (items : List α) :
    place Prod.fst (date item, item) (dated date items) = dated date (place date item items) := by
  induction items with
  | nil => rfl
  | cons known rest inductionHypothesis =>
    rw [dated, List.map_cons, place_cons, place_cons]
    split
    · rfl
    · rw [← dated, inductionHypothesis]
      rfl

theorem push_dated {items : List α} {capacity : Nat} (within : items.length ≤ capacity)
    (item : α) :
    (⟨capacity, dated date items⟩ : Newest α).push (date item) item =
      ⟨capacity, dated date ((place date item items).take capacity)⟩ := by
  have withinDated : (dated date items).length ≤ capacity := by
    rw [dated, List.length_map]
    exact within
  rw [push_eq withinDated, place_dated, dated, dated, ← List.map_take]
  rfl

theorem retain_dated (items : List α) (capacity : Nat) (keep : α → Bool) :
    (⟨capacity, dated date items⟩ : Newest α).retain keep =
      ⟨capacity, dated date (items.filter keep)⟩ := by
  rw [retain, dated, dated, List.filter_map]
  rfl

end RunTriage.Newest
