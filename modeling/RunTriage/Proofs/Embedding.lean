import Mathlib.Data.List.Forall2
import Mathlib.Data.List.Nodup
import Mathlib.Data.List.Perm.Subperm
import Mathlib.Data.List.Sort
import RunTriage.Session.Layout

/-!
Contract: where one sequence occurs within another.

Owns:
- `Embeds`, the positions at which a sequence occurs in order within another;
- `firstMatches`, which looks for each item behind the one before and stops at the first
  that it does not find;
- `EmbedsGreedily`, what these positions are: the leftmost ones of the longest prefix that
  occurs at all;
- `Absent`, why an item is left out: it is not behind the items before it, or one of those
  is left out.

Does not own: which sequences are compared.
-/

namespace RunTriage.Session

variable {α : Type}

/-! ## Occurrences of a sequence -/

/-- A sequence occurs at these positions of another, in order. -/
structure Embeds (wanted available : List α) (positions : List Nat) : Prop where
  ascending : positions.Pairwise (· < ·)
  found : List.Forall₂ (fun position item => available[position]? = some item) positions wanted

/-- A prefix of a sequence occurs at these positions of another. No longer prefix occurs
there, and this one occurs nowhere further to the left. -/
structure EmbedsGreedily (wanted available : List α) (positions : List Nat) : Prop where
  embeds : Embeds (wanted.take positions.length) available positions
  leftmost : ∀ other, Embeds (wanted.take positions.length) available other →
    List.Forall₂ (· ≤ ·) positions other
  longest : ∀ count ≤ wanted.length,
    (wanted.take count).Sublist available ↔ count ≤ positions.length

/-- An occurrence picks some of the items with their positions, in order. -/
theorem embeds_iff {wanted available : List α} {positions : List Nat} :
    Embeds wanted available positions ↔
      ∃ chosen : List (Nat × α), chosen.Sublist (indexed available) ∧
        chosen.map Prod.fst = positions ∧ chosen.map Prod.snd = wanted := by
  constructor
  · intro embeds
    obtain ⟨sameLength, atPositions⟩ := List.forall₂_iff_zip.mp embeds.found
    have firsts : (positions.zip wanted).map Prod.fst = positions :=
      List.map_fst_zip sameLength.le
    have ascending : (positions.zip wanted).Pairwise fun left right => left.1 < right.1 := by
      rw [← List.pairwise_map (f := Prod.fst), firsts]
      exact embeds.ascending
    have antisymmetric : Std.Antisymm fun left right : Nat × α => left.1 < right.1 :=
      ⟨fun left right isLess isGreater => absurd isLess isGreater.not_gt⟩
    have distinct : (positions.zip wanted).Nodup :=
      ascending.imp fun isLess same => isLess.ne (congrArg Prod.fst same)
    have among : positions.zip wanted ⊆ indexed available :=
      fun pair member => mem_indexed.mpr (atPositions member)
    refine ⟨positions.zip wanted, ?_, firsts, List.map_snd_zip sameLength.ge⟩
    exact List.sublist_of_subperm_of_pairwise (List.subperm_of_subset distinct among) ascending
      (pairwise_indexed available)
  · rintro ⟨chosen, sublist, rfl, rfl⟩
    refine ⟨?_, ?_⟩
    · rw [List.pairwise_map]
      exact (pairwise_indexed available).sublist sublist
    · rw [List.forall₂_map_left_iff, List.forall₂_map_right_iff, List.forall₂_same]
      exact fun pair member => mem_indexed.mp (sublist.subset member)

theorem sublist_iff_exists_chosen {wanted available : List α} :
    wanted.Sublist available ↔
      ∃ chosen : List (Nat × α), chosen.Sublist (indexed available) ∧
        chosen.map Prod.snd = wanted := by
  rw [← map_snd_indexed available, List.sublist_map_iff, map_snd_indexed]
  exact exists_congr fun chosen => and_congr_right fun _ => eq_comm

theorem EmbedsGreedily.length_le {wanted available : List α} {positions : List Nat}
    (greedily : EmbedsGreedily wanted available positions) :
    positions.length ≤ wanted.length := by
  have sameLength := greedily.embeds.found.length_eq
  rw [List.length_take] at sameLength
  omega

theorem Embeds.sublist {wanted available : List α} {positions : List Nat}
    (embeds : Embeds wanted available positions) : wanted.Sublist available := by
  obtain ⟨chosen, sublist, _, items⟩ := embeds_iff.mp embeds
  exact sublist_iff_exists_chosen.mpr ⟨chosen, sublist, items⟩

/-! ## What a greedy occurrence leaves out -/

/-- The item at an index of a sequence is nowhere behind the positions found for the items
before it. -/
def Absent (wanted available : List α) (positions : List Nat) (index : Nat) : Prop :=
  ∀ position < available.length, (∀ earlier ∈ positions.take index, earlier < position) →
    available[position]? ≠ wanted[index]?

instance [DecidableEq α] (wanted available : List α) (positions : List Nat) (index : Nat) :
    Decidable (Absent wanted available positions index) :=
  inferInstanceAs (Decidable (∀ position < available.length,
    (∀ earlier ∈ positions.take index, earlier < position) →
      available[position]? ≠ wanted[index]?))

section Leftover

variable {wanted available : List α} {positions : List Nat} {index : Nat}

/-- The first item that is left out is absent: it would make the occurrence longer. -/
theorem EmbedsGreedily.absent (greedily : EmbedsGreedily wanted available positions)
    (shorter : positions.length < wanted.length) :
    Absent wanted available positions positions.length := by
  intro position inside behind same
  rw [List.take_length] at behind
  have longer :
      Embeds (wanted.take (positions.length + 1)) available (positions ++ [position]) := by
    refine ⟨?_, ?_⟩
    · refine List.pairwise_append.mpr ⟨greedily.embeds.ascending, List.pairwise_singleton _ _, ?_⟩
      intro earlier member last isLast
      rw [List.mem_singleton.mp isLast]
      exact behind earlier member
    · rw [List.take_succ_eq_append_getElem shorter]
      refine List.rel_append greedily.embeds.found (.cons ?_ .nil)
      rw [same, List.getElem?_eq_getElem shorter]
  have notLonger := (greedily.longest (positions.length + 1) shorter).mp longer.sublist
  omega

/-- An item that is not left out is not absent: it is where it was found. -/
theorem EmbedsGreedily.not_absent (greedily : EmbedsGreedily wanted available positions)
    (inside : index < positions.length) : ¬ Absent wanted available positions index := by
  intro absent
  obtain ⟨sameLength, found⟩ := List.forall₂_iff_get.mp greedily.embeds.found
  have here : available[positions[index]]? = wanted[index]? := by
    have wantedInside : index < (wanted.take positions.length).length := sameLength ▸ inside
    have atIndex := found index inside wantedInside
    rw [List.get_eq_getElem, List.get_eq_getElem, ← List.getElem?_eq_getElem wantedInside,
      List.getElem?_take_of_lt inside] at atIndex
    exact atIndex
  have isItem : index < wanted.length := inside.trans_le greedily.length_le
  have positionInside : positions[index] < available.length := by
    rw [List.getElem?_eq_getElem isItem] at here
    exact (List.getElem?_eq_some_iff.mp here).1
  refine absent positions[index] positionInside (fun earlier member => ?_) here
  obtain ⟨place, before, rfl⟩ := List.mem_take_iff_getElem.mp member
  exact List.pairwise_iff_getElem.mp greedily.embeds.ascending place index _ inside (by omega)

/-- Everything from the first absent item on is left out, and nothing before it. -/
theorem EmbedsGreedily.length_le_iff (greedily : EmbedsGreedily wanted available positions)
    (inside : index < wanted.length) :
    positions.length ≤ index ↔ ∃ earlier ≤ index, Absent wanted available positions earlier := by
  constructor
  · intro leftOut
    exact ⟨positions.length, leftOut, greedily.absent (leftOut.trans_lt inside)⟩
  · rintro ⟨earlier, notBehind, absent⟩
    by_contra found
    exact greedily.not_absent (notBehind.trans_lt (Nat.lt_of_not_le found)) absent

end Leftover

/-! ## Looking for one item after the other -/

/-- What begins with an item is still there when everything before the item is dropped. -/
theorem sublist_dropWhile {p : α → Bool} {first : α} {rest items : List α}
    (sublist : (first :: rest).Sublist items) (stops : p first = false) :
    (first :: rest).Sublist (items.dropWhile p) := by
  induction items with
  | nil => exact sublist
  | cons item items inductionHypothesis =>
    rw [List.dropWhile_cons]
    split
    · rename_i dropped
      rcases List.cons_sublist_cons'.mp sublist with inRest | ⟨isItem, _⟩
      · exact inductionHypothesis inRest
      · rw [← isItem, stops] at dropped
        cases dropped
    · exact sublist

variable [DecidableEq α]

/-- The position of each item behind that of the item before, up to the first item that is
not found. -/
def firstMatches (waiting : List (Nat × α)) : List α → List Nat
  | [] => []
  | item :: later =>
    match waiting.dropWhile fun known => !decide (known.2 = item) with
    | [] => []
    | (position, _) :: waiting => position :: firstMatches waiting later

/-- The item at the head of what is left when everything before an item is dropped. -/
theorem eq_of_dropWhile_eq_cons {waiting later : List (Nat × α)} {item : α}
    {known : Nat × α}
    (split : (waiting.dropWhile fun known => !decide (known.2 = item)) = known :: later) :
    known.2 = item := by
  have stops := List.head?_dropWhile_not (fun known : Nat × α => !decide (known.2 = item)) waiting
  rw [split] at stops
  simpa using stops

/-- The positions found pick some of the items that wait, namely a prefix of what is wanted. -/
theorem exists_chosen_firstMatches (wanted : List α) (waiting : List (Nat × α)) :
    ∃ chosen : List (Nat × α), chosen.Sublist waiting ∧
      chosen.map Prod.fst = firstMatches waiting wanted ∧
      chosen.map Prod.snd = wanted.take (firstMatches waiting wanted).length := by
  induction wanted generalizing waiting with
  | nil => exact ⟨[], List.nil_sublist _, rfl, rfl⟩
  | cons item later inductionHypothesis =>
    unfold firstMatches
    split
    · exact ⟨[], List.nil_sublist _, rfl, rfl⟩
    · rename_i position known rest split
      obtain ⟨chosen, sublist, firsts, seconds⟩ := inductionHypothesis rest
      have isItem : known = item := eq_of_dropWhile_eq_cons split
      refine ⟨(position, item) :: chosen, ?_, ?_, ?_⟩
      · refine (sublist.cons_cons (position, item)).trans ?_
        rw [← isItem, ← split]
        exact List.dropWhile_sublist _
      · rw [List.map_cons, firsts]
      · rw [List.map_cons, seconds, List.length_cons, List.take_succ_cons]

/-- Whatever picks a prefix of what is wanted picks no more items than are found, and none of
them further to the left: the first match of an item leaves the most to choose from. -/
theorem firstMatches_le (wanted : List α) {waiting other : List (Nat × α)} {count : Nat}
    (ascending : waiting.Pairwise fun left right => left.1 < right.1)
    (sublist : other.Sublist waiting) (picks : other.map Prod.snd = wanted.take count) :
    other.length ≤ (firstMatches waiting wanted).length ∧
      List.Forall₂ (· ≤ ·) ((firstMatches waiting wanted).take other.length)
        (other.map Prod.fst) := by
  induction wanted generalizing waiting other count with
  | nil =>
    obtain rfl : other = [] := by simpa using picks
    exact ⟨Nat.zero_le _, .nil⟩
  | cons item later inductionHypothesis =>
    cases other with
    | nil => exact ⟨Nat.zero_le _, .nil⟩
    | cons pair others =>
      cases count with
      | zero => cases picks
      | succ count =>
        rw [List.map_cons, List.take_succ_cons] at picks
        obtain ⟨isItem, picksLater⟩ := List.cons.inj picks
        have behind := sublist_dropWhile (p := fun known => !decide (known.2 = item)) sublist
          (by simpa using isItem)
        have stillAscending := ascending.sublist
          (List.dropWhile_sublist fun known => !decide (known.2 = item))
        unfold firstMatches
        split
        · rename_i split
          rw [split] at behind
          cases behind
        · rename_i position known rest split
          rw [split] at behind stillAscending
          obtain ⟨isLeast, restAscending⟩ := List.pairwise_cons.mp stillAscending
          have othersBehind : others.Sublist rest ∧ position ≤ pair.1 := by
            rcases List.cons_sublist_cons'.mp behind with inRest | ⟨isFirst, othersInRest⟩
            · exact ⟨(List.sublist_cons_self pair others).trans inRest,
                (isLeast pair (inRest.subset List.mem_cons_self)).le⟩
            · exact ⟨othersInRest, (congrArg Prod.fst isFirst).ge⟩
          obtain ⟨notMore, pointwise⟩ :=
            inductionHypothesis restAscending othersBehind.1 picksLater
          exact ⟨Nat.succ_le_succ notMore, .cons othersBehind.2 pointwise⟩

/-- Looking for one item after the other finds the leftmost occurrence of the longest prefix
that occurs. -/
theorem embedsGreedily_firstMatches (wanted available : List α) :
    EmbedsGreedily wanted available (firstMatches (indexed available) wanted) := by
  obtain ⟨chosen, sublist, firsts, seconds⟩ := exists_chosen_firstMatches wanted (indexed available)
  have sameLength : chosen.length = (firstMatches (indexed available) wanted).length := by
    rw [← firsts, List.length_map]
  have ascending := pairwise_indexed available
  refine ⟨embeds_iff.mpr ⟨chosen, sublist, firsts, seconds⟩, fun other embeds => ?_,
    fun count within => ⟨fun occurs => ?_, fun found => ?_⟩⟩
  · obtain ⟨picked, pickedSublist, rfl, pickedItems⟩ := embeds_iff.mp embeds
    obtain ⟨_, pointwise⟩ := firstMatches_le wanted ascending pickedSublist pickedItems
    have pickedLength : picked.length = chosen.length := by
      have lengths := congrArg List.length (pickedItems.trans seconds.symm)
      simpa using lengths
    rwa [pickedLength, sameLength, List.take_length] at pointwise
  · obtain ⟨picked, pickedSublist, pickedItems⟩ := sublist_iff_exists_chosen.mp occurs
    have pickedLength : picked.length = count := by
      have lengths := congrArg List.length pickedItems
      simpa [within] using lengths
    rw [← pickedLength]
    exact (firstMatches_le wanted ascending pickedSublist pickedItems).1
  · refine sublist_iff_exists_chosen.mpr
      ⟨chosen.take count, (List.take_sublist count chosen).trans sublist, ?_⟩
    rw [List.map_take, seconds, List.take_take, Nat.min_eq_left found]

end RunTriage.Session
