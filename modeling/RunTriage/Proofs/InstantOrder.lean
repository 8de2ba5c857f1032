import Mathlib.Data.List.Induction
import Mathlib.Data.List.Lex
import Mathlib.Data.List.Perm.Basic
import Mathlib.Order.MinMax
import RunTriage.Archive

/-!
Contract: the order of instants.

Owns:
- the linear order of instants, which compares their fields from the coarsest to the
  finest;
- the latest of several dates, which is one of them and does not depend on their order.

Does not own: distances between instants.
-/

namespace RunTriage

namespace Instant

theorem compareFields_eq_lt_iff (left right : List Int) :
    compareFields left right = .lt ↔ left < right := by
  induction left generalizing right with
  | nil => cases right <;> simp [compareFields]
  | cons first rest inductionHypothesis =>
    cases right with
    | nil => simp [compareFields]
    | cons other others =>
      rw [List.cons_lt_cons_iff, ← inductionHypothesis, compareFields]
      rcases lt_trichotomy first other with isLess | same | isGreater
      · simp [isLess]
      · simp [same]
      · simp [isGreater.not_gt, isGreater, isGreater.ne']

theorem compareFields_swap (left right : List Int) :
    (compareFields left right).swap = compareFields right left := by
  induction left generalizing right with
  | nil => cases right <;> rfl
  | cons first rest inductionHypothesis =>
    cases right with
    | nil => rfl
    | cons other others =>
      rw [compareFields, compareFields]
      rcases lt_trichotomy first other with isLess | same | isGreater
      · simp [isLess, isLess.not_gt]
      · simpa [same] using inductionHypothesis others
      · simp [isGreater, isGreater.not_gt]

theorem fields_injective : Function.Injective fields := by
  rintro ⟨⟨year, month, day⟩, hour, minute, second, nanos⟩ ⟨⟨_, _, _⟩, _, _, _, _⟩ same
  simpa [fields, Int.ofNat_inj, and_assoc] using same

/-- Instants are ordered by their fields. -/
instance : LinearOrder Instant := LinearOrder.lift' fields fields_injective

theorem compare_eq_lt_iff {left right : Instant} : left.compare right = .lt ↔ left < right :=
  compareFields_eq_lt_iff left.fields right.fields

theorem compare_eq_gt_iff {left right : Instant} : left.compare right = .gt ↔ right < left := by
  rw [← compare_eq_lt_iff, compare, compare, ← compareFields_swap]
  cases compareFields right.fields left.fields <;> decide

theorem compare_eq_eq_iff {left right : Instant} : left.compare right = .eq ↔ left = right := by
  have less : left.compare right = .lt ↔ left < right := compare_eq_lt_iff
  have greater : left.compare right = .gt ↔ right < left := compare_eq_gt_iff
  rcases lt_trichotomy left right with isLess | same | isGreater
  · rw [less.mpr isLess]
    simp [isLess.ne]
  · cases compared : left.compare right with
    | lt => exact absurd (less.mp compared) same.not_lt
    | eq => simp [same]
    | gt => exact absurd (greater.mp compared) same.not_gt
  · rw [greater.mpr isGreater]
    simp [isGreater.ne']

theorem isBefore_iff {left right : Instant} : left.isBefore right = true ↔ left < right := by
  rw [isBefore, beq_iff_eq, compare_eq_lt_iff]

theorem latest_eq_max (left right : Instant) : left.latest right = max left right := by
  unfold latest
  rcases lt_or_ge right left with isLess | isLeast
  · rw [if_pos (isBefore_iff.mpr isLess), max_eq_left isLess.le]
  · rw [if_neg (mt isBefore_iff.mp isLeast.not_gt), max_eq_right isLeast]

end Instant

/-! ## The latest of several dates -/

instance : RightCommutative laterDate where
  right_comm first second third := by
    cases first <;> cases second <;> cases third <;>
      simp [laterDate, Instant.latest_eq_max, max_comm, max_left_comm]

theorem latestDate_concat (dates : List (Option Instant)) (date : Option Instant) :
    latestDate (dates ++ [date]) = laterDate (latestDate dates) date := by
  rw [latestDate, List.foldl_append]
  rfl

/-- The latest of some dates, which is one of them; none if there is none. -/
structure IsLatest (latest : Option Instant) (dates : List (Option Instant)) : Prop where
  attained : ∀ date, latest = some date → some date ∈ dates
  bound : ∀ date, some date ∈ dates → ∃ last, latest = some last ∧ date ≤ last

theorem IsLatest.concat {latest : Option Instant} {dates : List (Option Instant)}
    (isLatest : IsLatest latest dates) (date : Option Instant) :
    IsLatest (laterDate latest date) (dates ++ [date]) where
  attained := by
    intro instant isLast
    rw [List.mem_append, List.mem_singleton]
    cases latest with
    | none => exact .inr isLast.symm
    | some last =>
      cases date with
      | none => exact .inl (isLatest.attained instant isLast)
      | some date =>
        have isMax : max last date = instant :=
          (Instant.latest_eq_max last date).symm.trans (Option.some.inj isLast)
        rcases max_choice last date with isOld | isNew
        · exact .inl (isLatest.attained instant (by rw [← isMax, isOld]))
        · exact .inr (by rw [← isMax, isNew])
  bound := by
    intro instant member
    rcases List.mem_append.mp member with isEarlier | isNew
    · obtain ⟨last, rfl, before⟩ := isLatest.bound instant isEarlier
      cases date with
      | none => exact ⟨last, rfl, before⟩
      | some date =>
        refine ⟨last.latest date, rfl, ?_⟩
        rw [Instant.latest_eq_max]
        exact before.trans (le_max_left last date)
    · obtain rfl := List.mem_singleton.mp isNew
      cases latest with
      | none => exact ⟨instant, rfl, le_rfl⟩
      | some last =>
        refine ⟨last.latest instant, rfl, ?_⟩
        rw [Instant.latest_eq_max]
        exact le_max_right last instant

theorem isLatest_latestDate (dates : List (Option Instant)) :
    IsLatest (latestDate dates) dates := by
  induction dates using List.reverseRecOn with
  | nil => exact ⟨fun _ isLast => (by cases isLast), fun _ member => (by cases member)⟩
  | append_singleton dates date inductionHypothesis =>
    rw [latestDate_concat]
    exact inductionHypothesis.concat date

theorem latestDate_perm {left right : List (Option Instant)} (same : left.Perm right) :
    latestDate left = latestDate right :=
  same.foldl_eq none

end RunTriage
