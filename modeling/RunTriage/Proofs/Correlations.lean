import Mathlib.Algebra.Order.Field.Rat
import Mathlib.Tactic.NormNum
import RunTriage.Snapshot.Statistics

/-!
Contract: with exact rates, correlations are told by numbers of runs.

Owns:
- rates without rounding;
- the numbers of runs with a code and with two codes;
- when a code qualifies for another one, which cross-multiplied numbers of runs decide;
- the correlations of a code as the first of the codes that qualify, in their order.

Does not own: what rounding makes of close rates.
-/

namespace RunTriage

/-- Rates are not rounded. What a quotient by zero is stays open. -/
structure RateKind.IsExact (kind : RateKind ℚ) : Prop where
  quotient_eq : ∀ part whole : Nat, whole ≠ 0 → kind.quotient part whole = part / whole
  difference_eq : ∀ left right, kind.difference left right = left - right
  isPositive_iff : ∀ value, kind.isPositive value = true ↔ 0 < value
  isGreater_iff : ∀ left right, kind.isGreater left right = true ↔ right < left

/-- Rational numbers as rates. -/
def exactRates : RateKind ℚ where
  quotient part whole := part / whole
  difference left right := left - right
  isPositive value := 0 < value
  isGreater left right := right < left

theorem isExact_exactRates : exactRates.IsExact where
  quotient_eq _ _ _ := rfl
  difference_eq _ _ := rfl
  isPositive_iff _ := decide_eq_true_iff
  isGreater_iff _ _ := decide_eq_true_iff

/-! ## The order of correlations -/

namespace Correlation

variable {kind : RateKind ℚ} (exact : kind.IsExact)

include exact

theorem precedes_iff (left right : Correlation ℚ) :
    precedes kind left right = true ↔
      right.excess < left.excess ∨ left.excess = right.excess ∧ left.code ≤ right.code := by
  unfold precedes
  split
  · rename_i isGreater
    exact iff_of_true rfl (.inl ((exact.isGreater_iff _ _).mp isGreater))
  · rename_i notGreater
    rw [exact.isGreater_iff, not_lt] at notGreater
    split
    · rename_i isLess
      rw [exact.isGreater_iff] at isLess
      simp [notGreater, isLess.ne]
    · rename_i notLess
      rw [exact.isGreater_iff, not_lt] at notLess
      simp [le_antisymm notGreater notLess]

theorem precedes_trans (first second third : Correlation ℚ)
    (before : precedes kind first second = true) (after : precedes kind second third = true) :
    precedes kind first third = true := by
  rw [precedes_iff exact] at before after ⊢
  rcases before with isLess | ⟨same, isLess⟩
  · rcases after with isLater | ⟨sameLater, _⟩
    · exact .inl (isLater.trans isLess)
    · exact .inl (sameLater ▸ isLess)
  · rcases after with isLater | ⟨sameLater, isLater⟩
    · exact .inl (same ▸ isLater)
    · exact .inr ⟨same.trans sameLater, String.le_trans isLess isLater⟩

theorem precedes_total (left right : Correlation ℚ) :
    (precedes kind left right || precedes kind right left) = true := by
  rw [Bool.or_eq_true, precedes_iff exact, precedes_iff exact]
  rcases lt_trichotomy left.excess right.excess with isLess | same | isGreater
  · exact .inr (.inl isLess)
  · exact (String.le_total left.code right.code).imp (fun isLess => .inr ⟨same, isLess⟩)
      fun isLess => .inr ⟨same.symm, isLess⟩
  · exact .inl (.inl isGreater)

end Correlation

namespace Snapshot

/-! ## Numbers of runs -/

section Counts

variable (snapshot : Snapshot) (revision : Option String) {code : String} (other : String)

theorem affectedRuns_le_totalRuns (code : String) :
    snapshot.affectedRuns code revision ≤ snapshot.totalRuns revision :=
  List.length_filter_le _ _

theorem sharedRuns_le_affectedRuns (code : String) :
    snapshot.sharedRuns code other revision ≤ snapshot.affectedRuns code revision :=
  List.length_filter_le _ _

theorem sharedRuns_comm (code : String) :
    snapshot.sharedRuns code other revision = snapshot.sharedRuns other code revision := by
  rw [sharedRuns, sharedRuns, runsWith, runsWith, List.filter_filter, List.filter_filter]
  exact congrArg List.length (List.filter_congr fun run _ => Bool.and_comm _ _)

/-- A code of all runs is in every run with another one. -/
theorem sharedRuns_of_all
    (isAlways : snapshot.affectedRuns code revision = snapshot.totalRuns revision) :
    snapshot.sharedRuns code other revision = snapshot.affectedRuns other revision := by
  have inAll : snapshot.runsWith code revision = snapshot.runsOf revision :=
    List.filter_eq_self.mpr (List.length_filter_eq_length_iff.mp isAlways)
  rw [sharedRuns, inAll]
  rfl

end Counts

/-! ## Qualified codes -/

/-- The runs with a code are tainted by it, and the other code is the fallback for such runs. -/
def IsCaused (snapshot : Snapshot) (code other : String) : Prop :=
  snapshot.isTainting code = true ∧ (other = "TAINT" ∨ other = "TAINT-TD")

/-- A code of the snapshot is over-represented among the runs of another one, and does not merely
follow from its taint. -/
structure Qualifies (snapshot : Snapshot) (revision : Option String) (code other : String) :
    Prop where
  listed : other ∈ snapshot.rules.map RuleSummary.code
  different : other ≠ code
  notCaused : ¬snapshot.IsCaused code other
  exceeds : snapshot.affectedRuns code revision * snapshot.affectedRuns other revision <
    snapshot.sharedRuns code other revision * snapshot.totalRuns revision

/-- By how much the rate of a code among the runs of another one exceeds its rate among all. -/
def excessOf (snapshot : Snapshot) (revision : Option String) (code other : String) : ℚ :=
  snapshot.sharedRuns code other revision / snapshot.affectedRuns code revision -
    snapshot.affectedRuns other revision / snapshot.totalRuns revision

/-- A code stands before another one: its rate exceeds by more, or by as much and it is smaller. -/
def Outranks (snapshot : Snapshot) (revision : Option String) (code left right : String) : Prop :=
  snapshot.excessOf revision code right < snapshot.excessOf revision code left ∨
    snapshot.excessOf revision code left = snapshot.excessOf revision code right ∧ left < right

section Qualified

variable {snapshot : Snapshot} {revision : Option String} {code other : String}

theorem mayCorrelate_iff :
    snapshot.mayCorrelate code other = true ↔ other ≠ code ∧ ¬snapshot.IsCaused code other := by
  simp only [mayCorrelate, IsCaused, Bool.and_eq_true, bne_iff_ne, Bool.not_eq_true',
    ← Bool.not_eq_true, Bool.or_eq_true, decide_eq_true_iff]
  rfl

/-- One code exceeds its share among the runs of the other if the other does among its own. -/
theorem exceeds_comm :
    snapshot.affectedRuns code revision * snapshot.affectedRuns other revision <
        snapshot.sharedRuns code other revision * snapshot.totalRuns revision ↔
      snapshot.affectedRuns other revision * snapshot.affectedRuns code revision <
        snapshot.sharedRuns other code revision * snapshot.totalRuns revision := by
  rw [sharedRuns_comm, Nat.mul_comm (snapshot.affectedRuns code revision)]

/-- A code of no run or of all runs exceeds no share. -/
theorem affectedRuns_of_exceeds
    (exceeds : snapshot.affectedRuns code revision * snapshot.affectedRuns other revision <
      snapshot.sharedRuns code other revision * snapshot.totalRuns revision) :
    0 < snapshot.affectedRuns code revision ∧
      snapshot.affectedRuns code revision < snapshot.totalRuns revision := by
  constructor
  · have shared := Nat.pos_of_mul_pos_right (Nat.zero_lt_of_lt exceeds)
    exact Nat.lt_of_lt_of_le shared (snapshot.sharedRuns_le_affectedRuns revision other code)
  · refine Nat.lt_of_le_of_ne (snapshot.affectedRuns_le_totalRuns revision code) fun isAlways => ?_
    rw [sharedRuns_of_all _ _ _ isAlways, isAlways, Nat.mul_comm] at exceeds
    exact Nat.lt_irrefl _ exceeds

/-- Apart from the fallbacks of a taint, codes qualify for each other. -/
theorem Qualifies.symm (qualifies : snapshot.Qualifies revision code other)
    (listed : code ∈ snapshot.rules.map RuleSummary.code)
    (notCaused : ¬snapshot.IsCaused other code) :
    snapshot.Qualifies revision other code :=
  ⟨listed, qualifies.different.symm, notCaused, exceeds_comm.mp qualifies.exceeds⟩

theorem excessOf_pos_iff (isAffected : 0 < snapshot.affectedRuns code revision) :
    0 < snapshot.excessOf revision code other ↔
      snapshot.affectedRuns code revision * snapshot.affectedRuns other revision <
        snapshot.sharedRuns code other revision * snapshot.totalRuns revision := by
  have hasRuns := Nat.lt_of_lt_of_le isAffected (snapshot.affectedRuns_le_totalRuns revision code)
  rw [excessOf, sub_pos, div_lt_div_iff₀ (Nat.cast_pos.mpr hasRuns) (Nat.cast_pos.mpr isAffected),
    Nat.mul_comm]
  exact_mod_cast Iff.rfl

end Qualified

/-! ## Comparison of two codes -/

/-- The correlations of a code before they are ranked. -/
def exceeding {ρ : Type} (kind : RateKind ρ) (snapshot : Snapshot) (code : String)
    (revision : Option String) : List (Correlation ρ) :=
  (((snapshot.rules.map RuleSummary.code).filter (snapshot.mayCorrelate code)).map
    (correlation kind snapshot code revision)).filter fun compared =>
      kind.isPositive compared.excess

/-- The correlations of a code in their order, before all but the first are dropped. -/
def ranking {ρ : Type} (kind : RateKind ρ) (snapshot : Snapshot) (code : String)
    (revision : Option String) : List (Correlation ρ) :=
  (snapshot.exceeding kind code revision).mergeSort (Correlation.precedes kind)

/-- The codes that are ranked are different if those of the snapshot are. -/
theorem nodup_ranking {ρ : Type} (kind : RateKind ρ) {snapshot : Snapshot}
    (distinct : (snapshot.rules.map RuleSummary.code).Nodup) (code : String)
    (revision : Option String) :
    ((snapshot.ranking kind code revision).map Correlation.code).Nodup := by
  let others := (snapshot.rules.map RuleSummary.code).filter (snapshot.mayCorrelate code)
  have codes : (others.map (correlation kind snapshot code revision)).map Correlation.code =
      others := by
    rw [List.map_map]
    exact List.map_id _
  have kept : ((snapshot.exceeding kind code revision).map Correlation.code).Sublist
      ((others.map (correlation kind snapshot code revision)).map Correlation.code) :=
    List.filter_sublist.map _
  rw [codes] at kept
  rw [ranking, ((List.mergeSort_perm _ _).map Correlation.code).nodup_iff]
  exact distinct.sublist (kept.trans List.filter_sublist)

section Compared

variable {kind : RateKind ℚ} (exact : kind.IsExact) {snapshot : Snapshot}
  {revision : Option String} {code : String}
  (isAffected : 0 < snapshot.affectedRuns code revision)

include exact isAffected

/-- Neither quotient is one by zero. -/
theorem correlation_eq (other : String) :
    correlation kind snapshot code revision other =
      ⟨other, snapshot.sharedRuns code other revision / snapshot.affectedRuns code revision,
        snapshot.excessOf revision code other⟩ := by
  have hasRuns := Nat.lt_of_lt_of_le isAffected (snapshot.affectedRuns_le_totalRuns revision code)
  rw [correlation, exact.quotient_eq _ _ isAffected.ne', exact.quotient_eq _ _ hasRuns.ne',
    exact.difference_eq]
  rfl

/-- The comparisons that are ranked are those with the codes that qualify. -/
theorem mem_ranking_iff (compared : Correlation ℚ) :
    compared ∈ snapshot.ranking kind code revision ↔
      snapshot.Qualifies revision code compared.code ∧
        compared = correlation kind snapshot code revision compared.code := by
  rw [ranking, (List.mergeSort_perm _ _).mem_iff, exceeding, List.mem_filter, List.mem_map,
    exact.isPositive_iff]
  constructor
  · rintro ⟨⟨other, member, rfl⟩, isPositive⟩
    obtain ⟨listed, may⟩ := List.mem_filter.mp member
    obtain ⟨different, notCaused⟩ := mayCorrelate_iff.mp may
    rw [correlation_eq exact isAffected] at isPositive
    exact ⟨⟨listed, different, notCaused, (excessOf_pos_iff isAffected).mp isPositive⟩, rfl⟩
  · rintro ⟨qualifies, isCompared⟩
    refine ⟨⟨compared.code, List.mem_filter.mpr ⟨qualifies.listed, ?_⟩, isCompared.symm⟩, ?_⟩
    · exact mayCorrelate_iff.mpr ⟨qualifies.different, qualifies.notCaused⟩
    · rw [isCompared, correlation_eq exact isAffected]
      exact (excessOf_pos_iff isAffected).mpr qualifies.exceeds

theorem excess_of_mem_ranking {compared : Correlation ℚ}
    (member : compared ∈ snapshot.ranking kind code revision) :
    compared.excess = snapshot.excessOf revision code compared.code := by
  have isCompared := ((mem_ranking_iff exact isAffected compared).mp member).2
  rw [isCompared, correlation_eq exact isAffected]

/-- Each code outranks those behind it. -/
theorem pairwise_ranking (distinct : (snapshot.rules.map RuleSummary.code).Nodup) :
    ((snapshot.ranking kind code revision).map Correlation.code).Pairwise
      (snapshot.Outranks revision code) := by
  have ordered : (snapshot.ranking kind code revision).Pairwise fun left right =>
      Correlation.precedes kind left right = true :=
    List.pairwise_mergeSort (Correlation.precedes_trans exact)
      (Correlation.precedes_total exact) _
  have different := List.pairwise_map.mp (nodup_ranking kind distinct code revision)
  refine List.pairwise_map.mpr ((ordered.and different).imp_of_mem ?_)
  rintro left right isLeft isRight ⟨precedes, different⟩
  rw [Outranks, ← excess_of_mem_ranking exact isAffected isLeft,
    ← excess_of_mem_ranking exact isAffected isRight]
  refine ((Correlation.precedes_iff exact left right).mp precedes).imp_right ?_
  exact And.imp_right fun isLeast => Std.lt_of_le_of_ne isLeast different

/-- The correlations are the first comparisons of the ranking, told by their codes. -/
theorem correlationsBy_eq_take :
    snapshot.correlationsBy kind code revision =
      (((snapshot.ranking kind code revision).map Correlation.code).take 3).map
        (correlation kind snapshot code revision) := by
  have limited : snapshot.correlationsBy kind code revision =
      (snapshot.ranking kind code revision).take 3 := by
    rw [correlationsBy, if_neg isAffected.ne']
    rfl
  have inverse : ((snapshot.ranking kind code revision).map Correlation.code).map
      (correlation kind snapshot code revision) = snapshot.ranking kind code revision := by
    rw [List.map_map]
    exact (List.map_congr_left fun compared member =>
      ((mem_ranking_iff exact isAffected compared).mp member).2.symm).trans (List.map_id _)
  rw [limited, List.map_take, inverse]

end Compared

/-! ## Correlations -/

section Correlations

variable {kind : RateKind ℚ} (exact : kind.IsExact) {snapshot : Snapshot}
  (distinct : (snapshot.rules.map RuleSummary.code).Nodup) (revision : Option String)

include exact distinct

/-- The codes that qualify are ranked, and the first of them are the correlations. -/
theorem exists_ranked (code : String) :
    ∃ ranked : List String,
      (∀ other, other ∈ ranked ↔ snapshot.Qualifies revision code other) ∧
        ranked.Pairwise (snapshot.Outranks revision code) ∧
        snapshot.correlationsBy kind code revision =
          (ranked.take 3).map fun other =>
            ⟨other, snapshot.sharedRuns code other revision / snapshot.affectedRuns code revision,
              snapshot.excessOf revision code other⟩ := by
  rcases Nat.eq_zero_or_pos (snapshot.affectedRuns code revision) with isMissing | isAffected
  · refine ⟨[], fun other => iff_of_false (by nofun) fun qualifies => ?_, .nil, if_pos isMissing⟩
    exact (affectedRuns_of_exceeds qualifies.exceeds).1.ne' isMissing
  · refine ⟨(snapshot.ranking kind code revision).map Correlation.code, fun other => ?_,
      pairwise_ranking exact isAffected distinct, ?_⟩
    · rw [List.mem_map]
      constructor
      · rintro ⟨compared, member, rfl⟩
        exact ((mem_ranking_iff exact isAffected compared).mp member).1
      · intro qualifies
        exact ⟨correlation kind snapshot code revision other,
          (mem_ranking_iff exact isAffected _).mpr ⟨qualifies, rfl⟩, rfl⟩
    · rw [correlationsBy_eq_take exact isAffected]
      exact List.map_congr_left fun other _ => correlation_eq exact isAffected other

theorem qualifies_of_mem_correlationsBy {code : String} {compared : Correlation ℚ}
    (member : compared ∈ snapshot.correlationsBy kind code revision) :
    snapshot.Qualifies revision code compared.code := by
  obtain ⟨ranked, qualified, _, limited⟩ := exists_ranked exact distinct revision code
  rw [limited] at member
  obtain ⟨other, isRanked, rfl⟩ := List.mem_map.mp member
  exact (qualified other).mp (List.mem_of_mem_take isRanked)

end Correlations

/-- The quotients by zero do not matter, whatever the kind of rates. -/
theorem correlationsBy_quotient {ρ : Type} (kind : RateKind ρ) {quotient : Nat → Nat → ρ}
    (same : ∀ part whole, whole ≠ 0 → quotient part whole = kind.quotient part whole)
    (snapshot : Snapshot) (code : String) (revision : Option String) :
    snapshot.correlationsBy { kind with quotient := quotient } code revision =
      snapshot.correlationsBy kind code revision := by
  unfold correlationsBy
  split
  · rfl
  · rename_i isAffected
    have hasRuns : snapshot.totalRuns revision ≠ 0 := by
      have atMost := snapshot.affectedRuns_le_totalRuns revision code
      omega
    have sameCorrelation : correlation { kind with quotient := quotient } snapshot code revision =
        correlation kind snapshot code revision := by
      funext other
      simp only [correlation, same _ _ isAffected, same _ _ hasRuns]
    rw [sameCorrelation]
    rfl

/-- With exact rates, the correlations of a code are the first three of the codes that qualify for
it, in descending order of the differences of their rates and then in the order of the codes.
Whether a code qualifies is told by the numbers of runs with the one code, with the other and with
both. So, apart from the fallbacks of a taint, a code qualifies for another one if that one
qualifies for it. A code of no run or of all runs has no correlations and is none. There is no
division by zero, be the rates exact or not. -/
theorem correlationsBy_exact {kind : RateKind ℚ} (exact : kind.IsExact) {snapshot : Snapshot}
    (distinct : (snapshot.rules.map RuleSummary.code).Nodup) (revision : Option String) :
    (∀ code, ∃ ranked : List String,
      (∀ other, other ∈ ranked ↔ snapshot.Qualifies revision code other) ∧
        ranked.Pairwise (snapshot.Outranks revision code) ∧
        snapshot.correlationsBy kind code revision =
          (ranked.take 3).map fun other =>
            ⟨other, snapshot.sharedRuns code other revision / snapshot.affectedRuns code revision,
              snapshot.excessOf revision code other⟩) ∧
      (∀ code ∈ snapshot.rules.map RuleSummary.code,
        ∀ other ∈ snapshot.rules.map RuleSummary.code,
          ¬snapshot.IsCaused code other → ¬snapshot.IsCaused other code →
            (snapshot.Qualifies revision code other ↔ snapshot.Qualifies revision other code)) ∧
      (∀ code,
        snapshot.affectedRuns code revision = 0 ∨
            snapshot.affectedRuns code revision = snapshot.totalRuns revision →
          snapshot.correlationsBy kind code revision = [] ∧
            ∀ other, ∀ compared ∈ snapshot.correlationsBy kind other revision,
              compared.code ≠ code) ∧
      ∀ (ρ : Type) (rates : RateKind ρ) (quotient : Nat → Nat → ρ),
        (∀ part whole, whole ≠ 0 → quotient part whole = rates.quotient part whole) →
          ∀ code, snapshot.correlationsBy { rates with quotient := quotient } code revision =
            snapshot.correlationsBy rates code revision := by
  have inSome {code other : String} (qualifies : snapshot.Qualifies revision code other) :=
    affectedRuns_of_exceeds qualifies.exceeds
  have inSomeOther {code other : String} (qualifies : snapshot.Qualifies revision code other) :=
    affectedRuns_of_exceeds (exceeds_comm.mp qualifies.exceeds)
  refine ⟨exists_ranked exact distinct revision, ?_, fun code isTrivial => ⟨?_, ?_⟩,
    fun ρ rates quotient same code => correlationsBy_quotient rates same snapshot code revision⟩
  · intro code isCode other isOther notCaused notCausing
    exact ⟨fun qualifies => qualifies.symm isCode notCausing,
      fun qualifies => qualifies.symm isOther notCaused⟩
  · refine List.eq_nil_iff_forall_not_mem.mpr fun compared member => ?_
    have qualifies := qualifies_of_mem_correlationsBy exact distinct revision member
    exact isTrivial.elim (inSome qualifies).1.ne' (inSome qualifies).2.ne
  · rintro other compared member rfl
    have qualifies := qualifies_of_mem_correlationsBy exact distinct revision member
    exact isTrivial.elim (inSomeOther qualifies).1.ne' (inSomeOther qualifies).2.ne

/-- Four runs, of which half have a code that taints them. -/
def taintedRuns : Snapshot :=
  { totalLines := 0
    rules := [⟨"A", "", true, false, false⟩, ⟨"B", "", false, false, false⟩,
      ⟨"TAINT", "", false, false, true⟩]
    runs := [["A", "B", "TAINT"], ["A", "B"], ["B"], []].map fun codes =>
      ⟨"", 0, none, none, none, 0, 0, 0, 0, codes⟩
    revisions := []
    startRows := [] }

/-- The tainting code correlates with the other one, and that one with it. The fallback is in half
of the runs of the tainting code and in a quarter of all, but it is no correlation. -/
theorem correlationsBy_exact_taintedRuns :
    exactRates.IsExact ∧ (taintedRuns.rules.map RuleSummary.code).Nodup ∧
      (∃ ranked : List String,
        "B" ∈ ranked ∧ "TAINT" ∉ ranked ∧
          taintedRuns.correlationsBy exactRates "A" none =
            (ranked.take 3).map fun other =>
              ⟨other, taintedRuns.sharedRuns "A" other none / taintedRuns.affectedRuns "A" none,
                taintedRuns.excessOf none "A" other⟩) ∧
      taintedRuns.Qualifies none "B" "A" ∧
      taintedRuns.excessOf none "A" "B" = 1 / 4 := by
  have distinct : (taintedRuns.rules.map RuleSummary.code).Nodup := by decide
  obtain ⟨ranking, symmetric, _⟩ := correlationsBy_exact isExact_exactRates distinct none
  have qualifies : taintedRuns.Qualifies none "A" "B" :=
    ⟨by decide, by decide, by simp [IsCaused], by decide⟩
  refine ⟨isExact_exactRates, distinct, ?_, ?_, ?_⟩
  · obtain ⟨ranked, qualified, _, limited⟩ := ranking "A"
    refine ⟨ranked, (qualified "B").mpr qualifies, fun isRanked => ?_, limited⟩
    exact ((qualified "TAINT").mp isRanked).notCaused ⟨by decide, .inl rfl⟩
  · exact (symmetric "A" (by decide) "B" (by decide) (by simp [IsCaused]) (by simp [IsCaused])).mp
      qualifies
  · have shared : taintedRuns.sharedRuns "A" "B" none = 2 := by decide
    have affected : taintedRuns.affectedRuns "A" none = 2 := by decide
    have affectedOther : taintedRuns.affectedRuns "B" none = 3 := by decide
    have runs : taintedRuns.totalRuns none = 4 := by decide
    rw [excessOf, shared, affected, affectedOther, runs]
    norm_num

end Snapshot

end RunTriage
