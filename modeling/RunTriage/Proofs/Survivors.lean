import Mathlib.Data.List.Induction
import RunTriage.Proofs.Replacement

/-!
Contract: the runs that an archive holds, with the numbers under which they were added.

Owns:
- `survivors`, the runs of a sequence that no later one replaces;
- the archive of a sequence, which holds these runs and no others.

Does not own: what the archive answers about them.
-/

namespace RunTriage.Archive

open Session (indexed mem_indexed indexed_concat map_snd_indexed pairwise_indexed)

/-- The runs of a sequence that no later one replaces, each with its number. -/
def survivors (runs : List Run) : List (Nat × Run) :=
  (indexed runs).filter fun known =>
    !(runs.drop (known.1 + 1)).any fun later => later.name = known.2.name

/-- One more run stands at the end, in place of an earlier one of the same name. -/
theorem survivors_concat (runs : List Run) (run : Run) :
    survivors (runs ++ [run]) =
      ((survivors runs).filter fun known => known.2.name != run.name) ++ [(runs.length, run)] := by
  have stays : ∀ known ∈ indexed runs,
      (!((runs ++ [run]).drop (known.1 + 1)).any fun later => later.name = known.2.name) =
        (known.2.name != run.name &&
          !(runs.drop (known.1 + 1)).any fun later => later.name = known.2.name) := by
    rintro ⟨number, known⟩ member
    obtain ⟨inside, _⟩ := List.getElem?_eq_some_iff.mp (mem_indexed.mp member)
    rw [List.drop_append_of_le_length inside, List.any_append, Bool.not_or, Bool.and_comm]
    congr 1
    by_cases same : run.name = known.name
    · simp [same]
    · simp [same, Ne.symm same]
  rw [survivors, indexed_concat, List.filter_append, List.filter_congr stays, ← List.filter_filter,
    ← survivors]
  simp

theorem mem_of_mem_survivors {runs : List Run} {known : Nat × Run}
    (member : known ∈ survivors runs) : known.2 ∈ runs :=
  List.mem_of_getElem? (mem_indexed.mp (List.mem_of_mem_filter member))

theorem pairwise_survivors (runs : List Run) :
    (survivors runs).Pairwise fun left right => left.1 < right.1 :=
  (pairwise_indexed runs).filter _

theorem survivors_of_distinct {runs : List Run} (distinct : DistinctNames runs) :
    survivors runs = indexed runs := by
  refine List.filter_eq_self.mpr fun known member => ?_
  obtain ⟨number, run⟩ := known
  obtain ⟨inside, isRun⟩ := List.getElem?_eq_some_iff.mp (mem_indexed.mp member)
  rw [Bool.not_eq_true', List.any_eq_false]
  intro later isLater sameName
  rw [← List.take_append_drop (number + 1) runs] at distinct
  have isEarlier : run ∈ runs.take (number + 1) := by
    rw [← isRun, List.mem_take_iff_getElem]
    exact ⟨number, by omega, rfl⟩
  have different := (List.pairwise_append.mp distinct).2.2 run isEarlier later isLater
  exact different (of_decide_eq_true sameName).symm

/-! ## The archive of a sequence -/

theorem nextId_remove (archive : Archive) (name : String) :
    (archive.remove name).nextId = archive.nextId := by
  unfold remove
  split <;> rfl

theorem addAll_concat (archive : Archive) (runs : List Run) (run : Run) :
    archive.addAll (runs ++ [run]) = (archive.addAll runs).add run :=
  List.foldl_concat ..

/-- Runs are numbered from zero on in the order in which they are added. -/
theorem nextId_addAll (book : RuleBook) (capacity : Nat) (runs : List Run) :
    ((empty book capacity).addAll runs).nextId = runs.length := by
  induction runs using List.reverseRecOn with
  | nil => rfl
  | append_singleton runs run inductionHypothesis =>
    rw [addAll_concat, List.length_append, List.length_singleton, ← inductionHypothesis]
    show ((Archive.remove _ run.name).nextId + 1) = _
    rw [nextId_remove]

theorem holds_survivors (book : RuleBook) (capacity : Nat) (runs : List Run) :
    Holds ((empty book capacity).addAll runs) (survivors runs) := by
  induction runs using List.reverseRecOn with
  | nil => exact holds_empty book capacity
  | append_singleton runs run inductionHypothesis =>
    have added := inductionHypothesis.add run
    rw [nextId_remove, nextId_addAll] at added
    rw [addAll_concat, survivors_concat]
    exact added

end RunTriage.Archive
