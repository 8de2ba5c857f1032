import RunTriage.Proofs.SearchWindow
import RunTriage.Tally

/-!
Contract: what a tree of conditions counts and which lines it shows.

Owns:
- `Symptom.count` and `Symptom.shown`, which read a tree without gathering anything on the way;
- gathering, which comes to the same: it adds the lines shown at all leaves if the whole tree
  counts, and nothing otherwise;
- trees whose parts stand in another order, which count the same and show the same lines.

Does not own: what a single search counts, which is in `RunTriage.Proofs.SearchWindow`.
-/

namespace RunTriage

/-- The lines of a test that a search shows: those of its window that the filter accepts, unless
it succeeds when nothing is found. -/
def Search.shown (search : Search) (record : TestRecord) : List Line :=
  if search.missing then []
  else
    match record.section? search.path with
    | none => []
    | some lines =>
      search.hits
        (search.window ((search.anchorLine? lines).bind Line.time) (search.regionOf lines))

theorem Search.ofRecord_snd (search : Search) (record : TestRecord) :
    (search.ofRecord record).2 = search.shown record := by
  rw [shown]
  cases present : record.section? search.path with
  | none => simp [ofRecord_of_none present]
  | some lines =>
    rw [ofRecord_of_some present, ofLines_eq (isWindow_iff.mpr rfl)]
    split <;> rfl

namespace Symptom

/-! ## Counts and lines of a tree -/

section Tree

variable (record : TestRecord)

mutual

/-- How often a condition holds of a test. Several conditions hold as often as all of them
together, provided that there are any and that each of them holds. -/
def count : Symptom → Nat
  | .search query => (query.ofRecord record).1
  | .outcome outcomes => if ∃ outcome ∈ record.outcome, outcome ∈ outcomes then 1 else 0
  | .all parts => if parts ≠ [] ∧ ∀ times ∈ counts parts, 0 < times then total (counts parts) else 0

def counts : List Symptom → List Nat
  | [] => []
  | part :: rest => count part :: counts rest

end

mutual

/-- The lines that the searches of a tree show, in the order of the tree. -/
def shown : Symptom → List Line
  | .search query => query.shown record
  | .outcome _ => []
  | .all parts => allShown parts

def allShown : List Symptom → List Line
  | [] => []
  | part :: rest => shown part ++ allShown rest

end

theorem counts_eq (parts : List Symptom) : counts record parts = parts.map (count record) := by
  induction parts with
  | nil => rfl
  | cons part rest inductionHypothesis =>
    rw [counts, inductionHypothesis, List.map_cons]

theorem allShown_eq (parts : List Symptom) :
    allShown record parts = parts.flatMap (shown record) := by
  induction parts with
  | nil => rfl
  | cons part rest inductionHypothesis =>
    rw [allShown, inductionHypothesis, List.flatMap_cons]

theorem count_all (parts : List Symptom) :
    count record (.all parts) =
      if parts ≠ [] ∧ ∀ part ∈ parts, 0 < count record part then
        total (parts.map (count record))
      else 0 := by
  rw [count, counts_eq]
  simp only [List.forall_mem_map]

theorem shown_all (parts : List Symptom) :
    shown record (.all parts) = parts.flatMap (shown record) := by
  rw [shown, allShown_eq]

/-! ## Gathering -/

mutual

/-- Gathering adds the lines of the whole tree if it counts, and leaves the lines gathered before
as they are otherwise. -/
theorem gather_eq (symptom : Symptom) (gathered : List Line) :
    gather record symptom gathered =
      if count record symptom = 0 then (0, gathered)
      else (count record symptom, gathered ++ shown record symptom) := by
  match symptom with
  | .search query =>
    rw [gather_search, count, shown, ← Search.ofRecord_snd]
    split
    · rename_i nothing
      rw [nothing, Search.lines_ofRecord_eq_nil nothing, List.append_nil]
    · rfl
  | .outcome outcomes =>
    have holds : record.outcome.any outcomes.contains = true ↔
        ∃ outcome ∈ record.outcome, outcome ∈ outcomes := by
      simp [Option.any_eq_true]
    rw [gather, count, shown, List.append_nil]
    split
    · rename_i found
      rw [if_pos (holds.mp found)]
      rfl
    · rename_i notFound
      rw [if_neg (mt holds.mpr notFound)]
      rfl
  | .all parts =>
    rw [gather, gatherAll_eq parts 0 []]
    cases parts with
    | nil => rfl
    | cons part rest =>
      have someParts : part :: rest ≠ [] := List.cons_ne_nil part rest
      have notEmpty : ¬(part :: rest).isEmpty = true := Bool.false_ne_true
      rw [if_neg notEmpty]
      by_cases allHold : ∀ other ∈ part :: rest, 0 < count record other
      · have counted : count record (.all (part :: rest)) =
            total ((part :: rest).map (count record)) := by
          rw [count_all, if_pos ⟨someParts, allHold⟩]
        have something : total ((part :: rest).map (count record)) ≠ 0 := by
          have first := allHold part List.mem_cons_self
          rw [List.map_cons, total_cons]
          omega
        rw [if_pos allHold, counted, if_neg something, shown_all, Nat.zero_add, List.nil_append]
      · have nothing : count record (.all (part :: rest)) = 0 := by
          rw [count_all, if_neg fun both => allHold both.2]
        rw [if_neg allHold, nothing, if_pos rfl]

/-- One part that does not hold stops the gathering, and what the parts before it have added is
given up. -/
theorem gatherAll_eq (parts : List Symptom) (times : Nat) (gathered : List Line) :
    gatherAll record parts times gathered =
      if ∀ part ∈ parts, 0 < count record part then
        some (times + total (parts.map (count record)), gathered ++ parts.flatMap (shown record))
      else none := by
  match parts with
  | [] => simp [gatherAll]
  | part :: rest =>
    rw [gatherAll, gather_eq part gathered]
    by_cases fails : count record part = 0
    · simp [fails]
    · have holds : 0 < count record part := Nat.pos_of_ne_zero fails
      rw [if_neg fails]
      dsimp only
      rw [if_neg fails, gatherAll_eq rest _ _]
      simp [holds, Nat.add_assoc]

end

end Tree

/-! ## Parts in another order -/

/-- One tree is the other with the parts of one of its conjunctions, at whatever depth, in another
order. -/
inductive Rearranged : Symptom → Symptom → Prop
  | here {parts others : List Symptom} : parts.Perm others → Rearranged (.all parts) (.all others)
  | within {before after : List Symptom} {part other : Symptom} : Rearranged part other →
      Rearranged (.all (before ++ part :: after)) (.all (before ++ other :: after))

theorem Rearranged.count_eq {symptom other : Symptom} (rearranged : Rearranged symptom other)
    (record : TestRecord) : count record other = count record symptom := by
  induction rearranged with
  | @here parts others sameParts =>
    have sameTotal := total_perm (sameParts.map (count record))
    have someParts : others = [] ↔ parts = [] := by
      rw [← List.length_eq_zero_iff, ← List.length_eq_zero_iff, sameParts.length_eq]
    simp only [count_all, sameTotal, sameParts.mem_iff, ne_eq, someParts]
  | @within before after part other _ inductionHypothesis =>
    simp only [count_all, List.map_append, List.map_cons, List.forall_mem_append,
      List.forall_mem_cons, inductionHypothesis]
    simp

theorem Rearranged.shown_perm {symptom other : Symptom} (rearranged : Rearranged symptom other)
    (record : TestRecord) : (shown record other).Perm (shown record symptom) := by
  induction rearranged with
  | here sameParts =>
    rw [shown_all, shown_all]
    exact sameParts.symm.flatMap_right _
  | @within before after part other _ inductionHypothesis =>
    simp only [shown_all, List.flatMap_append, List.flatMap_cons]
    exact (inductionHypothesis.append_right _).append_left _

/-- A tree of conditions adds the lines shown by all its searches, in the order of the tree, if it
counts at all, and then it counts what its parts count together. If any part of a conjunction does
not hold, nothing is added, not even what other parts have shown. The order of the parts is
irrelevant for the count and for the lines up to their order. -/
theorem gather_tree (record : TestRecord) (symptom : Symptom) (gathered : List Line) :
    ((gather record symptom gathered).1 = count record symptom ∧
      (gather record symptom gathered).2 =
        gathered ++ if count record symptom = 0 then [] else shown record symptom) ∧
      ∀ other, Rearranged symptom other →
        count record other = count record symptom ∧
          ∃ lines, gather record other gathered = (count record symptom, gathered ++ lines) ∧
            lines.Perm (if count record symptom = 0 then [] else shown record symptom) := by
  refine ⟨?_, ?_⟩
  · rw [gather_eq]
    split
    · rename_i nothing
      exact ⟨nothing.symm, (List.append_nil gathered).symm⟩
    · exact ⟨rfl, rfl⟩
  · intro other rearranged
    have sameCount := rearranged.count_eq record
    refine ⟨sameCount, if count record symptom = 0 then [] else shown record other, ?_, ?_⟩
    · rw [gather_eq, sameCount]
      split
      · rename_i nothing
        rw [nothing, List.append_nil]
      · rfl
    · split
      · exact List.Perm.refl []
      · exact rearranged.shown_perm record

/-- A failed test with two matches, more than five seconds apart. -/
def failedTest : TestRecord := { startedTest with outcome := some .failed }

/-- Lines that start like a match. -/
def matchSearch : Search :=
  .ofFilter ⟨"^(?:m)", .concat [.check .textStart, .literal 'm'], []⟩

/-- A conjunction within a conjunction, whose parts count without lines, next to a search with
lines. -/
def nestedSymptom : Symptom :=
  .all [.outcome [.failed, .error], .all [.search absenceSearch, .outcome [.failed]],
    .search matchSearch]

/-- The same with the parts of the inner conjunction exchanged. -/
def exchangedSymptom : Symptom :=
  .all [.outcome [.failed, .error], .all [.outcome [.failed], .search absenceSearch],
    .search matchSearch]

theorem gather_tree_nestedSymptom :
    Rearranged nestedSymptom exchangedSymptom ∧ count failedTest nestedSymptom = 5 ∧
      count failedTest exchangedSymptom = 5 ∧
      ∃ lines, gather failedTest exchangedSymptom [] = (5, lines) ∧
        lines.Perm (shown failedTest nestedSymptom) := by
  have parts : "msgs".splitOn "/" = ["msgs"] := Text.splitOn_singleton "msgs" '/'
  have present : failedTest.section? "msgs" = some failedTest.messages := by
    rw [TestRecord.section?, parts]
    rfl
  have nothingFound : (absenceSearch.ofRecord failedTest).1 = 1 := by
    have reads : absenceSearch.ofRecord failedTest = absenceSearch.ofLines failedTest.messages :=
      Search.ofRecord_of_some present
    rw [reads]
    decide +kernel
  have twoFound : (matchSearch.ofRecord failedTest).1 = 2 := by
    have reads : matchSearch.ofRecord failedTest = matchSearch.ofLines failedTest.messages :=
      Search.ofRecord_of_some present
    rw [reads]
    decide +kernel
  have failed : failedTest.outcome = some .failed := rfl
  have five : count failedTest nestedSymptom = 5 := by
    simp [nestedSymptom, count, counts, nothingFound, twoFound, failed]
  have rearranged : Rearranged nestedSymptom exchangedSymptom :=
    @Rearranged.within [.outcome [.failed, .error]] [.search matchSearch] _ _
      (.here (List.Perm.swap _ _ _))
  obtain ⟨sameCount, lines, gathers, samePerm⟩ :=
    (gather_tree failedTest nestedSymptom []).2 exchangedSymptom rearranged
  rw [five] at sameCount gathers samePerm
  exact ⟨rearranged, five, sameCount, lines, gathers, samePerm⟩

end Symptom

end RunTriage
