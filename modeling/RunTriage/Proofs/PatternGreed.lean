import RunTriage.Proofs.PatternPaths

/-!
Contract: what greedy repetitions prefer.

Owns:
- preferred paths taken apart along their patterns;
- greedy loops, which stop only where no further round leads to an end;
- optional patterns, which are taken wherever they lead to an end.

Does not own: that a preferred path follows its pattern, which is in
`RunTriage.Proofs.PatternPaths`.
-/

namespace RunTriage.Pattern

/-! ## Greedy loops -/

section Loops

variable {size : Nat} {step : List Nat → List Nat} {turn : Nat → Nat → Prop}
  {follow : Nat → List Nat → Path} {walk : Nat → Path → Prop}
  (guides : Guides size step turn follow walk) {ends loops : List Nat}
  (inside : ∀ stop ∈ ends, stop ≤ size) (moves : ∀ start stop, turn start stop → start < stop)
  (isLoops : loops = collectEnds step (size + 1) ends)

include guides inside moves isLoops

/-- A greedy loop whose turns all move on stops only where no further turn leads to an end. -/
theorem stop_followOnward_not_mem {rounds start : Nat} (enough : size < start + rounds)
    (member : start ∈ loops) :
    (followOnward step follow true loops ends rounds start).stop ∉ step loops := by
  have loopsInside := guides.stepsBack.inside_loops inside isLoops
  induction rounds generalizing start with
  | zero =>
    have atMost := loopsInside start member
    omega
  | succ rounds inductionHypothesis =>
    have aheadInside : ∀ target ∈ loops.filter (start < ·), target ≤ size :=
      guides.stepsBack.inside_ahead inside isLoops
    rw [followOnward]
    dsimp only
    split
    · rename_i goes
      have canGoOn := ((Bool.and_eq_true _ _).mp goes).1
      obtain ⟨_, arrives⟩ := guides.walks _ aheadInside start (List.contains_iff_mem.mp canGoOn)
      obtain ⟨isLoop, isAhead⟩ := List.mem_filter.mp arrives
      have onward := of_decide_eq_true isAhead
      have further : size < (follow start (loops.filter (start < ·))).stop + rounds := by omega
      exact inductionHypothesis further isLoop
    · rename_i stays
      intro goesOn
      obtain ⟨middle, isLoop, turns⟩ := (guides.stepsBack.mem_step _ loopsInside start).mp goesOn
      have isAhead : middle ∈ loops.filter (start < ·) :=
        List.mem_filter.mpr ⟨isLoop, decide_eq_true (moves _ _ turns)⟩
      have goesAhead := (guides.stepsBack.mem_step _ aheadInside start).mpr ⟨middle, isAhead, turns⟩
      simp [goesAhead] at stays

theorem stop_followOften_not_mem {rounds start : Nat} (enough : size < start + rounds)
    (member : start ∈ step loops) :
    (followOften step follow true loops ends rounds start).stop ∉ step loops := by
  obtain ⟨targetsInside, leads⟩ := guides.stepsBack.mem_step_targets inside isLoops member
  obtain ⟨walks, arrives⟩ := guides.walks _ targetsInside start leads
  rw [followOften]
  generalize follow start (loops.filter (start < ·) ++ ends) = first at walks arrives ⊢
  have onward : start < first.stop := moves _ _ (guides.turns _ _ walks)
  have further : size < first.stop + rounds := by omega
  rw [if_neg (Nat.ne_of_gt onward)]
  exact stop_followOnward_not_mem guides inside moves isLoops further
    (guides.stepsBack.mem_loops_of_target inside isLoops arrives)

end Loops

/-! ## Preferred paths -/

section Prefers

variable {subject : Subject} {start : Nat} {ends : List Nat} {path : Path}

theorem prefers_sequence_iff {first second : Pattern} :
    Prefers subject (.sequence first second) start ends path ↔
      ∃ head later, Prefers subject first start (startsInto subject second ends) head ∧
        Prefers subject second head.stop ends later ∧ path = head.andThen later := by
  constructor
  · intro prefers
    have laterInside := (isSearchedFor subject second).inside_step prefers.inside
    have head : Prefers subject first start (startsInto subject second ends)
        (preferredPath subject first start (startsInto subject second ends)) :=
      ⟨laterInside, prefers.leads, rfl⟩
    exact ⟨_, _, head, ⟨prefers.inside, head.stop_mem, rfl⟩, prefers.isPreferred⟩
  · rintro ⟨head, later, first, second, rfl⟩
    refine ⟨second.inside, first.leads, ?_⟩
    rw [second.isPreferred, first.isPreferred]
    rfl

theorem prefers_concat_cons {first second : Pattern} {rest : List Pattern} :
    Prefers subject (concat (first :: second :: rest)) start ends path ↔
      ∃ head later,
        Prefers subject first start (startsInto subject (concat (second :: rest)) ends) head ∧
          Prefers subject (concat (second :: rest)) head.stop ends later ∧
            path = head.andThen later :=
  prefers_sequence_iff

theorem prefers_group_iff {index : Nat} {body : Pattern} :
    Prefers subject (.group index body) start ends path ↔
      ∃ inner, Prefers subject body start ends inner ∧
        path = ⟨inner.stop, inner.groups ++ [⟨index, start, inner.stop⟩]⟩ := by
  constructor
  · intro prefers
    exact ⟨_, ⟨prefers.inside, prefers.leads, rfl⟩, prefers.isPreferred⟩
  · rintro ⟨inner, prefers, rfl⟩
    refine ⟨prefers.inside, prefers.leads, ?_⟩
    rw [prefers.isPreferred]
    rfl

/-- Where a greedy loop whose rounds all take characters has stopped, no further round leads to an
end. -/
theorem Prefers.no_further {body : Pattern} {least : Nat}
    (prefers : Prefers subject (.repeated body least none true) start ends path)
    (moves : ∀ first last, Spans subject body first last → first < last) {count stop : Nat}
    (isEnd : stop ∈ ends) : ¬Rounds (Spans subject body) (count + 1) path.stop stop := by
  have guided := isGuided subject body
  have inside := prefers.inside
  have member := prefers.leads
  intro rounds
  have goesOn := (guided.stepsBack.mem_goOn inside).mpr ⟨count, stop, isEnd, rounds⟩
  rw [prefers.isPreferred] at goesOn
  rw [startsInto] at member
  cases least with
  | zero =>
    have startInside := guided.stepsBack.inside_collectEnds _ inside start member
    rw [preferredPath] at goesOn
    split at goesOn
    · rename_i goes
      have isGoOn := List.contains_iff_mem.mp ((Bool.and_eq_true _ _).mp goes).1
      exact stop_followOften_not_mem guided inside moves rfl
        (by omega : subject.size < start + (subject.size + 1)) isGoOn goesOn
    · rename_i stays
      have isGoOn : ¬start ∈ startsInto subject body
          (collectEnds (startsInto subject body) (subject.size + 1) ends) := by
        simpa using stays
      exact isGoOn goesOn
  | succ least =>
    have loopsInside := guided.stepsBack.inside_collectEnds (subject.size + 1) inside
    have goOnInside := guided.stepsBack.inside_step loopsInside
    obtain ⟨_, arrives⟩ := chain_followTimes guided goOnInside (mem_stepBack_step member)
    rw [preferredPath] at goesOn
    exact stop_followOften_not_mem guided inside moves rfl
      (by omega : subject.size < _ + (subject.size + 1)) arrives goesOn

/-- A greedy run of characters that may stop anywhere goes on to the first character outside of
its set. -/
theorem Prefers.contains_at_stop {set : CharSet}
    (prefers : Prefers subject (oneOrMore (.charIn set)) start ends path)
    (anywhere : ∀ position ≤ subject.size, position ∈ ends) {char : Char}
    (isChar : subject[path.stop]? = some char) : set.contains char = false := by
  refine Bool.eq_false_iff.mpr fun isIn => ?_
  have oneMore : Rounds (Spans subject (.charIn set)) 1 path.stop (path.stop + 1) :=
    .of_turn (.charIn isChar isIn)
  refine prefers.no_further (fun first last spans => ?_)
    (anywhere _ (lt_size_of_getElem? isChar)) oneMore
  cases spans
  exact Nat.lt_succ_self first

/-- An optional pattern is taken if it leads to an end. -/
theorem Prefers.of_optional {body : Pattern}
    (prefers : Prefers subject (optional body) start ends path) {stop : Nat} (isEnd : stop ∈ ends)
    (spans : Spans subject body start stop) : Prefers subject body start ends path := by
  have leads := (mem_startsInto body prefers.inside).mpr ⟨stop, isEnd, spans⟩
  refine ⟨prefers.inside, leads, prefers.isPreferred.trans ?_⟩
  have noRounds : collectEnds (startsInto subject body) 0 ends = ends := rfl
  rw [optional, preferredPath]
  simp [followTimes, followUpTo, noRounds, leads, Path.andThen, Path.stay]

end Prefers

end RunTriage.Pattern
