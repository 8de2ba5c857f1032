import RunTriage.Proofs.PatternSpans

/-!
Contract: the preferred match is a match.

Owns:
- `Follows`, the ways through a pattern together with the spans that its groups take;
- the loops that look for the preferred way, which never leave the positions that lead to an end;
- `Prefers`, the preferred path to one of the ends, and that it follows the pattern;
- the next match from given positions on, which starts as early as any match there and takes the
  preferred path;
- what groups capture: nothing on the ways through a pattern without groups, and otherwise what
  the body of a group takes.

Does not own: what fixed patterns capture, which is where those patterns are used.
-/

namespace RunTriage.Pattern

/-! ## Ways through a pattern -/

namespace Path

theorem andThen_stay (path : Path) : path.andThen (stay path.stop) = path := by
  rw [andThen, stay, List.append_nil]

theorem andThen_assoc (first second third : Path) :
    (first.andThen second).andThen third = first.andThen (second.andThen third) := by
  simp only [andThen, List.append_assoc]

end Path

/-- `Follows subject pattern start path`: the pattern can match the text from a position along a
path, its groups taking the spans that the path lists. -/
inductive Follows (subject : Subject) : Pattern → Nat → Path → Prop where
  | empty (position : Nat) : Follows subject .empty position (.stay position)
  | charIn {set : CharSet} {position : Nat} {char : Char} :
      subject[position]? = some char → set.contains char = true →
      Follows subject (.charIn set) position (.stay (position + 1))
  | check {condition : Condition} {position : Nat} :
      condition.holds subject position = true →
      Follows subject (.check condition) position (.stay position)
  | sequence {first second : Pattern} {start : Nat} {head later : Path} :
      Follows subject first start head → Follows subject second head.stop later →
      Follows subject (.sequence first second) start (head.andThen later)
  | eitherFirst {first second : Pattern} {start : Nat} {path : Path} :
      Follows subject first start path → Follows subject (.either first second) start path
  | eitherSecond {first second : Pattern} {start : Nat} {path : Path} :
      Follows subject second start path → Follows subject (.either first second) start path
  | stop {body : Pattern} {most : Option Nat} {greedy : Bool} {position : Nat} :
      Follows subject (.repeated body 0 most greedy) position (.stay position)
  | must {body : Pattern} {least : Nat} {most : Option Nat} {greedy : Bool} {start : Nat}
      {first later : Path} :
      Follows subject body start first →
      Follows subject (.repeated body least (most.map (· - 1)) greedy) first.stop later →
      Follows subject (.repeated body (least + 1) most greedy) start (first.andThen later)
  | may {body : Pattern} {most : Option Nat} {greedy : Bool} {start : Nat} {first later : Path} :
      most ≠ some 0 → Follows subject body start first →
      Follows subject (.repeated body 0 (most.map (· - 1)) greedy) first.stop later →
      Follows subject (.repeated body 0 most greedy) start (first.andThen later)
  | group {index : Nat} {body : Pattern} {start : Nat} {inner : Path} :
      Follows subject body start inner →
      Follows subject (.group index body) start
        ⟨inner.stop, inner.groups ++ [⟨index, start, inner.stop⟩]⟩

theorem Follows.spans {subject : Subject} {pattern : Pattern} {start : Nat} {path : Path}
    (follows : Follows subject pattern start path) : Spans subject pattern start path.stop := by
  induction follows with
  | empty position => exact .empty position
  | charIn isChar isIn => exact .charIn isChar isIn
  | check holds => exact .check holds
  | sequence _ _ first second => exact .sequence first second
  | eitherFirst _ inner => exact .eitherFirst inner
  | eitherSecond _ inner => exact .eitherSecond inner
  | stop => exact .stop
  | must _ _ first later => exact .must first later
  | may allowed _ _ first later => exact .may allowed first later
  | group _ inner => exact .group inner

/-- Turns made one after the other, along a path. -/
inductive Chain (walk : Nat → Path → Prop) : Nat → Nat → Path → Prop
  | none (position : Nat) : Chain walk 0 position (.stay position)
  | more {count start : Nat} {first later : Path} :
      walk start first → Chain walk count first.stop later →
      Chain walk (count + 1) start (first.andThen later)

theorem Chain.append {walk : Nat → Path → Prop} {first second start : Nat} {head later : Path}
    (before : Chain walk first start head) (after : Chain walk second head.stop later) :
    Chain walk (first + second) start (head.andThen later) := by
  induction before with
  | none position =>
    rw [Nat.zero_add]
    exact after
  | more turns _ inductionHypothesis =>
    rw [Nat.succ_add, Path.andThen_assoc]
    exact .more turns (inductionHypothesis after)

theorem Chain.of_walk {walk : Nat → Path → Prop} {start : Nat} {path : Path}
    (turns : walk start path) : Chain walk 1 start path := by
  have once := Chain.more turns (.none path.stop)
  rwa [Path.andThen_stay] at once

theorem Chain.follows {subject : Subject} {body : Pattern} {least more start : Nat}
    {most : Option Nat} (greedy : Bool) {path : Path}
    (within : ∀ limit ∈ most, more ≤ limit - least)
    (chain : Chain (Follows subject body) (least + more) start path) :
    Follows subject (.repeated body least most greedy) start path := by
  induction least generalizing start most path with
  | zero =>
    rw [Nat.zero_add] at chain
    induction more generalizing start most path with
    | zero =>
      cases chain
      exact .stop
    | succ more inductionHypothesis =>
      cases chain with
      | more turns later =>
        refine .may ?_ turns (inductionHypothesis ?_ later)
        · rintro rfl
          exact absurd (within 0 rfl) (by omega)
        · intro limit isLimit
          obtain ⟨before, isMost, rfl⟩ := Option.mem_map.mp isLimit
          have atMost := within before isMost
          omega
  | succ least inductionHypothesis =>
    rw [Nat.succ_add] at chain
    cases chain with
    | more turns later =>
      refine .must turns (inductionHypothesis ?_ later)
      intro limit isLimit
      obtain ⟨before, isMost, rfl⟩ := Option.mem_map.mp isLimit
      have atMost := within before isMost
      omega

/-! ## Loops -/

/-- The positions from which at least one more round leads to an end. -/
theorem StepsBack.mem_goOn {size : Nat} {step : List Nat → List Nat} {turn : Nat → Nat → Prop}
    (stepsBack : StepsBack size step turn) {ends : List Nat} (inside : ∀ stop ∈ ends, stop ≤ size)
    {start : Nat} :
    start ∈ step (collectEnds step (size + 1) ends) ↔
      ∃ count, ∃ stop ∈ ends, Rounds turn (count + 1) start stop := by
  rw [stepsBack.mem_step _ (stepsBack.inside_collectEnds _ inside)]
  simp only [stepsBack.mem_collectEnds _ inside]
  constructor
  · rintro ⟨middle, ⟨count, -, stop, isEnd, later⟩, turns⟩
    exact ⟨count, stop, isEnd, .more turns later⟩
  · rintro ⟨count, stop, isEnd, rounds⟩
    cases rounds with
    | more turns later =>
      obtain ⟨fewer, -, short, rounds⟩ := later.shorten stepsBack.upward
      have stopInside := inside stop isEnd
      exact ⟨_, ⟨fewer, by omega, stop, isEnd, rounds⟩, turns⟩

theorem mem_stepBack_step {step : List Nat → List Nat} {count start : Nat} {targets : List Nat}
    (member : start ∈ stepBack step (count + 1) targets) :
    start ∈ stepBack step count (step targets) := by
  rw [stepBack] at member
  split at member
  · cases member
  · exact member

namespace StepsBack

variable {size : Nat} {step : List Nat → List Nat} {turn : Nat → Nat → Prop}
  (stepsBack : StepsBack size step turn) {ends loops : List Nat}
  (inside : ∀ stop ∈ ends, stop ≤ size) (isLoops : loops = collectEnds step (size + 1) ends)
  {start : Nat}

include stepsBack inside isLoops

theorem mem_loops : start ∈ loops ↔ LeadsTo turn (size + 1) ends start := by
  rw [isLoops, stepsBack.mem_collectEnds _ inside]

theorem inside_loops : ∀ target ∈ loops, target ≤ size := by
  rw [isLoops]
  exact stepsBack.inside_collectEnds _ inside

theorem inside_ahead : ∀ target ∈ loops.filter (start < ·), target ≤ size :=
  fun target isAhead => stepsBack.inside_loops inside isLoops target (List.mem_filter.mp isAhead).1

/-- Of the ways from a position to an end, one goes nowhere or begins with a turn that moves on. -/
theorem mem_or_mem_step_ahead (member : start ∈ loops) :
    start ∈ ends ∨ start ∈ step (loops.filter (start < ·)) := by
  obtain ⟨count, atMost, stop, isEnd, rounds⟩ := (stepsBack.mem_loops inside isLoops).mp member
  induction count with
  | zero =>
    cases rounds
    exact .inl isEnd
  | succ count shorter =>
    cases rounds with
    | @more _ _ middle _ turns later =>
      rcases Nat.eq_or_lt_of_le (stepsBack.upward _ _ turns) with stays | moves
      · subst stays
        exact shorter (Nat.le_of_succ_le atMost) later
      · have isLoop := (stepsBack.mem_loops inside isLoops).mpr
          ⟨count, Nat.le_of_succ_le atMost, stop, isEnd, later⟩
        exact .inr ((stepsBack.mem_step _ (stepsBack.inside_ahead inside isLoops) start).mpr
          ⟨middle, List.mem_filter.mpr ⟨isLoop, decide_eq_true moves⟩, turns⟩)

/-- A turn that is followed by a way to an end can be replaced by one that moves on or is the
last. -/
theorem mem_step_targets (member : start ∈ step loops) :
    (∀ target ∈ loops.filter (start < ·) ++ ends, target ≤ size) ∧
      start ∈ step (loops.filter (start < ·) ++ ends) := by
  have aheadInside : ∀ target ∈ loops.filter (start < ·), target ≤ size :=
    stepsBack.inside_ahead inside isLoops
  have targetsInside : ∀ target ∈ loops.filter (start < ·) ++ ends, target ≤ size := by
    intro target isTarget
    exact (List.mem_append.mp isTarget).elim (aheadInside target) (inside target)
  refine ⟨targetsInside, (stepsBack.mem_step _ targetsInside start).mpr ?_⟩
  obtain ⟨middle, isLoop, turns⟩ :=
    (stepsBack.mem_step _ (stepsBack.inside_loops inside isLoops) start).mp member
  rcases Nat.eq_or_lt_of_le (stepsBack.upward _ _ turns) with stays | moves
  · subst stays
    rcases stepsBack.mem_or_mem_step_ahead inside isLoops isLoop with isEnd | goesAhead
    · exact ⟨start, List.mem_append_right _ isEnd, turns⟩
    · obtain ⟨target, isAhead, onward⟩ := (stepsBack.mem_step _ aheadInside start).mp goesAhead
      exact ⟨target, List.mem_append_left _ isAhead, onward⟩
  · exact ⟨middle, List.mem_append_left _ (List.mem_filter.mpr ⟨isLoop, decide_eq_true moves⟩),
      turns⟩

theorem mem_loops_of_target {target : Nat}
    (isTarget : target ∈ loops.filter (start < ·) ++ ends) : target ∈ loops := by
  rcases List.mem_append.mp isTarget with isAhead | isEnd
  · exact (List.mem_filter.mp isAhead).1
  · exact (stepsBack.mem_loops inside isLoops).mpr ⟨0, Nat.zero_le _, target, isEnd, .none _⟩

end StepsBack

/-- From a position with a turn into the targets, the preferred path of one turn goes into one of
them. -/
structure Guides (size : Nat) (step : List Nat → List Nat) (turn : Nat → Nat → Prop)
    (follow : Nat → List Nat → Path) (walk : Nat → Path → Prop) : Prop where
  stepsBack : StepsBack size step turn
  turns : ∀ start path, walk start path → turn start path.stop
  walks : ∀ targets : List Nat, (∀ target ∈ targets, target ≤ size) → ∀ start ∈ step targets,
    walk start (follow start targets) ∧ (follow start targets).stop ∈ targets

section Loops

variable {size : Nat} {step : List Nat → List Nat} {turn : Nat → Nat → Prop}
  {follow : Nat → List Nat → Path} {walk : Nat → Path → Prop}
  (guides : Guides size step turn follow walk) {ends : List Nat}
  (inside : ∀ stop ∈ ends, stop ≤ size)

include guides inside

theorem chain_followTimes {rounds start : Nat} (member : start ∈ stepBack step rounds ends) :
    Chain walk rounds start (followTimes step follow rounds start ends) ∧
      (followTimes step follow rounds start ends).stop ∈ ends := by
  induction rounds generalizing start with
  | zero => exact ⟨.none start, member⟩
  | succ rounds inductionHypothesis =>
    have innerInside : ∀ target ∈ stepBack step rounds ends, target ≤ size := by
      intro target isInner
      obtain ⟨stop, isEnd, rounds⟩ := (guides.stepsBack.mem_stepBack _ inside).mp isInner
      exact Nat.le_trans (rounds.le guides.stepsBack.upward) (inside stop isEnd)
    have leads : start ∈ step (stepBack step rounds ends) := by
      obtain ⟨stop, isEnd, allRounds⟩ := (guides.stepsBack.mem_stepBack _ inside).mp member
      rw [Nat.add_comm] at allRounds
      obtain ⟨middle, first, later⟩ := allRounds.split
      exact (guides.stepsBack.mem_step _ innerInside start).mpr
        ⟨middle, (guides.stepsBack.mem_stepBack _ inside).mpr ⟨stop, isEnd, later⟩,
          first.turn_of_one⟩
    obtain ⟨walks, arrives⟩ := guides.walks _ innerInside start leads
    obtain ⟨chain, atEnd⟩ := inductionHypothesis arrives
    exact ⟨.more walks chain, atEnd⟩

theorem chain_followUpTo (greedy : Bool) {rounds start : Nat}
    (member : start ∈ collectEnds step rounds ends) :
    ∃ count ≤ rounds, Chain walk count start (followUpTo step follow greedy rounds start ends) ∧
      (followUpTo step follow greedy rounds start ends).stop ∈ ends := by
  induction rounds generalizing start with
  | zero =>
    obtain ⟨count, none, stop, isEnd, rounds⟩ :=
      (guides.stepsBack.mem_collectEnds _ inside).mp member
    obtain rfl := Nat.le_zero.mp none
    cases rounds
    exact ⟨0, Nat.le_refl 0, .none start, isEnd⟩
  | succ rounds inductionHypothesis =>
    have innerInside := guides.stepsBack.inside_collectEnds rounds inside
    rw [followUpTo]
    dsimp only
    split
    · rename_i goes
      have canGoOn := ((Bool.and_eq_true _ _).mp goes).1
      obtain ⟨walks, arrives⟩ := guides.walks _ innerInside start (List.contains_iff_mem.mp canGoOn)
      obtain ⟨count, atMost, chain, atEnd⟩ := inductionHypothesis arrives
      exact ⟨count + 1, Nat.succ_le_succ atMost, .more walks chain, atEnd⟩
    · rename_i stays
      refine ⟨0, Nat.zero_le _, .none start, ?_⟩
      obtain ⟨count, atMost, stop, isEnd, allRounds⟩ :=
        (guides.stepsBack.mem_collectEnds _ inside).mp member
      cases allRounds with
      | none => exact isEnd
      | more turns later =>
        have leads : start ∈ step (collectEnds step rounds ends) :=
          (guides.stepsBack.mem_step _ innerInside start).mpr ⟨_,
            (guides.stepsBack.mem_collectEnds _ inside).mpr
              ⟨_, Nat.le_of_succ_le_succ atMost, stop, isEnd, later⟩, turns⟩
        have canStop : greedy = false ∧ start ∈ ends := by
          simpa [leads] using stays
        exact canStop.2

theorem chain_followOnward (greedy : Bool) {loops : List Nat}
    (isLoops : loops = collectEnds step (size + 1) ends) {rounds start : Nat}
    (enough : size < start + rounds) (member : start ∈ loops) :
    ∃ count, Chain walk count start (followOnward step follow greedy loops ends rounds start) ∧
      (followOnward step follow greedy loops ends rounds start).stop ∈ ends := by
  induction rounds generalizing start with
  | zero =>
    have atMost := guides.stepsBack.inside_loops inside isLoops start member
    omega
  | succ rounds inductionHypothesis =>
    rw [followOnward]
    dsimp only
    split
    · rename_i goes
      have canGoOn := ((Bool.and_eq_true _ _).mp goes).1
      obtain ⟨walks, arrives⟩ := guides.walks _
        (guides.stepsBack.inside_ahead inside isLoops) start (List.contains_iff_mem.mp canGoOn)
      obtain ⟨isLoop, isAhead⟩ := List.mem_filter.mp arrives
      have moves := of_decide_eq_true isAhead
      have further : size < (follow start (loops.filter (start < ·))).stop + rounds := by omega
      obtain ⟨count, chain, atEnd⟩ := inductionHypothesis further isLoop
      exact ⟨count + 1, .more walks chain, atEnd⟩
    · rename_i stays
      refine ⟨0, .none start, ?_⟩
      rcases guides.stepsBack.mem_or_mem_step_ahead inside isLoops member with isEnd | goesAhead
      · exact isEnd
      · have canStop : greedy = false ∧ start ∈ ends := by
          simpa [goesAhead] using stays
        exact canStop.2

theorem chain_followOften (greedy : Bool) {loops : List Nat}
    (isLoops : loops = collectEnds step (size + 1) ends) {rounds start : Nat}
    (enough : size < start + rounds) (member : start ∈ step loops) :
    ∃ count,
      Chain walk (count + 1) start (followOften step follow greedy loops ends rounds start) ∧
        (followOften step follow greedy loops ends rounds start).stop ∈ ends := by
  obtain ⟨targetsInside, leads⟩ := guides.stepsBack.mem_step_targets inside isLoops member
  obtain ⟨walks, arrives⟩ := guides.walks _ targetsInside start leads
  rw [followOften]
  generalize follow start (loops.filter (start < ·) ++ ends) = first at walks arrives ⊢
  split
  · rename_i stays
    refine ⟨0, .of_walk walks, ?_⟩
    rcases List.mem_append.mp arrives with isAhead | isEnd
    · have moves := of_decide_eq_true (List.mem_filter.mp isAhead).2
      exact absurd stays (Nat.ne_of_gt moves)
    · exact isEnd
  · have forward := guides.stepsBack.upward _ _ (guides.turns _ _ walks)
    have isLoop := guides.stepsBack.mem_loops_of_target inside isLoops arrives
    have further : size < first.stop + rounds := by omega
    obtain ⟨count, chain, atEnd⟩ :=
      chain_followOnward guides inside greedy isLoops further isLoop
    exact ⟨count, .more walks chain, atEnd⟩

end Loops

/-! ## The preferred path -/

section PreferredPath

variable {subject : Subject}

/-- The preferred path of a body, as a walker for the loops around it. -/
def IsGuided (subject : Subject) (pattern : Pattern) : Prop :=
  Guides subject.size (startsInto subject pattern) (Spans subject pattern)
    (preferredPath subject pattern) (Follows subject pattern)

theorem follows_preferredPath_repeated {body : Pattern} (guided : IsGuided subject body)
    (least : Nat) (most : Option Nat) (greedy : Bool) {ends : List Nat}
    (inside : ∀ stop ∈ ends, stop ≤ subject.size) {start : Nat}
    (member : start ∈ startsInto subject (.repeated body least most greedy) ends) :
    Follows subject (.repeated body least most greedy) start
        (preferredPath subject (.repeated body least most greedy) start ends) ∧
      (preferredPath subject (.repeated body least most greedy) start ends).stop ∈ ends := by
  rw [startsInto] at member
  cases most with
  | some limit =>
    have loopsInside := guided.stepsBack.inside_collectEnds (limit - least) inside
    obtain ⟨head, arrives⟩ := chain_followTimes guided loopsInside member
    obtain ⟨count, atMost, later, atEnd⟩ := chain_followUpTo guided inside greedy arrives
    rw [preferredPath]
    refine ⟨(head.append later).follows greedy fun other isLimit => ?_, atEnd⟩
    cases isLimit
    exact atMost
  | none =>
    have loopsInside := guided.stepsBack.inside_collectEnds (subject.size + 1) inside
    have goOnInside := guided.stepsBack.inside_step loopsInside
    have unlimited (count : Nat) : ∀ limit ∈ (none : Option Nat), count ≤ limit - least := by
      intro limit isLimit
      cases isLimit
    cases least with
    | zero =>
      have isLoop : start ∈ collectEnds (startsInto subject body) (subject.size + 1) ends := member
      obtain ⟨count, -, stop, isEnd, rounds⟩ :=
        (guided.stepsBack.mem_collectEnds _ inside).mp isLoop
      have startInside := loopsInside start isLoop
      rw [preferredPath]
      split
      · rename_i goes
        have goesOn := List.contains_iff_mem.mp ((Bool.and_eq_true _ _).mp goes).1
        obtain ⟨count, chain, atEnd⟩ := chain_followOften guided inside greedy rfl
          (by omega : subject.size < start + (subject.size + 1)) goesOn
        rw [← Nat.zero_add (count + 1)] at chain
        exact ⟨chain.follows greedy (unlimited _), atEnd⟩
      · rename_i stays
        refine ⟨.stop, ?_⟩
        cases rounds with
        | none => exact isEnd
        | @more count _ _ _ turns later =>
          have goesOn := (guided.stepsBack.mem_goOn inside).mpr
            ⟨count, stop, isEnd, .more turns later⟩
          have canStop : greedy = false ∧ start ∈ ends := by
            simpa [goesOn] using stays
          exact canStop.2
    | succ least =>
      obtain ⟨head, arrives⟩ := chain_followTimes guided goOnInside (mem_stepBack_step member)
      obtain ⟨count, later, atEnd⟩ := chain_followOften guided inside greedy rfl
        (by omega : subject.size < _ + (subject.size + 1)) arrives
      have chain := head.append later
      rw [preferredPath]
      rw [Nat.add_comm count 1, ← Nat.add_assoc] at chain
      exact ⟨chain.follows greedy (unlimited _), atEnd⟩

/-- From every position that leads to an end, the preferred path follows the pattern to an end. -/
theorem isGuided (subject : Subject) (pattern : Pattern) : IsGuided subject pattern := by
  refine ⟨isSearchedFor subject pattern, fun _ _ follows => follows.spans, ?_⟩
  induction pattern with
  | empty => exact fun ends _ start member => ⟨.empty start, member⟩
  | charIn set =>
    intro ends inside start member
    obtain ⟨stop, isEnd, spans⟩ := (mem_startsInto _ inside).mp member
    cases spans with
    | charIn isChar isIn => exact ⟨.charIn isChar isIn, isEnd⟩
  | check condition =>
    intro ends inside start member
    obtain ⟨stop, isEnd, spans⟩ := (mem_startsInto _ inside).mp member
    cases spans with
    | check holds => exact ⟨.check holds, isEnd⟩
  | sequence first second firstHypothesis secondHypothesis =>
    intro ends inside start member
    have secondInside := (isSearchedFor subject second).inside_step inside
    obtain ⟨head, arrives⟩ := firstHypothesis _ secondInside start member
    obtain ⟨later, atEnd⟩ := secondHypothesis ends inside _ arrives
    exact ⟨.sequence head later, atEnd⟩
  | either first second firstHypothesis secondHypothesis =>
    intro ends inside start member
    rw [preferredPath]
    split
    · rename_i startsFirst
      obtain ⟨follows, atEnd⟩ :=
        firstHypothesis ends inside start (List.contains_iff_mem.mp startsFirst)
      exact ⟨.eitherFirst follows, atEnd⟩
    · rename_i notFirst
      rw [startsInto, mem_distinct, List.mem_append] at member
      have startsSecond := member.1.resolve_left (mt List.contains_iff_mem.mpr notFirst)
      obtain ⟨follows, atEnd⟩ := secondHypothesis ends inside start startsSecond
      exact ⟨.eitherSecond follows, atEnd⟩
  | repeated body least most greedy inductionHypothesis =>
    intro ends inside start member
    have guided : IsGuided subject body :=
      ⟨isSearchedFor subject body, fun _ _ follows => follows.spans, inductionHypothesis⟩
    exact follows_preferredPath_repeated guided least most greedy inside member
  | group index body inductionHypothesis =>
    intro ends inside start member
    obtain ⟨follows, atEnd⟩ := inductionHypothesis ends inside start member
    exact ⟨.group follows, atEnd⟩

/-- The position leads to one of the ends, and the path is the preferred one from there. -/
structure Prefers (subject : Subject) (pattern : Pattern) (start : Nat) (ends : List Nat)
    (path : Path) : Prop where
  inside : ∀ stop ∈ ends, stop ≤ subject.size
  leads : start ∈ startsInto subject pattern ends
  isPreferred : path = preferredPath subject pattern start ends

namespace Prefers

variable {pattern : Pattern} {start : Nat} {ends : List Nat} {path : Path}
  (prefers : Prefers subject pattern start ends path)

include prefers

theorem follows : Follows subject pattern start path := by
  rw [prefers.isPreferred]
  exact ((isGuided subject pattern).walks ends prefers.inside start prefers.leads).1

theorem stop_mem : path.stop ∈ ends := by
  rw [prefers.isPreferred]
  exact ((isGuided subject pattern).walks ends prefers.inside start prefers.leads).2

theorem spans : Spans subject pattern start path.stop := prefers.follows.spans

end Prefers

end PreferredPath

/-! ## The first match -/

theorem least?_eq_min? (positions : List Nat) : least? positions = positions.min? := by
  cases positions <;> rfl

section Next

variable {pattern : Pattern} {subject : Subject} {allowed : Nat → Bool}

/-- A match from the least of the allowed positions that have one, along the preferred path. -/
structure IsNext (pattern : Pattern) (subject : Subject) (allowed : Nat → Bool) (found : Match) :
    Prop where
  isSubject : found.subject = subject
  isAllowed : allowed found.start = true
  prefers : Prefers subject pattern found.start (positions subject) ⟨found.stop, found.groups⟩
  earliest : ∀ start ≤ subject.size, allowed start = true → ∀ stop,
    Spans subject pattern start stop → found.start ≤ start

theorem IsNext.inside {found : Match} (isNext : IsNext pattern subject allowed found) :
    found.start ≤ subject.size :=
  (mem_startsInto_positions.mp isNext.prefers.leads).1

theorem IsNext.spans {found : Match} (isNext : IsNext pattern subject allowed found) :
    Spans subject pattern found.start found.stop :=
  isNext.prefers.spans

theorem mem_filter_startsInto {start : Nat} :
    start ∈ (startsInto subject pattern (positions subject)).filter allowed ↔
      (start ≤ subject.size ∧ ∃ stop, Spans subject pattern start stop) ∧ allowed start = true := by
  rw [List.mem_filter, mem_startsInto_positions]

theorem isNext_of_firstMatchIn? {found : Match}
    (isFound : firstMatchIn? pattern subject allowed = some found) :
    IsNext pattern subject allowed found := by
  rw [firstMatchIn?, least?_eq_min?] at isFound
  dsimp only at isFound
  split at isFound <;> cases isFound
  rename_i start isLeast
  obtain ⟨isStart, earliest⟩ := List.min?_eq_some_iff.mp isLeast
  obtain ⟨leads, isAllowed⟩ := List.mem_filter.mp isStart
  have prefers : Prefers subject pattern start (positions subject)
      (preferredPath subject pattern start (positions subject)) :=
    ⟨fun _ => mem_positions.mp, leads, rfl⟩
  refine ⟨rfl, isAllowed, prefers, ?_⟩
  intro other inside isAllowed stop spans
  exact earliest other (mem_filter_startsInto.mpr ⟨⟨inside, stop, spans⟩, isAllowed⟩)

theorem not_spans_of_firstMatchIn? (isNone : firstMatchIn? pattern subject allowed = none)
    {start : Nat} (inside : start ≤ subject.size) (isAllowed : allowed start = true) (stop : Nat) :
    ¬Spans subject pattern start stop := by
  rw [firstMatchIn?, least?_eq_min?] at isNone
  dsimp only at isNone
  split at isNone
  · rename_i isEmpty
    intro spans
    have member := mem_filter_startsInto.mpr ⟨⟨inside, stop, spans⟩, isAllowed⟩
    rw [List.min?_eq_none_iff.mp isEmpty] at member
    exact List.not_mem_nil member
  · cases isNone

end Next

theorem isNext_of_firstMatch? {pattern : Pattern} {text : String} {found : Match}
    (isFound : pattern.firstMatch? text = some found) :
    IsNext pattern (subjectOf text) (fun _ => true) found :=
  isNext_of_firstMatchIn? isFound

/-- The first match is the preferred one from the least start. -/
theorem firstMatch?_eq (pattern : Pattern) (text : String) :
    pattern.firstMatch? text =
      (startsInto (subjectOf text) pattern (positions (subjectOf text))).min?.map fun start =>
        let path := preferredPath (subjectOf text) pattern start (positions (subjectOf text))
        ⟨subjectOf text, start, path.stop, path.groups⟩ := by
  have allAllowed : (startsInto (subjectOf text) pattern (positions (subjectOf text))).filter
      (fun _ => true) = startsInto (subjectOf text) pattern (positions (subjectOf text)) :=
    List.filter_eq_self.mpr fun _ _ => rfl
  show firstMatchIn? pattern (subjectOf text) (fun _ => true) = _
  rw [firstMatchIn?, allAllowed, least?_eq_min?]
  cases (startsInto (subjectOf text) pattern (positions (subjectOf text))).min? <;> rfl

theorem isSome_firstMatch? (pattern : Pattern) (text : String) :
    (pattern.firstMatch? text).isSome = pattern.isMatch text := by
  rw [firstMatch?_eq, Option.isSome_map]
  show _ = !(startsInto (subjectOf text) pattern (positions (subjectOf text))).isEmpty
  cases startsInto (subjectOf text) pattern (positions (subjectOf text)) <;> rfl

/-! ## What groups take -/

/-- A pattern without a group. -/
def isGroupless : Pattern → Bool
  | .group _ _ => false
  | .sequence first second | .either first second => first.isGroupless && second.isGroupless
  | .repeated body _ _ _ => body.isGroupless
  | .empty | .charIn _ | .check _ => true

section Groups

variable {subject : Subject} {start : Nat} {path : Path}

theorem Follows.groups_eq_nil {pattern : Pattern} (follows : Follows subject pattern start path)
    (groupless : pattern.isGroupless = true) : path.groups = [] := by
  induction follows with
  | empty | charIn | check | stop => rfl
  | sequence _ _ firstHypothesis laterHypothesis =>
    obtain ⟨first, later⟩ := (Bool.and_eq_true _ _).mp groupless
    rw [Path.andThen, firstHypothesis first, laterHypothesis later]
    rfl
  | eitherFirst _ inductionHypothesis =>
    exact inductionHypothesis ((Bool.and_eq_true _ _).mp groupless).1
  | eitherSecond _ inductionHypothesis =>
    exact inductionHypothesis ((Bool.and_eq_true _ _).mp groupless).2
  | must _ _ firstHypothesis laterHypothesis | may _ _ _ firstHypothesis laterHypothesis =>
    rw [Path.andThen, firstHypothesis groupless, laterHypothesis groupless]
    rfl
  | group => cases groupless

/-- The groups of a pattern with what each of them takes. -/
def groupBodies : Pattern → List (Nat × Pattern)
  | .group index body => (index, body) :: body.groupBodies
  | .sequence first second | .either first second => first.groupBodies ++ second.groupBodies
  | .repeated body _ _ _ => body.groupBodies
  | .empty | .charIn _ | .check _ => []

/-- A span that a way lists was taken by a group of the pattern. -/
theorem Follows.mem_groups {pattern : Pattern} (follows : Follows subject pattern start path) :
    ∀ span ∈ path.groups, ∃ body, (span.index, body) ∈ pattern.groupBodies ∧
      Spans subject body span.start span.stop := by
  induction follows with
  | empty | charIn | check | stop => exact fun _ member => nomatch member
  | sequence _ _ firstHypothesis laterHypothesis =>
    intro span member
    rcases List.mem_append.mp member with inFirst | inLater
    · obtain ⟨body, isGroup, spans⟩ := firstHypothesis span inFirst
      exact ⟨body, List.mem_append_left _ isGroup, spans⟩
    · obtain ⟨body, isGroup, spans⟩ := laterHypothesis span inLater
      exact ⟨body, List.mem_append_right _ isGroup, spans⟩
  | eitherFirst _ inductionHypothesis =>
    intro span member
    obtain ⟨body, isGroup, spans⟩ := inductionHypothesis span member
    exact ⟨body, List.mem_append_left _ isGroup, spans⟩
  | eitherSecond _ inductionHypothesis =>
    intro span member
    obtain ⟨body, isGroup, spans⟩ := inductionHypothesis span member
    exact ⟨body, List.mem_append_right _ isGroup, spans⟩
  | must _ _ firstHypothesis laterHypothesis | may _ _ _ firstHypothesis laterHypothesis =>
    intro span member
    rcases List.mem_append.mp member with inFirst | inLater
    · exact firstHypothesis span inFirst
    · exact laterHypothesis span inLater
  | group inner inductionHypothesis =>
    intro span member
    rcases List.mem_append.mp member with inside | isWhole
    · obtain ⟨body, isGroup, spans⟩ := inductionHypothesis span inside
      exact ⟨body, List.mem_cons_of_mem _ isGroup, spans⟩
    · rw [List.mem_singleton.mp isWhole]
      exact ⟨_, List.mem_cons_self, inner.spans⟩

/-- What a group captures has only characters of a set, if this is what the group takes. -/
theorem contains_of_group? {pattern : Pattern} {text value : String} {found : Match}
    {index : Nat} {set : CharSet} (isFound : pattern.firstMatch? text = some found)
    (bodies : ∀ body, (index, body) ∈ pattern.groupBodies → body = oneOrMore (.charIn set))
    (captured : found.group? index = some value) :
    ∀ char ∈ value.toList, set.contains char = true := by
  have isNext := isNext_of_firstMatch? isFound
  unfold Match.group? at captured
  split at captured
  · rename_i span isSpan
    cases captured
    have isIndex : span.index = index := by simpa using List.find?_some isSpan
    obtain ⟨body, isGroup, spans⟩ :=
      isNext.prefers.follows.mem_groups span
        (List.mem_reverse.mp (List.mem_of_find?_eq_some isSpan))
    rw [isIndex] at isGroup
    rw [bodies body isGroup] at spans
    rw [isNext.isSubject]
    exact (run_of_oneOrMore spans).2.contains_of_mem_slice
  · cases captured

theorem follows_concat_cons {first second : Pattern} {rest : List Pattern} :
    Follows subject (concat (first :: second :: rest)) start path ↔
      ∃ head later, Follows subject first start head ∧
        Follows subject (concat (second :: rest)) head.stop later ∧ path = head.andThen later := by
  constructor
  · rintro (_ | _ | _ | ⟨head, later⟩)
    exact ⟨_, _, head, later, rfl⟩
  · rintro ⟨_, _, head, later, rfl⟩
    exact .sequence head later

end Groups

end RunTriage.Pattern
