import Mathlib.Data.Nat.Bitwise
import RunTriage.Pattern.Match

/-!
Contract: the positions from which a pattern is found to match are those from which it does.

Owns:
- `Rounds`, turns of a loop one after the other, and the turns that a loop can leave out;
- the search back from a set of positions, round by round;
- `mem_startsInto`, by which that search agrees with the spans of a pattern;
- where a pattern matches at all;
- the ends of a match for each kind of pattern, and the text that a match covers.

Does not own: which of several matches is preferred, which is in `RunTriage.Proofs.PatternPaths`.
-/

namespace RunTriage.Pattern

/-! ## Rounds of a loop -/

/-- A turn made exactly a number of times. -/
inductive Rounds (turn : Nat → Nat → Prop) : Nat → Nat → Nat → Prop
  | none (position : Nat) : Rounds turn 0 position position
  | more {count start middle stop : Nat} :
      turn start middle → Rounds turn count middle stop → Rounds turn (count + 1) start stop

namespace Rounds

variable {turn : Nat → Nat → Prop} {first second start middle stop : Nat}

theorem append (before : Rounds turn first start middle)
    (after : Rounds turn second middle stop) : Rounds turn (first + second) start stop := by
  induction before with
  | none position =>
    rw [Nat.zero_add]
    exact after
  | more turns _ inductionHypothesis =>
    rw [Nat.succ_add]
    exact .more turns (inductionHypothesis after)

theorem split {first : Nat} (rounds : Rounds turn (first + second) start stop) :
    ∃ middle, Rounds turn first start middle ∧ Rounds turn second middle stop := by
  induction first generalizing start with
  | zero =>
    rw [Nat.zero_add] at rounds
    exact ⟨start, .none start, rounds⟩
  | succ first inductionHypothesis =>
    rw [Nat.succ_add] at rounds
    cases rounds with
    | more turns later =>
      obtain ⟨middle, before, after⟩ := inductionHypothesis later
      exact ⟨middle, .more turns before, after⟩

theorem of_turn (turns : turn start stop) : Rounds turn 1 start stop := .more turns (.none stop)

theorem turn_of_one (rounds : Rounds turn 1 start stop) : turn start stop := by
  cases rounds with
  | more turns later =>
    cases later
    exact turns

/-- What one turn carries back, a number of rounds carries back. -/
theorem carry {holds : Nat → Prop} (back : ∀ start stop, turn start stop → holds stop → holds start)
    {count : Nat} (rounds : Rounds turn count start stop) (atStop : holds stop) : holds start := by
  induction rounds with
  | none => exact atStop
  | more turns _ inductionHypothesis => exact back _ _ turns (inductionHypothesis atStop)

variable (upward : ∀ start stop, turn start stop → start ≤ stop)

include upward

theorem le {count : Nat} (rounds : Rounds turn count start stop) : start ≤ stop := by
  induction rounds with
  | none => exact Nat.le_refl _
  | more turns _ inductionHypothesis => exact Nat.le_trans (upward _ _ turns) inductionHypothesis

/-- Turns that go nowhere can be left out, so no more are needed than there are positions. -/
theorem shorten {count : Nat} (rounds : Rounds turn count start stop) :
    ∃ fewer, fewer ≤ count ∧ fewer ≤ stop - start ∧ Rounds turn fewer start stop := by
  induction rounds with
  | none position => exact ⟨0, Nat.le_refl 0, Nat.zero_le _, .none position⟩
  | @more count start middle stop turns later inductionHypothesis =>
    obtain ⟨fewer, atMost, short, rounds⟩ := inductionHypothesis
    have forward := upward _ _ turns
    have onward := rounds.le upward
    rcases Nat.eq_or_lt_of_le forward with stays | moves
    · subst stays
      exact ⟨fewer, Nat.le_succ_of_le atMost, short, rounds⟩
    · refine ⟨fewer + 1, Nat.succ_le_succ atMost, ?_, .more turns rounds⟩
      omega

end Rounds

/-! ## Sets of positions -/

theorem testBit_or_shiftLeft (bits position other : Nat) :
    (bits ||| 1 <<< position).testBit other = true ↔
      bits.testBit other = true ∨ other = position := by
  rw [Nat.one_shiftLeft, Nat.testBit_or, Bool.or_eq_true, Nat.testBit_two_pow, decide_eq_true_eq,
    eq_comm (a := position)]

theorem mem_distinct {positions : List Nat} {seen position : Nat} :
    position ∈ distinct positions seen ↔ position ∈ positions ∧ seen.testBit position = false := by
  induction positions generalizing seen with
  | nil => simp [distinct]
  | cons first rest inductionHypothesis =>
    rw [distinct]
    by_cases known : seen.testBit first = true
    · rw [if_pos known, inductionHypothesis, List.mem_cons]
      constructor
      · exact fun ⟨later, isNew⟩ => ⟨.inr later, isNew⟩
      · rintro ⟨rfl | later, isNew⟩
        · rw [known] at isNew
          cases isNew
        · exact ⟨later, isNew⟩
    · have isNew : seen.testBit first = false := Bool.eq_false_iff.mpr known
      have notSeen : (seen ||| 1 <<< first).testBit position = false ↔
          seen.testBit position = false ∧ position ≠ first := by
        rw [← Bool.not_eq_true, testBit_or_shiftLeft, not_or, Bool.not_eq_true]
      rw [if_neg known, List.mem_cons, inductionHypothesis, List.mem_cons, notSeen]
      by_cases same : position = first
      · simp [same, isNew]
      · simp [same]

theorem testBit_bitsOf {positions : List Nat} {position : Nat} :
    (bitsOf positions).testBit position = true ↔ position ∈ positions := by
  have fromAny (bits : Nat) :
      (positions.foldl (fun bits known => bits ||| 1 <<< known) bits).testBit position = true ↔
        bits.testBit position = true ∨ position ∈ positions := by
    induction positions generalizing bits with
    | nil => simp
    | cons first rest inductionHypothesis =>
      rw [List.foldl_cons, inductionHypothesis, testBit_or_shiftLeft, List.mem_cons, or_assoc]
  rw [bitsOf, fromAny, Nat.zero_testBit]
  simp

/-! ## The search back -/

/-- The step finds the positions from which one turn leads to a target, for targets within a text
of some size. -/
structure StepsBack (size : Nat) (step : List Nat → List Nat) (turn : Nat → Nat → Prop) : Prop where
  upward : ∀ start stop, turn start stop → start ≤ stop
  mem_step : ∀ targets : List Nat, (∀ target ∈ targets, target ≤ size) → ∀ start,
    start ∈ step targets ↔ ∃ target ∈ targets, turn start target

/-- Positions from which at most a number of turns leads to a target. -/
def LeadsTo (turn : Nat → Nat → Prop) (limit : Nat) (targets : List Nat) (start : Nat) : Prop :=
  ∃ count ≤ limit, ∃ target ∈ targets, Rounds turn count start target

namespace StepsBack

variable {size : Nat} {step : List Nat → List Nat} {turn : Nat → Nat → Prop}
  (stepsBack : StepsBack size step turn)

include stepsBack

theorem inside_step {targets : List Nat} (inside : ∀ target ∈ targets, target ≤ size) :
    ∀ start ∈ step targets, start ≤ size := by
  intro start member
  obtain ⟨target, isTarget, turns⟩ := (stepsBack.mem_step targets inside start).mp member
  exact Nat.le_trans (stepsBack.upward _ _ turns) (inside target isTarget)

theorem mem_stepBack (count : Nat) {targets : List Nat}
    (inside : ∀ target ∈ targets, target ≤ size) {start : Nat} :
    start ∈ stepBack step count targets ↔ ∃ target ∈ targets, Rounds turn count start target := by
  induction count generalizing targets with
  | zero =>
    rw [stepBack]
    constructor
    · exact fun member => ⟨start, member, .none start⟩
    · rintro ⟨target, isTarget, rounds⟩
      cases rounds
      exact isTarget
  | succ count inductionHypothesis =>
    have here : start ∈ stepBack step count (step targets) ↔
        ∃ target ∈ targets, Rounds turn (count + 1) start target := by
      rw [inductionHypothesis (stepsBack.inside_step inside)]
      constructor
      · rintro ⟨middle, isStep, rounds⟩
        obtain ⟨target, isTarget, turns⟩ := (stepsBack.mem_step targets inside middle).mp isStep
        exact ⟨target, isTarget, rounds.append (.of_turn turns)⟩
      · rintro ⟨target, isTarget, rounds⟩
        obtain ⟨middle, before, last⟩ := rounds.split
        exact ⟨middle, (stepsBack.mem_step targets inside middle).mpr
          ⟨target, isTarget, last.turn_of_one⟩, before⟩
    rw [stepBack]
    cases targets with
    | nil => simp
    | cons first rest =>
      rw [List.isEmpty_cons, if_neg Bool.false_ne_true]
      exact here

/-- What the search keeps from round to round: a turn into a position reached so far starts at one
of them, unless it leads to one that was added last. -/
theorem mem_collect (rounds : Nat) {frontier reached : List Nat} {seen : Nat}
    (inside : ∀ target ∈ reached, target ≤ size) (added : frontier ⊆ reached)
    (bits : ∀ position, seen.testBit position = true ↔ position ∈ reached)
    (closed : ∀ start, ∀ target ∈ reached, turn start target →
      start ∈ reached ∨ ∃ last ∈ frontier, turn start last) {start : Nat} :
    start ∈ collect step rounds frontier reached seen ↔ LeadsTo turn rounds reached start := by
  induction rounds generalizing frontier reached seen with
  | zero =>
    rw [collect]
    constructor
    · exact fun member => ⟨0, Nat.le_refl 0, start, member, .none start⟩
    · rintro ⟨count, atMost, target, isTarget, rounds⟩
      obtain rfl : count = 0 := Nat.le_zero.mp atMost
      cases rounds
      exact isTarget
  | succ rounds inductionHypothesis =>
    have frontierInside : ∀ target ∈ frontier, target ≤ size :=
      fun target member => inside target (added member)
    have isFresh (position : Nat) : position ∈ distinct (step frontier) seen ↔
        (∃ last ∈ frontier, turn position last) ∧ position ∉ reached := by
      rw [mem_distinct, stepsBack.mem_step frontier frontierInside, ← bits, Bool.not_eq_true]
    rw [collect]
    generalize distinct (step frontier) seen = fresh at isFresh ⊢
    cases fresh with
    | nil =>
      -- No turn leads out of the positions reached so far.
      have stays : ∀ start target, turn start target → target ∈ reached → start ∈ reached := by
        intro start target turns isTarget
        rcases closed start target isTarget turns with isReached | leads
        · exact isReached
        · by_contra isNew
          exact List.not_mem_nil ((isFresh start).mpr ⟨leads, isNew⟩)
      rw [List.isEmpty_nil, if_pos rfl]
      constructor
      · exact fun member => ⟨0, Nat.zero_le _, start, member, .none start⟩
      · rintro ⟨count, -, target, isTarget, rounds⟩
        exact rounds.carry stays isTarget
    | cons first others =>
      generalize isNewFrontier : first :: others = fresh at isFresh ⊢
      have nonempty : fresh.isEmpty = false := by rw [← isNewFrontier]; rfl
      have freshInside : ∀ target ∈ reached ++ fresh, target ≤ size := by
        intro target member
        rcases List.mem_append.mp member with isReached | isNew
        · exact inside target isReached
        · obtain ⟨⟨last, isLast, turns⟩, _⟩ := (isFresh target).mp isNew
          exact Nat.le_trans (stepsBack.upward _ _ turns) (frontierInside last isLast)
      have freshBits (position : Nat) : (seen ||| bitsOf fresh).testBit position = true ↔
          position ∈ reached ++ fresh := by
        rw [Nat.testBit_or, Bool.or_eq_true, bits, testBit_bitsOf, List.mem_append]
      have within (position : Nat) (target : Nat) (isTarget : target ∈ reached)
          (turns : turn position target) : position ∈ reached ++ fresh := by
        rcases closed position target isTarget turns with isReached | leads
        · exact List.mem_append_left _ isReached
        · by_cases isReached : position ∈ reached
          · exact List.mem_append_left _ isReached
          · exact List.mem_append_right _ ((isFresh position).mpr ⟨leads, isReached⟩)
      have freshClosed : ∀ start, ∀ target ∈ reached ++ fresh, turn start target →
          start ∈ reached ++ fresh ∨ ∃ last ∈ fresh, turn start last := by
        intro start target isTarget turns
        rcases List.mem_append.mp isTarget with isReached | isNew
        · exact .inl (within start target isReached turns)
        · exact .inr ⟨target, isNew, turns⟩
      rw [nonempty, if_neg Bool.false_ne_true,
        inductionHypothesis freshInside (List.subset_append_right _ _) freshBits freshClosed]
      constructor
      · rintro ⟨count, atMost, target, isTarget, rounds⟩
        rcases List.mem_append.mp isTarget with isReached | isNew
        · exact ⟨count, Nat.le_succ_of_le atMost, target, isReached, rounds⟩
        · obtain ⟨⟨last, isLast, turns⟩, _⟩ := (isFresh target).mp isNew
          exact ⟨count + 1, Nat.succ_le_succ atMost, last, added isLast,
            rounds.append (.of_turn turns)⟩
      · rintro ⟨count, atMost, target, isTarget, rounds⟩
        cases count with
        | zero => exact ⟨0, Nat.zero_le _, target, List.mem_append_left _ isTarget, rounds⟩
        | succ count =>
          obtain ⟨middle, before, last⟩ := rounds.split
          exact ⟨count, Nat.le_of_succ_le_succ atMost, middle,
            within middle target isTarget last.turn_of_one, before⟩

theorem mem_collectEnds (limit : Nat) {targets : List Nat}
    (inside : ∀ target ∈ targets, target ≤ size) {start : Nat} :
    start ∈ collectEnds step limit targets ↔ LeadsTo turn limit targets start :=
  stepsBack.mem_collect limit inside (List.Subset.refl targets) (fun _ => testBit_bitsOf)
    fun _ target isTarget turns => .inr ⟨target, isTarget, turns⟩

theorem inside_collectEnds (limit : Nat) {targets : List Nat}
    (inside : ∀ target ∈ targets, target ≤ size) :
    ∀ start ∈ collectEnds step limit targets, start ≤ size := by
  intro start member
  obtain ⟨_, _, target, isTarget, rounds⟩ := (stepsBack.mem_collectEnds limit inside).mp member
  exact Nat.le_trans (rounds.le stepsBack.upward) (inside target isTarget)

end StepsBack

/-! ## Spans -/

section Spans

variable {subject : Subject}

theorem lt_size_of_getElem? {position : Nat} {char : Char}
    (isChar : subject[position]? = some char) : position < subject.size :=
  (Array.getElem?_eq_some_iff.mp isChar).1

theorem Spans.le {pattern : Pattern} {start stop : Nat} (spans : Spans subject pattern start stop) :
    start ≤ stop := by
  induction spans with
  | empty | check | stop => exact Nat.le_refl _
  | charIn => exact Nat.le_succ _
  | sequence _ _ first second | must _ _ first second | may _ _ _ first second =>
    exact Nat.le_trans first second
  | eitherFirst _ inner | eitherSecond _ inner | group _ inner => exact inner

theorem Spans.le_size {pattern : Pattern} {start stop : Nat}
    (spans : Spans subject pattern start stop) (inside : start ≤ subject.size) :
    stop ≤ subject.size := by
  induction spans with
  | empty | check | stop => exact inside
  | charIn isChar _ => exact lt_size_of_getElem? isChar
  | sequence _ _ first second | must _ _ first second | may _ _ _ first second =>
    exact second (first inside)
  | eitherFirst _ inner | eitherSecond _ inner | group _ inner => exact inner inside

/-- A repetition takes its least number of rounds, and perhaps more up to its limit. -/
theorem spans_repeated_iff {body : Pattern} {least : Nat} {most : Option Nat} {greedy : Bool}
    {start stop : Nat} :
    Spans subject (.repeated body least most greedy) start stop ↔
      ∃ more, (∀ limit ∈ most, more ≤ limit - least) ∧
        Rounds (Spans subject body) (least + more) start stop := by
  constructor
  · intro spans
    generalize isRepeated : Pattern.repeated body least most greedy = pattern at spans
    induction spans generalizing least most with
    | stop =>
      cases isRepeated
      exact ⟨0, fun _ _ => Nat.zero_le _, .none _⟩
    | must turns _ _ inductionHypothesis =>
      cases isRepeated
      obtain ⟨more, within, rounds⟩ := inductionHypothesis rfl
      refine ⟨more, fun limit isLimit => ?_, ?_⟩
      · have before := within (limit - 1) (Option.mem_map_of_mem _ isLimit)
        omega
      · rw [Nat.succ_add]
        exact .more turns rounds
    | may allowed turns _ _ inductionHypothesis =>
      cases isRepeated
      obtain ⟨more, within, rounds⟩ := inductionHypothesis rfl
      refine ⟨more + 1, fun limit isLimit => ?_, ?_⟩
      · have before := within (limit - 1) (Option.mem_map_of_mem _ isLimit)
        have someLeft : limit ≠ 0 := by
          rintro rfl
          exact allowed isLimit
        omega
      · rw [← Nat.add_assoc]
        exact .more turns rounds
    | _ => cases isRepeated
  · rintro ⟨more, within, rounds⟩
    induction least generalizing start most with
    | zero =>
      rw [Nat.zero_add] at rounds
      induction more generalizing start most with
      | zero =>
        cases rounds
        exact .stop
      | succ more inductionHypothesis =>
        cases rounds with
        | more turns later =>
          refine .may ?_ turns (inductionHypothesis ?_ later)
          · rintro rfl
            exact absurd (within 0 rfl) (by omega)
          · intro limit isLimit
            obtain ⟨before, isMost, rfl⟩ := Option.mem_map.mp isLimit
            have atMost := within before isMost
            omega
    | succ least inductionHypothesis =>
      rw [Nat.succ_add] at rounds
      cases rounds with
      | more turns later =>
        refine .must turns (inductionHypothesis ?_ later)
        intro limit isLimit
        obtain ⟨before, isMost, rfl⟩ := Option.mem_map.mp isLimit
        have atMost := within before isMost
        omega

/-! ## Agreement -/

/-- The search for a body is a step back by its spans. -/
def IsSearchedFor (subject : Subject) (pattern : Pattern) : Prop :=
  StepsBack subject.size (startsInto subject pattern) (Spans subject pattern)

theorem mem_startsInto_repeated {body : Pattern} (searched : IsSearchedFor subject body)
    (least : Nat) (most : Option Nat) (greedy : Bool) {ends : List Nat}
    (inside : ∀ stop ∈ ends, stop ≤ subject.size) {start : Nat} :
    start ∈ startsInto subject (.repeated body least most greedy) ends ↔
      ∃ stop ∈ ends, Spans subject (.repeated body least most greedy) start stop := by
  rw [startsInto, searched.mem_stepBack least (searched.inside_collectEnds _ inside)]
  simp only [searched.mem_collectEnds _ inside, spans_repeated_iff]
  constructor
  · rintro ⟨middle, ⟨more, atMost, stop, isEnd, after⟩, before⟩
    refine ⟨stop, isEnd, more, ?_, before.append after⟩
    rintro limit isLimit
    rw [Option.mem_def.mp isLimit, extraRounds] at atMost
    exact atMost
  · rintro ⟨stop, isEnd, more, within, rounds⟩
    obtain ⟨middle, before, after⟩ := rounds.split
    obtain ⟨fewer, notMore, short, rounds⟩ := after.shorten searched.upward
    refine ⟨middle, ⟨fewer, ?_, stop, isEnd, rounds⟩, before⟩
    cases most with
    | none =>
      have stopInside := inside stop isEnd
      rw [extraRounds]
      omega
    | some limit =>
      have atMost := within limit rfl
      rw [extraRounds]
      omega

/-- A search back finds exactly the positions from which the pattern matches up to one of the
ends. -/
theorem isSearchedFor (subject : Subject) (pattern : Pattern) : IsSearchedFor subject pattern := by
  refine ⟨fun _ _ spans => spans.le, ?_⟩
  induction pattern with
  | empty =>
    intro ends _ start
    rw [startsInto]
    constructor
    · exact fun member => ⟨start, member, .empty start⟩
    · rintro ⟨stop, isEnd, spans⟩
      cases spans
      exact isEnd
  | charIn set =>
    intro ends _ start
    rw [startsInto, List.mem_filterMap]
    constructor
    · rintro ⟨stop, isEnd, found⟩
      refine ⟨stop, isEnd, ?_⟩
      cases stop with
      | zero => cases found
      | succ position =>
        cases isChar : subject[position]? with
        | none => simp [Subject.before?, isChar] at found
        | some char =>
          have isIn : set.contains char = true ∧ position = start := by
            simpa [Subject.before?, isChar] using found
          obtain ⟨isIn, rfl⟩ := isIn
          exact .charIn isChar isIn
    · rintro ⟨stop, isEnd, spans⟩
      cases spans with
      | charIn isChar isIn =>
        refine ⟨_, isEnd, ?_⟩
        simp [Subject.before?, isChar, isIn]
  | check condition =>
    intro ends _ start
    rw [startsInto, List.mem_filter]
    constructor
    · exact fun ⟨member, holds⟩ => ⟨start, member, .check holds⟩
    · rintro ⟨stop, isEnd, spans⟩
      cases spans with
      | check holds => exact ⟨isEnd, holds⟩
  | sequence first second firstHypothesis secondHypothesis =>
    intro ends inside start
    have secondSearched : IsSearchedFor subject second :=
      ⟨fun _ _ spans => spans.le, secondHypothesis⟩
    rw [startsInto, firstHypothesis _ (secondSearched.inside_step inside)]
    constructor
    · rintro ⟨middle, isMiddle, before⟩
      obtain ⟨stop, isEnd, after⟩ := (secondHypothesis ends inside middle).mp isMiddle
      exact ⟨stop, isEnd, .sequence before after⟩
    · rintro ⟨stop, isEnd, spans⟩
      cases spans with
      | sequence before after =>
        exact ⟨_, (secondHypothesis ends inside _).mpr ⟨stop, isEnd, after⟩, before⟩
  | either first second firstHypothesis secondHypothesis =>
    intro ends inside start
    rw [startsInto, mem_distinct, List.mem_append, firstHypothesis ends inside,
      secondHypothesis ends inside, Nat.zero_testBit]
    constructor
    · rintro ⟨⟨stop, isEnd, spans⟩ | ⟨stop, isEnd, spans⟩, _⟩
      · exact ⟨stop, isEnd, .eitherFirst spans⟩
      · exact ⟨stop, isEnd, .eitherSecond spans⟩
    · rintro ⟨stop, isEnd, spans⟩
      cases spans with
      | eitherFirst spans => exact ⟨.inl ⟨stop, isEnd, spans⟩, rfl⟩
      | eitherSecond spans => exact ⟨.inr ⟨stop, isEnd, spans⟩, rfl⟩
  | repeated body least most greedy inductionHypothesis =>
    intro ends inside start
    exact mem_startsInto_repeated ⟨fun _ _ spans => spans.le, inductionHypothesis⟩ least most
      greedy inside
  | group index body inductionHypothesis =>
    intro ends inside start
    rw [startsInto, inductionHypothesis ends inside]
    constructor
    · exact fun ⟨stop, isEnd, spans⟩ => ⟨stop, isEnd, .group spans⟩
    · rintro ⟨stop, isEnd, spans⟩
      cases spans with
      | group spans => exact ⟨stop, isEnd, spans⟩

theorem mem_startsInto (pattern : Pattern) {ends : List Nat}
    (inside : ∀ stop ∈ ends, stop ≤ subject.size) {start : Nat} :
    start ∈ startsInto subject pattern ends ↔ ∃ stop ∈ ends, Spans subject pattern start stop :=
  (isSearchedFor subject pattern).mem_step ends inside start

end Spans

/-! ## Matches -/

theorem mem_positions {subject : Subject} {position : Nat} :
    position ∈ positions subject ↔ position ≤ subject.size := by
  rw [positions, List.mem_range]
  omega

theorem mem_startsInto_positions {subject : Subject} {pattern : Pattern} {start : Nat} :
    start ∈ startsInto subject pattern (positions subject) ↔
      start ≤ subject.size ∧ ∃ stop, Spans subject pattern start stop := by
  rw [mem_startsInto pattern fun _ => mem_positions.mp]
  constructor
  · rintro ⟨stop, isPosition, spans⟩
    exact ⟨Nat.le_trans spans.le (mem_positions.mp isPosition), stop, spans⟩
  · rintro ⟨inside, stop, spans⟩
    exact ⟨stop, mem_positions.mpr (spans.le_size inside), spans⟩

/-- The characters of a text by their positions. -/
def subjectOf (text : String) : Subject := text.toList.toArray

theorem isMatch_iff {pattern : Pattern} {text : String} :
    pattern.isMatch text = true ↔
      ∃ start ≤ (subjectOf text).size, ∃ stop, Spans (subjectOf text) pattern start stop := by
  have someStart : pattern.isMatch text = true ↔
      ∃ start, start ∈ startsInto (subjectOf text) pattern (positions (subjectOf text)) := by
    rw [isMatch, isMatchIn, Bool.not_eq_true', List.isEmpty_eq_false_iff_exists_mem]
    rfl
  rw [someStart]
  exact exists_congr fun start => mem_startsInto_positions

/-! ## Ends of matches -/

section Ends

variable {subject : Subject} {start stop : Nat}

theorem spans_concat_cons {first second : Pattern} {rest : List Pattern} :
    Spans subject (concat (first :: second :: rest)) start stop ↔
      ∃ middle, Spans subject first start middle ∧
        Spans subject (concat (second :: rest)) middle stop := by
  constructor
  · rintro (_ | _ | _ | ⟨head, later⟩)
    exact ⟨_, head, later⟩
  · rintro ⟨middle, head, later⟩
    exact .sequence head later

theorem concat_singleton (pattern : Pattern) : concat [pattern] = pattern := rfl

theorem spans_group_iff {index : Nat} {body : Pattern} :
    Spans subject (.group index body) start stop ↔ Spans subject body start stop :=
  ⟨fun spans => by cases spans; assumption, .group⟩

theorem contains_singleton {char other : Char} :
    (CharSet.singleton char).contains other = true ↔ other = char := by
  have compared : (CharSet.singleton char).contains other =
      if other.toNat < char.toNat then false else decide (other.toNat ≤ char.toNat) := by
    rw [CharSet.contains, CharSet.singleton, CharSet.rangesContain, CharSet.rangesContain]
    split <;> simp
  rw [compared, ← Char.toNat_inj]
  split <;> simp <;> omega

theorem contains_range {low high char : Char} :
    (CharSet.range low high).contains char = true ↔
      low.toNat ≤ char.toNat ∧ char.toNat ≤ high.toNat := by
  by_cases ordered : low.toNat ≤ high.toNat
  · have single : CharSet.range low high = ⟨[(low.toNat, high.toNat)]⟩ := by
      simp [CharSet.range, CharSet.ofRanges, CharSet.joinInto, ordered]
    rw [single, CharSet.contains, CharSet.rangesContain, CharSet.rangesContain]
    split <;> simp <;> omega
  · have isEmpty : CharSet.range low high = .empty := by
      simp [CharSet.range, CharSet.ofRanges, CharSet.empty, ordered]
    rw [isEmpty, CharSet.contains, CharSet.empty, CharSet.rangesContain]
    simp
    omega

theorem spans_literal_iff {char : Char} :
    Spans subject (literal char) start stop ↔ subject[start]? = some char ∧ stop = start + 1 := by
  constructor
  · rintro (_ | ⟨isChar, isIn⟩)
    rw [contains_singleton] at isIn
    exact ⟨isIn ▸ isChar, rfl⟩
  · rintro ⟨isChar, rfl⟩
    exact .charIn isChar (contains_singleton.mpr rfl)

/-- Every character between the positions is in the set. -/
def Run (subject : Subject) (set : CharSet) (start stop : Nat) : Prop :=
  ∀ position, start ≤ position → position < stop →
    ∃ char, subject[position]? = some char ∧ set.contains char = true

theorem Run.cons {set : CharSet} {char : Char} (isChar : subject[start]? = some char)
    (isIn : set.contains char = true) (later : Run subject set (start + 1) stop) :
    Run subject set start stop := by
  intro position least most
  rcases Nat.eq_or_lt_of_le least with rfl | beyond
  · exact ⟨char, isChar, isIn⟩
  · exact later position beyond most

theorem run_of_zeroOrMore {set : CharSet}
    (spans : Spans subject (zeroOrMore (.charIn set)) start stop) :
    start ≤ stop ∧ Run subject set start stop := by
  generalize isPattern : zeroOrMore (.charIn set) = pattern at spans
  induction spans with
  | stop =>
    exact ⟨Nat.le_refl _, fun _ least most => absurd least (Nat.not_le_of_lt most)⟩
  | may _ first _ _ inductionHypothesis =>
    obtain ⟨rfl, -, rfl, rfl⟩ := Pattern.repeated.inj isPattern
    cases first with
    | charIn isChar isIn =>
      obtain ⟨onward, run⟩ := inductionHypothesis rfl
      exact ⟨Nat.le_of_succ_le onward, run.cons isChar isIn⟩
  | _ => cases isPattern

theorem run_of_oneOrMore {set : CharSet}
    (spans : Spans subject (oneOrMore (.charIn set)) start stop) :
    start < stop ∧ Run subject set start stop := by
  cases spans with
  | must first later =>
    cases first with
    | charIn isChar isIn =>
      obtain ⟨onward, run⟩ := run_of_zeroOrMore later
      exact ⟨onward, run.cons isChar isIn⟩

end Ends

/-! ## What a match covers -/

section Covered

variable {subject : Subject} {start stop : Nat}

theorem Subject.slice_append {middle : Nat} (onward : start ≤ middle) (further : middle ≤ stop) :
    Subject.slice subject start middle ++ Subject.slice subject middle stop =
      Subject.slice subject start stop := by
  have whole : stop - start = (middle - start) + (stop - middle) := by omega
  have toMiddle : start + (middle - start) = middle := by omega
  rw [Subject.slice, Subject.slice, Subject.slice, ← String.ofList_append, whole, List.take_add,
    List.drop_drop, toMiddle]

theorem Subject.slice_literal {char : Char} (isChar : subject[start]? = some char) :
    Subject.slice subject start (start + 1) = String.singleton char := by
  have inside := lt_size_of_getElem? isChar
  have isHead : subject.toList.drop start = char :: subject.toList.drop (start + 1) := by
    rw [List.drop_eq_getElem_cons (by simpa using inside)]
    congr 1
    rw [Array.getElem?_eq_getElem inside] at isChar
    simpa using isChar
  rw [Subject.slice, isHead, Nat.add_sub_cancel_left]
  rfl

theorem Run.contains_of_mem_slice {set : CharSet} (run : Run subject set start stop) :
    ∀ char ∈ (Subject.slice subject start stop).toList, set.contains char = true := by
  intro char member
  rw [Subject.slice, String.toList_ofList] at member
  obtain ⟨index, here⟩ := List.mem_iff_getElem?.mp member
  rw [List.getElem?_take, List.getElem?_drop, Array.getElem?_toList] at here
  split at here
  · rename_i within
    obtain ⟨other, isChar, isIn⟩ := run (start + index) (Nat.le_add_right _ _) (by omega)
    rw [here] at isChar
    exact Option.some.inj isChar ▸ isIn
  · cases here

end Covered

end RunTriage.Pattern
