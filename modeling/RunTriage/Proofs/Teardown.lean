import Mathlib.Data.List.TakeWhile
import RunTriage.Proofs.Extents
import RunTriage.Proofs.Insertion

/-!
Contract: the lines that a teardown takes, in a stream as it is and with gaps inserted.

Owns:
- `TeardownShape`, the forms that the lines after a test have;
- `Unbroken`, which holds if nothing is inserted where a teardown needs two lines next to each
  other;
- the teardown with insertions: the same if they leave it unbroken, else the runner says less
  in it.

Does not own: where a teardown starts, which depends on the test before it.
-/

namespace RunTriage.Session

/-! ## The forms of a teardown -/

/-- Number of lines of a teardown. -/
def teardownCount (teardown : Option (Nat × Option Outcome)) : Nat :=
  (teardown.map Prod.fst).getD 0

theorem isBlankLine_iff {entry : Option String} : isBlankLine entry = true ↔ entry = some "" := by
  cases entry with
  | none => simp [isBlankLine]
  | some text => simp [isBlankLine]

theorem repeats_blank (id : NodeId) : repeats id (some "") = false := by
  have neverEmpty : (id.display ++ " ").toList ≠ [] := by simp
  rw [repeats, carries_some, Text.startsWith]
  cases shown : (id.display ++ " ").toList with
  | nil => exact absurd shown neverEmpty
  | cons first rest => rfl

theorem opensTeardown_blank : opensTeardown "" = false := by decide +kernel

theorem teardownFailure_le_two (id : NodeId) (rest : Transcript) :
    (teardownFailure id rest).1 ≤ 2 := by
  unfold teardownFailure
  split
  · exact Nat.zero_le 2
  · split <;> simp
  · split
    · exact Nat.le_refl 2
    · split <;> simp

theorem blank_of_teardownFailure {id : NodeId} {rest : Transcript}
    (twoLines : (teardownFailure id rest).1 = 2) :
    ∃ text later, rest = some "" :: some text :: later := by
  unfold teardownFailure at twoLines
  split at twoLines
  · cases twoLines
  · split at twoLines <;> cases twoLines
  · rename_i entry next later
    split at twoLines
    · rename_i isFailure
      obtain ⟨isBlank, isSecond⟩ := (Bool.and_eq_true _ _).mp isFailure
      cases next with
      | none => cases isSecond
      | some text => exact ⟨text, later, by rw [isBlankLine_iff.mp isBlank]⟩
    · split at twoLines <;> cases twoLines

theorem teardownFailure_pair (id : NodeId) (entry next : Option String) (rest : Transcript) :
    teardownFailure id (entry :: next :: rest) =
      if isBlankLine entry && repeats id next then (2, outcomeIn next)
      else teardownFailure id [entry] := rfl

/-- With a gap behind it, a line is taken like the last line of the stream. -/
theorem teardownFailure_gap (id : NodeId) (entry : Option String) (rest : Transcript) :
    teardownFailure id (entry :: none :: rest) = teardownFailure id [entry] := by
  have notRepeated : repeats id none = false := rfl
  rw [teardownFailure_pair, notRepeated, Bool.and_false]
  rfl

theorem teardownAfter_eq_none_iff {id : NodeId} {entry : Option String} {rest : Transcript} :
    teardownAfter id (entry :: rest) = none ↔
      carries opensTeardown entry = false ∧ repeats id entry = false := by
  rw [teardownAfter]
  cases carries opensTeardown entry <;> cases repeats id entry <;> simp

theorem teardownCount_pos {id : NodeId} {rest : Transcript}
    (isTeardown : teardownAfter id rest ≠ none) : 0 < teardownCount (teardownAfter id rest) := by
  cases rest with
  | nil => exact absurd rfl isTeardown
  | cons entry rest =>
    rw [teardownAfter] at isTeardown ⊢
    split
    · simp only [teardownCount, Option.map_some, Option.getD_some]
      omega
    · rename_i noLog
      rw [if_neg noLog] at isTeardown
      split
      · exact Nat.one_pos
      · rename_i noSecond
        rw [if_neg noSecond] at isTeardown
        exact absurd rfl isTeardown

theorem teardownAfter_naked {id : NodeId} {entry : Option String}
    (noLog : carries opensTeardown entry = false) (isSecond : repeats id entry = true)
    (rest : Transcript) : teardownAfter id (entry :: rest) = some (1, outcomeIn entry) := by
  simp [teardownAfter, noLog, isSecond]

/-- The log of a teardown: the line that opens it, and everything up to the first line that
closes it. -/
structure IsLog (opener : Option String) (log rest : Transcript) : Prop where
  opens : carries opensTeardown opener = true
  goesOn : ∀ entry ∈ log, closesTeardown entry = false
  closed : ∀ entry ∈ rest.head?, closesTeardown entry = true

theorem teardownAfter_logged (id : NodeId) {opener : Option String} {log rest : Transcript}
    (isLog : IsLog opener log rest) :
    teardownAfter id (opener :: (log ++ rest)) =
      some (1 + log.length + (teardownFailure id rest).1, (teardownFailure id rest).2) := by
  have inLog : ((log ++ rest).takeWhile fun entry => !closesTeardown entry) = log := by
    have stops : (rest.takeWhile fun entry => !closesTeardown entry) = [] := by
      cases rest with
      | nil => rfl
      | cons entry later =>
        have closes : closesTeardown entry = true := isLog.closed entry rfl
        simp [closes]
    have inFront : ∀ entry ∈ log, (!closesTeardown entry) = true := by
      intro entry member
      rw [isLog.goesOn entry member]
      rfl
    rw [List.takeWhile_append_of_pos inFront, stops, List.append_nil]
  simp only [teardownAfter, isLog.opens, if_true, inLog, List.drop_left]

theorem drop_logged (opener : Option String) (log rest : Transcript) (count : Nat) :
    (opener :: (log ++ rest)).drop (1 + log.length + count) = rest.drop count := by
  rw [Nat.add_comm 1 log.length]
  show ((opener :: log) ++ rest).drop ((opener :: log).length + count) = _
  exact List.drop_length_add_append count

theorem take_logged (opener : Option String) (log rest : Transcript) (count : Nat) :
    (opener :: (log ++ rest)).take (1 + log.length + count) =
      opener :: (log ++ rest.take count) := by
  rw [Nat.add_comm 1 log.length]
  show ((opener :: log) ++ rest).take ((opener :: log).length + count) = _
  exact List.take_length_add_append count

/-- The forms that the lines after a test have: no teardown, a second line about the test, or
the log of a teardown. -/
inductive TeardownShape (id : NodeId) : Transcript → Prop
  | absent {rest : Transcript} : teardownAfter id rest = none → TeardownShape id rest
  | naked {entry : Option String} {rest : Transcript} :
      carries opensTeardown entry = false → repeats id entry = true →
      TeardownShape id (entry :: rest)
  | logged {opener : Option String} {log rest : Transcript} :
      IsLog opener log rest → TeardownShape id (opener :: (log ++ rest))

theorem teardownShape (id : NodeId) (rest : Transcript) : TeardownShape id rest := by
  cases rest with
  | nil => exact .absent rfl
  | cons entry rest =>
    by_cases opens : carries opensTeardown entry = true
    · have split := List.takeWhile_append_dropWhile (p := fun entry => !closesTeardown entry)
        (l := rest)
      rw [← split]
      refine .logged ⟨opens, fun known member => ?_, fun known isHead => ?_⟩
      · have goesOn := List.mem_takeWhile_imp member
        simpa using goesOn
      · have stops := List.head?_dropWhile_not (fun entry => !closesTeardown entry) rest
        rw [Option.mem_def.mp isHead] at stops
        simpa using stops
    · have noLog := Bool.eq_false_iff.mpr opens
      by_cases isSecond : repeats id entry = true
      · exact .naked noLog isSecond
      · exact .absent (teardownAfter_eq_none_iff.mpr ⟨noLog, Bool.eq_false_iff.mpr isSecond⟩)

/-! ## Teardowns with insertions -/

/-- What the runner says in a teardown. -/
def heard (rest : Transcript) (teardown : Option (Nat × Option Outcome)) : Option (List String) :=
  teardown.map fun teardown => (rest.take teardown.1).reduceOption

/-- Nothing is inserted where a teardown needs two lines next to each other: `before` stands
between the test and its teardown, and `extra` behind a blank line of the teardown. -/
def Unbroken (extra : Nat → Transcript) (id : NodeId) (position : Nat) (before rest : Transcript) :
    Prop :=
  teardownAfter id rest ≠ none → before = [] ∧
    ∀ index, index + 1 < teardownCount (teardownAfter id rest) →
      isBlankLine rest[index]?.join = true → extra (position + index + 1) = []

section Teardown

variable {extra : Nat → Transcript} (gaps : ∀ place, OnlyGaps (extra place))
  {id : NodeId} {position : Nat} {before rest : Transcript}

/-- The one place in a logged teardown where two lines stand next to each other: behind the
blank line that the second line about the test follows. -/
theorem unbroken_logged_iff {opener : Option String} {log : Transcript}
    (isLog : IsLog opener log rest) :
    Unbroken extra id position before (opener :: (log ++ rest)) ↔ before = [] ∧
      ((teardownFailure id rest).1 = 2 → extra (position + 1 + log.length + 1) = []) := by
  have logged := teardownAfter_logged id isLog
  have count : teardownCount (teardownAfter id (opener :: (log ++ rest))) =
      1 + log.length + (teardownFailure id rest).1 := by
    rw [logged]
    rfl
  rw [Unbroken, count, logged]
  constructor
  · intro unbroken
    obtain ⟨nothing, blanks⟩ := unbroken (by simp)
    refine ⟨nothing, fun twoLines => ?_⟩
    obtain ⟨text, later, rfl⟩ := blank_of_teardownFailure twoLines
    have blankHere : (opener :: (log ++ some "" :: some text :: later))[1 + log.length]?.join =
        some "" := by
      rw [Nat.add_comm, List.getElem?_cons_succ, List.getElem?_append_right (Nat.le_refl _),
        Nat.sub_self]
      rfl
    have nothingBehind := blanks (1 + log.length) (by omega) (isBlankLine_iff.mpr blankHere)
    rwa [← Nat.add_assoc] at nothingBehind
  · rintro ⟨nothing, notBehindBlank⟩ -
    refine ⟨nothing, fun index inside isBlank => ?_⟩
    have atMostTwo := teardownFailure_le_two id rest
    cases index with
    | zero =>
      have blankOpener : opener = some "" := isBlankLine_iff.mp isBlank
      have opens := isLog.opens
      rw [blankOpener, carries_some, opensTeardown_blank] at opens
      cases opens
    | succ index =>
      rw [List.getElem?_cons_succ] at isBlank
      by_cases inLog : index < log.length
      · rw [List.getElem?_append_left inLog, List.getElem?_eq_getElem inLog] at isBlank
        have blankEntry : log[index] = some "" := isBlankLine_iff.mp isBlank
        have staysOpen := isLog.goesOn _ (List.getElem_mem inLog)
        rw [blankEntry] at staysOpen
        cases staysOpen
      · have atEnd : index = log.length := by omega
        have twoLines : (teardownFailure id rest).1 = 2 := by omega
        rw [atEnd, Nat.add_comm log.length 1, ← Nat.add_assoc]
        exact notBehindBlank twoLines

theorem teardownAfter_gap (beforeGaps : OnlyGaps before) (something : before ≠ []) :
    teardownAfter id (before ++ rest) = none := by
  cases before with
  | nil => exact absurd rfl something
  | cons entry before =>
    obtain ⟨rfl, _⟩ := List.forall_mem_cons.mp beforeGaps
    exact teardownAfter_eq_none_iff.mpr ⟨rfl, rfl⟩

theorem teardownAfter_widened_of_none (beforeGaps : OnlyGaps before)
    (absent : teardownAfter id rest = none) :
    teardownAfter id (before ++ widened extra position rest) = none := by
  cases before with
  | nil =>
    cases rest with
    | nil => rfl
    | cons entry later =>
      exact teardownAfter_eq_none_iff.mpr (teardownAfter_eq_none_iff.mp absent)
  | cons entry before => exact teardownAfter_gap beforeGaps (List.cons_ne_nil _ _)

theorem widened_logged (extra : Nat → Transcript) (position : Nat) (opener : Option String)
    (log rest : Transcript) :
    widened extra position (opener :: (log ++ rest)) =
      opener :: (insertFrom extra (position + 1) log ++
        widened extra (position + 1 + log.length) rest) := by
  rw [widened_cons, insertFrom_append]

include gaps

/-- The log of a teardown takes the gaps within, and the lines behind it are the same. -/
theorem IsLog.withGaps {opener : Option String} {log : Transcript} (isLog : IsLog opener log rest)
    (position : Nat) :
    IsLog opener (insertFrom extra (position + 1) log)
      (widened extra (position + 1 + log.length) rest) where
  opens := isLog.opens
  goesOn := by
    intro entry member
    rcases mem_insertFrom member with inLog | ⟨place, inserted⟩
    · exact isLog.goesOn entry inLog
    · rw [gaps place entry inserted]
      rfl
  closed := by
    intro entry isHead
    rw [head?_widened] at isHead
    exact isLog.closed entry isHead

theorem teardownFailure_widened
    (whole : (teardownFailure id rest).1 = 2 → extra (position + 1) = []) :
    teardownFailure id (widened extra position rest) = teardownFailure id rest := by
  cases rest with
  | nil => rfl
  | cons entry later =>
    cases inserted : extra (position + 1) with
    | nil =>
      cases later with
      | nil => rw [widened_cons, insertFrom, inserted]; rfl
      | cons next later => rw [widened_cons, insertFrom, inserted]; rfl
    | cons gap others =>
      have isGap : gap = none := gaps (position + 1) gap (inserted ▸ List.mem_cons_self)
      have notTwo : (teardownFailure id (entry :: later)).1 ≠ 2 := by
        intro twoLines
        rw [whole twoLines] at inserted
        cases inserted
      rw [widened_cons, insertFrom, inserted, isGap, List.cons_append, teardownFailure_gap]
      cases later with
      | nil => rfl
      | cons next later =>
        rw [teardownFailure_pair] at notTwo ⊢
        split at notTwo
        · exact absurd rfl notTwo
        · rename_i noFailure
          rw [if_neg noFailure]

theorem teardownFailure_torn (twoLines : (teardownFailure id rest).1 = 2)
    (torn : extra (position + 1) ≠ []) :
    teardownFailure id (widened extra position rest) = (0, none) := by
  obtain ⟨text, later, rfl⟩ := blank_of_teardownFailure twoLines
  cases inserted : extra (position + 1) with
  | nil => exact absurd inserted torn
  | cons gap others =>
    have isGap : gap = none := gaps (position + 1) gap (inserted ▸ List.mem_cons_self)
    rw [widened_cons, insertFrom, inserted, isGap, List.cons_append, teardownFailure_gap,
      teardownFailure, repeats_blank]
    rfl

/-- What `teardownAfter_widened` says of a teardown with a log. -/
theorem teardownAfter_widened_log {opener : Option String} {log : Transcript}
    (isLog : IsLog opener log rest)
    (whole : (teardownFailure id rest).1 = 2 → extra (position + 1 + log.length + 1) = []) :
    let narrow := teardownAfter id (opener :: (log ++ rest))
    let wide := teardownAfter id (widened extra position (opener :: (log ++ rest)))
    wide.map Prod.snd = narrow.map Prod.snd ∧
      ∃ later, OnlyGaps later ∧
        (widened extra position (opener :: (log ++ rest))).drop (teardownCount wide) =
          later ++ widened extra (position + teardownCount narrow)
            ((opener :: (log ++ rest)).drop (teardownCount narrow)) := by
  have sameFailure := teardownFailure_widened gaps whole
  rw [widened_logged, teardownAfter_logged id isLog,
    teardownAfter_logged id (isLog.withGaps gaps position), sameFailure]
  refine ⟨rfl, ?_⟩
  generalize failed : teardownFailure id rest = failure at *
  have within : failure.1 ≤ rest.length := failed ▸ teardownFailure_le id rest
  have atMostTwo : failure.1 ≤ 2 := failed ▸ teardownFailure_le_two id rest
  have nothingBetween (place : Nat) (least : position + 1 + log.length < place)
      (most : place < position + 1 + log.length + failure.1) : extra place = [] := by
    have here : place = position + 1 + log.length + 1 := by omega
    have twoLines : failure.1 = 2 := by omega
    rw [here]
    exact whole twoLines
  obtain ⟨later, laterGaps, behind⟩ := drop_widened gaps _ within nothingBetween
  have shifted : position + 1 + log.length + failure.1 =
      position + (1 + log.length + failure.1) := by omega
  refine ⟨later, laterGaps, ?_⟩
  rw [shifted] at behind
  simp only [teardownCount, Option.map_some, Option.getD_some]
  rw [drop_logged, drop_logged]
  exact behind

/-- A teardown without insertions at the places that matter has the same outcome, and the
stream goes on behind the same line. -/
theorem teardownAfter_widened (beforeGaps : OnlyGaps before)
    (unbroken : Unbroken extra id position before rest) :
    let narrow := teardownAfter id rest
    let wide := teardownAfter id (before ++ widened extra position rest)
    wide.map Prod.snd = narrow.map Prod.snd ∧
      ∃ later, OnlyGaps later ∧
        (before ++ widened extra position rest).drop (teardownCount wide) =
          later ++ widened extra (position + teardownCount narrow)
            (rest.drop (teardownCount narrow)) := by
  intro narrow wide
  cases teardownShape id rest with
  | absent absent =>
    have isNarrow : narrow = none := absent
    have isWide : wide = none := teardownAfter_widened_of_none beforeGaps absent
    rw [isNarrow, isWide]
    exact ⟨rfl, before, beforeGaps, rfl⟩
  | @naked entry rest noLog isSecond =>
    have isNarrow : narrow = some (1, outcomeIn entry) := teardownAfter_naked noLog isSecond rest
    obtain ⟨rfl, _⟩ := unbroken fun absent => Option.some_ne_none _ (isNarrow.symm.trans absent)
    have isWide : wide = some (1, outcomeIn entry) := teardownAfter_naked noLog isSecond _
    rw [isNarrow, isWide]
    exact ⟨rfl, extra (position + 1), gaps _, rfl⟩
  | @logged opener log rest isLog =>
    obtain ⟨rfl, whole⟩ := (unbroken_logged_iff isLog).mp unbroken
    exact teardownAfter_widened_log gaps isLog whole

/-- In such a teardown the runner says the same. -/
theorem heard_widened (beforeGaps : OnlyGaps before)
    (unbroken : Unbroken extra id position before rest) :
    heard (before ++ widened extra position rest)
        (teardownAfter id (before ++ widened extra position rest)) =
      heard rest (teardownAfter id rest) := by
  obtain ⟨sameOutcome, later, laterGaps, behind⟩ :=
    teardownAfter_widened gaps beforeGaps unbroken
  generalize teardownAfter id rest = narrow at *
  generalize teardownAfter id (before ++ widened extra position rest) = wide at *
  cases narrow with
  | none =>
    rw [Option.map_eq_none_iff.mp sameOutcome]
    rfl
  | some read =>
    cases wide with
    | none => cases sameOutcome
    | some wideRead =>
      -- The runner says the same in both streams, and the same behind the teardown.
      have total : (before ++ widened extra position rest).reduceOption = rest.reduceOption := by
        rw [List.reduceOption_append, beforeGaps.reduceOption_eq, List.nil_append,
          reduceOption_widened gaps]
      have sameBehind : ((before ++ widened extra position rest).drop wideRead.1).reduceOption =
          (rest.drop read.1).reduceOption := by
        have readOn := congrArg List.reduceOption behind
        rw [List.reduceOption_append, laterGaps.reduceOption_eq, List.nil_append,
          reduceOption_widened gaps] at readOn
        exact readOn
      rw [← List.take_append_drop wideRead.1 (before ++ widened extra position rest),
        ← List.take_append_drop read.1 rest, List.reduceOption_append, List.reduceOption_append,
        List.take_append_drop, sameBehind] at total
      exact congrArg some (List.append_cancel_right total)

theorem heard_torn_log {opener : Option String} {log : Transcript}
    (isLog : IsLog opener log rest) (twoLines : (teardownFailure id rest).1 = 2)
    (torn : extra (position + 1 + log.length + 1) ≠ []) :
    heard (widened extra position (opener :: (log ++ rest)))
        (teardownAfter id (widened extra position (opener :: (log ++ rest)))) ≠
      heard (opener :: (log ++ rest)) (teardownAfter id (opener :: (log ++ rest))) := by
  rw [widened_logged, teardownAfter_logged id isLog,
    teardownAfter_logged id (isLog.withGaps gaps position), teardownFailure_torn gaps twoLines torn,
    twoLines, heard, heard, Option.map_some, Option.map_some, take_logged, take_logged]
  -- The second line and the blank line before it are missing.
  obtain ⟨text, later, rfl⟩ := blank_of_teardownFailure twoLines
  have sameLog : (opener :: insertFrom extra (position + 1) log).reduceOption =
      (opener :: log).reduceOption := by
    rw [← List.singleton_append, List.reduceOption_append, reduceOption_insertFrom gaps,
      ← List.reduceOption_append]
    rfl
  have missing : (opener :: (log ++ (some "" :: some text :: later).take 2)).reduceOption =
      (opener :: log).reduceOption ++ ["", text] := by
    rw [← List.cons_append, List.reduceOption_append]
    rfl
  intro same
  have sameLength := congrArg List.length (Option.some.inj same)
  rw [List.take_zero, List.append_nil, sameLog, missing, List.length_append] at sameLength
  exact absurd sameLength (Nat.ne_of_lt (Nat.lt_add_of_pos_right Nat.two_pos))

/-- In a teardown that is broken, the runner says less than before. -/
theorem heard_broken (beforeGaps : OnlyGaps before)
    (broken : ¬ Unbroken extra id position before rest) :
    heard (before ++ widened extra position rest)
        (teardownAfter id (before ++ widened extra position rest)) ≠
      heard rest (teardownAfter id rest) := by
  have isTeardown : teardownAfter id rest ≠ none := fun absent => broken fun isThere =>
    absurd absent isThere
  have isHeard : heard rest (teardownAfter id rest) ≠ none := by
    rw [heard, ne_eq, Option.map_eq_none_iff]
    exact isTeardown
  by_cases something : before ≠ []
  · rw [teardownAfter_gap beforeGaps something]
    exact isHeard.symm
  · obtain rfl : before = [] := Decidable.not_not.mp something
    cases teardownShape id rest with
    | absent absent => exact absurd absent isTeardown
    | @naked entry rest noLog isSecond =>
      refine absurd (fun _ => ⟨rfl, fun index inside => ?_⟩) broken
      rw [teardownAfter_naked noLog isSecond] at inside
      exact absurd inside (Nat.not_lt.mpr (Nat.le_add_left 1 index))
    | @logged opener log rest isLog =>
      have torn : (teardownFailure id rest).1 = 2 ∧
          extra (position + 1 + log.length + 1) ≠ [] := by
        rw [unbroken_logged_iff isLog] at broken
        simpa using broken
      exact heard_torn_log gaps isLog torn.1 torn.2

end Teardown

end RunTriage.Session
