import Mathlib.Order.Bounds.Basic
import RunTriage.Proofs.NodeText
import RunTriage.Proofs.Truncation

/-!
Contract: from which line to which line the messages of a test go.

Owns:
- `LaidOut`, all that the first pass does: which tests it finds, and that it leaves no node line
  between them;
- the first line of a test, as the least position that reaches back over no separating line;
- `Closes`, the end of a test's messages and its outcome, by the first line that ends them.

Does not own: the teardown behind the messages, which is in `RunTriage.Proofs.TestLines`.
-/

namespace RunTriage.Session

/-! ## Lines by position -/

/-- What the runner says at a position. -/
def entryAt (transcript : Transcript) (position : Nat) : Option String := transcript[position]?.join

theorem drop_eq_cons {transcript rest : Transcript} {position : Nat} {entry : Option String}
    (here : transcript.drop position = entry :: rest) :
    position < transcript.length ∧ transcript[position]? = some entry ∧
      transcript.drop (position + 1) = rest := by
  have isEntry : transcript[position]? = some entry := by
    rw [← Nat.add_zero position, ← List.getElem?_drop, here]
    rfl
  refine ⟨(List.getElem?_eq_some_iff.mp isEntry).1, isEntry, ?_⟩
  rw [← List.drop_drop, here]
  rfl

theorem entryAt_of_drop {transcript rest : Transcript} {position : Nat} {entry : Option String}
    (here : transcript.drop position = entry :: rest) : entryAt transcript position = entry := by
  rw [entryAt, (drop_eq_cons here).2.1]
  rfl

theorem entryAt_of_length_le {transcript : Transcript} {position : Nat}
    (outside : transcript.length ≤ position) : entryAt transcript position = none := by
  rw [entryAt, List.getElem?_eq_none outside]
  rfl

/-- There is neither a group header nor a node line from one position up to another. -/
def Quiet (transcript : Transcript) (low high : Nat) : Prop :=
  ∀ position, low ≤ position → position < high → interrupts (entryAt transcript position) = false

theorem Quiet.self (transcript : Transcript) (position : Nat) :
    Quiet transcript position position :=
  fun _ least most => absurd least (Nat.not_le_of_lt most)

theorem Quiet.concat {transcript : Transcript} {low high : Nat} (quiet : Quiet transcript low high)
    (here : interrupts (entryAt transcript high) = false) : Quiet transcript low (high + 1) := by
  intro position least most
  rcases Nat.lt_succ_iff_lt_or_eq.mp most with before | rfl
  · exact quiet position least before
  · exact here

/-- The lines since a position, the nearest first. -/
def linesBehind (transcript : Transcript) (low position : Nat) : Transcript :=
  ((transcript.take position).drop low).reverse

theorem linesBehind_self (transcript : Transcript) (position : Nat) :
    linesBehind transcript position position = [] := by
  rw [linesBehind, List.drop_of_length_le (List.length_take_le _ _)]
  rfl

theorem linesBehind_succ {transcript rest : Transcript} {low position : Nat}
    {entry : Option String} (ahead : low ≤ position)
    (here : transcript.drop position = entry :: rest) :
    linesBehind transcript low (position + 1) = entry :: linesBehind transcript low position := by
  obtain ⟨inside, isEntry, _⟩ := drop_eq_cons here
  have within : low ≤ (transcript.take position).length := by
    rw [List.length_take]
    omega
  rw [linesBehind, List.take_add_one, isEntry, List.drop_append_of_le_length within]
  simp [linesBehind]

theorem getElem?_linesBehind {transcript : Transcript} {low position : Nat}
    (inside : position ≤ transcript.length) {index : Nat} (within : index < position - low) :
    (linesBehind transcript low position)[index]? = transcript[position - 1 - index]? := by
  have count : ((transcript.take position).drop low).length = position - low := by
    rw [List.length_drop, List.length_take]
    omega
  rw [linesBehind, List.getElem?_reverse (by omega), count, List.getElem?_drop,
    List.getElem?_take_of_lt (by omega)]
  congr 1
  omega

/-! ## What the first pass does -/

theorem bind_node?_eq_none_iff {entry : Option String} :
    entry.bind node? = none ↔ carries isNode entry = false := by
  cases entry with
  | none => simp only [Option.bind_none, carries_none]
  | some text =>
    rw [Option.bind_some, carries_some, ← isSome_node?]
    cases node? text <;> simp

theorem interrupts_eq (entry : Option String) :
    interrupts entry = (carries opensGroup entry || carries isNode entry) := by
  cases entry with
  | none => simp only [interrupts, carries_none, Bool.or_false]
  | some text => simp only [interrupts, carries_some]

/-- A test whose node line is the first one from a position on, with no group header before it. -/
structure StartsBehind (transcript : Transcript) (low : Nat) (text : String) (extent : Extent) :
    Prop where
  ahead : low ≤ extent.node
  quiet : Quiet transcript low extent.node
  nodeLine : transcript[extent.node]? = some (some text)
  noGroup : opensGroup text = false
  isNode : node? text = some extent.id
  built : extent = extentAt extent.node (linesBehind transcript low extent.node) extent.id text
    (transcript.drop (extent.node + 1))

/-- The tests of a stream from a position on, and nothing that starts a test between them or behind
them, up to the first group header or the end of the stream. -/
inductive LaidOut (transcript : Transcript) : Nat → List Extent → Prop
  | nil {low high : Nat} : low ≤ high → Quiet transcript low high →
      high = transcript.length ∨ carries opensGroup (entryAt transcript high) = true →
      LaidOut transcript low []
  | cons {low : Nat} {text : String} {extent : Extent} {later : List Extent} :
      StartsBehind transcript low text extent → LaidOut transcript extent.finish later →
      LaidOut transcript low (extent :: later)

/-- The first pass lays out the tests. `low` is the end of the test before, and no line since then
starts a test. -/
theorem laidOut_collectExtents (transcript : Transcript) {low position : Nat}
    (ahead : low ≤ position) (inside : position ≤ transcript.length)
    (quiet : Quiet transcript low position) :
    LaidOut transcript low
      (collectExtents position (linesBehind transcript low position) 0
        (transcript.drop position)).1 := by
  -- Behind a test the pass goes on from its end, so the induction is on what is left.
  induction remaining : transcript.length - position using Nat.strongRecOn
    generalizing low position with
  | ind remaining inductionHypothesis =>
    cases here : transcript.drop position with
    | nil =>
      have atEnd : transcript.length ≤ position := List.drop_eq_nil_iff.mp here
      exact .nil ahead quiet (.inl (Nat.le_antisymm inside atEnd))
    | cons entry rest =>
      have isEntry := entryAt_of_drop here
      obtain ⟨before, isLine, isRest⟩ := drop_eq_cons here
      by_cases group : carries opensGroup entry = true
      · rw [collectExtents, if_pos group]
        rw [← isEntry] at group
        exact .nil ahead quiet (.inr group)
      · have noGroup := Bool.eq_false_iff.mpr group
        cases read : entry.bind node? with
        | none =>
          have noStop : interrupts (entryAt transcript position) = false := by
            rw [isEntry, interrupts_eq, noGroup, bind_node?_eq_none_iff.mp read]
            rfl
          rw [collectExtents_other noGroup read, ← linesBehind_succ ahead here, ← isRest]
          exact inductionHypothesis (transcript.length - (position + 1)) (by omega)
            (Nat.le_succ_of_le ahead) before (quiet.concat noStop) rfl
        | some id =>
          obtain ⟨text, rfl, isNode⟩ := Option.bind_eq_some_iff.mp read
          have onward := collectExtents_node here noGroup isNode
            (linesBehind transcript low position)
          rw [here] at onward
          rw [onward]
          obtain ⟨_, _, nodeLt, finishLe⟩ :=
            extentAt_bounds position (linesBehind transcript low position) id text rest
          have restLength : rest.length = transcript.length - (position + 1) := by
            rw [← isRest, List.length_drop]
          rw [carries_some] at noGroup
          have built : extentAt position (linesBehind transcript low position) id text rest =
              extentAt position (linesBehind transcript low position) id text
                (transcript.drop (position + 1)) := by
            rw [isRest]
          have starts : StartsBehind transcript low text
              (extentAt position (linesBehind transcript low position) id text rest) :=
            { ahead := ahead
              quiet := quiet
              nodeLine := isLine
              noGroup := noGroup
              isNode := isNode
              built := built }
          generalize extentAt position (linesBehind transcript low position) id text rest = extent
            at nodeLt finishLe starts ⊢
          have stopLe : extent.stop ≤ extent.finish := Nat.le_add_right _ _
          have finishInside : extent.finish ≤ transcript.length := by omega
          have later := inductionHypothesis (transcript.length - extent.finish) (by omega)
            (Nat.le_refl extent.finish) finishInside (.self _ _) rfl
          rw [linesBehind_self] at later
          exact .cons starts later

theorem Layout.laidOut (transcript : Transcript) :
    LaidOut transcript (sessionStart transcript) (Layout.ofTranscript transcript).extents := by
  have laidOut := laidOut_collectExtents transcript (Nat.le_refl (sessionStart transcript))
    (sessionStart_le transcript) (.self _ _)
  rwa [linesBehind_self] at laidOut

/-! ## The first line of a test -/

theorem reachBack_eq (behind : Transcript) : reachBack behind = behind.findIdx separates := by
  rw [reachBack, List.takeWhile_eq_take_findIdx_not, List.length_take]
  simp only [Bool.not_not]
  exact Nat.min_eq_left List.findIdx_le_length

/-- A test reaches back as far as no line separates it from its node line. -/
theorem StartsBehind.isLeast_start {transcript : Transcript} {low : Nat} {text : String}
    {extent : Extent} (starts : StartsBehind transcript low text extent) :
    IsLeast {start | low ≤ start ∧ ∀ position, start ≤ position → position < extent.node →
      separates (entryAt transcript position) = false} extent.start := by
  have nodeInside : extent.node < transcript.length :=
    (List.getElem?_eq_some_iff.mp starts.nodeLine).1
  have isStart : extent.start =
      extent.node - (linesBehind transcript low extent.node).findIdx separates := by
    rw [← reachBack_eq]
    exact congrArg Extent.start starts.built
  have ahead := starts.ahead
  have count : (linesBehind transcript low extent.node).length = extent.node - low := by
    rw [linesBehind, List.length_reverse, List.length_drop, List.length_take]
    omega
  have entryBehind (index : Nat)
      (within : index < (linesBehind transcript low extent.node).length) :
      (linesBehind transcript low extent.node)[index] =
        entryAt transcript (extent.node - 1 - index) := by
    have same := getElem?_linesBehind (Nat.le_of_lt nodeInside) (count ▸ within)
    rw [List.getElem?_eq_getElem within] at same
    rw [entryAt, ← same]
    rfl
  have reach : (linesBehind transcript low extent.node).findIdx separates ≤
      (linesBehind transcript low extent.node).length := List.findIdx_le_length
  refine ⟨⟨by omega, ?_⟩, ?_⟩
  · intro position least most
    have within : extent.node - 1 - position <
        (linesBehind transcript low extent.node).findIdx separates := by omega
    have goesOn := List.not_of_lt_findIdx within
    rw [entryBehind] at goesOn
    have same : extent.node - 1 - (extent.node - 1 - position) = position := by omega
    rwa [same] at goesOn
  · rintro start ⟨fromLow, goesOn⟩
    by_contra earlier
    have within : (linesBehind transcript low extent.node).findIdx separates <
        (linesBehind transcript low extent.node).length := by omega
    have stops := List.findIdx_getElem (w := within)
    rw [entryBehind] at stops
    rw [goesOn _ (by omega) (by omega)] at stops
    cases stops

/-! ## The last line of a test -/

/-- The keyword of the end mark in a line. -/
def endKeyword? (text : String) : Option String :=
  (endPattern.firstMatch? text).bind fun found => found.group? 1

/-- The outcome of an end mark is the one with its keyword, if there is one. -/
theorem endOutcome?_eq_some_iff {text : String} {outcome : Outcome} :
    endOutcome? text = some outcome ↔ endKeyword? text = some outcome.keyword := by
  unfold endOutcome? endKeyword?
  generalize endPattern.firstMatch? text = search
  cases search with
  | none => simp
  | some found =>
    rw [Option.bind_some]
    constructor
    · intro known
      have sameWord := Outcome.keyword_of_ofKeyword? known
      cases word : found.group? 1 with
      | none =>
        rw [word] at sameWord
        cases outcome <;> simp [Outcome.keyword] at sameWord
      | some keyword =>
        rw [sameWord, word]
        rfl
    · intro word
      dsimp only
      rw [word]
      exact Outcome.ofKeyword?_keyword outcome

/-- The line ends the messages of the test whose node line stands at a position: it carries an end
mark, or it is a later node line or group header. -/
def EndsMessages (transcript : Transcript) (node position : Nat) : Prop :=
  carries endsTest (entryAt transcript position) = true ∨
    node < position ∧ interrupts (entryAt transcript position) = true

/-- The line is the first one that ends the messages. -/
def IsFirstEnd (transcript : Transcript) (node position : Nat) : Prop :=
  IsLeast {other | node ≤ other ∧ EndsMessages transcript node other} position

/-- Where the messages of a test stop, and with which outcome. -/
inductive Closes (transcript : Transcript) (node : Nat) : Nat → Option Outcome → Prop
  /-- At a later node line or group header, which does not belong to the test. -/
  | interrupted {position : Nat} : IsFirstEnd transcript node position → node < position →
      interrupts (entryAt transcript position) = true → Closes transcript node position none
  /-- Behind an end mark, with the outcome that has its keyword. -/
  | marked {position : Nat} {text : String} {outcome : Option Outcome} :
      IsFirstEnd transcript node position → entryAt transcript position = some text →
      (node < position → interrupts (some text) = false) →
      (∀ known : Outcome, outcome = some known ↔ endKeyword? text = some known.keyword) →
      Closes transcript node (position + 1) outcome
  /-- At the end of the stream. -/
  | unended : (∀ position, node ≤ position → ¬EndsMessages transcript node position) →
      Closes transcript node transcript.length none

section Closes

variable {transcript : Transcript} {node : Nat}

theorem isFirstEnd_of_ends {position : Nat} (ahead : node ≤ position)
    (ends : EndsMessages transcript node position)
    (goesOn : ∀ other, node ≤ other → other < position → ¬EndsMessages transcript node other) :
    IsFirstEnd transcript node position := by
  refine ⟨⟨ahead, ends⟩, ?_⟩
  rintro other ⟨fromNode, otherEnds⟩
  by_contra earlier
  exact goesOn other fromNode (Nat.lt_of_not_le earlier) otherEnds

theorem marked_of_isFirstEnd {position : Nat} {text : String}
    (isFirst : IsFirstEnd transcript node position)
    (isEntry : entryAt transcript position = some text)
    (noStop : node < position → interrupts (some text) = false) :
    Closes transcript node (position + 1) (endOutcome? text) := by
  have told (known : Outcome) :
      endOutcome? text = some known ↔ endKeyword? text = some known.keyword :=
    endOutcome?_eq_some_iff
  generalize endOutcome? text = outcome at told ⊢
  exact .marked isFirst isEntry noStop told

/-- Behind a node line the messages go on to the first line that ends them. -/
theorem closes_reachForward {after : Transcript} {position : Nat} (ahead : node < position)
    (inside : position ≤ transcript.length) (here : transcript.drop position = after)
    (goesOn : ∀ other, node ≤ other → other < position → ¬EndsMessages transcript node other) :
    Closes transcript node (position + (reachForward after).1) (reachForward after).2 := by
  induction after generalizing position with
  | nil =>
    have atEnd : position = transcript.length :=
      Nat.le_antisymm inside (List.drop_eq_nil_iff.mp here)
    rw [reachForward, Nat.add_zero, atEnd]
    refine .unended fun other fromNode ends => ?_
    rcases Nat.lt_or_ge other position with before | outside
    · exact goesOn other fromNode before ends
    · rw [EndsMessages, entryAt_of_length_le (atEnd ▸ outside)] at ends
      simp [interrupts] at ends
  | cons entry rest inductionHypothesis =>
    have isEntry := entryAt_of_drop here
    obtain ⟨notEnd, _, onward⟩ := drop_eq_cons here
    rw [reachForward_cons]
    by_cases interrupted : interrupts entry = true
    · rw [if_pos interrupted]
      have stops : interrupts (entryAt transcript position) = true := by rwa [isEntry]
      exact .interrupted (isFirstEnd_of_ends (Nat.le_of_lt ahead) (.inr ⟨ahead, stops⟩) goesOn)
        ahead stops
    · rw [if_neg interrupted]
      have noStop := Bool.eq_false_iff.mpr interrupted
      by_cases marked : carries endsTest entry = true
      · rw [if_pos marked]
        cases entry with
        | none => cases marked
        | some text =>
          have ends : EndsMessages transcript node position := .inl (by rwa [isEntry])
          have told : outcomeIn (some text) = endOutcome? text := Option.bind_some ..
          rw [told]
          dsimp only
          exact marked_of_isFirstEnd (isFirstEnd_of_ends (Nat.le_of_lt ahead) ends goesOn) isEntry
            fun _ => noStop
      · rw [if_neg marked]
        have passed : ¬EndsMessages transcript node position := by
          rw [EndsMessages, isEntry]
          exact not_or.mpr ⟨marked, fun stops => interrupted stops.2⟩
        have further : node < position + 1 := by omega
        have later := inductionHypothesis further notEnd onward
          fun other fromNode before => by
            rcases Nat.lt_succ_iff_lt_or_eq.mp before with earlier | rfl
            · exact goesOn other fromNode earlier
            · exact passed
        rw [Nat.add_right_comm] at later
        exact later

end Closes

theorem StartsBehind.closes {transcript : Transcript} {low : Nat} {text : String}
    {extent : Extent} (starts : StartsBehind transcript low text extent) :
    Closes transcript extent.node extent.stop extent.outcome := by
  have nodeInside : extent.node < transcript.length :=
    (List.getElem?_eq_some_iff.mp starts.nodeLine).1
  have isNodeLine : entryAt transcript extent.node = some text := by
    rw [entryAt, starts.nodeLine]
    rfl
  have nothingBefore : ∀ other, extent.node ≤ other → other < extent.node →
      ¬EndsMessages transcript extent.node other :=
    fun other fromNode before => absurd fromNode (Nat.not_le_of_lt before)
  rw [starts.built, stop_extentAt, outcome_extentAt]
  show Closes transcript extent.node (extent.node + _) _
  rw [reachFromNode]
  split
  · rename_i marked
    have ends : EndsMessages transcript extent.node extent.node :=
      .inl (by rwa [isNodeLine, carries_some])
    dsimp only
    exact marked_of_isFirstEnd (isFirstEnd_of_ends (Nat.le_refl _) ends nothingBefore) isNodeLine
      fun ahead => absurd ahead (Nat.lt_irrefl _)
  · rename_i unmarked
    have passed : ¬EndsMessages transcript extent.node extent.node := by
      rw [EndsMessages, isNodeLine, carries_some]
      exact not_or.mpr ⟨unmarked, fun stops => Nat.lt_irrefl _ stops.1⟩
    have further : extent.node < extent.node + 1 := Nat.lt_succ_self _
    have onward := closes_reachForward further nodeInside rfl
      fun other fromNode before => by
        rcases Nat.lt_succ_iff_lt_or_eq.mp before with earlier | rfl
        · exact nothingBefore other fromNode earlier
        · exact passed
    rw [Nat.add_right_comm] at onward
    exact onward

/-! ## The messages of a test -/

/-- The end of the test before, or the start of the session. -/
def Layout.floorOf (layout : Layout) : Nat → Nat
  | 0 => layout.start
  | test + 1 => (layout.extents[test]?.map Extent.finish).getD layout.start

theorem LaidOut.startsBehind {transcript : Transcript} {low : Nat} {extents : List Extent}
    (laidOut : LaidOut transcript low extents) {test : Nat} {extent : Extent}
    (isTest : extents[test]? = some extent) :
    ∃ text, StartsBehind transcript
      (match test with
        | 0 => low
        | before + 1 => (extents[before]?.map Extent.finish).getD low) text extent := by
  induction laidOut generalizing test with
  | nil => cases isTest
  | @cons low text first later starts laidOut inductionHypothesis =>
    cases test with
    | zero =>
      cases isTest
      exact ⟨text, starts⟩
    | succ test =>
      rw [List.getElem?_cons_succ] at isTest
      obtain ⟨text, starts⟩ := inductionHypothesis isTest
      refine ⟨text, ?_⟩
      cases test with
      | zero => exact starts
      | succ before =>
        obtain ⟨inside, _⟩ := List.getElem?_eq_some_iff.mp isTest
        have isBefore : later[before]? = some later[before] :=
          List.getElem?_eq_getElem (Nat.lt_of_succ_lt inside)
        simp only [isBefore, Option.map_some, Option.getD_some] at starts
        simpa only [List.getElem?_cons_succ, isBefore, Option.map_some, Option.getD_some]
          using starts

/-- The messages of a test begin as early as possible behind the test before, with no blank line of
the runner and no end mark between their first line and the node line. They end with the first end
mark, which tells the outcome, or before the first node line or group header behind the node line;
without either they go on to the end of the stream. -/
theorem messages_exact (runnerPod : String) (lines : List Line) :
    let transcript := transcriptOf runnerPod lines
    let layout := Layout.ofTranscript transcript
    let tests := (ofLines runnerPod lines).tests
    layout.start = sessionStart transcript ∧ tests.length = layout.extents.length ∧
      ∀ test record, tests[test]? = some record → ∃ extent text,
        layout.extents[test]? = some extent ∧
          transcript[extent.node]? = some (some text) ∧ node? text = some record.id ∧
          record.messages = slice lines extent.start extent.stop ∧
          (record.teardown = extent.teardown.map fun count =>
            slice lines extent.stop (extent.stop + count)) ∧
          IsLeast {start | layout.floorOf test ≤ start ∧
            ∀ position, start ≤ position → position < extent.node →
              separates (entryAt transcript position) = false} extent.start ∧
          Closes transcript extent.node extent.stop record.outcome := by
  intro transcript layout tests
  refine ⟨rfl, length_recordsOf lines layout, fun test record isRecord => ?_⟩
  have isRecordOf : layout.extents[test]?.map (recordOf lines layout.placements test) =
      some record := by
    rw [← getElem?_recordsOf]
    exact isRecord
  obtain ⟨extent, isExtent, rfl⟩ := Option.map_eq_some_iff.mp isRecordOf
  obtain ⟨text, starts⟩ := (Layout.laidOut transcript).startsBehind isExtent
  refine ⟨extent, text, isExtent, starts.nodeLine, starts.isNode, rfl, rfl, ?_, starts.closes⟩
  have isLeast := starts.isLeast_start
  cases test <;> exact isLeast

/-- A test that takes in two earlier lines, and after it one that the next test cuts short. -/
def cutShort : List Line :=
  [fromRunner "=== test session starts ===", fromRunner "collected", fromDevice "booting",
    fromRunner "tests/a.py::test_one", fromDevice "ready", fromRunner "PASSED [ 50%]",
    fromRunner "setup", fromRunner "tests/a.py::test_two", fromDevice "hung",
    fromRunner "tests/a.py::test_three"]

/-- The messages of the second test go from the end mark of the first one to the node line of the
third one. -/
theorem messages_exact_cutShort :
    let transcript := transcriptOf defaultRunnerPod cutShort
    ∃ record extent, (ofLines defaultRunnerPod cutShort).tests[1]? = some record ∧
      record.messages = slice cutShort 6 9 ∧ record.outcome = none ∧
      (Layout.ofTranscript transcript).extents[1]? = some extent ∧
      record.messages = slice cutShort extent.start extent.stop ∧
      Closes transcript extent.node extent.stop record.outcome := by
  intro transcript
  have seen : (ofLines defaultRunnerPod cutShort).tests[1]?.map
      (fun record => (record.messages, record.outcome)) = some (slice cutShort 6 9, none) := by
    decide +kernel
  obtain ⟨record, isRecord, isSeen⟩ := Option.map_eq_some_iff.mp seen
  rw [Prod.mk.injEq] at isSeen
  obtain ⟨extent, _, isExtent, _, _, isSlice, _, _, closes⟩ :=
    (messages_exact defaultRunnerPod cutShort).2.2 1 record isRecord
  exact ⟨record, extent, isRecord, isSeen.1, isSeen.2, isExtent, isSlice, closes⟩

end RunTriage.Session
