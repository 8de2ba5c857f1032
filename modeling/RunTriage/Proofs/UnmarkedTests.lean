import RunTriage.Proofs.NodeLines

/-!
Contract: the teardown of a test whose messages end without an end mark.

Owns:
- `endsMarked`, which tells from a record whether the runner ended the test;
- the line behind the messages of such a test, which is its whole teardown if it starts with the
  identity of the test, while without it the test has no teardown;
- a stream in which the outcome of a test is taken for that of its teardown.

Does not own: where the messages of a test end, which is in `RunTriage.Proofs.TestWindows`, and the
teardown behind an end mark, which is in `RunTriage.Proofs.TestLines`.
-/

namespace RunTriage.Session

/-- The messages end with a line of the runner that carries an end mark. -/
def endsMarked (runnerPod : String) (record : TestRecord) : Bool :=
  record.messages.getLast?.any fun line => isRunnerLine runnerPod line && endsTest line.message

/-- The line at a position, if it is one of the runner's about a test: the identity of the test and
a space stand at its start. -/
def lineAbout? (runnerPod : String) (lines : List Line) (id : NodeId) (position : Nat) :
    Option Line :=
  lines[position]?.filter fun line =>
    isRunnerLine runnerPod line && Text.startsWith line.message (id.display ++ " ")

/-! ## The first line behind the messages -/

theorem opensTeardown_of_interrupts {entry : Option String} (stops : interrupts entry = true) :
    carries opensTeardown entry = false := by
  refine Bool.eq_false_iff.mpr fun opens => ?_
  rw [interrupts_of_opensTeardown opens] at stops
  cases stops

/-- A line that cuts a test short opens no log of a teardown, so it is the teardown itself or there
is none. -/
theorem teardownAfter_of_interrupts {id : NodeId} {entry : Option String}
    (stops : interrupts entry = true) (rest : Transcript) :
    teardownAfter id (entry :: rest) =
      if repeats id entry then some (1, outcomeIn entry) else none := by
  rw [teardownAfter, opensTeardown_of_interrupts stops]
  rfl

/-- Messages end at the first line that ends them. Without an end mark the test has no outcome, and
what follows is the end of the stream or a line that cuts the test short. -/
theorem Closes.of_unmarked {transcript : Transcript} {node stop : Nat} {outcome : Option Outcome}
    (closes : Closes transcript node stop outcome)
    (unmarked : carries endsTest (entryAt transcript (stop - 1)) = false) :
    outcome = none ∧ (stop = transcript.length ∨ interrupts (entryAt transcript stop) = true) := by
  cases closes with
  | interrupted _ _ stops => exact ⟨rfl, .inr stops⟩
  | @marked position text _ isFirst isEntry noStop _ =>
    rcases isFirst.1.2 with marked | ⟨behind, stops⟩
    · rw [Nat.add_sub_cancel, marked] at unmarked
      cases unmarked
    · rw [isEntry, noStop behind] at stops
      cases stops
  | unended _ => exact ⟨rfl, .inl rfl⟩

/-- The teardown of a test without an end mark is told by the line behind its messages alone. -/
theorem StartsBehind.teardown_of_unmarked {transcript : Transcript} {low : Nat} {text : String}
    {extent : Extent} (starts : StartsBehind transcript low text extent)
    (unmarked : carries endsTest (entryAt transcript (extent.stop - 1)) = false) :
    extent.outcome = none ∧
      extent.teardown =
        (if repeats extent.id (entryAt transcript extent.stop) then some 1 else none) ∧
      extent.teardownOutcome =
        if repeats extent.id (entryAt transcript extent.stop) then
          outcomeIn (entryAt transcript extent.stop)
        else none := by
  obtain ⟨noOutcome, behind⟩ := starts.closes.of_unmarked unmarked
  obtain ⟨isTeardown, isOutcome⟩ := starts.teardown_eq
  rw [isTeardown, isOutcome]
  refine ⟨noOutcome, ?_⟩
  cases here : transcript.drop extent.stop with
  | nil =>
    have noLine := entryAt_of_length_le (List.drop_eq_nil_iff.mp here)
    rw [noLine]
    exact ⟨rfl, rfl⟩
  | cons entry rest =>
    have isEntry := entryAt_of_drop here
    have stops : interrupts entry = true := by
      rcases behind with atEnd | stops
      · have inside := (drop_eq_cons here).1
        omega
      · rwa [isEntry] at stops
    rw [teardownAfter_of_interrupts stops, isEntry]
    split <;> exact ⟨rfl, rfl⟩

/-! ## Records -/

section Records

variable {runnerPod : String} {lines : List Line} {low : Nat} {text : String} {extent : Extent}

theorem StartsBehind.start_lt_stop {transcript : Transcript}
    (starts : StartsBehind transcript low text extent) : extent.start < extent.stop := by
  have reachesBack : extent.start ≤ extent.node := by
    rw [starts.built]
    exact Nat.sub_le _ _
  exact Nat.lt_of_le_of_lt reachesBack starts.bounds.2.1

theorem endsMarked_recordOf (starts : StartsBehind (transcriptOf runnerPod lines) low text extent)
    (placements : List Placement) (test : Nat) :
    endsMarked runnerPod (recordOf lines placements test extent) =
      carries endsTest (entryAt (transcriptOf runnerPod lines) (extent.stop - 1)) := by
  obtain ⟨_, _, stopLe, finishLe⟩ := starts.bounds
  have length : (transcriptOf runnerPod lines).length = lines.length := List.length_map _
  have lastLine : (slice lines extent.start extent.stop).getLast? = lines[extent.stop - 1]? :=
    getLast?_slice starts.start_lt_stop (by omega)
  rw [endsMarked, recordOf, lastLine, carries_transcriptOf]

theorem isSome_lineAbout? (id : NodeId) (position : Nat) :
    (lineAbout? runnerPod lines id position).isSome =
      repeats id (entryAt (transcriptOf runnerPod lines) position) := by
  rw [repeats, carries_transcriptOf, lineAbout?]
  cases lines[position]? with
  | none => rfl
  | some line =>
    rw [Option.filter_some, Option.any_some]
    cases isRunnerLine runnerPod line && Text.startsWith line.message (id.display ++ " ") <;> rfl

/-- What is known of a line about a test. -/
theorem lineAbout?_eq_some {id : NodeId} {position : Nat} {line : Line}
    (isAbout : lineAbout? runnerPod lines id position = some line) :
    slice lines position (position + 1) = [line] ∧
      entryAt (transcriptOf runnerPod lines) position = some line.message := by
  obtain ⟨isLine, holds⟩ := Option.filter_eq_some_iff.mp isAbout
  have spoken := ((Bool.and_eq_true _ _).mp holds).1
  constructor
  · obtain ⟨inside, rfl⟩ := List.getElem?_eq_some_iff.mp isLine
    rw [slice, Nat.add_sub_cancel_left, List.drop_eq_getElem_cons inside]
    rfl
  · rw [entryAt, transcriptOf, List.getElem?_map, isLine, Option.map_some, if_pos spoken]
    rfl

end Records

/-- A test whose messages end without an end mark has no outcome, and it has a teardown just if the
line behind its messages is one about the same test. That line is the whole teardown and tells its
outcome. So these are exactly the tests with a teardown that does not follow an end mark. -/
theorem unmarked_teardown_iff (runnerPod : String) (lines : List Line) :
    let extents := (Layout.ofTranscript (transcriptOf runnerPod lines)).extents
    let tests := (ofLines runnerPod lines).tests
    tests.length = extents.length ∧
      ∀ (test : Nat) (record : TestRecord), tests[test]? = some record →
        ∃ extent, extents[test]? = some extent ∧
          record.messages = slice lines extent.start extent.stop ∧
          let behind := lineAbout? runnerPod lines record.id extent.stop
          (endsMarked runnerPod record = false →
            record.outcome = none ∧ record.teardown = behind.map (fun line => [line]) ∧
              record.teardownOutcome = behind.bind fun line => endOutcome? line.message) ∧
          (record.teardown ≠ none ∧ endsMarked runnerPod record = false ↔
            behind ≠ none ∧ endsMarked runnerPod record = false) := by
  intro extents tests
  refine ⟨length_recordsOf lines _, fun test record isRecord => ?_⟩
  obtain ⟨extent, isTest, rfl⟩ := getElem?_tests_eq_some_iff.mp isRecord
  obtain ⟨_, _, starts⟩ := (Layout.laidOut (transcriptOf runnerPod lines)).startsBehind_of_mem
    (List.mem_of_getElem? isTest)
  refine ⟨extent, isTest, rfl, ?_⟩
  intro behind
  have told : endsMarked runnerPod (recordOf lines
      (Layout.ofTranscript (transcriptOf runnerPod lines)).placements test extent) = false →
      extent.outcome = none ∧
        (extent.teardown.map fun count => slice lines extent.stop (extent.stop + count)) =
          behind.map (fun line => [line]) ∧
        extent.teardownOutcome = behind.bind fun line => endOutcome? line.message := by
    intro unmarked
    rw [endsMarked_recordOf starts] at unmarked
    obtain ⟨noOutcome, teardown, outcome⟩ := starts.teardown_of_unmarked unmarked
    have isBehind : behind.isSome = repeats extent.id
        (entryAt (transcriptOf runnerPod lines) extent.stop) := isSome_lineAbout? _ _
    refine ⟨noOutcome, ?_⟩
    rw [teardown, outcome, ← isBehind]
    cases found : behind with
    | none => exact ⟨rfl, rfl⟩
    | some line =>
      obtain ⟨isSlice, isEntry⟩ := lineAbout?_eq_some found
      rw [isEntry]
      exact ⟨congrArg some isSlice, rfl⟩
  refine ⟨told, and_congr_left fun unmarked => not_congr ?_⟩
  have isTeardown := (told unmarked).2.1
  show (extent.teardown.map fun count => slice lines extent.stop (extent.stop + count)) = none ↔ _
  rw [isTeardown, Option.map_eq_none_iff]

/-- A test whose node line comes twice, the second time with its outcome. -/
def nodeLineTwice : List Line :=
  [fromRunner "tests/a.py::test_one", fromRunner "tests/a.py::test_one FAILED [ 50%]"]

/-- The second line is taken for a teardown, and its outcome for that of the teardown. -/
theorem unmarked_teardown_nodeLineTwice :
    ∃ record, (ofLines defaultRunnerPod nodeLineTwice).tests[0]? = some record ∧
      endsMarked defaultRunnerPod record = false ∧ record.outcome = none ∧
      record.teardown = some [fromRunner "tests/a.py::test_one FAILED [ 50%]"] ∧
      record.teardownOutcome = some .failed := by
  have seen : (ofLines defaultRunnerPod nodeLineTwice).tests[0]?.map (fun record =>
      (endsMarked defaultRunnerPod record, record.id)) =
        some (false, ⟨"tests/a.py", "test_one", none⟩) := by
    decide +kernel
  have stops : (Layout.ofTranscript (transcriptOf defaultRunnerPod nodeLineTwice)).extents[0]?.map
      Extent.stop = some 1 := by
    decide +kernel
  obtain ⟨record, isRecord, isSeen⟩ := Option.map_eq_some_iff.mp seen
  obtain ⟨unmarked, isId⟩ := Prod.mk.inj isSeen
  obtain ⟨extent, isTest, _, told, _⟩ :=
    (unmarked_teardown_iff defaultRunnerPod nodeLineTwice).2 0 record isRecord
  obtain ⟨noOutcome, teardown, outcome⟩ := told unmarked
  have isStop : extent.stop = 1 := by
    rw [isTest] at stops
    exact Option.some.inj stops
  have behind : lineAbout? defaultRunnerPod nodeLineTwice ⟨"tests/a.py", "test_one", none⟩ 1 =
      some (fromRunner "tests/a.py::test_one FAILED [ 50%]") := by
    decide +kernel
  rw [isStop, isId, behind] at teardown outcome
  have isFailure : endOutcome? "tests/a.py::test_one FAILED [ 50%]" = some .failed := by
    decide +kernel
  exact ⟨record, isRecord, unmarked, noOutcome, teardown, outcome.trans isFailure⟩

/-- A test without an end mark takes a line with its own identity as its teardown. -/
theorem teardown_without_endMark :
    ∃ record ∈ (ofLines defaultRunnerPod nodeLineTwice).tests,
      record.teardown ≠ none ∧ record.teardownOutcome ≠ none ∧
        endsMarked defaultRunnerPod record = false := by
  decide +kernel

end RunTriage.Session
