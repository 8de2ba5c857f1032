import RunTriage.Proofs.LayoutInsertion
import RunTriage.Proofs.Payload

/-!
Contract: what becomes of a session when lines are inserted that are not the runner's.

Owns:
- `outlineOf`, the outline of a record;
- `IsJoint`, the positions of a stream that are joints of one of its tests;
- the tests and the discarded reports of a session with insertions, which are the same if and
  only if nothing is inserted at a joint.

Does not own: lines that are replaced, which are in `RunTriage.Proofs.Payload`.
-/

namespace RunTriage.Session

/-! ## Sessions -/

/-- The outline of a record. -/
def outlineOf (runnerPod : String) (record : TestRecord) : Outline :=
  { id := record.id
    outcome := record.outcome
    teardown := record.teardown.map fun lines =>
      (lines.filter (isRunnerLine runnerPod)).map Line.message
    teardownOutcome := record.teardownOutcome }

/-- A position of a stream where a line in between breaks the teardown of a test. -/
def IsJoint (runnerPod : String) (lines : List Line) (position : Nat) : Prop :=
  ∃ extent ∈ (Layout.ofTranscript (transcriptOf runnerPod lines)).extents,
    extent.IsJoint (transcriptOf runnerPod lines) position

section Sessions

variable {runnerPod : String} {lines : List Line} {extra : Nat → List Line}

theorem reduceOption_transcriptOf (runnerPod : String) (lines : List Line) :
    (transcriptOf runnerPod lines).reduceOption =
      (lines.filter (isRunnerLine runnerPod)).map Line.message := by
  induction lines with
  | nil => rfl
  | cons line rest inductionHypothesis =>
    cases isRunner : isRunnerLine runnerPod line with
    | true =>
      have entry : transcriptOf runnerPod (line :: rest) =
          some line.message :: transcriptOf runnerPod rest := by
        simp [transcriptOf, isRunner]
      rw [entry, List.reduceOption_cons_of_some, inductionHypothesis,
        List.filter_cons_of_pos isRunner, List.map_cons]
    | false =>
      have entry : transcriptOf runnerPod (line :: rest) =
          none :: transcriptOf runnerPod rest := by
        simp [transcriptOf, isRunner]
      rw [entry, List.reduceOption_cons_of_none, inductionHypothesis,
        List.filter_cons_of_neg (by simp [isRunner])]

theorem outlineOf_recordOf (placements : List Placement) (test : Nat) (extent : Extent) :
    outlineOf runnerPod (recordOf lines placements test extent) =
      outlineAt (transcriptOf runnerPod lines) extent := by
  have heardIn (count : Nat) : ((slice lines extent.stop (extent.stop + count)).filter
        (isRunnerLine runnerPod)).map Line.message =
      (((transcriptOf runnerPod lines).drop extent.stop).take count).reduceOption := by
    rw [← reduceOption_transcriptOf, slice, Nat.add_sub_cancel_left, transcriptOf, transcriptOf,
      List.map_take, List.map_drop]
  have sameTeardown : (extent.teardown.map fun count =>
        slice lines extent.stop (extent.stop + count)).map (fun lines =>
          (lines.filter (isRunnerLine runnerPod)).map Line.message) =
      extent.teardown.map fun count =>
        (((transcriptOf runnerPod lines).drop extent.stop).take count).reduceOption := by
    cases extent.teardown with
    | none => rfl
    | some count => exact congrArg some (heardIn count)
  exact congrArg (Outline.mk extent.id extent.outcome · extent.teardownOutcome) sameTeardown

theorem map_outlineOf (runnerPod : String) (lines : List Line) :
    (ofLines runnerPod lines).tests.map (outlineOf runnerPod) =
      (Layout.ofTranscript (transcriptOf runnerPod lines)).extents.map
        (outlineAt (transcriptOf runnerPod lines)) := by
  show (recordsOf lines (Layout.ofTranscript (transcriptOf runnerPod lines))).map _ = _
  refine List.ext_getElem (by simp [recordsOf]) fun index _ _ => ?_
  simp only [recordsOf, List.getElem_map, List.getElem_mapIdx]
  exact outlineOf_recordOf _ _ _

theorem transcriptOf_insertFrom (runnerPod : String) (extra : Nat → List Line) (lines : List Line) :
    transcriptOf runnerPod (insertFrom extra 0 lines) =
      insertFrom (fun place => transcriptOf runnerPod (extra place)) 0
        (transcriptOf runnerPod lines) :=
  map_insertFrom _ 0 lines

theorem onlyGaps_transcriptOf (payload : ∀ line ∈ lines, isRunnerLine runnerPod line = false) :
    OnlyGaps (transcriptOf runnerPod lines) := by
  intro entry member
  obtain ⟨line, isLine, rfl⟩ := List.mem_map.mp member
  rw [payload line isLine]
  rfl

/-- Lines that are not the runner's can be inserted anywhere after the start of a session but at
its joints, and nothing changes in its tests and in the number of discarded reports. At a joint
they change what the runner says in a teardown, and with it possibly the number of tests. -/
theorem ofLines_insertFrom_iff
    (payload : ∀ place, ∀ line ∈ extra place, isRunnerLine runnerPod line = false)
    (afterStart : ∀ place < sessionStart (transcriptOf runnerPod lines), extra place = []) :
    ((ofLines runnerPod (insertFrom extra 0 lines)).tests.map (outlineOf runnerPod) =
          (ofLines runnerPod lines).tests.map (outlineOf runnerPod) ∧
        (ofLines runnerPod (insertFrom extra 0 lines)).discardedReports =
          (ofLines runnerPod lines).discardedReports) ↔
      ∀ place, IsJoint runnerPod lines place → extra place = [] := by
  let gapsAt (place : Nat) : Transcript := transcriptOf runnerPod (extra place)
  have gaps (place : Nat) : OnlyGaps (gapsAt place) := onlyGaps_transcriptOf (payload place)
  have noGap {place : Nat} : gapsAt place = [] ↔ extra place = [] := List.map_eq_nil_iff
  have intactIff : Intact gapsAt (transcriptOf runnerPod lines)
      (Layout.ofTranscript (transcriptOf runnerPod lines)).extents ↔
        ∀ place, IsJoint runnerPod lines place → extra place = [] := by
    constructor
    · rintro intact place ⟨extent, member, isJoint⟩
      exact noGap.mp (intact extent member place isJoint)
    · intro nothing extent member place isJoint
      exact noGap.mpr (nothing place ⟨extent, member, isJoint⟩)
  rw [map_outlineOf, map_outlineOf, ← intactIff]
  show _ ∧ (Layout.ofTranscript _).discarded = (Layout.ofTranscript _).discarded ↔ _
  rw [transcriptOf_insertFrom]
  exact Layout.ofTranscript_insertFrom_iff gaps fun place before =>
    noGap.mpr (afterStart place before)

/-- A test whose teardown fails after a log, in which a device speaks as well. -/
def failedTeardown : List Line :=
  [fromRunner "tests/a.py::test_one PASSED [ 50%]",
    fromRunner "------------ live log teardown ------------", fromDevice "powering off",
    fromRunner "", fromRunner "tests/a.py::test_one ERROR [ 50%]"]

/-- A device speaks before each of some positions. -/
def chatter (places : List Nat) (place : Nat) : List Line :=
  if place ∈ places then [fromDevice "booting"] else []

theorem payload_chatter (places : List Nat) :
    ∀ place, ∀ line ∈ chatter places place, isRunnerLine defaultRunnerPod line = false := by
  intro place line member
  unfold chatter at member
  split at member
  · rw [List.mem_singleton.mp member]
    exact isRunnerLine_fromDevice "booting"
  · cases member

/-- The device may speak before the test, anywhere in the log, and behind the teardown. -/
theorem ofLines_insertFrom_chatter :
    let extra := chatter [0, 2, 3, 5]
    let wide := ofLines defaultRunnerPod (insertFrom extra 0 failedTeardown)
    let narrow := ofLines defaultRunnerPod failedTeardown
    sessionStart (transcriptOf defaultRunnerPod failedTeardown) = 0 ∧
      wide.tests.map (outlineOf defaultRunnerPod) =
        narrow.tests.map (outlineOf defaultRunnerPod) ∧
      wide.discardedReports = narrow.discardedReports := by
  intro extra wide narrow
  have atFirstLine : sessionStart (transcriptOf defaultRunnerPod failedTeardown) = 0 := by
    decide +kernel
  have afterStart : ∀ place < sessionStart (transcriptOf defaultRunnerPod failedTeardown),
      extra place = [] := by
    rw [atFirstLine]
    exact fun place before => absurd before (Nat.not_lt_zero place)
  have nothingAtJoints : ∀ place, IsJoint defaultRunnerPod failedTeardown place →
      extra place = [] := by
    rintro place ⟨extent, member, isJoint⟩
    have elsewhere : ∀ extent ∈
        (Layout.ofTranscript (transcriptOf defaultRunnerPod failedTeardown)).extents,
        extent.finish = 5 ∧ ∀ place < 5,
          extent.IsJoint (transcriptOf defaultRunnerPod failedTeardown) place →
            place = 1 ∨ place = 4 := by
      decide +kernel
    obtain ⟨finish, joints⟩ := elsewhere extent member
    rcases joints place (finish ▸ isJoint.1) isJoint with rfl | rfl <;> rfl
  exact ⟨atFirstLine,
    (ofLines_insertFrom_iff (payload_chatter _) afterStart).mpr nothingAtJoints⟩

/-- The identity, outcome and teardown outcome of each test. -/
def verdicts (session : Session) : List (NodeId × Option Outcome × Option Outcome) :=
  session.tests.map fun test => (test.id, test.outcome, test.teardownOutcome)

/-- If the device speaks between the blank line and the second line about the test, a second test
appears, and the failure of the teardown is lost. -/
theorem verdicts_torn :
    sessionStart (transcriptOf defaultRunnerPod failedTeardown) = 0 ∧
      (∀ place, ∀ line ∈ chatter [4] place, isRunnerLine defaultRunnerPod line = false) ∧
      verdicts (ofLines defaultRunnerPod failedTeardown) =
        [(⟨"tests/a.py", "test_one", none⟩, some .passed, some .error)] ∧
      verdicts (ofLines defaultRunnerPod (insertFrom (chatter [4]) 0 failedTeardown)) =
        [(⟨"tests/a.py", "test_one", none⟩, some .passed, none),
          (⟨"tests/a.py", "test_one", none⟩, some .error, none)] := by
  refine ⟨?_, payload_chatter [4], ?_, ?_⟩
  · decide +kernel
  · decide +kernel
  · decide +kernel

end Sessions

end RunTriage.Session
