import RunTriage.Proofs.Attribution

/-!
Contract: what the lines that are not the runner's can change in a session.

Owns:
- `AgreesOnRunner`, which holds of two streams that differ in such lines only;
- `ReadAlike`, what all such streams have in common: every decision about tests and
  sections, the positions of every section, and the detail reports line by line.

Does not own: streams of different lengths.
-/

namespace RunTriage.Session

/-! ## Streams that differ in payload -/

/-- The same line, or two lines that both are not the runner's. -/
def SameOrPayload (runnerPod : String) (left right : Line) : Prop :=
  left = right ∨ isRunnerLine runnerPod left = false ∧ isRunnerLine runnerPod right = false

/-- The streams are equally long, and they differ at most where both hold a line that is not
the runner's. -/
abbrev AgreesOnRunner (runnerPod : String) (left right : List Line) : Prop :=
  List.Forall₂ (SameOrPayload runnerPod) left right

section Agreement

variable {runnerPod : String} {left right : List Line}

theorem AgreesOnRunner.transcriptOf_eq (agrees : AgreesOnRunner runnerPod left right) :
    transcriptOf runnerPod left = transcriptOf runnerPod right := by
  induction agrees with
  | nil => rfl
  | cons same _ inductionHypothesis =>
    rw [transcriptOf, List.map_cons, transcriptOf, List.map_cons]
    refine congrArg₂ List.cons ?_ inductionHypothesis
    rcases same with rfl | ⟨leftPayload, rightPayload⟩
    · rfl
    · rw [leftPayload, rightPayload]
      rfl

/-- Where the runner speaks in one stream, the other holds the same line. -/
theorem AgreesOnRunner.line_eq (agrees : AgreesOnRunner runnerPod left right) {position : Nat}
    {text : String} (isText : (transcriptOf runnerPod left)[position]? = some (some text)) :
    left[position]? = right[position]? := by
  induction agrees generalizing position with
  | nil => rfl
  | cons same _ inductionHypothesis =>
    cases position with
    | zero =>
      rcases same with rfl | ⟨leftPayload, _⟩
      · rfl
      · rw [transcriptOf, List.map_cons, leftPayload] at isText
        cases isText
    | succ position => exact inductionHypothesis isText

theorem AgreesOnRunner.slice (agrees : AgreesOnRunner runnerPod left right) (start stop : Nat) :
    AgreesOnRunner runnerPod (slice left start stop) (slice right start stop) :=
  List.forall₂_take _ (List.forall₂_drop _ agrees)

end Agreement

/-! ## Records -/

/-- Two records of the same test with the same decisions. The detail reports are the same,
and the lines of the messages and of the teardown are as many and differ in payload only. -/
structure SameDecisions (runnerPod : String) (left right : TestRecord) : Prop where
  id : left.id = right.id
  outcome : left.outcome = right.outcome
  messages : AgreesOnRunner runnerPod left.messages right.messages
  teardown : Option.Rel (AgreesOnRunner runnerPod) left.teardown right.teardown
  teardownOutcome : left.teardownOutcome = right.teardownOutcome
  details : left.details = right.details

section Records

variable {runnerPod : String} {left right : List Line}

theorem detailsOf_congr {placements : List Placement}
    (same : ∀ placement ∈ placements, left[placement.position]? = right[placement.position]?)
    (test : Nat) : detailsOf left placements test = detailsOf right placements test := by
  refine List.foldl_ext _ _ _ fun details placement member => ?_
  rw [addPlacement, addPlacement, same placement (List.mem_of_mem_filter member)]

theorem AgreesOnRunner.recordOf (agrees : AgreesOnRunner runnerPod left right)
    {placements : List Placement}
    (same : ∀ placement ∈ placements, left[placement.position]? = right[placement.position]?)
    (test : Nat) (extent : Extent) :
    SameDecisions runnerPod (recordOf left placements test extent)
      (recordOf right placements test extent) where
  id := rfl
  outcome := rfl
  messages := agrees.slice _ _
  teardown := by
    show Option.Rel _ (extent.teardown.map _) (extent.teardown.map _)
    cases extent.teardown with
    | none => exact .none
    | some count => exact .some (agrees.slice _ _)
  teardownOutcome := rfl
  details := detailsOf_congr same test

theorem AgreesOnRunner.recordsOf (agrees : AgreesOnRunner runnerPod left right) {layout : Layout}
    (same : ∀ placement ∈ layout.placements,
      left[placement.position]? = right[placement.position]?) :
    List.Forall₂ (SameDecisions runnerPod) (recordsOf left layout) (recordsOf right layout) := by
  refine List.forall₂_iff_get.mpr ⟨?_, fun test _ _ => ?_⟩
  · simp [Session.recordsOf]
  · simp only [Session.recordsOf, List.get_eq_getElem, List.getElem_mapIdx]
    exact agrees.recordOf same test _

end Records

/-! ## Sessions -/

/-- The positions of the sections of each test in a stream. -/
def sectionPositions (runnerPod : String) (lines : List Line) : List Attribution :=
  attributionsOf (Layout.ofTranscript (transcriptOf runnerPod lines))

/-- Both streams are divided at the same positions, and their tests differ at most in the
payload among their messages and teardowns. -/
structure ReadAlike (runnerPod : String) (left right : List Line) : Prop where
  sessionLines : (ofLines runnerPod left).sessionLines = (ofLines runnerPod right).sessionLines
  unattributed : (ofLines runnerPod left).unattributed = (ofLines runnerPod right).unattributed
  discardedReports :
    (ofLines runnerPod left).discardedReports = (ofLines runnerPod right).discardedReports
  tests : List.Forall₂ (SameDecisions runnerPod) (ofLines runnerPod left).tests
    (ofLines runnerPod right).tests
  positions : sectionPositions runnerPod left = sectionPositions runnerPod right
  leftHolds : List.Forall₂ (Attribution.Explains left) (sectionPositions runnerPod left)
    (ofLines runnerPod left).tests
  rightHolds : List.Forall₂ (Attribution.Explains right) (sectionPositions runnerPod right)
    (ofLines runnerPod right).tests

/-- Lines that are not the runner's decide nothing. Whatever such a line holds, be it a text
that looks like the runner's, another line that is not the runner's can stand in its place:
the tests, the positions of their sections and all counts stay as they are, and so do the
lines of the detail reports. -/
theorem ofLines_ignores_payload {runnerPod : String} {left right : List Line}
    (agrees : AgreesOnRunner runnerPod left right) : ReadAlike runnerPod left right := by
  have sameTranscript := agrees.transcriptOf_eq
  have sameLength : left.length = right.length := agrees.length_eq
  have samePositions : sectionPositions runnerPod left = sectionPositions runnerPod right := by
    rw [sectionPositions, sameTranscript]
    rfl
  have samePlaced (placement : Placement)
      (member : placement ∈ (Layout.ofTranscript (transcriptOf runnerPod left)).placements) :
      left[placement.position]? = right[placement.position]? := by
    obtain ⟨text, isText⟩ := Layout.placements_of_runner _ placement member
    exact agrees.line_eq isText
  have leftAttributes := attributes_ofLines runnerPod left
  have rightAttributes := attributes_ofLines runnerPod right
  have sameSessionLines :
      (ofLines runnerPod left).sessionLines = (ofLines runnerPod right).sessionLines := by
    show left.length - sessionStart (transcriptOf runnerPod left) = _
    rw [sameLength, sameTranscript]
    rfl
  -- The tests hold as many lines in one stream as in the other, since they hold those at the
  -- same positions.
  have sameAttributed : (ofLines runnerPod left).attributed =
      (ofLines runnerPod right).attributed := by
    have leftHeld := countLines_eq leftAttributes.explains
      fun position member => (leftAttributes.inside position member).2
    have rightHeld := countLines_eq rightAttributes.explains
      fun position member => (rightAttributes.inside position member).2
    rw [attributed, leftHeld, attributed, rightHeld, sameTranscript]
  refine ⟨sameSessionLines, ?_, ?_, ?_, samePositions, leftAttributes.explains,
    rightAttributes.explains⟩
  · show (ofLines runnerPod left).sessionLines - (ofLines runnerPod left).attributed =
      (ofLines runnerPod right).sessionLines - (ofLines runnerPod right).attributed
    rw [sameSessionLines, sameAttributed]
  · show (Layout.ofTranscript (transcriptOf runnerPod left)).discarded = _
    rw [sameTranscript]
    rfl
  · have sameDecisions := agrees.recordsOf samePlaced
    rw [sameTranscript] at sameDecisions
    show List.Forall₂ _ (Session.recordsOf left (Layout.ofTranscript _)) _
    rw [sameTranscript]
    exact sameDecisions

def fromRunner (message : String) : Line :=
  { Line.ofMessage message with pod := some "makefile-runner" }

def fromDevice (message : String) : Line :=
  { Line.ofMessage message with pod := some "centralnode-01-0" }

theorem isRunnerLine_fromDevice (message : String) :
    isRunnerLine defaultRunnerPod (fromDevice message) = false := by
  show Text.contains "centralnode-01-0" defaultRunnerPod = false
  decide +kernel

/-- A failed test with its report, and a line of a device in the middle of each. -/
def failedTest (device : Line) : List Line :=
  [fromRunner "tests/a.py::test_one ", device, fromRunner "FAILED [100%]",
    fromRunner "=== FAILURES ===", fromRunner "___ test_one ___", device, fromRunner "E   boom"]

/-- A device that prints what a runner would print about a second test, and what it printed
before. -/
theorem ofLines_ignores_forgedTest :
    let quiet := failedTest (fromDevice "booting")
    let forging := failedTest (fromDevice "tests/b.py::test_two PASSED [100%]")
    AgreesOnRunner defaultRunnerPod quiet forging ∧
      ReadAlike defaultRunnerPod quiet forging := by
  intro quiet forging
  have replaced (before after : String) :
      SameOrPayload defaultRunnerPod (fromDevice before) (fromDevice after) :=
    .inr ⟨isRunnerLine_fromDevice before, isRunnerLine_fromDevice after⟩
  have agrees : AgreesOnRunner defaultRunnerPod quiet forging :=
    .cons (.inl rfl) (.cons (replaced _ _) (.cons (.inl rfl) (.cons (.inl rfl)
      (.cons (.inl rfl) (.cons (replaced _ _) (.cons (.inl rfl) .nil))))))
  exact ⟨agrees, ofLines_ignores_payload agrees⟩

end RunTriage.Session
