import RunTriage.Session.Marker
import RunTriage.Text.Search

/-!
Contract: how the runner's lines divide a stream of log lines among tests.

A layout tells by position which lines belong to which section of which test. It
depends on the runner's lines only: all other lines are seen as gaps.

Owns:
- `Transcript`, the texts of the runner's lines at their positions;
- `collectExtents`, the pass that finds each test with its messages and its
  teardown;
- `placeReports`, the pass that attaches the lines of detail reports;
- `Layout.ofTranscript`, both passes from the start of the session on.

Does not own: the lines themselves, which `RunTriage.Session.Basic` looks up.
-/

namespace RunTriage.Session

/-- The stream as the runner's part of it: the text of each of its lines, and
nothing for a line of anyone else. -/
abbrev Transcript := List (Option String)

/-- The line comes from the runner and its text has a property. -/
def carries (holds : String → Bool) (entry : Option String) : Bool :=
  entry.any holds

/-- A blank line of the runner. -/
def isBlankLine (entry : Option String) : Bool := carries String.isEmpty entry

/-- Where the session starts: after the first header, or at the first line. -/
def sessionStart (transcript : Transcript) : Nat :=
  match transcript.findIdx? (carries opensSession) with
  | some index => index + 1
  | none => 0

/-! ## Tests with their messages and teardown -/

/-- The place of a test in the stream. Its messages are the positions from
`start` up to `stop`, and its teardown the positions from there on. -/
structure Extent where
  id : NodeId
  start : Nat
  node : Nat
  stop : Nat
  outcome : Option Outcome
  /-- Number of lines of the teardown, if there is one. -/
  teardown : Option Nat
  teardownOutcome : Option Outcome
deriving DecidableEq, Repr

/-- The first position after the test. -/
def Extent.finish (extent : Extent) : Nat := extent.stop + extent.teardown.getD 0

/-- A line that a test does not reach back over: a blank line of the runner, or
the end mark of an earlier test. -/
def separates (entry : Option String) : Bool :=
  carries (fun text => text.isEmpty || endsTest text) entry

/-- How many lines before a node line belong to the test as well. The lines are
given from the nearest one back to the end of the test before. -/
def reachBack (behind : Transcript) : Nat :=
  (behind.takeWhile fun entry => !separates entry).length

/-- A line at which a test without an end mark stops. -/
def interrupts (entry : Option String) : Bool :=
  carries (fun text => opensGroup text || isNode text) entry

/-- How many of the lines after a node line belong to the test, and the outcome. -/
def reachForward : Transcript → Nat × Option Outcome
  | [] => (0, none)
  | entry :: rest =>
    if interrupts entry then (0, none)
    else
      match entry with
      | some text =>
        if endsTest text then (1, endOutcome? text)
        else ((reachForward rest).1 + 1, (reachForward rest).2)
      | none => ((reachForward rest).1 + 1, (reachForward rest).2)

/-- How many lines a test takes from its node line on, and the outcome. -/
def reachFromNode (nodeText : String) (after : Transcript) : Nat × Option Outcome :=
  if endsTest nodeText then (1, endOutcome? nodeText)
  else ((reachForward after).1 + 1, (reachForward after).2)

/-- A second line about the same test, which reports that its teardown failed. -/
def repeats (id : NodeId) (entry : Option String) : Bool :=
  carries (fun text => Text.startsWith text (id.display ++ " ")) entry

/-- The outcome in a line, if it has an end mark with a known keyword. -/
def outcomeIn (entry : Option String) : Option Outcome :=
  entry.bind endOutcome?

/-- A line that ends the log of a teardown. -/
def closesTeardown (entry : Option String) : Bool :=
  carries (fun text => text.isEmpty || opensGroup text || isNode text) entry

/-- The lines after the log of a teardown that report its failure: a second line
about the test, perhaps after one blank line. -/
def teardownFailure (id : NodeId) : Transcript → Nat × Option Outcome
  | [] => (0, none)
  | [entry] => if repeats id entry then (1, outcomeIn entry) else (0, none)
  | entry :: next :: _ =>
    if isBlankLine entry && repeats id next then (2, outcomeIn next)
    else if repeats id entry then (1, outcomeIn entry)
    else (0, none)

/-- The teardown right after the end of a test: how many lines it takes, and the
outcome if it failed. -/
def teardownAfter (id : NodeId) : Transcript → Option (Nat × Option Outcome)
  | [] => none
  | entry :: rest =>
    if carries opensTeardown entry then
      let log := (rest.takeWhile fun entry => !closesTeardown entry).length
      let failure := teardownFailure id (rest.drop log)
      some (1 + log + failure.1, failure.2)
    else if repeats id entry then some (1, outcomeIn entry)
    else none

/-- The extent of the test whose node line stands at a position, with `behind` it
the lines back to the test before and `after` it all later lines. -/
def extentAt (position : Nat) (behind : Transcript) (id : NodeId) (nodeText : String)
    (after : Transcript) : Extent :=
  let reach := reachFromNode nodeText after
  let teardown := teardownAfter id (after.drop (reach.1 - 1))
  { id := id
    start := position - reachBack behind
    node := position
    stop := position + reach.1
    outcome := reach.2
    teardown := teardown.map Prod.fst
    teardownOutcome := teardown.bind Prod.snd }

/-- The tests from a position on, in order, and the position after the first group
header, where the detail reports begin. `behind` holds the lines since the last
test, the nearest first, and `skip` is the number of lines that the last test
still takes. -/
def collectExtents (position : Nat) (behind : Transcript) (skip : Nat) :
    Transcript → List Extent × Nat
  | [] => ([], position)
  | entry :: rest =>
    match skip with
    | skip + 1 => collectExtents (position + 1) [] skip rest
    | 0 =>
      if carries opensGroup entry then ([], position + 1)
      else
        match entry.bind fun text => (node? text).map fun id => (text, id) with
        | none => collectExtents (position + 1) (entry :: behind) 0 rest
        | some (text, id) =>
          let extent := extentAt position behind id text rest
          let later := collectExtents (position + 1) [] (extent.finish - position - 1) rest
          (extent :: later.1, later.2)

/-! ## Detail reports -/

/-- A line of a detail report in its place. -/
structure Placement where
  /-- Index of the test. -/
  test : Nat
  key : String
  title : String
  position : Nat
deriving DecidableEq, Repr

/-- The report whose lines are being placed. -/
structure OpenReport where
  test : Nat
  key : String
  title : String
deriving DecidableEq, Repr

/-- The section that every report starts in. -/
def mainTitle : String := "main"

/-- What one line of the stream does to the reports. -/
structure ReportStep where
  /-- The line in its place, if it belongs to a report. -/
  placed : List Placement
  waiting : List (Nat × NodeId)
  current : Option OpenReport
  /-- Number of reports without a test that the line opens. -/
  discarded : Nat

/-- The line at a position, unless it ends the reports. `waiting` holds the tests that
the reports of this group have not passed over, and `current` the report that the line
belongs to unless it is a header. -/
def reportStep (tests : List (Nat × NodeId)) (position : Nat) (waiting : List (Nat × NodeId))
    (current : Option OpenReport) (entry : Option String) : Option ReportStep :=
  match entry with
  | none => some ⟨[], waiting, current, 0⟩
  | some text =>
    if opensSummary text then none
    else if opensGroup text then some ⟨[], tests, none, 0⟩
    else
      match ReportHeader.read? text with
      | some header =>
        match waiting.dropWhile fun test => !header.isAbout test.2 with
        | [] => some ⟨[], [], none, 1⟩
        | (test, _) :: waiting =>
          some ⟨[⟨test, header.key, mainTitle, position⟩], waiting,
            some ⟨test, header.key, mainTitle⟩, 0⟩
      | none =>
        match current with
        | none => some ⟨[], waiting, none, 0⟩
        | some report =>
          let report := { report with title := (title? text).getD report.title }
          some ⟨[⟨report.test, report.key, report.title, position⟩], waiting, some report, 0⟩

/-- The placements of the detail reports from a position on, and the number of reports
without a test. -/
def placeReports (tests : List (Nat × NodeId)) (position : Nat)
    (waiting : List (Nat × NodeId)) (current : Option OpenReport) :
    Transcript → List Placement × Nat
  | [] => ([], 0)
  | entry :: rest =>
    match reportStep tests position waiting current entry with
    | none => ([], 0)
    | some step =>
      let later := placeReports tests (position + 1) step.waiting step.current rest
      (step.placed ++ later.1, step.discarded + later.2)

/-! ## The whole stream -/

/-- A divided stream. -/
structure Layout where
  start : Nat
  extents : List Extent
  placements : List Placement
  /-- Number of detail reports without a test. -/
  discarded : Nat
deriving DecidableEq, Repr

/-- Pair each item with its index. -/
def indexed {α : Type} (items : List α) : List (Nat × α) :=
  items.mapIdx fun index item => (index, item)

theorem mem_indexed {α : Type} {items : List α} {index : Nat} {item : α} :
    (index, item) ∈ indexed items ↔ items[index]? = some item := by
  rw [indexed, List.mem_mapIdx, List.getElem?_eq_some_iff]
  constructor
  · rintro ⟨known, inside, same⟩
    cases same
    exact ⟨inside, rfl⟩
  · rintro ⟨inside, rfl⟩
    exact ⟨index, inside, rfl⟩

theorem indexed_concat {α : Type} (items : List α) (item : α) :
    indexed (items ++ [item]) = indexed items ++ [(items.length, item)] := List.mapIdx_concat

theorem map_snd_indexed {α : Type} (items : List α) : (indexed items).map Prod.snd = items := by
  refine List.ext_getElem? fun index => ?_
  rw [indexed, List.getElem?_map, List.getElem?_mapIdx]
  cases items[index]? <;> rfl

theorem map_fst_indexed {α : Type} (items : List α) :
    (indexed items).map Prod.fst = List.range items.length := by
  refine List.ext_getElem? fun index => ?_
  rw [indexed, List.getElem?_map, List.getElem?_mapIdx]
  rcases Nat.lt_or_ge index items.length with inside | outside
  · rw [List.getElem?_eq_getElem inside, List.getElem?_range inside]
    rfl
  · rw [List.getElem?_eq_none outside, List.getElem?_eq_none (by simpa using outside)]
    rfl

theorem pairwise_indexed {α : Type} (items : List α) :
    (indexed items).Pairwise fun left right => left.1 < right.1 := by
  rw [← List.pairwise_map (f := Prod.fst), map_fst_indexed]
  exact List.pairwise_lt_range

/-- The layout of a stream. -/
def Layout.ofTranscript (transcript : Transcript) : Layout :=
  let start := sessionStart transcript
  let collected := collectExtents start [] 0 (transcript.drop start)
  let tests := indexed (collected.1.map Extent.id)
  let placed := placeReports tests collected.2 tests none (transcript.drop collected.2)
  { start := start
    extents := collected.1
    placements := placed.1
    discarded := placed.2 }

end RunTriage.Session
