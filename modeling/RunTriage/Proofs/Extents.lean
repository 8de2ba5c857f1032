import Mathlib.Data.List.Basic
import RunTriage.Session.Layout

/-!
Contract: where the two passes over a stream put its lines.

Owns:
- the reach of a test, which stays between the test before and the end of the stream;
- what each kind of line does in the first pass, and what carries over to another position;
- `Tiles`, the order in which the first pass lays out the tests;
- the positions of a layout, which are some of the positions from the start of the
  session on, each at most once and in ascending order, and those of the runner's lines
  only in the detail reports.

Does not own: the records made from a layout, which are in `RunTriage.Proofs.Attribution`.
-/

namespace RunTriage.Session

/-! ## The reach of a test -/

@[simp] theorem carries_none (holds : String → Bool) : carries holds none = false := rfl

@[simp] theorem carries_some (holds : String → Bool) (text : String) :
    carries holds (some text) = holds text := rfl

theorem reachBack_le (behind : Transcript) : reachBack behind ≤ behind.length :=
  (List.takeWhile_sublist _).length_le

theorem reachForward_cons (entry : Option String) (rest : Transcript) :
    reachForward (entry :: rest) =
      if interrupts entry then (0, none)
      else if carries endsTest entry then (1, outcomeIn entry)
      else ((reachForward rest).1 + 1, (reachForward rest).2) := by
  cases entry with
  | none => simp only [reachForward, carries_none, Bool.false_eq_true, if_false]
  | some text => cases ends : endsTest text <;> simp [reachForward, ends, outcomeIn]

theorem reachForward_le (after : Transcript) : (reachForward after).1 ≤ after.length := by
  induction after with
  | nil => exact Nat.le_refl 0
  | cons entry rest inductionHypothesis =>
    rw [reachForward_cons, List.length_cons]
    split
    · exact Nat.zero_le _
    · split
      · exact Nat.succ_le_succ (Nat.zero_le _)
      · exact Nat.succ_le_succ inductionHypothesis

theorem reachFromNode_bounds (nodeText : String) (after : Transcript) :
    1 ≤ (reachFromNode nodeText after).1 ∧
      (reachFromNode nodeText after).1 ≤ after.length + 1 := by
  unfold reachFromNode
  split
  · exact ⟨Nat.le_refl 1, Nat.le_add_left 1 _⟩
  · exact ⟨Nat.le_add_left 1 _, Nat.succ_le_succ (reachForward_le after)⟩

theorem teardownFailure_le (id : NodeId) (rest : Transcript) :
    (teardownFailure id rest).1 ≤ rest.length := by
  unfold teardownFailure
  split
  · exact Nat.le_refl 0
  · split <;> simp
  · split
    · simp
    · split <;> simp

theorem teardownAfter_le (id : NodeId) (rest : Transcript) :
    ((teardownAfter id rest).map Prod.fst).getD 0 ≤ rest.length := by
  cases rest with
  | nil => exact Nat.le_refl 0
  | cons entry rest =>
    have log := (List.takeWhile_sublist (fun entry => !closesTeardown entry)
      (l := rest)).length_le
    have failure := teardownFailure_le id
      (rest.drop (rest.takeWhile fun entry => !closesTeardown entry).length)
    rw [List.length_drop] at failure
    rw [teardownAfter, List.length_cons]
    split
    · simp only [Option.map_some, Option.getD_some]
      omega
    · split
      · exact Nat.le_add_left 1 _
      · exact Nat.zero_le _

section ExtentAt

variable (position : Nat) (behind : Transcript) (id : NodeId) (nodeText : String)
  (after : Transcript)

theorem stop_extentAt : (extentAt position behind id nodeText after).stop =
    position + (reachFromNode nodeText after).1 := by
  rw [extentAt]

theorem outcome_extentAt : (extentAt position behind id nodeText after).outcome =
    (reachFromNode nodeText after).2 := by
  rw [extentAt]

theorem teardown_extentAt : (extentAt position behind id nodeText after).teardown =
    (teardownAfter id (after.drop ((reachFromNode nodeText after).1 - 1))).map Prod.fst := by
  rw [extentAt]

theorem teardownOutcome_extentAt :
    (extentAt position behind id nodeText after).teardownOutcome =
      (teardownAfter id (after.drop ((reachFromNode nodeText after).1 - 1))).bind Prod.snd := by
  rw [extentAt]

end ExtentAt

/-- A test reaches back to the test before at most, takes its node line, and ends within
the stream. -/
theorem extentAt_bounds (position : Nat) (behind : Transcript) (id : NodeId) (nodeText : String)
    (after : Transcript) :
    let extent := extentAt position behind id nodeText after
    position - behind.length ≤ extent.start ∧ extent.start ≤ position ∧
      position < extent.stop ∧ extent.finish ≤ position + 1 + after.length := by
  have back := reachBack_le behind
  obtain ⟨least, most⟩ := reachFromNode_bounds nodeText after
  have teardown := teardownAfter_le id (after.drop ((reachFromNode nodeText after).1 - 1))
  rw [List.length_drop] at teardown
  simp only [extentAt, Extent.finish]
  generalize (reachFromNode nodeText after).1 = reach at least most teardown ⊢
  omega

/-! ## The first pass -/

theorem collectExtents_skip {position skip : Nat} {transcript : Transcript}
    (within : skip ≤ transcript.length) :
    collectExtents position [] skip transcript =
      collectExtents (position + skip) [] 0 (transcript.drop skip) := by
  induction transcript generalizing position skip with
  | nil =>
    have isZero : skip = 0 := Nat.le_zero.mp within
    rw [isZero]
    rfl
  | cons entry rest inductionHypothesis =>
    cases skip with
    | zero => rfl
    | succ skip =>
      have shifted : position + 1 + skip = position + (skip + 1) := by omega
      rw [collectExtents, inductionHypothesis (Nat.le_of_succ_le_succ within), shifted,
        List.drop_succ_cons]

/-- Behind a test the first pass goes on from its end. -/
theorem collectExtents_node {position : Nat} {transcript after : Transcript} {text : String}
    {id : NodeId} (here : transcript.drop position = some text :: after)
    (noGroup : carries opensGroup (some text) = false) (isNode : node? text = some id)
    (behind : Transcript) :
    let extent := extentAt position behind id text after
    let later := collectExtents extent.finish [] 0 (transcript.drop extent.finish)
    collectExtents position behind 0 (transcript.drop position) =
      (extent :: later.1, later.2) := by
  intro extent later
  obtain ⟨_, _, nodeLt, finishLe⟩ := extentAt_bounds position behind id text after
  have within : extent.finish - position - 1 ≤ after.length := by
    show (extentAt position behind id text after).finish - position - 1 ≤ after.length
    omega
  have ahead : position < extent.finish := Nat.lt_of_lt_of_le nodeLt (Nat.le_add_right _ _)
  have toFinish : position + 1 + (extent.finish - position - 1) = extent.finish := by omega
  have rest : after.drop (extent.finish - position - 1) = transcript.drop extent.finish := by
    have afterEq : after = transcript.drop (position + 1) := by
      rw [← List.drop_drop, here]
      rfl
    rw [afterEq, List.drop_drop, toFinish]
  rw [here, collectExtents, noGroup]
  simp only [Bool.false_eq_true, if_false, Option.bind_some, isNode, Option.map_some]
  show (extent :: (collectExtents (position + 1) [] (extent.finish - position - 1) after).1,
    (collectExtents (position + 1) [] (extent.finish - position - 1) after).2) = _
  rw [collectExtents_skip within, toFinish, rest]

theorem collectExtents_other {position : Nat} {entry : Option String} {rest : Transcript}
    (noGroup : carries opensGroup entry = false) (noNode : entry.bind node? = none)
    (behind : Transcript) :
    collectExtents position behind 0 (entry :: rest) =
      collectExtents (position + 1) (entry :: behind) 0 rest := by
  have nothing : (entry.bind fun text => (node? text).map fun id => (text, id)) = none := by
    cases entry with
    | none => rfl
    | some text =>
      rw [Option.bind_some] at noNode ⊢
      rw [noNode, Option.map_none]
  rw [collectExtents, noGroup, nothing]
  rfl

/-- The tests follow one another from a position on, and the last one ends at another
position at the latest. -/
inductive Tiles : Nat → List Extent → Nat → Prop
  | nil {low high : Nat} : low ≤ high → Tiles low [] high
  | cons {low high : Nat} {extent : Extent} {later : List Extent} :
      low ≤ extent.start → extent.start ≤ extent.stop → Tiles extent.finish later high →
      Tiles low (extent :: later) high

/-- The first pass lays out the tests one after the other. `low` is the end of the test
before: the lines behind are those since then, and the lines to skip those up to then. -/
theorem collectExtents_tiles (transcript : Transcript) {position skip low : Nat}
    {behind : Transcript} (handOver : low + behind.length = position + skip)
    (skipping : skip = 0 ∨ behind = []) (enough : skip ≤ transcript.length) :
    Tiles low (collectExtents position behind skip transcript).1
        (collectExtents position behind skip transcript).2 ∧
      (collectExtents position behind skip transcript).2 ≤ position + transcript.length := by
  induction transcript generalizing position behind skip low with
  | nil =>
    rw [List.length_nil] at enough ⊢
    exact ⟨.nil (by rw [collectExtents]; omega), Nat.le_refl _⟩
  | cons entry rest inductionHypothesis =>
    rw [List.length_cons] at enough
    cases skip with
    | succ skip =>
      obtain rfl : behind = [] := skipping.resolve_left (Nat.succ_ne_zero skip)
      have skipped : low + List.length ([] : Transcript) = position + 1 + skip := by
        rw [handOver]
        omega
      obtain ⟨tiles, inside⟩ := inductionHypothesis skipped (.inr rfl)
        (Nat.le_of_succ_le_succ enough)
      rw [collectExtents, List.length_cons]
      exact ⟨tiles, by omega⟩
    | zero =>
      rw [collectExtents, List.length_cons]
      split
      · exact ⟨.nil (by omega), by dsimp only; omega⟩
      · split
        · have passed : low + List.length (entry :: behind) = position + 1 + 0 := by
            rw [List.length_cons]
            omega
          obtain ⟨tiles, inside⟩ := inductionHypothesis passed (.inl rfl) (Nat.zero_le _)
          exact ⟨tiles, by omega⟩
        · rename_i text id _
          obtain ⟨reachesBack, startLe, nodeLt, finishLe⟩ :=
            extentAt_bounds position behind id text rest
          generalize extentAt position behind id text rest = extent at *
          have stopLe : extent.stop ≤ extent.finish := Nat.le_add_right _ _
          have taken : extent.finish + List.length ([] : Transcript) =
              position + 1 + (extent.finish - position - 1) := by
            rw [List.length_nil]
            omega
          obtain ⟨tiles, inside⟩ := inductionHypothesis taken (.inr rfl) (by omega)
          exact ⟨.cons (by omega) (by omega) tiles, by dsimp only; omega⟩

/-! ## Positions -/

/-- The positions of a test. -/
def Extent.positions (extent : Extent) : List Nat :=
  List.range' extent.start (extent.finish - extent.start)

theorem Tiles.le {low high : Nat} {extents : List Extent} (tiles : Tiles low extents high) :
    low ≤ high := by
  induction tiles with
  | nil least => exact least
  | @cons low high extent later fromLow upward _ inductionHypothesis =>
    have stopLe : extent.stop ≤ extent.finish := Nat.le_add_right _ _
    omega

theorem Tiles.start_le_stop {low high : Nat} {extents : List Extent}
    (tiles : Tiles low extents high) : ∀ extent ∈ extents, extent.start ≤ extent.stop := by
  induction tiles with
  | nil => exact fun _ member => nomatch member
  | cons _ upward _ inductionHypothesis =>
    exact List.forall_mem_cons.mpr ⟨upward, inductionHypothesis⟩

/-- Tests that follow one another take some of the positions in between, in order. -/
theorem Tiles.sublist {low high : Nat} {extents : List Extent} (tiles : Tiles low extents high) :
    (extents.flatMap Extent.positions).Sublist (List.range' low (high - low)) := by
  induction tiles with
  | nil => exact List.nil_sublist _
  | @cons low high extent later fromLow upward tiles inductionHypothesis =>
    have stopLe : extent.stop ≤ extent.finish := Nat.le_add_right _ _
    have finishLe := tiles.le
    have whole : List.range' low (high - low) =
        List.range' low (extent.start - low) ++
          (extent.positions ++ List.range' extent.finish (high - extent.finish)) := by
      have length : high - low = (extent.start - low) +
          ((extent.finish - extent.start) + (high - extent.finish)) := by omega
      have toStart : low + (extent.start - low) = extent.start := by omega
      have toFinish : extent.start + (extent.finish - extent.start) = extent.finish := by omega
      rw [length, ← List.range'_append_1, ← List.range'_append_1, toStart, toFinish]
      rfl
    rw [whole, List.flatMap_cons]
    exact ((List.Sublist.refl _).append inductionHypothesis).trans
      (List.sublist_append_right _ _)

/-! ## The second pass -/

/-- A line of the stream is placed at its own position or nowhere, and it is placed only if it
comes from the runner. -/
theorem reportStep_placed {tests waiting : List (Nat × NodeId)} {position : Nat}
    {current : Option OpenReport} {entry : Option String} {step : ReportStep}
    (steps : reportStep tests position waiting current entry = some step) :
    step.placed = [] ∨
      ∃ text, entry = some text ∧ step.placed.map Placement.position = [position] := by
  unfold reportStep at steps
  split at steps
  · cases steps
    exact .inl rfl
  · rename_i text
    split at steps
    · cases steps
    · split at steps
      · cases steps
        exact .inl rfl
      · split at steps
        · split at steps <;> cases steps
          · exact .inl rfl
          · exact .inr ⟨text, rfl, rfl⟩
        · split at steps <;> cases steps
          · exact .inl rfl
          · exact .inr ⟨text, rfl, rfl⟩

theorem reportStep_sublist {tests waiting : List (Nat × NodeId)} {position : Nat}
    {current : Option OpenReport} {entry : Option String} {step : ReportStep}
    (steps : reportStep tests position waiting current entry = some step) :
    (step.placed.map Placement.position).Sublist [position] := by
  rcases reportStep_placed steps with nowhere | ⟨_, _, here⟩
  · rw [nowhere]
    exact List.nil_sublist _
  · rw [here]

/-- A line does the same at another position, except that it is placed there. -/
theorem reportStep_shift (tests waiting : List (Nat × NodeId)) (current : Option OpenReport)
    (position other : Nat) (entry : Option String) :
    reportStep tests other waiting current entry =
      (reportStep tests position waiting current entry).map fun step =>
        { step with placed := step.placed.map fun placement =>
            { placement with position := other } } := by
  cases entry with
  | none => rfl
  | some text =>
    unfold reportStep
    cases summary : opensSummary text with
    | true => simp [summary]
    | false =>
      cases group : opensGroup text with
      | true => simp [summary, group]
      | false =>
        cases isHeader : ReportHeader.read? text with
        | none => cases current <;> simp [summary, group, isHeader]
        | some header =>
          cases found : waiting.dropWhile fun test => !header.isAbout test.2 <;>
            simp [summary, group, isHeader, found]

/-- The second pass places lines in the order of their positions, and each line once. -/
theorem placeReports_sublist (tests : List (Nat × NodeId)) (transcript : Transcript)
    (position : Nat) (waiting : List (Nat × NodeId)) (current : Option OpenReport) :
    ((placeReports tests position waiting current transcript).1.map Placement.position).Sublist
      (List.range' position transcript.length) := by
  induction transcript generalizing position waiting current with
  | nil => exact List.nil_sublist _
  | cons entry rest inductionHypothesis =>
    rw [placeReports, List.length_cons, List.range'_succ]
    split
    · exact List.nil_sublist _
    · rename_i step steps
      rw [List.map_append]
      exact (reportStep_sublist steps).append
        (inductionHypothesis (position + 1) step.waiting step.current)

/-- Only lines of the runner are placed. -/
theorem placeReports_of_runner (tests : List (Nat × NodeId)) (transcript : Transcript)
    (position : Nat) (waiting : List (Nat × NodeId)) (current : Option OpenReport) :
    ∀ placement ∈ (placeReports tests position waiting current transcript).1,
      ∃ index text, placement.position = position + index ∧
        transcript[index]? = some (some text) := by
  induction transcript generalizing position waiting current with
  | nil => exact fun _ member => nomatch member
  | cons entry rest inductionHypothesis =>
    intro placement member
    rw [placeReports] at member
    split at member
    · cases member
    · rename_i step steps
      rcases List.mem_append.mp member with isHere | isLater
      · have atPosition := List.mem_map_of_mem (f := Placement.position) isHere
        rcases reportStep_placed steps with nowhere | ⟨text, isText, here⟩
        · rw [nowhere] at isHere
          cases isHere
        · rw [here, List.mem_singleton] at atPosition
          exact ⟨0, text, atPosition, congrArg some isText⟩
      · obtain ⟨index, text, place, isText⟩ := inductionHypothesis _ _ _ placement isLater
        exact ⟨index + 1, text, by omega, isText⟩

/-! ## The positions of a layout -/

theorem sessionStart_le (transcript : Transcript) :
    sessionStart transcript ≤ transcript.length := by
  unfold sessionStart
  split
  · rename_i found
    exact (List.findIdx?_eq_some_iff_getElem.mp found).1
  · exact Nat.zero_le _

/-- The first pass over the session, from its start on. -/
theorem Layout.tiles (transcript : Transcript) :
    let start := sessionStart transcript
    let collected := collectExtents start [] 0 (transcript.drop start)
    Tiles start collected.1 collected.2 ∧ collected.2 ≤ transcript.length := by
  intro start collected
  have startLe : start ≤ transcript.length := sessionStart_le transcript
  have atStart : start + List.length ([] : Transcript) = start + 0 := rfl
  obtain ⟨tiles, inside⟩ :=
    collectExtents_tiles (transcript.drop start) atStart (.inl rfl) (Nat.zero_le _)
  have toEnd : start + (transcript.drop start).length = transcript.length := by
    rw [List.length_drop]
    omega
  exact ⟨tiles, toEnd ▸ inside⟩

/-- The tests take positions of the session, each at most once and in order, and the
detail reports take later ones, again each at most once and in order. -/
theorem Layout.positions_sublist (transcript : Transcript) :
    ((Layout.ofTranscript transcript).extents.flatMap Extent.positions ++
        (Layout.ofTranscript transcript).placements.map Placement.position).Sublist
      (List.range' (sessionStart transcript) (transcript.length - sessionStart transcript)) := by
  obtain ⟨tiles, inside⟩ := Layout.tiles transcript
  unfold Layout.ofTranscript
  dsimp only at tiles inside ⊢
  generalize sessionStart transcript = start at *
  generalize collectExtents start [] 0 (transcript.drop start) = collected at *
  generalize indexed (collected.1.map Extent.id) = tests
  have reports := placeReports_sublist tests (transcript.drop collected.2) collected.2 tests none
  have tilesLe := tiles.le
  rw [List.length_drop] at reports
  have length : transcript.length - start =
      (collected.2 - start) + (transcript.length - collected.2) := by omega
  have toEnd : start + (collected.2 - start) = collected.2 := by omega
  rw [length, ← List.range'_append_1, toEnd]
  exact tiles.sublist.append reports

theorem Layout.placements_of_runner (transcript : Transcript) :
    ∀ placement ∈ (Layout.ofTranscript transcript).placements,
      ∃ text, transcript[placement.position]? = some (some text) := by
  intro placement member
  obtain ⟨index, text, place, isText⟩ := placeReports_of_runner _ _ _ _ _ placement member
  rw [List.getElem?_drop] at isText
  exact ⟨text, place ▸ isText⟩

theorem Layout.start_le_stop (transcript : Transcript) :
    ∀ extent ∈ (Layout.ofTranscript transcript).extents, extent.start ≤ extent.stop :=
  (Layout.tiles transcript).1.start_le_stop

end RunTriage.Session
