import RunTriage.Proofs.Teardown

/-!
Contract: the layout of a stream with gaps inserted.

Owns:
- the reach of a test in such a stream;
- `Extent.IsJoint`, the positions where a line in between breaks the teardown of a test;
- `Outline`, what is known of a test without lines that are not the runner's;
- both passes over such a stream: the tests and the number of discarded reports are the same if
  and only if nothing is inserted at a joint.

Does not own: the lines of the stream and the records made from them.
-/

namespace RunTriage.Session

/-! ## The reach of a test -/

theorem reachForward_gaps {before : Transcript} (gaps : OnlyGaps before) (rest : Transcript) :
    reachForward (before ++ rest) =
      ((reachForward rest).1 + before.length, (reachForward rest).2) := by
  induction before with
  | nil => rfl
  | cons entry before inductionHypothesis =>
    obtain ⟨rfl, restGaps⟩ := List.forall_mem_cons.mp gaps
    have noInterrupt : interrupts none = false := rfl
    rw [List.cons_append, reachForward_cons, noInterrupt, carries_none,
      inductionHypothesis restGaps]
    rfl

/-- What is inserted at a position, if the line before it marks the end of a test. -/
def behindMark (extra : Nat → Transcript) (last : Option String) (position : Nat) : Transcript :=
  if carries endsTest last then extra position else []

section Reach

variable {extra : Nat → Transcript} (gaps : ∀ place, OnlyGaps (extra place))

include gaps

theorem onlyGaps_behindMark (last : Option String) (position : Nat) :
    OnlyGaps (behindMark extra last position) := by
  unfold behindMark
  split
  · exact gaps position
  · exact .nil

/-- A test takes all gaps up to the line that ends it, and keeps its outcome. What is inserted
right behind an end mark is left, while a test without one takes everything up to the line
that interrupts it. -/
theorem reachForward_insertFrom (after : Transcript) (position : Nat) {before : Option String}
    (unmarked : carries endsTest before = false) :
    let reach := reachForward after
    let wide := insertFrom extra position after
    let last := (before :: after)[reach.1]?.join
    (reachForward wide).2 = reach.2 ∧
      wide.drop (reachForward wide).1 = behindMark extra last (position + reach.1) ++
        widened extra (position + reach.1) (after.drop reach.1) := by
  induction after generalizing position before with
  | nil =>
    have toEnd := reachForward_gaps (gaps position) []
    rw [List.append_nil] at toEnd
    intro reach wide last
    have wideEq : wide = extra position := List.append_nil _
    have lastEq : last = before := rfl
    rw [wideEq, toEnd, lastEq, behindMark, unmarked]
    exact ⟨rfl, List.drop_of_length_le (Nat.le_add_left _ _)⟩
  | cons entry rest inductionHypothesis =>
    intro reach wide last
    have wideReach : reachForward wide =
        ((reachForward (entry :: insertFrom extra (position + 1) rest)).1 +
            (extra position).length,
          (reachForward (entry :: insertFrom extra (position + 1) rest)).2) :=
      reachForward_gaps (gaps position) _
    have passGaps (count : Nat) : wide.drop (count + (extra position).length) =
        (entry :: insertFrom extra (position + 1) rest).drop count := by
      rw [Nat.add_comm, ← List.drop_drop]
      exact congrArg (List.drop count) List.drop_left
    rw [wideReach, passGaps]
    simp only [reachForward_cons, reach, last]
    by_cases stops : interrupts entry = true
    · simp [stops, behindMark, unmarked, widened_cons]
    · by_cases ends : carries endsTest entry = true
      · simp [stops, ends, behindMark, insertFrom]
      · have goesOn := Bool.eq_false_iff.mpr ends
        obtain ⟨sameOutcome, sameRest⟩ := inductionHypothesis (position + 1) goesOn
        have shifted : position + 1 + (reachForward rest).1 =
            position + ((reachForward rest).1 + 1) := by omega
        rw [shifted] at sameRest
        simp only [stops, goesOn, Bool.false_eq_true, if_false]
        exact ⟨sameOutcome, sameRest⟩

theorem reachFromNode_insertFrom (text : String) (after : Transcript) (position : Nat) :
    let reach := reachFromNode text after
    let wideReach := reachFromNode text (insertFrom extra (position + 1) after)
    let last := (some text :: after)[reach.1 - 1]?.join
    wideReach.2 = reach.2 ∧
      (widened extra position (some text :: after)).drop wideReach.1 =
        behindMark extra last (position + reach.1) ++
          widened extra (position + reach.1) ((some text :: after).drop reach.1) := by
  unfold reachFromNode
  by_cases ends : endsTest text = true
  · simp [ends, behindMark, widened_cons, insertFrom]
  · have unmarked : carries endsTest (some text) = false := by
      rw [carries_some]
      exact Bool.eq_false_iff.mpr ends
    obtain ⟨sameOutcome, sameRest⟩ := reachForward_insertFrom gaps after (position + 1) unmarked
    have shifted : position + 1 + (reachForward after).1 =
        position + ((reachForward after).1 + 1) := by omega
    rw [shifted] at sameRest
    simp only [ends, Bool.false_eq_true, if_false, Nat.add_sub_cancel]
    exact ⟨sameOutcome, sameRest⟩

end Reach

/-! ## Tests -/

/-- What the runner says right before a position. -/
def entryBefore (transcript : Transcript) : Nat → Option String
  | 0 => none
  | position + 1 => transcript[position]?.join

/-- A position where the teardown of a test needs two lines of the runner next to each other:
behind the end mark of the test, or behind the blank line before a second line about it. -/
def Extent.IsJoint (transcript : Transcript) (extent : Extent) (position : Nat) : Prop :=
  position < extent.finish ∧
    (position = extent.stop ∧ carries endsTest (entryBefore transcript position) = true ∨
      extent.stop < position ∧ isBlankLine (entryBefore transcript position) = true)

instance (transcript : Transcript) (extent : Extent) (position : Nat) :
    Decidable (extent.IsJoint transcript position) :=
  inferInstanceAs (Decidable (_ ∧ (_ ∧ _ ∨ _ ∧ _)))

/-- What is known of a test without the lines that are not the runner's. -/
structure Outline where
  id : NodeId
  outcome : Option Outcome
  /-- What the runner says in the teardown, if there is one. -/
  teardown : Option (List String)
  teardownOutcome : Option Outcome
deriving DecidableEq, Repr

def outlineAt (transcript : Transcript) (extent : Extent) : Outline :=
  { id := extent.id
    outcome := extent.outcome
    teardown := extent.teardown.map fun count =>
      ((transcript.drop extent.stop).take count).reduceOption
    teardownOutcome := extent.teardownOutcome }

/-- Nothing is inserted at a joint of these tests. -/
def Intact (extra : Nat → Transcript) (transcript : Transcript) (extents : List Extent) : Prop :=
  ∀ extent ∈ extents, ∀ position, extent.IsJoint transcript position → extra position = []

/-- A stream goes on like another one, apart from gaps. -/
def Aligned (extra : Nat → Transcript) (narrow : Transcript) (position : Nat)
    (wide : Transcript) (widePosition : Nat) : Prop :=
  ∃ before, OnlyGaps before ∧
    wide.drop widePosition = before ++ widened extra position (narrow.drop position)

section Tests

variable {extra : Nat → Transcript} {narrow wide : Transcript} {position widePosition : Nat}
  {text : String} {after : Transcript}

/-- A test is what its node line and the lines behind it make it. -/
theorem outlineAt_extentAt {transcript behind : Transcript} {id : NodeId} {extent : Extent}
    (here : transcript.drop position = some text :: after)
    (isExtent : extent = extentAt position behind id text after) :
    let rest := transcript.drop extent.stop
    outlineAt transcript extent =
        ⟨id, extent.outcome, heard rest (teardownAfter id rest),
          (teardownAfter id rest).bind Prod.snd⟩ ∧
      extent.finish = extent.stop + teardownCount (teardownAfter id rest) := by
  have least := (reachFromNode_bounds text after).1
  rw [isExtent]
  simp only [extentAt, outlineAt, Extent.finish]
  generalize reachFromNode text after = reach at *
  have isRest : transcript.drop (position + reach.1) = after.drop (reach.1 - 1) := by
    rw [← List.drop_drop, here]
    obtain ⟨count, isCount⟩ : ∃ count, reach.1 = count + 1 := ⟨reach.1 - 1, by omega⟩
    rw [isCount]
    rfl
  rw [isRest, Option.map_map]
  exact ⟨rfl, rfl⟩

theorem forall_isJoint_iff {id : NodeId} {extent : Extent}
    (finishes : extent.finish =
      extent.stop + teardownCount (teardownAfter id (narrow.drop extent.stop))) :
    (∀ place, extent.IsJoint narrow place → extra place = []) ↔
      Unbroken extra id extent.stop
        (behindMark extra (entryBefore narrow extent.stop) extent.stop)
        (narrow.drop extent.stop) := by
  have sameEntry (index : Nat) : entryBefore narrow (extent.stop + index + 1) =
      (narrow.drop extent.stop)[index]?.join := by
    rw [entryBefore, List.getElem?_drop]
  constructor
  · intro nothing isTeardown
    have something := teardownCount_pos isTeardown
    refine ⟨?_, fun index inside isBlank => ?_⟩
    · unfold behindMark
      split
      · rename_i marked
        exact nothing extent.stop ⟨by omega, .inl ⟨rfl, marked⟩⟩
      · rfl
    · rw [← sameEntry] at isBlank
      exact nothing _ ⟨by omega, .inr ⟨by omega, isBlank⟩⟩
  · rintro unbroken place ⟨inside, isJoint⟩
    have isTeardown : teardownAfter id (narrow.drop extent.stop) ≠ none := by
      intro absent
      rw [absent] at finishes
      have empty : extent.finish = extent.stop := finishes
      rcases isJoint with ⟨isStop, _⟩ | ⟨isLater, _⟩ <;> omega
    obtain ⟨nothing, blanks⟩ := unbroken isTeardown
    rcases isJoint with ⟨rfl, marked⟩ | ⟨isLater, isBlank⟩
    · rw [behindMark, if_pos marked] at nothing
      exact nothing
    · obtain ⟨index, rfl⟩ : ∃ index, place = extent.stop + index + 1 :=
        ⟨place - extent.stop - 1, by omega⟩
      rw [sameEntry] at isBlank
      exact blanks index (by omega) isBlank

/-- A test ends at the same line in both streams, and what is inserted behind its end mark comes
before everything else that follows. -/
theorem drop_stop_widened (gaps : ∀ place, OnlyGaps (extra place))
    (atNarrow : narrow.drop position = some text :: after)
    (atWide : wide.drop widePosition = widened extra position (some text :: after))
    {extent wideExtent : Extent} {behind wideBehind : Transcript} {id : NodeId}
    (isExtent : extent = extentAt position behind id text after)
    (isWideExtent : wideExtent = extentAt widePosition wideBehind id text
      (insertFrom extra (position + 1) after)) :
    wideExtent.outcome = extent.outcome ∧
      wide.drop wideExtent.stop =
        behindMark extra (entryBefore narrow extent.stop) extent.stop ++
          widened extra extent.stop (narrow.drop extent.stop) := by
  obtain ⟨sameOutcome, behindReach⟩ := reachFromNode_insertFrom gaps text after position
  have least := (reachFromNode_bounds text after).1
  rw [isExtent, isWideExtent, outcome_extentAt, outcome_extentAt, stop_extentAt, stop_extentAt]
  generalize reachFromNode text (insertFrom extra (position + 1) after) = wideReach at *
  generalize reachFromNode text after = reach at *
  have last : (some text :: after)[reach.1 - 1]?.join =
      entryBefore narrow (position + reach.1) := by
    have behindLast : position + reach.1 = position + (reach.1 - 1) + 1 := by omega
    rw [behindLast, entryBefore, ← atNarrow, List.getElem?_drop]
  rw [last, ← atWide, ← atNarrow, List.drop_drop, List.drop_drop] at behindReach
  exact ⟨sameOutcome, behindReach⟩

/-- A test is the same in both streams if and only if nothing is inserted at its joints, and
then both streams go on behind it alike. -/
theorem extentAt_widened (gaps : ∀ place, OnlyGaps (extra place))
    (atNarrow : narrow.drop position = some text :: after)
    (atWide : wide.drop widePosition = widened extra position (some text :: after))
    {extent wideExtent : Extent} {behind wideBehind : Transcript} {id : NodeId}
    (isExtent : extent = extentAt position behind id text after)
    (isWideExtent : wideExtent = extentAt widePosition wideBehind id text
      (insertFrom extra (position + 1) after)) :
    (outlineAt wide wideExtent = outlineAt narrow extent ↔
        ∀ place, extent.IsJoint narrow place → extra place = []) ∧
      ((∀ place, extent.IsJoint narrow place → extra place = []) →
        Aligned extra narrow extent.finish wide wideExtent.finish) := by
  obtain ⟨isOutline, finishes⟩ := outlineAt_extentAt atNarrow isExtent
  obtain ⟨isWideOutline, wideFinishes⟩ := outlineAt_extentAt atWide isWideExtent
  obtain ⟨sameOutcome, isRest⟩ := drop_stop_widened gaps atNarrow atWide isExtent isWideExtent
  have beforeGaps := onlyGaps_behindMark gaps (entryBefore narrow extent.stop) extent.stop
  rw [isOutline, isWideOutline, forall_isJoint_iff finishes, isRest, sameOutcome]
  refine ⟨⟨fun same => ?_, fun unbroken => ?_⟩, fun unbroken => ?_⟩
  · have sameHeard := congrArg Outline.teardown same
    by_contra broken
    exact heard_broken gaps beforeGaps broken sameHeard
  · have sameHeard := heard_widened gaps beforeGaps unbroken
    have sameTeardown := congrArg Option.join (teardownAfter_widened gaps beforeGaps unbroken).1
    rw [← Option.bind_id_eq_join, ← Option.bind_id_eq_join, Option.bind_map, Option.bind_map]
      at sameTeardown
    rw [sameHeard]
    exact congrArg (Outline.mk id _ _) sameTeardown
  · obtain ⟨_, later, laterGaps, behindTeardown⟩ :=
      teardownAfter_widened gaps beforeGaps unbroken
    refine ⟨later, laterGaps, ?_⟩
    rw [finishes, wideFinishes, ← List.drop_drop, ← List.drop_drop, isRest]
    exact behindTeardown

end Tests

/-! ## All tests -/

theorem collectExtents_gaps {before : Transcript} (beforeGaps : OnlyGaps before)
    (position : Nat) (behind rest : Transcript) :
    collectExtents position behind 0 (before ++ rest) =
      collectExtents (position + before.length) (before.reverse ++ behind) 0 rest := by
  induction before generalizing position behind with
  | nil => rfl
  | cons entry before inductionHypothesis =>
    obtain ⟨rfl, laterGaps⟩ := List.forall_mem_cons.mp beforeGaps
    have shifted : position + 1 + before.length = position + (none :: before).length := by
      rw [List.length_cons]
      omega
    rw [List.cons_append, collectExtents_other rfl rfl, inductionHypothesis laterGaps, shifted,
      List.reverse_cons, List.append_assoc]
    rfl

/-- The first pass over both streams: it finds the same tests if and only if nothing is
inserted at a joint, and then it leaves the same lines of the runner to the second pass. -/
structure Follows (extra : Nat → Transcript) (narrow wide : Transcript)
    (read wideRead : List Extent × Nat) : Prop where
  outlines : wideRead.1.map (outlineAt wide) = read.1.map (outlineAt narrow) ↔
    Intact extra narrow read.1
  leaves : Intact extra narrow read.1 →
    (wide.drop wideRead.2).reduceOption = (narrow.drop read.2).reduceOption

section Follows

variable {extra : Nat → Transcript} {narrow wide : Transcript} {position widePosition : Nat}

theorem Follows.nil (same : (wide.drop widePosition).reduceOption =
    (narrow.drop position).reduceOption) :
    Follows extra narrow wide ([], position) ([], widePosition) :=
  ⟨⟨fun _ => List.forall_mem_nil _, fun _ => rfl⟩, fun _ => same⟩

theorem Follows.cons {extent wideExtent : Extent} {later wideLater : List Extent × Nat}
    (first : outlineAt wide wideExtent = outlineAt narrow extent ↔
      ∀ place, extent.IsJoint narrow place → extra place = [])
    (goesOn : (∀ place, extent.IsJoint narrow place → extra place = []) →
      Follows extra narrow wide later wideLater) :
    Follows extra narrow wide (extent :: later.1, later.2)
      (wideExtent :: wideLater.1, wideLater.2) where
  outlines := by
    rw [List.map_cons, List.map_cons, List.cons_eq_cons, first, Intact, List.forall_mem_cons]
    exact and_congr_right fun intact => (goesOn intact).outlines
  leaves := by
    intro intact
    obtain ⟨firstIntact, laterIntact⟩ := List.forall_mem_cons.mp intact
    exact (goesOn firstIntact).leaves laterIntact

/-- The first pass goes over the gaps before the next line that both streams share. -/
theorem Aligned.collectExtents_eq (aligned : Aligned extra narrow position wide widePosition)
    (wideBehind : Transcript) : ∃ nextPosition nextBehind,
      wide.drop nextPosition = widened extra position (narrow.drop position) ∧
      collectExtents widePosition wideBehind 0 (wide.drop widePosition) =
        collectExtents nextPosition nextBehind 0 (wide.drop nextPosition) := by
  obtain ⟨before, beforeGaps, wideEq⟩ := aligned
  have next : wide.drop (widePosition + before.length) =
      widened extra position (narrow.drop position) := by
    rw [← List.drop_drop, wideEq, List.drop_left]
  refine ⟨widePosition + before.length, before.reverse ++ wideBehind, next, ?_⟩
  rw [wideEq, collectExtents_gaps beforeGaps, next]

/-- From two positions on from which the streams are alike, the first pass reads them alike. -/
theorem collectExtents_follows (gaps : ∀ place, OnlyGaps (extra place))
    (aligned : Aligned extra narrow position wide widePosition) (behind wideBehind : Transcript) :
    Follows extra narrow wide (collectExtents position behind 0 (narrow.drop position))
      (collectExtents widePosition wideBehind 0 (wide.drop widePosition)) := by
  -- By induction on what is left of the narrow stream: the wide one may have more lines to go.
  induction remaining : narrow.length - position using Nat.strong_induction_on
    generalizing position widePosition behind wideBehind with
  | h _ inductionHypothesis =>
    obtain ⟨widePosition, wideBehind, atWide, passed⟩ := aligned.collectExtents_eq wideBehind
    rw [passed]
    cases here : narrow.drop position with
    | nil =>
      rw [here] at atWide
      rw [atWide]
      refine Follows.nil ?_
      rw [here, atWide]
      rfl
    | cons entry rest =>
      have inside : position < narrow.length := by
        apply Nat.lt_of_not_le
        intro outside
        rw [List.drop_of_length_le outside] at here
        cases here
      have restHere : narrow.drop (position + 1) = rest := by
        rw [← List.drop_drop, here]
        rfl
      rw [here, widened_cons] at atWide
      have wideRestHere : wide.drop (widePosition + 1) = insertFrom extra (position + 1) rest := by
        rw [← List.drop_drop, atWide]
        rfl
      by_cases group : carries opensGroup entry = true
      · have stops (position : Nat) (behind later : Transcript) :
            collectExtents position behind 0 (entry :: later) = ([], position + 1) := by
          rw [collectExtents, if_pos group]
        rw [atWide, stops, stops]
        refine Follows.nil ?_
        rw [wideRestHere, restHere, reduceOption_insertFrom gaps]
      · have noGroup := Bool.eq_false_iff.mpr group
        cases read : entry.bind node? with
        | none =>
          rw [atWide, collectExtents_other noGroup read, collectExtents_other noGroup read,
            ← wideRestHere, ← restHere]
          refine inductionHypothesis _ (by omega) ⟨extra (position + 1), gaps _, ?_⟩ _ _ rfl
          rw [wideRestHere, restHere]
          rfl
        | some id =>
          obtain ⟨text, rfl, isNode⟩ := Option.bind_eq_some_iff.mp read
          rw [← here, collectExtents_node here noGroup isNode,
            collectExtents_node atWide noGroup isNode]
          obtain ⟨first, goesOn⟩ := extentAt_widened gaps here atWide rfl rfl
          obtain ⟨_, _, nodeLt, _⟩ := extentAt_bounds position behind id text rest
          have ahead : position < (extentAt position behind id text rest).finish :=
            Nat.lt_of_lt_of_le nodeLt (Nat.le_add_right _ _)
          refine Follows.cons first fun intact => ?_
          exact inductionHypothesis _ (by omega) (goesOn intact) _ _ rfl

end Follows

/-! ## Discarded reports -/

section Reports

variable {tests waiting : List (Nat × NodeId)} {current : Option OpenReport}

/-- The number of discarded reports depends on what the runner says only. -/
theorem placeReports_discarded (transcript : Transcript) (position other : Nat) :
    (placeReports tests position waiting current transcript).2 =
      (placeReports tests other waiting current (transcript.reduceOption.map some)).2 := by
  induction transcript generalizing position other waiting current with
  | nil => rfl
  | cons entry rest inductionHypothesis =>
    cases entry with
    | none =>
      have gap : reportStep tests position waiting current none =
          some ⟨[], waiting, current, 0⟩ := rfl
      rw [placeReports, gap, List.reduceOption_cons_of_none, ← inductionHypothesis (position + 1)]
      exact Nat.zero_add _
    | some text =>
      rw [placeReports, List.reduceOption_cons_of_some, List.map_cons, placeReports,
        reportStep_shift tests waiting current position other]
      cases reportStep tests position waiting current (some text) with
      | none => rfl
      | some step => exact congrArg (step.discarded + ·) (inductionHypothesis _ _)

theorem discarded_eq {left right : Transcript} (same : left.reduceOption = right.reduceOption)
    (position other : Nat) : (placeReports tests position waiting current left).2 =
      (placeReports tests other waiting current right).2 := by
  rw [placeReports_discarded left position 0, same, ← placeReports_discarded right other 0]

end Reports

/-! ## Layouts -/

/-- What is inserted after the start of the session does not move the start. -/
theorem sessionStart_insertFrom {extra : Nat → Transcript} (gaps : ∀ place, OnlyGaps (extra place))
    {transcript : Transcript}
    (afterStart : ∀ place < sessionStart transcript, extra place = []) :
    sessionStart (insertFrom extra 0 transcript) = sessionStart transcript := by
  unfold sessionStart at afterStart ⊢
  cases found : transcript.findIdx? (carries opensSession) with
  | none =>
    have nowhere (entry : Option String) (member : entry ∈ insertFrom extra 0 transcript) :
        carries opensSession entry = false := by
      rcases mem_insertFrom member with inTranscript | ⟨place, inserted⟩
      · exact List.findIdx?_eq_none_iff.mp found entry inTranscript
      · rw [gaps place entry inserted]
        rfl
    rw [List.findIdx?_eq_none_iff.mpr nowhere]
  | some index =>
    rw [found] at afterStart
    have ahead : ∀ place < index + 1, extra place = [] := afterStart
    have inside : index + 1 ≤ transcript.length :=
      (List.findIdx?_eq_some_iff_getElem.mp found).1
    have atFront : (transcript.take (index + 1)).findIdx? (carries opensSession) = some index := by
      rw [List.findIdx?_take, found]
      simp
    have unchanged := insertFrom_eq_append extra 0 inside
      fun place _ before => ahead place (by omega)
    rw [unchanged, List.findIdx?_append, atFront]
    rfl

/-- The layout of a stream with gaps inserted has the same tests and the same number of discarded
reports, if and only if nothing is inserted at a joint. -/
theorem Layout.ofTranscript_insertFrom_iff {extra : Nat → Transcript}
    (gaps : ∀ place, OnlyGaps (extra place)) {narrow : Transcript}
    (afterStart : ∀ place < sessionStart narrow, extra place = []) :
    let wide := insertFrom extra 0 narrow
    ((Layout.ofTranscript wide).extents.map (outlineAt wide) =
          (Layout.ofTranscript narrow).extents.map (outlineAt narrow) ∧
        (Layout.ofTranscript wide).discarded = (Layout.ofTranscript narrow).discarded) ↔
      Intact extra narrow (Layout.ofTranscript narrow).extents := by
  intro wide
  have sameStart : sessionStart wide = sessionStart narrow :=
    sessionStart_insertFrom gaps afterStart
  have aligned : Aligned extra narrow (sessionStart narrow) wide (sessionStart narrow) := by
    have unchanged : wide = _ := insertFrom_eq_append extra 0 (sessionStart_le narrow)
      fun place _ before => afterStart place (by omega)
    have taken : (narrow.take (sessionStart narrow)).length = sessionStart narrow :=
      List.length_take_of_le (sessionStart_le narrow)
    refine ⟨extra (sessionStart narrow), gaps _, ?_⟩
    rw [unchanged, List.drop_left' taken, Nat.zero_add]
    rfl
  have follows := collectExtents_follows gaps aligned [] []
  simp only [Layout.ofTranscript, sameStart]
  generalize collectExtents (sessionStart narrow) [] 0 (narrow.drop (sessionStart narrow)) =
    read at *
  generalize collectExtents (sessionStart narrow) [] 0 (wide.drop (sessionStart narrow)) =
    wideRead at *
  constructor
  · rintro ⟨same, _⟩
    exact follows.outlines.mp same
  · intro intact
    have same := follows.outlines.mpr intact
    -- The second pass looks for the same tests in the same lines of the runner.
    have sameIds : wideRead.1.map Extent.id = read.1.map Extent.id := by
      have ids := congrArg (List.map Outline.id) same
      rwa [List.map_map, List.map_map] at ids
    rw [sameIds]
    exact ⟨same, discarded_eq (follows.leaves intact) _ _⟩

end RunTriage.Session
