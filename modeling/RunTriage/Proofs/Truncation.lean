import RunTriage.Proofs.Payload
import RunTriage.Proofs.Teardown

/-!
Contract: what the tests of a truncated stream have in common with those of the whole one.

Owns:
- the reach of a test that is followed by another one, which no later line changes;
- `IsContinuedBy`, which holds of the tests of a stream and those of a longer one;
- the records of a truncated stream: all but the last one are final, except for their detail
  reports.

Does not own: detail reports, which come after all tests and are lost in a truncated stream.
-/

namespace RunTriage.Session

/-! ## What is decided before the next test -/

/-- The line starts a test. -/
def startsTest (entry : Option String) : Bool := (entry.bind node?).isSome

theorem node?_blank : node? "" = none := by decide +kernel

theorem isBlankLine_of_startsTest {entry : Option String} (starts : startsTest entry = true) :
    isBlankLine entry = false := by
  refine Bool.eq_false_iff.mpr fun isBlank => ?_
  rw [isBlankLine_iff.mp isBlank, startsTest, Option.bind_some, node?_blank] at starts
  cases starts

/-- A test that ends before the stream does ends there whatever comes later. -/
theorem reachForward_append {after : Transcript} (more : Transcript)
    (inside : (reachForward after).1 < after.length) :
    reachForward (after ++ more) = reachForward after := by
  induction after with
  | nil => cases inside
  | cons entry rest inductionHypothesis =>
    rw [reachForward_cons, List.length_cons] at inside
    rw [List.cons_append, reachForward_cons, reachForward_cons]
    by_cases interrupted : interrupts entry = true
    · rw [if_pos interrupted, if_pos interrupted]
    · rw [if_neg interrupted] at inside ⊢
      rw [if_neg interrupted]
      by_cases ends : carries endsTest entry = true
      · rw [if_pos ends, if_pos ends]
      · rw [if_neg ends] at inside ⊢
        rw [if_neg ends, inductionHypothesis (Nat.lt_of_succ_lt_succ inside)]

theorem reachFromNode_append {nodeText : String} {after : Transcript} (more : Transcript)
    (inside : (reachFromNode nodeText after).1 ≤ after.length) :
    reachFromNode nodeText (after ++ more) = reachFromNode nodeText after := by
  unfold reachFromNode at inside ⊢
  split
  · rfl
  · rename_i noEnd
    rw [if_neg noEnd] at inside
    rw [reachForward_append more inside]

/-- The one line behind the log of a teardown is no blank line if a test starts there. -/
theorem teardownFailure_append {id : NodeId} {rest : Transcript} (more : Transcript)
    (goesOn : ∃ entry ∈ rest.drop (teardownFailure id rest).1, startsTest entry = true) :
    teardownFailure id (rest ++ more) = teardownFailure id rest := by
  match rest with
  | [] =>
    obtain ⟨_, member, _⟩ := goesOn
    cases member
  | [entry] =>
    cases more with
    | nil => rfl
    | cons next later =>
      have notBlank : isBlankLine entry = false := by
        refine Bool.eq_false_iff.mpr fun isBlank => ?_
        have noFailure : teardownFailure id [entry] = (0, none) := by
          rw [isBlankLine_iff.mp isBlank, teardownFailure, repeats_blank]
          rfl
        rw [noFailure, List.drop_zero] at goesOn
        obtain ⟨other, member, starts⟩ := goesOn
        rw [List.mem_singleton.mp member] at starts
        rw [isBlankLine_of_startsTest starts] at isBlank
        cases isBlank
      rw [List.singleton_append, teardownFailure_pair, notBlank]
      rfl
  | entry :: next :: later => rfl

theorem teardownAfter_append {id : NodeId} {rest : Transcript} (more : Transcript)
    (goesOn : ∃ entry ∈ rest.drop (teardownCount (teardownAfter id rest)),
      startsTest entry = true) :
    teardownAfter id (rest ++ more) = teardownAfter id rest := by
  cases teardownShape id rest with
  | absent isAbsent =>
    cases rest with
    | nil =>
      obtain ⟨_, member, _⟩ := goesOn
      cases member
    | cons entry later =>
      rw [isAbsent]
      exact teardownAfter_eq_none_iff.mpr (teardownAfter_eq_none_iff.mp isAbsent)
  | naked noLog isSecond =>
    rw [List.cons_append, teardownAfter_naked noLog isSecond, teardownAfter_naked noLog isSecond]
  | @logged opener log rest isLog =>
    have count : teardownCount (teardownAfter id (opener :: (log ++ rest))) =
        1 + log.length + (teardownFailure id rest).1 := by
      rw [teardownAfter_logged id isLog]
      rfl
    rw [count, drop_logged] at goesOn
    have sameFailure := teardownFailure_append more goesOn
    have isLonger : IsLog opener log (rest ++ more) := by
      refine ⟨isLog.opens, isLog.goesOn, fun entry isHead => ?_⟩
      cases rest with
      | nil =>
        obtain ⟨_, member, _⟩ := goesOn
        cases member
      | cons first later => exact isLog.closed entry isHead
    rw [List.cons_append, List.append_assoc, teardownAfter_logged id isLonger,
      teardownAfter_logged id isLog, sameFailure]

theorem id_extentAt {position : Nat} {behind : Transcript} {id : NodeId} {nodeText : String}
    {after : Transcript} : (extentAt position behind id nodeText after).id = id := by
  rw [extentAt]

/-- A test that another one follows is the same in a longer stream. -/
theorem extentAt_append {position : Nat} {behind : Transcript} {id : NodeId} {nodeText : String}
    {after : Transcript} (more : Transcript)
    (goesOn : ∃ entry ∈
      after.drop ((extentAt position behind id nodeText after).finish - position - 1),
      startsTest entry = true) :
    extentAt position behind id nodeText (after ++ more) =
      extentAt position behind id nodeText after := by
  obtain ⟨least, _⟩ := reachFromNode_bounds nodeText after
  have toFinish : (extentAt position behind id nodeText after).finish - position - 1 =
      (reachFromNode nodeText after).1 - 1 +
        teardownCount (teardownAfter id (after.drop ((reachFromNode nodeText after).1 - 1))) := by
    simp only [extentAt, Extent.finish, teardownCount]
    omega
  rw [toFinish, ← List.drop_drop] at goesOn
  have inside : (reachFromNode nodeText after).1 ≤ after.length := by
    obtain ⟨entry, member, _⟩ := goesOn
    have nonempty := List.length_pos_of_mem member
    rw [List.length_drop, List.length_drop] at nonempty
    omega
  have sameReach := reachFromNode_append more inside
  have sameTeardown := teardownAfter_append more goesOn
  have dropped : (after ++ more).drop ((reachFromNode nodeText after).1 - 1) =
      after.drop ((reachFromNode nodeText after).1 - 1) ++ more :=
    List.drop_append_of_le_length (Nat.le_trans (Nat.sub_le _ _) inside)
  simp only [extentAt, sameReach, dropped, sameTeardown]

/-! ## The tests of a truncated stream -/

theorem collectExtents_starts {position : Nat} {behind : Transcript} {text : String} {id : NodeId}
    {rest : Transcript} (noGroup : carries opensGroup (some text) = false)
    (isNode : node? text = some id) :
    (collectExtents position behind 0 (some text :: rest)).1 =
      extentAt position behind id text rest ::
        (collectExtents (position + 1) []
          ((extentAt position behind id text rest).finish - position - 1) rest).1 := by
  rw [collectExtents, noGroup]
  simp only [Bool.false_eq_true, if_false, Option.bind_some, isNode, Option.map_some]

/-- Where the first pass finds a test, there is a line that starts one, behind those that are
skipped. -/
theorem exists_startsTest {transcript : Transcript} {position skip : Nat} {behind : Transcript}
    (found : (collectExtents position behind skip transcript).1 ≠ []) :
    ∃ entry ∈ transcript.drop skip, startsTest entry = true := by
  induction transcript generalizing position behind skip with
  | nil => exact absurd rfl found
  | cons entry rest inductionHypothesis =>
    cases skip with
    | succ skip =>
      rw [collectExtents] at found
      exact inductionHypothesis found
    | zero =>
      by_cases group : carries opensGroup entry = true
      · rw [collectExtents, if_pos group] at found
        exact absurd rfl found
      · have noGroup := Bool.eq_false_iff.mpr group
        cases read : entry.bind node? with
        | none =>
          rw [collectExtents_other noGroup read] at found
          obtain ⟨other, member, starts⟩ := inductionHypothesis found
          exact ⟨other, List.mem_cons_of_mem entry member, starts⟩
        | some id =>
          refine ⟨entry, List.mem_cons_self, ?_⟩
          rw [startsTest, read]
          rfl

/-- The second list has the tests of the first one, and perhaps more. All but the last test of
the first list stand there unchanged. -/
structure IsContinuedBy (early late : List Extent) : Prop where
  ids : early.map Extent.id <+: late.map Extent.id
  finished : early.dropLast <+: late

section IsContinuedBy

variable {early late : List Extent} {first other : Extent}

theorem IsContinuedBy.nil (late : List Extent) : IsContinuedBy [] late :=
  ⟨List.nil_prefix, List.nil_prefix⟩

theorem IsContinuedBy.singleton (sameId : first.id = other.id)
    (late : List Extent) : IsContinuedBy [first] (other :: late) := by
  refine ⟨?_, List.nil_prefix⟩
  rw [List.map_singleton, List.map_cons, sameId]
  exact List.prefix_append [other.id] _

theorem IsContinuedBy.cons (continued : IsContinuedBy early late) (nonempty : early ≠ [])
    (first : Extent) : IsContinuedBy (first :: early) (first :: late) := by
  refine ⟨?_, ?_⟩
  · rw [List.map_cons, List.map_cons]
    exact (List.prefix_cons_inj _).mpr continued.ids
  · rw [List.dropLast_cons_of_ne_nil nonempty]
    exact (List.prefix_cons_inj _).mpr continued.finished

theorem IsContinuedBy.length_le (continued : IsContinuedBy early late) :
    early.length ≤ late.length := by
  have lengths := continued.ids.length_le
  rwa [List.length_map, List.length_map] at lengths

theorem IsContinuedBy.id_eq (continued : IsContinuedBy early late) {test : Nat}
    (isFirst : early[test]? = some first) (isOther : late[test]? = some other) :
    first.id = other.id := by
  obtain ⟨below, rfl⟩ := List.getElem?_eq_some_iff.mp isFirst
  obtain ⟨_, rfl⟩ := List.getElem?_eq_some_iff.mp isOther
  have sameId := continued.ids.getElem (i := test) (by rwa [List.length_map])
  rwa [List.getElem_map, List.getElem_map] at sameId

theorem IsContinuedBy.eq_of_lt (continued : IsContinuedBy early late) {test : Nat}
    (notLast : test + 1 < early.length) (isFirst : early[test]? = some first)
    (isOther : late[test]? = some other) : first = other := by
  obtain ⟨_, rfl⟩ := List.getElem?_eq_some_iff.mp isFirst
  obtain ⟨_, rfl⟩ := List.getElem?_eq_some_iff.mp isOther
  have same := continued.finished.getElem (i := test) (by rw [List.length_dropLast]; omega)
  rwa [List.getElem_dropLast] at same

end IsContinuedBy

/-- The tests of a stream are continued by those of a longer one. -/
theorem collectExtents_append (shorter more : Transcript) (position skip : Nat)
    (behind : Transcript) :
    IsContinuedBy (collectExtents position behind skip shorter).1
      (collectExtents position behind skip (shorter ++ more)).1 := by
  induction shorter generalizing position behind skip with
  | nil => exact .nil _
  | cons entry rest inductionHypothesis =>
    cases skip with
    | succ skip =>
      rw [List.cons_append, collectExtents, collectExtents]
      exact inductionHypothesis _ _ _
    | zero =>
      rw [List.cons_append]
      by_cases group : carries opensGroup entry = true
      · rw [collectExtents, if_pos group]
        exact .nil _
      · have noGroup := Bool.eq_false_iff.mpr group
        cases read : entry.bind node? with
        | none =>
          rw [collectExtents_other noGroup read, collectExtents_other noGroup read]
          exact inductionHypothesis _ _ _
        | some id =>
          obtain ⟨text, rfl, isNode⟩ := Option.bind_eq_some_iff.mp read
          rw [collectExtents_starts noGroup isNode, collectExtents_starts noGroup isNode]
          -- Only the last test of the shorter stream may still change.
          by_cases isLast : (collectExtents (position + 1) []
              ((extentAt position behind id text rest).finish - position - 1) rest).1 = []
          · rw [isLast]
            exact .singleton (id_extentAt.trans id_extentAt.symm) _
          · rw [extentAt_append more (exists_startsTest isLast)]
            exact (inductionHypothesis _ _ _).cons isLast _

/-! ## The whole stream -/

/-- The session starts where it did if its header is still there, or if no header follows. -/
theorem sessionStart_append {shorter more : Transcript}
    (headed : shorter.any (carries opensSession) = true ∨
      more.any (carries opensSession) = false) :
    sessionStart (shorter ++ more) = sessionStart shorter := by
  have sameHeader : (shorter ++ more).findIdx? (carries opensSession) =
      shorter.findIdx? (carries opensSession) := by
    rw [List.findIdx?_append]
    rcases headed with isHeaded | noHeader
    · obtain ⟨index, found⟩ := Option.isSome_iff_exists.mp (List.findIdx?_isSome.trans isHeaded)
      rw [found, Option.some_or]
    · have nothing : more.findIdx? (carries opensSession) = none := by
        rw [← Option.not_isSome_iff_eq_none, List.findIdx?_isSome, noHeader]
        exact Bool.false_ne_true
      rw [nothing, Option.map_none, Option.or_none]
  rw [sessionStart, sameHeader, sessionStart]

theorem Layout.extents_append {shorter more : Transcript}
    (headed : shorter.any (carries opensSession) = true ∨
      more.any (carries opensSession) = false) :
    IsContinuedBy (Layout.ofTranscript shorter).extents
      (Layout.ofTranscript (shorter ++ more)).extents := by
  show IsContinuedBy (collectExtents (sessionStart shorter) [] 0 _).1
    (collectExtents (sessionStart (shorter ++ more)) [] 0 _).1
  rw [sessionStart_append headed, List.drop_append_of_le_length (sessionStart_le shorter)]
  exact collectExtents_append _ _ _ _ _

theorem Tiles.finish_le {low high : Nat} {extents : List Extent} (tiles : Tiles low extents high) :
    ∀ extent ∈ extents, extent.finish ≤ high := by
  induction tiles with
  | nil => exact fun _ member => nomatch member
  | cons _ _ later inductionHypothesis =>
    exact List.forall_mem_cons.mpr ⟨later.le, inductionHypothesis⟩

theorem Layout.finish_le (transcript : Transcript) :
    ∀ extent ∈ (Layout.ofTranscript transcript).extents, extent.finish ≤ transcript.length := by
  intro extent member
  obtain ⟨tiles, inside⟩ := Layout.tiles transcript
  exact Nat.le_trans (tiles.finish_le extent member) inside

/-! ## Records -/

/-- Two records agree on all that the first pass reads about a test: everything but its detail
reports. -/
structure SameCourse (left right : TestRecord) : Prop where
  outcome : left.outcome = right.outcome
  messages : left.messages = right.messages
  teardown : left.teardown = right.teardown
  teardownOutcome : left.teardownOutcome = right.teardownOutcome

theorem slice_append {shorter : List Line} {stop : Nat} (inside : stop ≤ shorter.length)
    (more : List Line) (start : Nat) :
    slice (shorter ++ more) start stop = slice shorter start stop := by
  rcases Nat.le_total start stop with upward | empty
  · have within : stop - start ≤ (shorter.drop start).length := by
      rw [List.length_drop]
      omega
    rw [slice, slice, List.drop_append_of_le_length (Nat.le_trans upward inside),
      List.take_append_of_le_length within]
  · rw [slice, slice, Nat.sub_eq_zero_of_le empty, List.take_zero, List.take_zero]

theorem sameCourse_recordOf {shorter : List Line} {extent : Extent}
    (inside : extent.finish ≤ shorter.length) (more : List Line) (early late : List Placement)
    (test : Nat) :
    SameCourse (recordOf shorter early test extent)
      (recordOf (shorter ++ more) late test extent) where
  outcome := rfl
  messages := (slice_append (Nat.le_trans (Nat.le_add_right _ _) inside) more _).symm
  teardown := by
    show extent.teardown.map _ = extent.teardown.map _
    cases length : extent.teardown with
    | none => rfl
    | some count =>
      have toFinish : extent.stop + count = extent.finish := by simp [Extent.finish, length]
      rw [Option.map_some, Option.map_some, toFinish, slice_append inside]
  teardownOutcome := rfl

theorem length_recordsOf (lines : List Line) (layout : Layout) :
    (recordsOf lines layout).length = layout.extents.length := List.length_mapIdx

theorem getElem?_recordsOf (lines : List Line) (layout : Layout) (test : Nat) :
    (recordsOf lines layout)[test]? =
      layout.extents[test]?.map (recordOf lines layout.placements test) :=
  List.getElem?_mapIdx

/-- The tests of a session are the records of its extents. -/
theorem getElem?_tests_eq_some_iff {runnerPod : String} {lines : List Line} {test : Nat}
    {record : TestRecord} :
    (ofLines runnerPod lines).tests[test]? = some record ↔
      ∃ extent, (Layout.ofTranscript (transcriptOf runnerPod lines)).extents[test]? = some extent ∧
        recordOf lines (Layout.ofTranscript (transcriptOf runnerPod lines)).placements test extent =
          record := by
  show (recordsOf lines _)[test]? = _ ↔ _
  rw [getElem?_recordsOf, Option.map_eq_some_iff]

/-- If all but the last test are where they were, so are their records. -/
theorem recordsOf_append {shorter more : List Line} {early late : Layout}
    (continued : IsContinuedBy early.extents late.extents)
    (inside : ∀ extent ∈ early.extents, extent.finish ≤ shorter.length) {test : Nat}
    {before after : TestRecord} (isBefore : (recordsOf shorter early)[test]? = some before)
    (isAfter : (recordsOf (shorter ++ more) late)[test]? = some after) :
    before.id = after.id ∧
      (test + 1 < (recordsOf shorter early).length → SameCourse before after) := by
  rw [getElem?_recordsOf, Option.map_eq_some_iff] at isBefore isAfter
  obtain ⟨first, isFirst, rfl⟩ := isBefore
  obtain ⟨other, isOther, rfl⟩ := isAfter
  refine ⟨continued.id_eq isFirst isOther, fun notLast => ?_⟩
  rw [length_recordsOf] at notLast
  obtain rfl := continued.eq_of_lt notLast isFirst isOther
  exact sameCourse_recordOf (inside first (List.mem_of_getElem? isFirst)) more _ _ test

/-! ## Sessions -/

/-- The runner opens the session with the line. -/
def isHeader (runnerPod : String) (line : Line) : Bool :=
  isRunnerLine runnerPod line && opensSession line.message

theorem any_opensSession (runnerPod : String) (lines : List Line) :
    (transcriptOf runnerPod lines).any (carries opensSession) = lines.any (isHeader runnerPod) := by
  rw [transcriptOf, List.any_map]
  congr 1
  funext line
  rw [Function.comp, isHeader]
  cases isRunnerLine runnerPod line <;> rfl

/-- The header is still there, or no line behind the shorter stream is one. -/
theorem transcriptOf_headed {runnerPod : String} {shorter more : List Line}
    (headed : (∃ line ∈ shorter, isHeader runnerPod line = true) ∨
      ¬∃ line ∈ shorter ++ more, isHeader runnerPod line = true) :
    (transcriptOf runnerPod shorter).any (carries opensSession) = true ∨
      (transcriptOf runnerPod more).any (carries opensSession) = false := by
  rw [any_opensSession, any_opensSession]
  refine headed.imp List.any_eq_true.mpr fun noHeader => List.any_eq_false.mpr ?_
  exact fun line member opens => noHeader ⟨line, List.mem_append_right _ member, opens⟩

/-- A truncated stream keeps its finished tests. If it still has the header of the session, or
the whole stream has none, then its tests are those of the whole stream, perhaps without the
last ones, and all but the last of them are as they are there, except for their detail
reports. -/
theorem ofLines_truncated {runnerPod : String} {shorter lines : List Line}
    (isTruncated : shorter <+: lines)
    (headed : (∃ line ∈ shorter, isHeader runnerPod line = true) ∨
      ¬∃ line ∈ lines, isHeader runnerPod line = true) :
    let early := (ofLines runnerPod shorter).tests
    let late := (ofLines runnerPod lines).tests
    early.length ≤ late.length ∧
      ∀ test before after, early[test]? = some before → late[test]? = some after →
        before.id = after.id ∧ (test + 1 < early.length → SameCourse before after) := by
  obtain ⟨more, rfl⟩ := isTruncated
  have continued := Layout.extents_append (transcriptOf_headed headed)
  have joined : transcriptOf runnerPod shorter ++ transcriptOf runnerPod more =
      transcriptOf runnerPod (shorter ++ more) := List.map_append.symm
  rw [joined] at continued
  have inside (extent : Extent)
      (member : extent ∈ (Layout.ofTranscript (transcriptOf runnerPod shorter)).extents) :
      extent.finish ≤ shorter.length :=
    Nat.le_trans (Layout.finish_le _ extent member) (Nat.le_of_eq (List.length_map _))
  constructor
  · show (recordsOf shorter _).length ≤ (recordsOf (shorter ++ more) _).length
    rw [length_recordsOf, length_recordsOf]
    exact continued.length_le
  · intro test before after isBefore isAfter
    exact recordsOf_append continued inside isBefore isAfter

/-- A test whose teardown fails, and a test that fails. -/
def twoFailures : List Line :=
  [fromRunner "=== test session starts ===", fromRunner "tests/a.py::test_one PASSED [ 20%]",
    fromRunner "------------ live log teardown ------------", fromDevice "powering off",
    fromRunner "", fromRunner "tests/a.py::test_one ERROR [ 20%]",
    fromRunner "tests/a.py::test_two ", fromDevice "booting", fromRunner "FAILED [ 40%]"]

/-- If the stream breaks off within the second test, its outcome is lost, and the first test is
as it was. -/
theorem ofLines_truncated_twoFailures :
    let early := (ofLines defaultRunnerPod (twoFailures.take 8)).tests
    let late := (ofLines defaultRunnerPod twoFailures).tests
    early.map TestRecord.outcome = [some .passed, none] ∧
      late.map TestRecord.outcome = [some .passed, some .failed] ∧
      early.length ≤ late.length ∧
      ∀ before after, early[0]? = some before → late[0]? = some after →
        before.id = after.id ∧ SameCourse before after := by
  intro early late
  have outcomes : early.map TestRecord.outcome = [some .passed, none] := by decide +kernel
  have lateOutcomes : late.map TestRecord.outcome = [some .passed, some .failed] := by
    decide +kernel
  have twoTests : early.length = 2 := by
    rw [← List.length_map (f := TestRecord.outcome), outcomes]
    rfl
  have isHeaded : ∃ line ∈ twoFailures.take 8, isHeader defaultRunnerPod line = true :=
    ⟨_, List.mem_cons_self, by decide +kernel⟩
  obtain ⟨lengths, records⟩ := ofLines_truncated (List.take_prefix 8 twoFailures) (.inl isHeaded)
  refine ⟨outcomes, lateOutcomes, lengths, fun before after isBefore isAfter => ?_⟩
  obtain ⟨sameId, finished⟩ := records 0 before after isBefore isAfter
  exact ⟨sameId, finished (by show 1 < early.length; omega)⟩

end RunTriage.Session
