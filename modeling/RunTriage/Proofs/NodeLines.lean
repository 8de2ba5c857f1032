import RunTriage.Proofs.TestLines

/-!
Contract: what becomes of the lines that start with the identity of a test.

Owns:
- all node lines of a stream, told from its tests;
- `NodeUse`, the one use of every node line: it starts a test, or it reports that the teardown of
  one failed;
- what the node lines of a test tell its record.

Does not own: which lines of a single test are node lines, which is in `RunTriage.Proofs.TestLines`.
-/

namespace RunTriage.Session

/-! ## The tests of a stream -/

section LaidOut

variable {transcript : Transcript} {low : Nat} {extents : List Extent}

theorem LaidOut.toReports (laidOut : LaidOut transcript low extents) :
    ∃ high, low ≤ high ∧
      (high = transcript.length ∨ carries opensGroup (entryAt transcript high) = true) ∧
      (∀ position, low ≤ position → position < high →
        carries opensGroup (entryAt transcript position) = false) ∧
      nodesWithin transcript low high = extents.flatMap (Extent.nodeLines transcript) := by
  induction laidOut with
  | @nil low high onward quiet ends =>
    exact ⟨high, onward, ends, fun position => quiet.noGroup, quiet.nodesWithin⟩
  | @cons low text extent later starts _ inductionHypothesis =>
    obtain ⟨high, onward, ends, noGroup, nodes⟩ := inductionHypothesis
    obtain ⟨ahead, nodeLt, stopLe, _⟩ := starts.bounds
    refine ⟨high, by omega, ends, fun position least most => ?_, ?_⟩
    · rcases Nat.lt_or_ge position extent.finish with within | behind
      · exact starts.noGroup_within least within
      · exact noGroup position behind most
    · rw [nodesWithin_append (by omega : low ≤ extent.finish) onward, starts.nodesWithin_eq, nodes,
        List.flatMap_cons]

theorem reportsStart_eq {high : Nat} (onward : low ≤ high)
    (ends : high = transcript.length ∨ carries opensGroup (entryAt transcript high) = true)
    (noGroup : ∀ position, low ≤ position → position < high →
      carries opensGroup (entryAt transcript position) = false) :
    reportsStart transcript low = high := by
  have entryWithin (index : Nat) (within : index < (transcript.drop low).length) :
      (transcript.drop low)[index] = entryAt transcript (low + index) := by
    rw [entryAt, ← List.getElem?_drop, List.getElem?_eq_getElem within]
    rfl
  have highInside : high ≤ transcript.length := by
    rcases ends with atEnd | group
    · exact Nat.le_of_eq atEnd
    · by_contra outside
      rw [entryAt_of_length_le (by omega), carries_none] at group
      cases group
  have count : (transcript.drop low).length = transcript.length - low := List.length_drop
  have atMost : (transcript.drop low).findIdx (carries opensGroup) ≤
      (transcript.drop low).length := List.findIdx_le_length
  -- A first header elsewhere would be one within the quiet part, or pass over the one at its end.
  refine Nat.le_antisymm ?_ ?_ <;> by_contra beyond <;> rw [reportsStart] at beyond
  · have within : high - low < (transcript.drop low).findIdx (carries opensGroup) := by omega
    have passed := List.not_of_lt_findIdx within
    have toHigh : low + (high - low) = high := by omega
    rw [entryWithin, toHigh] at passed
    rcases ends with atEnd | group
    · omega
    · rw [passed] at group
      cases group
  · have within : (transcript.drop low).findIdx (carries opensGroup) <
        (transcript.drop low).length := by omega
    have group := List.findIdx_getElem (w := within)
    rw [entryWithin, noGroup _ (by omega) (by omega)] at group
    cases group

theorem nodeLines_eq (transcript : Transcript) :
    nodeLines transcript =
      (Layout.ofTranscript transcript).extents.flatMap (Extent.nodeLines transcript) := by
  obtain ⟨high, onward, ends, noGroup, nodes⟩ := (Layout.laidOut transcript).toReports
  rw [nodeLines, reportsStart_eq onward ends noGroup, nodes]

/-- The tests follow one another with their node lines. -/
theorem LaidOut.pairwise (laidOut : LaidOut transcript low extents) :
    (∀ extent ∈ extents, low ≤ extent.node) ∧
      extents.Pairwise fun extent later => extent.finish ≤ later.node := by
  induction laidOut with
  | nil => exact ⟨List.forall_mem_nil _, .nil⟩
  | @cons low text extent later starts _ inductionHypothesis =>
    obtain ⟨behind, ordered⟩ := inductionHypothesis
    obtain ⟨ahead, nodeLt, stopLe, _⟩ := starts.bounds
    refine ⟨List.forall_mem_cons.mpr ⟨ahead, fun other member => ?_⟩, .cons behind ordered⟩
    exact Nat.le_trans (by omega) (behind other member)

theorem LaidOut.startsBehind_of_mem (laidOut : LaidOut transcript low extents) {extent : Extent}
    (member : extent ∈ extents) : ∃ low text, StartsBehind transcript low text extent := by
  obtain ⟨test, isTest⟩ := List.mem_iff_getElem?.mp member
  obtain ⟨text, starts⟩ := laidOut.startsBehind isTest
  exact ⟨_, text, starts⟩

end LaidOut

/-! ## The use of a node line -/

/-- What a line is used for: it starts a test, or it is the last line of the teardown of one. -/
inductive NodeUse where
  | opens (test : Nat)
  | closes (test : Nat)
deriving DecidableEq, Repr

namespace NodeUse

/-- The test that the line is used for. -/
def test : NodeUse → Nat
  | opens test | closes test => test

/-- The position of the line with a use. -/
def position? (extents : List Extent) : NodeUse → Option Nat
  | opens test => extents[test]?.map Extent.node
  | closes test => extents[test]?.bind Extent.lastLine?

end NodeUse

section Uses

variable {transcript : Transcript} {low position : Nat} {extents : List Extent}

/-- Where a line of a use stands: at the node line of the test, or behind its messages. -/
theorem LaidOut.position_of_use (laidOut : LaidOut transcript low extents) {use : NodeUse}
    (isUse : use.position? extents = some position) :
    ∃ extent, extents[use.test]? = some extent ∧
      (use = .opens use.test ∧ position = extent.node ∨
        use = .closes use.test ∧ extent.stop ≤ position) ∧
      extent.node ≤ position ∧ position < extent.finish := by
  cases use with
  | opens test =>
    obtain ⟨extent, isTest, rfl⟩ := Option.map_eq_some_iff.mp isUse
    obtain ⟨_, _, starts⟩ := laidOut.startsBehind_of_mem (List.mem_of_getElem? isTest)
    obtain ⟨_, nodeLt, stopLe, _⟩ := starts.bounds
    exact ⟨extent, isTest, .inl ⟨rfl, rfl⟩, Nat.le_refl _, by omega⟩
  | closes test =>
    obtain ⟨extent, isTest, isLast⟩ := Option.bind_eq_some_iff.mp isUse
    obtain ⟨_, _, starts⟩ := laidOut.startsBehind_of_mem (List.mem_of_getElem? isTest)
    obtain ⟨_, nodeLt, stopLe, _⟩ := starts.bounds
    rcases starts.endsTeardown with ⟨none, _⟩ | ⟨last, ends⟩
    · rw [Extent.lastLine?, none] at isLast
      cases isLast
    · rw [ends.isLast] at isLast
      cases isLast
      have behind := ends.behind
      have finish := ends.finish
      exact ⟨extent, isTest, .inr ⟨rfl, behind⟩, by omega, by omega⟩

/-- A line has one use at most. -/
theorem LaidOut.use_unique (laidOut : LaidOut transcript low extents) {use other : NodeUse}
    (isUse : use.position? extents = some position)
    (isOther : other.position? extents = some position) : use = other := by
  obtain ⟨extent, isTest, role, fromNode, within⟩ := laidOut.position_of_use isUse
  obtain ⟨later, isLater, otherRole, otherFromNode, otherWithin⟩ := laidOut.position_of_use isOther
  obtain ⟨_, _, starts⟩ := laidOut.startsBehind_of_mem (List.mem_of_getElem? isTest)
  obtain ⟨_, nodeLt, _, _⟩ := starts.bounds
  have apart {first second : Nat} {before after : Extent} (isBefore : extents[first]? = some before)
      (isAfter : extents[second]? = some after) (inOrder : first < second) :
      before.finish ≤ after.node := by
    obtain ⟨firstInside, rfl⟩ := List.getElem?_eq_some_iff.mp isBefore
    obtain ⟨secondInside, rfl⟩ := List.getElem?_eq_some_iff.mp isAfter
    exact List.pairwise_iff_getElem.mp laidOut.pairwise.2 _ _ firstInside secondInside inOrder
  have sameTest : use.test = other.test := by
    rcases Nat.lt_trichotomy use.test other.test with before | same | behind
    · have := apart isTest isLater before
      omega
    · exact same
    · have := apart isLater isTest behind
      omega
  rw [← sameTest, isTest] at isLater
  cases isLater
  rcases role with ⟨isOpen, atNode⟩ | ⟨isClose, behindMessages⟩ <;>
    rcases otherRole with ⟨otherOpen, otherAtNode⟩ | ⟨otherClose, otherBehind⟩
  · rw [isOpen, otherOpen, sameTest]
  · omega
  · omega
  · rw [isClose, otherClose, sameTest]

end Uses

/-! ## The tests of a session -/

/-- The last line of a teardown is a line of the runner that starts with the identity of a test. -/
def failsTeardown (runnerPod : String) (record : TestRecord) : Bool :=
  (record.teardown.getD []).getLast?.any fun line =>
    isRunnerLine runnerPod line && isNode line.message

theorem carries_transcriptOf (holds : String → Bool) (runnerPod : String) (lines : List Line)
    (position : Nat) :
    carries holds (entryAt (transcriptOf runnerPod lines) position) =
      lines[position]?.any fun line => isRunnerLine runnerPod line && holds line.message := by
  rw [entryAt, transcriptOf, List.getElem?_map]
  cases lines[position]? with
  | none => rfl
  | some line => cases spoken : isRunnerLine runnerPod line <;> simp [spoken]

theorem getLast?_slice {lines : List Line} {start stop : Nat} (ahead : start < stop)
    (inside : stop ≤ lines.length) : (slice lines start stop).getLast? = lines[stop - 1]? := by
  have count : ((lines.drop start).take (stop - start)).length = stop - start := by
    rw [List.length_take, List.length_drop]
    omega
  have toLast : start + (stop - start - 1) = stop - 1 := by omega
  rw [slice, List.getLast?_eq_getElem?, count, List.getElem?_take_of_lt (by omega),
    List.getElem?_drop, toLast]

/-- A record tells whether its teardown ends with a node line. -/
theorem failsTeardown_recordOf {runnerPod : String} {lines : List Line} {low : Nat} {text : String}
    {extent : Extent} (starts : StartsBehind (transcriptOf runnerPod lines) low text extent)
    (placements : List Placement) (test : Nat) :
    failsTeardown runnerPod (recordOf lines placements test extent) =
      (extent.failure? (transcriptOf runnerPod lines)).isSome := by
  obtain ⟨_, _, _, inside⟩ := starts.bounds
  have length : (transcriptOf runnerPod lines).length = lines.length := List.length_map _
  rcases starts.endsTeardown with ⟨none, _⟩ | ⟨last, ends⟩
  · simp only [failsTeardown, recordOf, Extent.failure?, Extent.lastLine?, none]
    rfl
  · have behind := ends.behind
    have finish := ends.finish
    obtain ⟨count, taken, isLast⟩ := Option.map_eq_some_iff.mp ends.isLast
    have toFinish : extent.stop + count = last + 1 := by
      rw [← finish, Extent.finish, taken]
      rfl
    have lastLine : (slice lines extent.stop (last + 1)).getLast? = lines[last]? :=
      getLast?_slice (by omega) (by omega)
    rw [failsTeardown, recordOf, taken, Option.map_some, Option.getD_some, toFinish, lastLine,
      Extent.failure?, ends.isLast, Option.filter_some, carries_transcriptOf]
    split
    · rename_i node
      exact node
    · rename_i other
      exact Bool.eq_false_iff.mpr other

theorem length_flatMap_nodeLines (transcript : Transcript) (extents : List Extent) :
    (extents.flatMap (Extent.nodeLines transcript)).length =
      extents.length + extents.countP fun extent => (extent.failure? transcript).isSome := by
  induction extents with
  | nil => rfl
  | cons extent later inductionHypothesis =>
    rw [List.flatMap_cons, List.length_append, inductionHypothesis, List.countP_cons,
      List.length_cons, Extent.nodeLines, List.length_cons]
    cases extent.failure? transcript <;> simp <;> omega

theorem countP_failsTeardown (runnerPod : String) (lines : List Line) :
    (ofLines runnerPod lines).tests.countP (failsTeardown runnerPod) =
      (Layout.ofTranscript (transcriptOf runnerPod lines)).extents.countP fun extent =>
        (extent.failure? (transcriptOf runnerPod lines)).isSome := by
  have laidOut := Layout.laidOut (transcriptOf runnerPod lines)
  generalize isLayout : Layout.ofTranscript (transcriptOf runnerPod lines) = layout at laidOut ⊢
  have isTests : (ofLines runnerPod lines).tests = recordsOf lines layout := by
    rw [← isLayout]
    rfl
  have sameFailures : (recordsOf lines layout).map (failsTeardown runnerPod) =
      layout.extents.map fun extent =>
        (extent.failure? (transcriptOf runnerPod lines)).isSome := by
    refine List.ext_getElem? fun test => ?_
    rw [List.getElem?_map, List.getElem?_map, getElem?_recordsOf, Option.map_map]
    cases isTest : layout.extents[test]? with
    | none => rfl
    | some extent =>
      obtain ⟨_, _, starts⟩ := laidOut.startsBehind_of_mem (List.mem_of_getElem? isTest)
      exact congrArg some (failsTeardown_recordOf starts layout.placements test)
  rw [isTests, ← Function.id_comp (failsTeardown runnerPod), ← List.countP_map, sameFailures,
    List.countP_map]
  rfl

theorem mem_nodeLines {transcript : Transcript} {position : Nat} :
    position ∈ nodeLines transcript ↔
      sessionStart transcript ≤ position ∧ carries isNode (entryAt transcript position) = true ∧
        ∀ other, sessionStart transcript ≤ other → other ≤ position →
          carries opensGroup (entryAt transcript other) = false := by
  obtain ⟨high, onward, ends, noGroup, _⟩ := (Layout.laidOut transcript).toReports
  rw [nodeLines, reportsStart_eq onward ends noGroup, mem_nodesWithin]
  constructor
  · rintro ⟨⟨least, most⟩, node⟩
    exact ⟨least, node, fun other fromStart upTo => noGroup other fromStart (by omega)⟩
  · rintro ⟨least, node, noneBefore⟩
    refine ⟨⟨least, ?_⟩, node⟩
    by_contra beyond
    rcases ends with atEnd | group
    · rw [entryAt_of_length_le (by omega), carries_none] at node
      cases node
    · rw [noneBefore high onward (by omega)] at group
      cases group

theorem mem_nodeLines_iff {transcript : Transcript} {position : Nat} :
    position ∈ nodeLines transcript ↔
      ∃ extent ∈ (Layout.ofTranscript transcript).extents,
        position = extent.node ∨ extent.failure? transcript = some position := by
  rw [nodeLines_eq, List.mem_flatMap]
  refine exists_congr fun extent => and_congr_right' ?_
  rw [Extent.nodeLines, List.mem_cons, Option.mem_toList]

theorem failure?_eq_some_iff {transcript : Transcript} {extent : Extent} {position : Nat} :
    extent.failure? transcript = some position ↔ extent.lastLine? = some position ∧
      carries isNode (entryAt transcript position) = true := Option.filter_eq_some_iff

/-- What the node lines of a test tell its record, which lies at an extent. -/
structure NodeLinesOf (runnerPod : String) (lines : List Line) (extent : Extent)
    (record : TestRecord) : Prop where
  messages : record.messages = slice lines extent.start extent.stop
  teardown : record.teardown = extent.teardown.map fun count =>
    slice lines extent.stop (extent.stop + count)
  isNodeLine : extent.node ∈ nodeLines (transcriptOf runnerPod lines)
  isNode : (entryAt (transcriptOf runnerPod lines) extent.node).bind node? = some record.id
  /-- A node line at the end of the teardown is about the same test, and tells the outcome. -/
  failure : ∀ position ∈ nodeLines (transcriptOf runnerPod lines),
    extent.lastLine? = some position → ∃ text,
      entryAt (transcriptOf runnerPod lines) position = some text ∧
        Text.startsWith text (record.id.display ++ " ") = true ∧
        ∀ known, record.teardownOutcome = some known ↔ endKeyword? text = some known.keyword
  /-- Nothing else tells it. -/
  told : record.teardownOutcome ≠ none → ∃ position ∈ nodeLines (transcriptOf runnerPod lines),
    extent.lastLine? = some position

theorem nodeLinesOf_recordOf (runnerPod : String) (lines : List Line) (test : Nat)
    {extent : Extent}
    (member : extent ∈ (Layout.ofTranscript (transcriptOf runnerPod lines)).extents) :
    NodeLinesOf runnerPod lines extent
      (recordOf lines (Layout.ofTranscript (transcriptOf runnerPod lines)).placements test
        extent) := by
  obtain ⟨_, text, starts⟩ := (Layout.laidOut (transcriptOf runnerPod lines)).startsBehind_of_mem
    member
  refine ⟨rfl, rfl, mem_nodeLines_iff.mpr ⟨extent, member, .inl rfl⟩, ?_, ?_, ?_⟩
  · rw [entryAt, starts.nodeLine, Option.join_some, Option.bind_some, starts.isNode]
    rfl
  · intro position isNodeLine isLast
    obtain ⟨_, node, _⟩ := mem_nodeLines.mp isNodeLine
    rcases starts.endsTeardown with ⟨none, _⟩ | ⟨last, ends⟩
    · rw [Extent.lastLine?, none] at isLast
      cases isLast
    · obtain rfl : last = position := Option.some.inj (ends.isLast.symm.trans isLast)
      rcases ends.tells with ⟨goesOn, _⟩ | ⟨isSecond, outcome⟩
      · rw [interrupts_eq, node, Bool.or_true] at goesOn
        cases goesOn
      · cases isEntry : entryAt (transcriptOf runnerPod lines) last with
        | none =>
          rw [isEntry, carries_none] at node
          cases node
        | some text =>
          rw [isEntry] at isSecond outcome
          rw [repeats, carries_some] at isSecond
          rw [outcomeIn, Option.bind_some] at outcome
          refine ⟨text, rfl, isSecond, fun known => ?_⟩
          rw [← endOutcome?_eq_some_iff, ← outcome]
          exact Iff.rfl
  · intro isTold
    rcases starts.endsTeardown with ⟨_, none⟩ | ⟨last, ends⟩
    · exact absurd none isTold
    · rcases ends.tells with ⟨_, none⟩ | ⟨isSecond, _⟩
      · exact absurd none isTold
      · have isFailure := failure?_eq_some_iff.mpr ⟨ends.isLast, starts.carries_isNode isSecond⟩
        exact ⟨last, mem_nodeLines_iff.mpr ⟨extent, member, .inr isFailure⟩, ends.isLast⟩

/-- Every node line of the session before its first group header starts exactly one test, or ends
the teardown of exactly one. The tests are listed in the order of their node lines, so there is
one less than node lines for each teardown that ends in one. Such a teardown ends in a line about
its own test, and the outcome of a teardown is told in no other way. -/
theorem nodeLines_used_once (runnerPod : String) (lines : List Line) :
    let transcript := transcriptOf runnerPod lines
    let extents := (Layout.ofTranscript transcript).extents
    let tests := (ofLines runnerPod lines).tests
    (∀ position, position ∈ nodeLines transcript ↔
        sessionStart transcript ≤ position ∧
          carries isNode (entryAt transcript position) = true ∧
          ∀ other, sessionStart transcript ≤ other → other ≤ position →
            carries opensGroup (entryAt transcript other) = false) ∧
      (∀ position ∈ nodeLines transcript, ∃! use : NodeUse,
        use.position? extents = some position) ∧
      (extents.map Extent.node).Pairwise (· < ·) ∧
      (nodeLines transcript).length = tests.length + tests.countP (failsTeardown runnerPod) ∧
      tests.length = extents.length ∧
      ∀ (test : Nat) (record : TestRecord), tests[test]? = some record →
        ∃ extent, extents[test]? = some extent ∧ NodeLinesOf runnerPod lines extent record := by
  intro transcript extents tests
  have laidOut : LaidOut transcript (sessionStart transcript) extents := Layout.laidOut transcript
  have count : tests.length = extents.length := length_recordsOf lines _
  refine ⟨fun _ => mem_nodeLines, fun position isNodeLine => ?_, ?_, ?_, count, ?_⟩
  · obtain ⟨extent, member, role⟩ := mem_nodeLines_iff.mp isNodeLine
    obtain ⟨test, isTest⟩ := List.mem_iff_getElem?.mp member
    have exists_use : ∃ use : NodeUse, use.position? extents = some position := by
      rcases role with rfl | isFailure
      · exact ⟨.opens test, congrArg (Option.map Extent.node) isTest⟩
      · refine ⟨.closes test, ?_⟩
        show extents[test]?.bind Extent.lastLine? = _
        rw [isTest]
        exact (failure?_eq_some_iff.mp isFailure).1
    obtain ⟨use, isUse⟩ := exists_use
    exact ⟨use, isUse, fun other isOther => laidOut.use_unique isOther isUse⟩
  · refine List.pairwise_map.mpr
      (laidOut.pairwise.2.imp_of_mem fun {extent _} member _ behind => ?_)
    obtain ⟨_, _, starts⟩ := laidOut.startsBehind_of_mem member
    obtain ⟨_, nodeLt, stopLe, _⟩ := starts.bounds
    omega
  · rw [nodeLines_eq, length_flatMap_nodeLines, count, countP_failsTeardown]
  · intro test record isRecord
    have isRecordOf : extents[test]?.map (recordOf lines (Layout.ofTranscript transcript).placements
        test) = some record := by
      rw [← getElem?_recordsOf]
      exact isRecord
    obtain ⟨extent, isTest, rfl⟩ := Option.map_eq_some_iff.mp isRecordOf
    exact ⟨extent, isTest,
      nodeLinesOf_recordOf runnerPod lines test (List.mem_of_getElem? isTest)⟩

/-- Of three node lines one starts each of two tests, and one ends the teardown of the first. -/
theorem nodeLines_used_once_twoFailures :
    let transcript := transcriptOf defaultRunnerPod twoFailures
    let extents := (Layout.ofTranscript transcript).extents
    let tests := (ofLines defaultRunnerPod twoFailures).tests
    nodeLines transcript = [1, 5, 6] ∧ tests.length = 2 ∧
      tests.countP (failsTeardown defaultRunnerPod) = 1 ∧
      (∃! use : NodeUse, use.position? extents = some 5) ∧
      ∃ record extent, tests[0]? = some record ∧ extents[0]? = some extent ∧
        NodeLinesOf defaultRunnerPod twoFailures extent record := by
  intro transcript extents tests
  obtain ⟨_, uses, _, count, _, records⟩ := nodeLines_used_once defaultRunnerPod twoFailures
  have positions : nodeLines transcript = [1, 5, 6] := by decide +kernel
  have twoTests : tests.length = 2 := by decide +kernel
  have total : (nodeLines transcript).length =
    tests.length + tests.countP (failsTeardown defaultRunnerPod) := count
  rw [positions, twoTests] at total
  have oneFailure : tests.countP (failsTeardown defaultRunnerPod) = 1 :=
    Nat.add_left_cancel total.symm
  obtain ⟨record, isRecord⟩ : ∃ record, tests[0]? = some record :=
    ⟨_, List.getElem?_eq_getElem (by omega)⟩
  obtain ⟨extent, isTest, roles⟩ := records 0 record isRecord
  refine ⟨positions, twoTests, oneFailure, uses 5 ?_, record, extent, isRecord,
    isTest, roles⟩
  rw [positions]
  decide

end RunTriage.Session
