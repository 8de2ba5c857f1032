import RunTriage.Proofs.MarkerShapes
import RunTriage.Proofs.TestWindows

/-!
Contract: the node lines among the lines of a test.

Owns:
- `nodeLines`, the positions of node lines in the part of a stream that has the tests;
- the lines of a teardown, of which the last one at most is a node line;
- the node lines from the end of one test to the end of the next one, which are that of the test
  itself and perhaps the last line of its teardown.

Does not own: the tests of a whole stream, which are in `RunTriage.Proofs.NodeLines`.
-/

namespace RunTriage.Session

/-! ## Node lines by position -/

/-- The position of the first group header from a position on, or the end of the stream. -/
def reportsStart (transcript : Transcript) (low : Nat) : Nat :=
  low + (transcript.drop low).findIdx (carries opensGroup)

/-- The positions of the node lines from one position up to another. -/
def nodesWithin (transcript : Transcript) (low high : Nat) : List Nat :=
  (List.range' low (high - low)).filter fun position => carries isNode (entryAt transcript position)

/-- The positions of the node lines of the session before its first group header. -/
def nodeLines (transcript : Transcript) : List Nat :=
  nodesWithin transcript (sessionStart transcript)
    (reportsStart transcript (sessionStart transcript))

section NodesWithin

variable {transcript : Transcript} {low middle high position : Nat}

theorem mem_nodesWithin : position ∈ nodesWithin transcript low high ↔
    (low ≤ position ∧ position < high) ∧ carries isNode (entryAt transcript position) = true := by
  rw [nodesWithin, List.mem_filter, List.mem_range'_1]
  refine and_congr_left' ?_
  omega

theorem nodesWithin_append (onward : low ≤ middle) (further : middle ≤ high) :
    nodesWithin transcript low high =
      nodesWithin transcript low middle ++ nodesWithin transcript middle high := by
  have whole : high - low = (middle - low) + (high - middle) := by omega
  have toMiddle : low + (middle - low) = middle := by omega
  rw [nodesWithin, whole, ← List.range'_append_1, toMiddle, List.filter_append]
  rfl

theorem Quiet.nodesWithin (quiet : Quiet transcript low high) :
    nodesWithin transcript low high = [] := by
  refine List.eq_nil_iff_forall_not_mem.mpr fun position member => ?_
  obtain ⟨⟨least, most⟩, node⟩ := mem_nodesWithin.mp member
  have goesOn := quiet position least most
  rw [interrupts_eq, node, Bool.or_true] at goesOn
  cases goesOn

theorem nodesWithin_succ (transcript : Transcript) (position : Nat) :
    nodesWithin transcript position (position + 1) =
      if carries isNode (entryAt transcript position) then [position] else [] := by
  rw [nodesWithin, Nat.add_sub_cancel_left, List.range'_one, List.filter_singleton,
    cond_eq_ite]

theorem opensGroup_of_carries_isNode {entry : Option String} (node : carries isNode entry = true) :
    carries opensGroup entry = false := by
  cases entry with
  | none => exact carries_none _
  | some text =>
    rw [carries_some] at node
    rw [carries_some, opensGroup_of_isNode node]

theorem Quiet.noGroup (quiet : Quiet transcript low high) (least : low ≤ position)
    (most : position < high) : carries opensGroup (entryAt transcript position) = false := by
  have goesOn := quiet position least most
  rw [interrupts_eq] at goesOn
  exact (Bool.or_eq_false_iff.mp goesOn).1

end NodesWithin

/-! ## The lines of a teardown -/

theorem interrupts_of_opensTeardown {entry : Option String}
    (opens : carries opensTeardown entry = true) : interrupts entry = false := by
  cases entry with
  | none => rw [interrupts_eq, carries_none, carries_none, Bool.or_false]
  | some text =>
    rw [carries_some] at opens
    rw [interrupts_eq, carries_some, carries_some, opensGroup_of_opensTeardown opens,
      isNode_of_opensTeardown opens, Bool.or_false]

theorem interrupts_of_closesTeardown {entry : Option String}
    (goesOn : closesTeardown entry = false) : interrupts entry = false := by
  cases entry with
  | none => rw [interrupts_eq, carries_none, carries_none, Bool.or_false]
  | some text =>
    rw [closesTeardown, carries_some, Bool.or_assoc] at goesOn
    rw [interrupts, carries_some]
    exact (Bool.or_eq_false_iff.mp goesOn).2

theorem opensGroup_blank : opensGroup "" = false := by decide +kernel

theorem interrupts_of_isBlankLine {entry : Option String} (blank : isBlankLine entry = true) :
    interrupts entry = false := by
  rw [isBlankLine_iff.mp blank, interrupts_eq, carries_some, carries_some, opensGroup_blank,
    ← isSome_node?, node?_blank]
  rfl

/-- The lines that report a failed teardown are blank but for the last one, which tells the
outcome. -/
theorem teardownFailure_cases (id : NodeId) (rest : Transcript) :
    teardownFailure id rest = (0, none) ∨
      ∃ body last later, rest = body ++ last :: later ∧
        (∀ entry ∈ body, isBlankLine entry = true) ∧ repeats id last = true ∧
        teardownFailure id rest = (body.length + 1, outcomeIn last) := by
  match rest with
  | [] => exact .inl rfl
  | [entry] =>
    rw [teardownFailure]
    split
    · rename_i isSecond
      exact .inr ⟨[], entry, [], rfl, List.forall_mem_nil _, isSecond, rfl⟩
    · exact .inl rfl
  | entry :: next :: later =>
    rw [teardownFailure]
    split
    · rename_i isFailure
      obtain ⟨blank, isSecond⟩ := (Bool.and_eq_true _ _).mp isFailure
      exact .inr ⟨[entry], next, later, rfl, List.forall_mem_singleton.mpr blank, isSecond, rfl⟩
    · split
      · rename_i isSecond
        exact .inr ⟨[], entry, next :: later, rfl, List.forall_mem_nil _, isSecond, rfl⟩
      · exact .inl rfl

/-- Nothing within a teardown starts a test or the reports, except that its last line may be a
second one about the test, which then tells the outcome. -/
theorem teardownAfter_lines {id : NodeId} {rest : Transcript} {count : Nat}
    {outcome : Option Outcome} (isTeardown : teardownAfter id rest = some (count, outcome)) :
    ∃ body last, rest.take count = body ++ [last] ∧ count = body.length + 1 ∧
      (∀ entry ∈ body, interrupts entry = false) ∧
      (interrupts last = false ∧ outcome = none ∨
        repeats id last = true ∧ outcome = outcomeIn last) := by
  cases teardownShape id rest with
  | absent nothing =>
    rw [nothing] at isTeardown
    cases isTeardown
  | @naked entry rest noLog isSecond =>
    rw [teardownAfter_naked noLog isSecond] at isTeardown
    cases isTeardown
    exact ⟨[], entry, rfl, rfl, List.forall_mem_nil _, .inr ⟨isSecond, rfl⟩⟩
  | @logged opener log rest isLog =>
    have inLog : ∀ entry ∈ opener :: log, interrupts entry = false :=
      List.forall_mem_cons.mpr ⟨interrupts_of_opensTeardown isLog.opens,
        fun entry member => interrupts_of_closesTeardown (isLog.goesOn entry member)⟩
    rw [teardownAfter_logged id isLog] at isTeardown
    rcases teardownFailure_cases id rest with
      none | ⟨body, last, later, rfl, blank, isSecond, failure⟩
    · rw [none] at isTeardown
      cases isTeardown
      have nonempty : opener :: log ≠ [] := List.cons_ne_nil _ _
      refine ⟨(opener :: log).dropLast, (opener :: log).getLast nonempty, ?_, ?_, ?_, ?_⟩
      · rw [take_logged, List.take_zero, List.append_nil, List.dropLast_concat_getLast]
      · rw [List.length_dropLast, List.length_cons]
        omega
      · exact fun entry member => inLog entry (List.dropLast_subset _ member)
      · exact .inl ⟨inLog _ (List.getLast_mem nonempty), rfl⟩
    · rw [failure] at isTeardown
      cases isTeardown
      refine ⟨opener :: log ++ body, last, ?_, ?_, ?_, .inr ⟨isSecond, rfl⟩⟩
      · rw [take_logged, List.take_length_add_append]
        simp
      · rw [List.length_append, List.length_cons]
        omega
      · intro entry member
        rcases List.mem_append.mp member with inside | isBlank
        · exact inLog entry inside
        · exact interrupts_of_isBlankLine (blank entry isBlank)

/-! ## The lines of a test -/

theorem Closes.quiet {transcript : Transcript} {node stop : Nat} {outcome : Option Outcome}
    (closes : Closes transcript node stop outcome) : Quiet transcript (node + 1) stop := by
  have goesOn {other : Nat} (behind : node < other) (passed : ¬EndsMessages transcript node other) :
      interrupts (entryAt transcript other) = false :=
    Bool.eq_false_iff.mpr fun stops => passed (.inr ⟨behind, stops⟩)
  have before {position other : Nat} (isFirst : IsFirstEnd transcript node position)
      (behind : node < other) (earlier : other < position) :
      interrupts (entryAt transcript other) = false :=
    goesOn behind fun ends =>
      absurd (isFirst.2 ⟨Nat.le_of_lt behind, ends⟩) (Nat.not_le_of_lt earlier)
  cases closes with
  | interrupted isFirst _ _ => exact fun other behind earlier => before isFirst behind earlier
  | marked isFirst isEntry noStop _ =>
    intro other behind most
    rcases Nat.lt_succ_iff_lt_or_eq.mp most with earlier | rfl
    · exact before isFirst behind earlier
    · rw [isEntry]
      exact noStop behind
  | unended passed => exact fun other behind _ => goesOn behind (passed other (Nat.le_of_lt behind))

/-- The position of the last line of the teardown of a test. -/
def Extent.lastLine? (extent : Extent) : Option Nat :=
  extent.teardown.map fun count => extent.stop + (count - 1)

/-- The position of the last line of the teardown, if it is a node line. -/
def Extent.failure? (transcript : Transcript) (extent : Extent) : Option Nat :=
  extent.lastLine?.filter fun position => carries isNode (entryAt transcript position)

/-- The positions of the node lines from that of a test to its end. -/
def Extent.nodeLines (transcript : Transcript) (extent : Extent) : List Nat :=
  extent.node :: (extent.failure? transcript).toList

/-- Where the last line of a teardown is, and what it tells. -/
structure EndsTeardown (transcript : Transcript) (extent : Extent) (last : Nat) : Prop where
  isLast : extent.lastLine? = some last
  behind : extent.stop ≤ last
  finish : extent.finish = last + 1
  quiet : Quiet transcript extent.stop last
  tells : interrupts (entryAt transcript last) = false ∧ extent.teardownOutcome = none ∨
    repeats extent.id (entryAt transcript last) = true ∧
      extent.teardownOutcome = outcomeIn (entryAt transcript last)

section StartsBehind

variable {transcript : Transcript} {low : Nat} {text : String} {extent : Extent}

theorem StartsBehind.bounds (starts : StartsBehind transcript low text extent) :
    low ≤ extent.node ∧ extent.node < extent.stop ∧ extent.stop ≤ extent.finish ∧
      extent.finish ≤ transcript.length := by
  have nodeInside : extent.node < transcript.length :=
    (List.getElem?_eq_some_iff.mp starts.nodeLine).1
  obtain ⟨_, _, nodeLt, finishLe⟩ := extentAt_bounds extent.node
    (linesBehind transcript low extent.node) extent.id text (transcript.drop (extent.node + 1))
  rw [← starts.built] at nodeLt finishLe
  rw [List.length_drop] at finishLe
  exact ⟨starts.ahead, nodeLt, Nat.le_add_right _ _, by omega⟩

theorem StartsBehind.teardown_eq (starts : StartsBehind transcript low text extent) :
    extent.teardown =
        (teardownAfter extent.id (transcript.drop extent.stop)).map Prod.fst ∧
      extent.teardownOutcome =
        (teardownAfter extent.id (transcript.drop extent.stop)).bind Prod.snd := by
  have least := (reachFromNode_bounds text (transcript.drop (extent.node + 1))).1
  have isStop := congrArg Extent.stop starts.built
  have teardown := congrArg Extent.teardown starts.built
  have outcome := congrArg Extent.teardownOutcome starts.built
  rw [stop_extentAt] at isStop
  rw [teardown_extentAt, List.drop_drop] at teardown
  rw [teardownOutcome_extentAt, List.drop_drop] at outcome
  generalize (reachFromNode text (transcript.drop (extent.node + 1))).1 = reach
    at least isStop teardown outcome
  have onward : extent.node + 1 + (reach - 1) = extent.stop := by omega
  rw [onward] at teardown outcome
  exact ⟨teardown, outcome⟩

theorem StartsBehind.endsTeardown (starts : StartsBehind transcript low text extent) :
    extent.teardown = none ∧ extent.teardownOutcome = none ∨
      ∃ last, EndsTeardown transcript extent last := by
  obtain ⟨isTeardown, isOutcome⟩ := starts.teardown_eq
  cases taken : teardownAfter extent.id (transcript.drop extent.stop) with
  | none =>
    rw [taken] at isTeardown isOutcome
    exact .inl ⟨isTeardown, isOutcome⟩
  | some teardown =>
    obtain ⟨count, outcome⟩ := teardown
    rw [taken] at isTeardown isOutcome
    obtain ⟨body, last, lines, rfl, quiet, tells⟩ := teardownAfter_lines taken
    have entryWithin (index : Nat) (within : index < body.length + 1) :
        entryAt transcript (extent.stop + index) = (body ++ [last])[index]?.join := by
      rw [entryAt, ← List.getElem?_drop, ← List.getElem?_take_of_lt within, lines]
    have isLast : entryAt transcript (extent.stop + body.length) = last := by
      rw [entryWithin _ (Nat.lt_succ_self _), List.getElem?_concat_length]
      rfl
    right
    refine ⟨extent.stop + body.length, ?_, Nat.le_add_right _ _, ?_, ?_, ?_⟩
    · rw [Extent.lastLine?, isTeardown]
      rfl
    · rw [Extent.finish, isTeardown]
      rfl
    · intro position least most
      obtain ⟨index, rfl⟩ := Nat.exists_eq_add_of_le least
      have within : index < body.length := by omega
      rw [entryWithin index (Nat.lt_succ_of_lt within), List.getElem?_append_left within,
        List.getElem?_eq_getElem within]
      exact quiet _ (List.getElem_mem within)
    · rw [isLast, isOutcome]
      exact tells

/-- A second line about a test is a node line as well. -/
theorem StartsBehind.carries_isNode (starts : StartsBehind transcript low text extent)
    {entry : Option String} (isSecond : repeats extent.id entry = true) :
    carries Session.isNode entry = true := by
  cases entry with
  | none =>
    rw [repeats, carries_none] at isSecond
    cases isSecond
  | some later =>
    rw [repeats, carries_some] at isSecond
    rw [carries_some, ← isSome_node?, node?_of_startsWith starts.isNode isSecond]
    rfl

theorem StartsBehind.carries_node (starts : StartsBehind transcript low text extent) :
    carries Session.isNode (entryAt transcript extent.node) = true := by
  have isNodeLine : entryAt transcript extent.node = some text := by
    rw [entryAt, starts.nodeLine]
    rfl
  rw [isNodeLine, carries_some, ← isSome_node?, starts.isNode]
  rfl

/-- From the end of the test before to its own end, a test has no node lines but its own one and
the one that reports the failure of its teardown. -/
theorem StartsBehind.nodesWithin_eq (starts : StartsBehind transcript low text extent) :
    nodesWithin transcript low extent.finish = extent.nodeLines transcript := by
  obtain ⟨ahead, nodeLt, stopLe, _⟩ := starts.bounds
  have teardown : nodesWithin transcript extent.stop extent.finish =
      (extent.failure? transcript).toList := by
    rcases starts.endsTeardown with ⟨none, _⟩ | ⟨last, ends⟩
    · have finish : extent.finish = extent.stop := by simp [Extent.finish, none]
      rw [finish, Quiet.nodesWithin (.self _ _), Extent.failure?, Extent.lastLine?, none]
      rfl
    · rw [ends.finish, nodesWithin_append ends.behind (Nat.le_succ last), ends.quiet.nodesWithin,
        nodesWithin_succ, Extent.failure?, ends.isLast, Option.filter_some, List.nil_append]
      split <;> rfl
  rw [nodesWithin_append ahead (by omega : extent.node ≤ extent.finish), starts.quiet.nodesWithin,
    nodesWithin_append (Nat.le_succ extent.node) (by omega : extent.node + 1 ≤ extent.finish),
    nodesWithin_succ, if_pos starts.carries_node,
    nodesWithin_append (by omega : extent.node + 1 ≤ extent.stop) stopLe,
    starts.closes.quiet.nodesWithin, teardown]
  rfl

theorem StartsBehind.noGroup_within (starts : StartsBehind transcript low text extent)
    {position : Nat} (least : low ≤ position) (most : position < extent.finish) :
    carries opensGroup (entryAt transcript position) = false := by
  rcases Nat.lt_or_ge position extent.node with before | fromNode
  · exact starts.quiet.noGroup least before
  rcases Nat.eq_or_lt_of_le fromNode with rfl | behindNode
  · exact opensGroup_of_carries_isNode starts.carries_node
  rcases Nat.lt_or_ge position extent.stop with inMessages | fromStop
  · exact starts.closes.quiet.noGroup behindNode inMessages
  rcases starts.endsTeardown with ⟨none, _⟩ | ⟨last, ends⟩
  · have finish : extent.finish = extent.stop := by simp [Extent.finish, none]
    omega
  · have finish := ends.finish
    rcases Nat.eq_or_lt_of_le (by omega : position ≤ last) with rfl | inTeardown
    · rcases ends.tells with ⟨goesOn, _⟩ | ⟨isSecond, _⟩
      · rw [interrupts_eq] at goesOn
        exact (Bool.or_eq_false_iff.mp goesOn).1
      · exact opensGroup_of_carries_isNode (starts.carries_isNode isSecond)
    · exact ends.quiet.noGroup fromStop inTeardown

end StartsBehind

end RunTriage.Session
