import Mathlib.Data.List.TakeWhile
import Mathlib.Tactic.MkIffOfInductiveProp
import Mathlib.Tactic.Tauto
import RunTriage.Proofs.Splitting
import RunTriage.Symptom

/-!
Contract: what a search counts, told from the lines of its section.

Owns:
- the region of a search and the start of its window, by first occurrences in the section;
- the window as the longest beginning of the region within both limits, with a start that is
  fixed from the outset;
- the count and the lines of a search, inverted or not.

Does not own: searches combined with other conditions, which are in `RunTriage.Symptom`.
-/

namespace RunTriage

namespace Search

/-! ## The window, told from the section -/

/-- A search without an anchor is open, and one with an anchor if a line passes it. -/
def isOpen (search : Search) (lines : List Line) : Bool :=
  search.anchor.all fun anchor => lines.any anchor.accepts

/-- The first line that passes the anchor. -/
def anchorLine? (search : Search) (lines : List Line) : Option Line :=
  search.anchor.bind fun anchor => lines.find? anchor.accepts

/-- The lines strictly after the first one that passes the anchor. -/
def regionOf (search : Search) (lines : List Line) : List Line :=
  match search.anchor with
  | none => lines
  | some anchor => (lines.dropWhile fun line => !anchor.accepts line).tail

/-- The time of the anchor's line, or else of the first line of the region that has one. -/
def startOf? (search : Search) (lines : List Line) : Option Instant :=
  ((search.anchorLine? lines).bind Line.time).or ((search.regionOf lines).findSome? Line.time)

/-- A beginning of the region that keeps to both limits of the search. -/
@[mk_iff]
structure Admits (search : Search) (lines part : List Line) : Prop where
  isStart : part <+: search.regionOf lines
  counted : ∀ most ∈ search.most, part.length ≤ most
  inTime : ∀ millis ∈ search.duration, ∀ start ∈ search.startOf? lines, ∀ line ∈ part,
    ∀ time ∈ line.time, time.nanosSince start ≤ millis * 1000000

/-- The longest beginning of the region that keeps to both limits. -/
def IsWindow (search : Search) (lines part : List Line) : Prop :=
  search.Admits lines part ∧ ∀ other, search.Admits lines other → other.length ≤ part.length

/-! ## The region -/

theorem linesAfter_eq (anchor : Filter) (lines : List Line) :
    linesAfter anchor lines = (lines.find? anchor.accepts).map fun line =>
      (line.time, (lines.dropWhile fun line => !anchor.accepts line).tail) := by
  induction lines with
  | nil => rfl
  | cons line rest inductionHypothesis =>
    unfold linesAfter
    by_cases passes : anchor.accepts line = true
    · simp [passes]
    · simp [passes, inductionHypothesis]

theorem region?_eq (search : Search) (lines : List Line) :
    search.region? lines =
      if search.isOpen lines then
        some ((search.anchorLine? lines).bind Line.time, search.regionOf lines)
      else none := by
  unfold region? isOpen anchorLine? regionOf
  cases search.anchor with
  | none => rfl
  | some anchor =>
    dsimp only
    rw [linesAfter_eq]
    cases found : lines.find? anchor.accepts with
    | none =>
      have nonePasses : lines.any anchor.accepts = false := by
        simpa using found
      simp [nonePasses]
    | some line =>
      have passes : lines.any anchor.accepts = true :=
        List.any_eq_true.mpr ⟨line, List.mem_of_find?_eq_some found, List.find?_some found⟩
      simp [passes, found]

/-! ## The walk through the window -/

section Window

variable {millis : Nat} {start : Option Instant}

/-- The line is not too late for a window with a known start. -/
def isInTime (millis : Nat) (start : Option Instant) (line : Line) : Bool :=
  start.all fun start => line.time.all fun time => !isLater start time millis

/-- A start that is set by the first line with a time is the same as one that is known before. -/
theorem withinTime_eq_takeWhile (lines : List Line) :
    withinTime millis start lines =
      lines.takeWhile (isInTime millis (start.or (lines.findSome? Line.time))) := by
  induction lines generalizing start with
  | nil => rfl
  | cons line rest inductionHypothesis =>
    rw [withinTime, List.findSome?_cons]
    cases isTimed : line.time with
    | none =>
      have inTime : isInTime millis (start.or (rest.findSome? Line.time)) line = true := by
        simp [isInTime, isTimed]
      rw [List.takeWhile_cons_of_pos inTime]
      exact congrArg _ inductionHypothesis
    | some time =>
      have known : start.or (some time) = some (start.getD time) := by
        cases start <;> rfl
      have decided : isInTime millis (some (start.getD time)) line =
          !isLater (start.getD time) time millis := by
        simp [isInTime, isTimed]
      dsimp only
      rw [known]
      split
      · rename_i late
        rw [List.takeWhile_cons_of_neg (by simp [decided, late])]
      · rename_i early
        rw [List.takeWhile_cons_of_pos (by simp [decided, early]), inductionHypothesis]
        rfl

theorem withinTime_take (count : Nat) (lines : List Line) :
    withinTime millis start (lines.take count) = (withinTime millis start lines).take count := by
  induction lines generalizing start count with
  | nil => simp [withinTime]
  | cons line rest inductionHypothesis =>
    cases count with
    | zero => simp [withinTime]
    | succ count =>
      rw [List.take_succ_cons, withinTime, withinTime]
      split
      · rw [inductionHypothesis, List.take_succ_cons]
      · split
        · rfl
        · rw [inductionHypothesis, List.take_succ_cons]

end Window

/-! ## The window as the longest beginning -/

theorem isPrefix_takeWhile_iff {keep : Line → Bool} {part lines : List Line} :
    part <+: lines.takeWhile keep ↔ part <+: lines ∧ ∀ line ∈ part, keep line = true := by
  constructor
  · intro isPrefix
    refine ⟨isPrefix.trans (List.takeWhile_prefix keep), ?_⟩
    intro line member
    exact List.mem_takeWhile_imp (isPrefix.subset member)
  · rintro ⟨⟨rest, rfl⟩, allKept⟩
    rw [List.takeWhile_append_of_pos allKept]
    exact List.prefix_append part _

section Longest

variable {search : Search} {lines part : List Line}

theorem forall_isInTime_iff {millis : Nat} {start : Option Instant} :
    (∀ line ∈ part, isInTime millis start line = true) ↔
      ∀ known ∈ start, ∀ line ∈ part, ∀ time ∈ line.time,
        time.nanosSince known ≤ millis * 1000000 := by
  cases start with
  | none => simp [isInTime]
  | some known =>
    simp [isInTime, isLater, Option.all_eq_true]

theorem isPrefix_withinTime_iff {millis : Nat} :
    part <+: withinTime millis ((search.anchorLine? lines).bind Line.time)
        (search.regionOf lines) ↔
      part <+: search.regionOf lines ∧ ∀ start ∈ search.startOf? lines, ∀ line ∈ part,
        ∀ time ∈ line.time, time.nanosSince start ≤ millis * 1000000 := by
  rw [withinTime_eq_takeWhile, isPrefix_takeWhile_iff, forall_isInTime_iff, startOf?]

/-- The beginnings within both limits are those of the window that the search walks through. -/
theorem admits_iff_isPrefix : search.Admits lines part ↔
    part <+: search.window ((search.anchorLine? lines).bind Line.time) (search.regionOf lines) := by
  rw [admits_iff, window]
  cases search.most with
  | none =>
    cases search.duration with
    | none => simp
    | some millis => simp [isPrefix_withinTime_iff]
  | some most =>
    cases search.duration with
    | none => simp [List.prefix_take_iff]
    | some millis =>
      simp only [withinTime_take, List.prefix_take_iff, isPrefix_withinTime_iff, Option.mem_def,
        Option.some.injEq, forall_eq']
      tauto

theorem isWindow_iff : search.IsWindow lines part ↔
    part = search.window ((search.anchorLine? lines).bind Line.time) (search.regionOf lines) := by
  simp only [IsWindow, admits_iff_isPrefix]
  constructor
  · rintro ⟨isPrefix, longest⟩
    exact isPrefix.eq_of_length_le (longest _ List.prefix_rfl)
  · rintro rfl
    exact ⟨List.prefix_rfl, fun other isPrefix => isPrefix.length_le⟩

end Longest

/-! ## The result -/

/-- The lines of a part that the filter of a search accepts. -/
def hits (search : Search) (part : List Line) : List Line :=
  part.filter search.filter.accepts

theorem regionOf_eq_nil {search : Search} {lines : List Line}
    (closed : search.isOpen lines = false) : search.regionOf lines = [] := by
  unfold isOpen at closed
  unfold regionOf
  cases isAnchor : search.anchor with
  | none => simp [isAnchor] at closed
  | some anchor =>
    have nonePasses : ∀ line ∈ lines, (!anchor.accepts line) = true := by
      simpa [isAnchor] using closed
    dsimp only
    rw [List.dropWhile_eq_nil_iff.mpr nonePasses]
    rfl

theorem ofLines_eq {search : Search} {lines part : List Line}
    (isWindow : search.IsWindow lines part) :
    search.ofLines lines =
      if search.missing then
        (if search.isOpen lines = true ∧ search.hits part = [] then 1 else 0, [])
      else ((search.hits part).length, search.hits part) := by
  have isStart := isWindow.1.isStart
  rw [isWindow_iff] at isWindow
  rw [ofLines, region?_eq]
  by_cases opened : search.isOpen lines = true
  · simp [opened, hits, ← isWindow]
  · have closed : search.isOpen lines = false := Bool.eq_false_iff.mpr opened
    rw [regionOf_eq_nil closed, List.prefix_nil] at isStart
    simp [closed, hits, isStart]

theorem ofRecord_of_none {search : Search} {record : TestRecord}
    (absent : record.section? search.path = none) :
    search.ofRecord record =
      (if search.missing = true ∧ search.anchor = none then 1 else 0, []) := by
  simp [ofRecord, absent]

theorem ofRecord_of_some {search : Search} {record : TestRecord} {lines : List Line}
    (present : record.section? search.path = some lines) :
    search.ofRecord record = search.ofLines lines := by
  rw [ofRecord, present]

/-- Without a count there are no lines. -/
theorem lines_ofRecord_eq_nil {search : Search} {record : TestRecord}
    (noneCounted : (search.ofRecord record).1 = 0) : (search.ofRecord record).2 = [] := by
  cases present : record.section? search.path with
  | none => rw [ofRecord_of_none present]
  | some lines =>
    rw [ofRecord_of_some present, ofLines_eq (isWindow_iff.mpr rfl)] at noneCounted ⊢
    split at noneCounted
    · rename_i isMissing
      rw [if_pos isMissing]
    · rename_i notMissing
      rw [if_neg notMissing]
      exact List.length_eq_zero_iff.mp noneCounted

end Search

namespace Symptom

theorem gather_search (record : TestRecord) (search : Search) (gathered : List Line) :
    gather record (.search search) gathered =
      ((search.ofRecord record).1, gathered ++ (search.ofRecord record).2) := by
  rw [gather]
  dsimp only
  split
  · rfl
  · rename_i notCounted
    have noneCounted : (search.ofRecord record).1 = 0 := by omega
    rw [noneCounted, Search.lines_ofRecord_eq_nil noneCounted, List.append_nil]

/-- A search counts the lines of its window that its filter accepts and adds them to those gathered
before. An inverted one counts once and adds nothing if its anchor is passed and no line of the
window is accepted. -/
theorem gather_search_eq (record : TestRecord) (search : Search) (gathered : List Line) :
    (match record.section? search.path with
      | none =>
        gather record (.search search) gathered =
          (if search.missing = true ∧ search.anchor = none then 1 else 0, gathered)
      | some lines =>
        ∃ part, (∀ other, search.IsWindow lines other ↔ other = part) ∧
          gather record (.search search) gathered =
            if search.missing then
              (if search.isOpen lines = true ∧ ∀ line ∈ part, search.filter.accepts line = false
                then 1 else 0, gathered)
            else
              ((part.filter search.filter.accepts).length,
                gathered ++ part.filter search.filter.accepts)) ∧
      (search.missing = true → (gather record (.search search) gathered).1 ≠ 0 →
        ∀ anchor ∈ search.anchor, ∃ lines ∈ record.section? search.path,
          ∃ line ∈ lines, anchor.accepts line = true) := by
  rw [gather_search]
  refine ⟨?_, ?_⟩
  · cases present : record.section? search.path with
    | none => simp [Search.ofRecord_of_none present]
    | some lines =>
      refine ⟨_, fun other => Search.isWindow_iff, ?_⟩
      rw [Search.ofRecord_of_some present, Search.ofLines_eq (Search.isWindow_iff.mpr rfl)]
      split
      · simp [Search.hits, List.filter_eq_nil_iff]
      · rfl
  · intro isMissing counted anchor isAnchor
    cases present : record.section? search.path with
    | none =>
      rw [Search.ofRecord_of_none present] at counted
      simp [Option.mem_def.mp isAnchor] at counted
    | some lines =>
      rw [Search.ofRecord_of_some present, Search.ofLines_eq (Search.isWindow_iff.mpr rfl),
        if_pos isMissing] at counted
      have opened : search.isOpen lines = true := by
        by_contra closed
        simp [closed] at counted
      rw [Search.isOpen, Option.mem_def.mp isAnchor] at opened
      exact ⟨lines, rfl, List.any_eq_true.mp opened⟩

/-- A test with a match before its start and another one ten seconds after. -/
def startedTest : TestRecord :=
  let timed (second : Nat) (message : String) : Line :=
    { Line.ofMessage message with time := some ⟨⟨2021, 3, 4⟩, 12, 0, second, 0⟩ }
  { TestRecord.ofId ⟨"tests/a.py", "test_one", none⟩ with
    messages := [timed 0 "match", .ofMessage "start", timed 1 "wait", timed 11 "match"] }

/-- Succeeds if there is no match within five seconds after the start. -/
def absenceSearch : Search :=
  { Search.ofFilter ⟨"^(?:m)", .concat [.check .textStart, .literal 'm'], []⟩ with
    anchor := some ⟨"^(?:s)", .concat [.check .textStart, .literal 's'], []⟩
    duration := some 5000
    missing := true }

theorem gather_search_absenceSearch :
    absenceSearch.missing = true ∧
      (gather startedTest (.search absenceSearch) []).1 ≠ 0 ∧
      ∀ anchor ∈ absenceSearch.anchor,
        ∃ lines ∈ startedTest.section? absenceSearch.path,
          ∃ line ∈ lines, anchor.accepts line = true := by
  have parts : absenceSearch.path.splitOn "/" = ["msgs"] :=
    Text.splitOn_singleton "msgs" '/'
  have present : startedTest.section? absenceSearch.path = some startedTest.messages := by
    rw [TestRecord.section?, parts]
    rfl
  have counted : (absenceSearch.ofRecord startedTest).1 = 1 := by
    rw [Search.ofRecord_of_some present]
    decide +kernel
  have found : (gather startedTest (.search absenceSearch) []).1 ≠ 0 := by
    rw [gather_search, counted]
    exact Nat.one_ne_zero
  exact ⟨rfl, found, (gather_search_eq startedTest absenceSearch []).2 rfl found⟩

end Symptom

end RunTriage
