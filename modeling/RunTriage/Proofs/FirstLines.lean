import RunTriage.Proofs.Tables
import RunTriage.StartTimes

/-!
Contract: the start times of a run are the times of the first lines of its containers.

Owns:
- the container of a line and the time of its first line, told from the lines alone;
- the start times of a run as one for each container, in the order of the first lines. The
  container that wrote last in each pod is only a shortcut.

Does not own: the table over several runs, which is in `RunTriage.Proofs.StartTables`.
-/

namespace RunTriage.StartTime

/-! ## Containers and their first lines -/

/-- The pod and the container of a line that has both and a time. -/
def source? (line : Line) : Option (String × String) :=
  match line.pod, line.container, line.time with
  | some pod, some container, some _ => some (pod, container)
  | _, _, _ => none

/-- The pod and the container of a start time. -/
def source (start : StartTime) : String × String := (start.pod, start.container)

/-- The time of the first line of a container. -/
def firstTimeOf? (lines : List Line) (source : String × String) : Option Instant :=
  (lines.find? fun line => source? line = some source).bind Line.time

/-- The start time of a container, counted from an instant. -/
def ofSource? (start : Instant) (lines : List Line) (source : String × String) :
    Option StartTime :=
  (firstTimeOf? lines source).map fun time =>
    ⟨source.1, source.2, secondsOfMillis (time.millisSince start)⟩

theorem source?_eq_none {line : Line} (noOrigin : origin? line = none) : source? line = none := by
  unfold origin? at noOrigin
  split at noOrigin
  · cases noOrigin
  · rename_i missing
    unfold source?
    split
    · rename_i pod container time _ _ _
      exact absurd (by assumption) (missing pod container time ‹_› ‹_›)
    · rfl

theorem source?_eq_some {line : Line} {pod container : String} {time : Instant}
    (hasOrigin : origin? line = some (pod, container, time)) :
    source? line = some (pod, container) ∧ line.time = some time := by
  unfold origin? at hasOrigin
  split at hasOrigin
  · rename_i pod' container' time' isPod isContainer isTime
    cases hasOrigin
    simp [source?, isPod, isContainer, isTime]
  · cases hasOrigin

theorem isSome_time_of_source? {line : Line} {source : String × String}
    (hasSource : source? line = some source) : line.time.isSome = true := by
  unfold source? at hasSource
  split at hasSource
  · rename_i isTime
    rw [isTime]
    rfl
  · cases hasSource

section FirstLine

variable {start : Instant} {line : Line} {rest : List Line} {source : String × String}

theorem ofSource?_of_ne (different : source? line ≠ some source) :
    ofSource? start (line :: rest) source = ofSource? start rest source := by
  simp [ofSource?, firstTimeOf?, different]

theorem ofSource?_of_first {time : Instant} (isFirst : source? line = some source)
    (isTime : line.time = some time) :
    ofSource? start (line :: rest) source =
      some ⟨source.1, source.2, secondsOfMillis (time.millisSince start)⟩ := by
  simp [ofSource?, firstTimeOf?, isFirst, isTime]

end FirstLine

/-! ## The scan -/

/-- The containers of lines that have not been seen, in the order of their first lines. -/
def newSources (seen : List (String × String)) (lines : List Line) : List (String × String) :=
  ((lines.filterMap source?).removeAll seen).eraseDups

section NewSources

variable {seen : List (String × String)} {line : Line} {rest : List Line}
  {source : String × String}

theorem not_mem_of_mem_newSources (member : source ∈ newSources seen rest) : source ∉ seen := by
  have isNew := (List.mem_filter.mp (List.mem_eraseDups.mp member)).2
  simpa using isNew

theorem newSources_of_none (noSource : source? line = none) :
    newSources seen (line :: rest) = newSources seen rest := by
  rw [newSources, newSources, List.filterMap_cons_none noSource]

theorem newSources_of_seen (isSource : source? line = some source) (isSeen : source ∈ seen) :
    newSources seen (line :: rest) = newSources seen rest := by
  rw [newSources, newSources, List.filterMap_cons_some isSource, List.cons_removeAll]
  simp [isSeen]

theorem newSources_of_new (isSource : source? line = some source) (isNew : source ∉ seen) :
    newSources seen (line :: rest) = source :: newSources (source :: seen) rest := by
  have isKept : seen.contains source = false := by simpa using isNew
  rw [newSources, newSources, List.filterMap_cons_some isSource, List.cons_removeAll, isKept,
    if_pos rfl, List.eraseDups_cons, List.removeAll, List.removeAll,
    List.filter_filter]
  refine congrArg _ (congrArg _ (List.filter_congr fun other _ => ?_))
  by_cases same : other = source <;> simp [same]

end NewSources

/-- A line is the first one of no container that has not been seen if its own container has. -/
theorem filterMap_ofSource?_cons (start : Instant) {seen : List (String × String)} {line : Line}
    (isSeen : ∀ source, source? line = some source → source ∈ seen) (rest : List Line) :
    (newSources seen rest).filterMap (ofSource? start (line :: rest)) =
      (newSources seen rest).filterMap (ofSource? start rest) :=
  List.filterMap_congr fun source member => ofSource?_of_ne fun isSource =>
    not_mem_of_mem_newSources member (isSeen source isSource)

/-- The container that wrote last in a pod has been seen. -/
def Known (current : SortedTable String) (seen : List (String × String)) : Prop :=
  ∀ pod container, current.find? pod = some container → (pod, container) ∈ seen

/-- One more container wrote last in its pod, and it has been seen by now. -/
theorem Known.insert {current : SortedTable String} {seen later : List (String × String)}
    (known : Known current seen) (grows : ∀ source ∈ seen, source ∈ later)
    {pod container : String} (isLater : (pod, container) ∈ later) :
    Known (current.insert pod container) later := by
  intro stored found isStored
  rw [SortedTable.find?_insert] at isStored
  split at isStored
  · rename_i same
    cases isStored
    rwa [← same]
  · exact grows _ (known stored found isStored)

/-- The scan finds the first line of each container that has not been seen. The container that wrote
last in a pod is one of those seen, so looking it up first changes nothing. -/
theorem collect_eq (start : Instant) {current : SortedTable String}
    {seen : List (String × String)} (known : Known current seen) (lines : List Line) :
    collect start current seen lines =
      (newSources seen lines).filterMap (ofSource? start lines) := by
  induction lines generalizing current seen with
  | nil => rfl
  | cons line rest inductionHypothesis =>
    cases hasOrigin : origin? line with
    | none =>
      have noSource := source?_eq_none hasOrigin
      rw [collect, hasOrigin, newSources_of_none noSource,
        filterMap_ofSource?_cons start (by simp [noSource])]
      exact inductionHypothesis known
    | some origin =>
      obtain ⟨pod, container, time⟩ := origin
      obtain ⟨isSource, isTime⟩ := source?_eq_some hasOrigin
      have seenBy {later : List (String × String)} (isSeen : (pod, container) ∈ later) :
          ∀ source, source? line = some source → source ∈ later := by
        intro source same
        cases isSource.symm.trans same
        exact isSeen
      rw [collect, hasOrigin]
      by_cases isSeen : (pod, container) ∈ seen
      · rw [newSources_of_seen isSource isSeen, filterMap_ofSource?_cons start (seenBy isSeen)]
        by_cases isCurrent : current.find? pod = some container
        · simp only [isCurrent, if_true]
          exact inductionHypothesis known
        · simp only [isCurrent, List.contains_iff_mem, isSeen, if_true, if_false]
          exact inductionHypothesis (known.insert (fun _ member => member) isSeen)
      · have notCurrent : current.find? pod ≠ some container := mt (known pod container) isSeen
        simp only [notCurrent, List.contains_iff_mem, isSeen, if_false]
        rw [newSources_of_new isSource isSeen,
          List.filterMap_cons_some (ofSource?_of_first isSource isTime),
          filterMap_ofSource?_cons start (seenBy List.mem_cons_self)]
        refine congrArg _ (inductionHypothesis (known.insert ?_ List.mem_cons_self))
        exact fun _ => List.mem_cons_of_mem _

/-! ## The start times of a run -/

section OfLines

variable {lines : List Line}

theorem isSome_firstTimeOf? {source : String × String}
    (member : source ∈ lines.filterMap source?) : (firstTimeOf? lines source).isSome = true := by
  obtain ⟨line, isLine, isSource⟩ := List.mem_filterMap.mp member
  cases found : lines.find? fun line => source? line = some source with
  | none => simpa [isSource] using List.find?_eq_none.mp found line isLine
  | some first =>
    have isFirst : source? first = some source := by simpa using List.find?_some found
    simpa [firstTimeOf?, found] using isSome_time_of_source? isFirst

theorem isSome_firstTime? {source : String × String} (member : source ∈ lines.filterMap source?) :
    (firstTime? lines).isSome = true := by
  obtain ⟨line, isLine, isSource⟩ := List.mem_filterMap.mp member
  rw [firstTime?, List.isSome_findSome?]
  exact List.any_eq_true.mpr ⟨line, isLine, isSome_time_of_source? isSource⟩

/-- Without a timed line there is no container to speak of. -/
theorem filterMap_source?_eq_nil (noTime : firstTime? lines = none) :
    lines.filterMap source? = [] := by
  refine List.eq_nil_iff_forall_not_mem.mpr fun source member => ?_
  have hasTime := isSome_firstTime? member
  rw [noTime] at hasTime
  cases hasTime

theorem ofLines_eq {start : Instant} (isStart : firstTime? lines = some start) :
    ofLines lines = (lines.filterMap source?).eraseDups.filterMap (ofSource? start lines) := by
  have scanned : collect start [] [] lines =
      (newSources [] lines).filterMap (ofSource? start lines) := collect_eq start (by nofun) lines
  rw [newSources, List.removeAll_nil] at scanned
  rw [ofLines, isStart]
  exact scanned

/-- There is one start time for each container, in the order of the first lines. -/
theorem map_source_ofLines (lines : List Line) :
    (ofLines lines).map source = (lines.filterMap source?).eraseDups := by
  cases isStart : firstTime? lines with
  | none =>
    rw [filterMap_source?_eq_nil isStart, ofLines, isStart]
    rfl
  | some start =>
    rw [ofLines_eq isStart, List.map_filterMap]
    refine Eq.trans (List.filterMap_congr fun source member => ?_) List.filterMap_some
    have found := isSome_firstTimeOf? (List.mem_eraseDups.mp member)
    obtain ⟨time, isTime⟩ := Option.isSome_iff_exists.mp found
    simp [ofSource?, isTime, StartTime.source]

theorem nodup_map_source_ofLines (lines : List Line) : ((ofLines lines).map source).Nodup := by
  rw [map_source_ofLines]
  exact nodup_eraseDups _

/-- A start time is the time of the first line of its container, from the first timed line on. -/
theorem seconds_of_mem_ofLines {time : StartTime} (member : time ∈ ofLines lines) :
    ∃ start first, firstTime? lines = some start ∧
      firstTimeOf? lines time.source = some first ∧
      time.seconds = secondsOfMillis (first.millisSince start) := by
  cases isStart : firstTime? lines with
  | none =>
    rw [ofLines, isStart] at member
    cases member
  | some start =>
    rw [ofLines_eq isStart] at member
    obtain ⟨source, _, isMade⟩ := List.mem_filterMap.mp member
    obtain ⟨first, isFirst, rfl⟩ := Option.map_eq_some_iff.mp isMade
    exact ⟨start, first, rfl, isFirst, rfl⟩

/-! ## Lines that may be left out -/

section LeaveOut

variable {before after : List Line} {line : Line} {source : String × String}

theorem filterMap_source?_leave_out (isSource : source? line = some source)
    (isSeen : source ∈ before.filterMap source?) :
    ((before ++ line :: after).filterMap source?).eraseDups =
      ((before ++ after).filterMap source?).eraseDups := by
  rw [List.filterMap_append, List.filterMap_append, List.eraseDups_append, List.eraseDups_append,
    List.filterMap_cons_some isSource, List.cons_removeAll]
  have isKnown : (before.filterMap source?).contains source = true := by simpa using isSeen
  rw [isKnown]
  rfl

theorem firstTimeOf?_leave_out (isSource : source? line = some source)
    (isSeen : source ∈ before.filterMap source?) (other : String × String) :
    firstTimeOf? (before ++ line :: after) other = firstTimeOf? (before ++ after) other := by
  rw [firstTimeOf?, firstTimeOf?, List.find?_append, List.find?_append]
  by_cases same : source = other
  · have found := isSome_firstTimeOf? isSeen
    rw [firstTimeOf?, ← same] at *
    obtain ⟨first, isFirst⟩ := Option.isSome_iff_exists.mp (Option.isSome_of_isSome_bind found)
    rw [isFirst]
    rfl
  · rw [List.find?_cons_of_neg (by simpa [isSource] using same)]

/-- A line of a container that has written before may be left out. -/
theorem ofLines_leave_out (isSource : source? line = some source)
    (isSeen : source ∈ before.filterMap source?) :
    ofLines (before ++ line :: after) = ofLines (before ++ after) := by
  obtain ⟨start, isStart⟩ := Option.isSome_iff_exists.mp (isSome_firstTime? isSeen)
  have isFirst (rest : List Line) : firstTime? (before ++ rest) = some start := by
    rw [firstTime?, List.findSome?_append, ← firstTime?, isStart]
    rfl
  rw [ofLines_eq (isFirst _), ofLines_eq (isFirst _), filterMap_source?_leave_out isSource isSeen]
  refine List.filterMap_congr fun other _ => ?_
  rw [ofSource?, ofSource?, firstTimeOf?_leave_out isSource isSeen]

end LeaveOut

end OfLines

end RunTriage.StartTime
