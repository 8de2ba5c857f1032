import Mathlib.Data.List.Induction
import RunTriage.Proofs.FirstLines
import RunTriage.Proofs.FloatOrder

/-!
Contract: what the table of start times holds after many runs.

Owns:
- the number and the bounds of the start times of one container, as `StartSpan` gathers them;
- the row of each container, and the order of the rows.

Does not own: the start times of one run, which are in `RunTriage.Proofs.FirstLines`.
-/

namespace RunTriage

open FloatOrder (IsNumber)

/-! ## The start times of one container -/

/-- The span holds the number of some start times, the least and the greatest of them. -/
structure StartSpan.Bounds (span : StartSpan) (times : List Float) : Prop where
  runs : span.runs = times.length
  least_mem : span.least ∈ times
  least_le : ∀ seconds ∈ times, span.least ≤ seconds
  greatest_mem : span.greatest ∈ times
  le_greatest : ∀ seconds ∈ times, seconds ≤ span.greatest

namespace StartSpan

variable {span : StartSpan} {times : List Float} {seconds : Float}

theorem bounds_single (isNumber : IsNumber seconds) : (single seconds).Bounds [seconds] where
  runs := rfl
  least_mem := List.mem_singleton_self seconds
  least_le := List.forall_mem_singleton.mpr (FloatOrder.le_refl isNumber)
  greatest_mem := List.mem_singleton_self seconds
  le_greatest := List.forall_mem_singleton.mpr (FloatOrder.le_refl isNumber)

theorem least_add (span : StartSpan) (seconds : Float) :
    (span.add seconds).least = if seconds < span.least then seconds else span.least := rfl

theorem greatest_add (span : StartSpan) (seconds : Float) :
    (span.add seconds).greatest = if span.greatest < seconds then seconds else span.greatest := rfl

/-- One more start time becomes a bound or leaves it, whichever keeps all start times within. -/
theorem Bounds.add (bounds : span.Bounds times) (numbers : ∀ known ∈ times, IsNumber known)
    (isNumber : IsNumber seconds) : (span.add seconds).Bounds (times ++ [seconds]) := by
  have isLeast := numbers _ bounds.least_mem
  have isGreatest := numbers _ bounds.greatest_mem
  constructor
  case runs => simp [StartSpan.add, bounds.runs]
  case least_mem =>
    rw [least_add]
    split
    · exact List.mem_append_right _ (List.mem_singleton_self seconds)
    · exact List.mem_append_left _ bounds.least_mem
  case least_le =>
    rw [List.forall_mem_append, List.forall_mem_singleton, least_add]
    split
    · rename_i isBelow
      refine ⟨fun known member => ?_, FloatOrder.le_refl isNumber⟩
      exact FloatOrder.le_trans isNumber isLeast (numbers known member)
        (FloatOrder.le_of_lt isNumber isLeast isBelow) (bounds.least_le known member)
    · rename_i notBelow
      refine ⟨bounds.least_le, ?_⟩
      exact Classical.not_not.mp (mt (FloatOrder.not_le_iff isLeast isNumber).mp notBelow)
  case greatest_mem =>
    rw [greatest_add]
    split
    · exact List.mem_append_right _ (List.mem_singleton_self seconds)
    · exact List.mem_append_left _ bounds.greatest_mem
  case le_greatest =>
    rw [List.forall_mem_append, List.forall_mem_singleton, greatest_add]
    split
    · rename_i isAbove
      refine ⟨fun known member => ?_, FloatOrder.le_refl isNumber⟩
      exact FloatOrder.le_trans (numbers known member) isGreatest isNumber
        (bounds.le_greatest known member) (FloatOrder.le_of_lt isGreatest isNumber isAbove)
    · rename_i notAbove
      refine ⟨bounds.le_greatest, ?_⟩
      exact Classical.not_not.mp (mt (FloatOrder.not_le_iff isNumber isGreatest).mp notAbove)

end StartSpan

theorem StartTime.isNumber_secondsOfMillis (millis : Int) :
    IsNumber (StartTime.secondsOfMillis millis) :=
  FloatOrder.isNumber_div_thousand (FloatOrder.isNumber_ofInt millis)

/-- The pod and the container of a row. -/
def StartRow.source (row : StartRow) : String × String := (row.pod, row.container)

namespace StartTable

/-- The table after the runs of several logs. -/
def ofLogs (logs : List (List Line)) : StartTable :=
  logs.foldl (fun table lines => table.addRun (StartTime.ofLines lines)) []

/-- The start times of a container in several logs, one log after the other. -/
def timesOf (logs : List (List Line)) (source : String × String) : List Float :=
  ((logs.flatMap StartTime.ofLines).filter fun time => time.source = source).map StartTime.seconds

/-! ## Looking up a container -/

/-- What the table holds about a container. -/
def spanOf? (table : StartTable) (source : String × String) : Option StartSpan :=
  (SortedTable.find? table source.1).bind fun containers =>
    SortedTable.find? containers source.2

theorem spanOf?_addTime (table : StartTable) (time : StartTime) (source : String × String) :
    (table.addTime time).spanOf? source =
      if time.source = source then some (addSpan time.seconds (table.spanOf? source))
      else table.spanOf? source := by
  obtain ⟨pod, container⟩ := source
  rw [addTime, spanOf?, spanOf?, SortedTable.find?_alter]
  by_cases samePod : time.pod = pod
  · subst samePod
    rw [if_pos rfl, Option.bind_some, SortedTable.find?_alter]
    by_cases sameContainer : time.container = container
    · subst sameContainer
      cases SortedTable.find? table time.pod <;> simp [StartTime.source]
    · cases SortedTable.find? table time.pod <;> simp [StartTime.source, sameContainer]
  · simp [StartTime.source, samePod]

/-- Only the start times of a container change what is held about it. -/
theorem spanOf?_foldl_addTime (table : StartTable) (times : List StartTime)
    (source : String × String) :
    (times.foldl addTime table).spanOf? source =
      ((times.filter fun time => time.source = source).map StartTime.seconds).foldl
        (fun span seconds => some (addSpan seconds span)) (table.spanOf? source) := by
  induction times generalizing table with
  | nil => rfl
  | cons time rest inductionHypothesis =>
    rw [List.foldl_cons, inductionHypothesis, spanOf?_addTime]
    by_cases same : time.source = source <;> simp [same]

theorem spanOf?_ofLogs (logs : List (List Line)) (source : String × String) :
    (ofLogs logs).spanOf? source =
      (timesOf logs source).foldl (fun span seconds => some (addSpan seconds span)) none := by
  have inOneGo : ofLogs logs = (logs.flatMap StartTime.ofLines).foldl addTime [] :=
    List.foldl_flatMap.symm
  rw [inOneGo, spanOf?_foldl_addTime]
  rfl

/-- A container has a span once it has a start time, and the span holds the number and the bounds of
its start times. -/
theorem exists_bounds_foldl_addSpan {times : List Float} (nonempty : times ≠ [])
    (numbers : ∀ seconds ∈ times, IsNumber seconds) :
    ∃ span, times.foldl (fun span seconds => some (addSpan seconds span)) none = some span ∧
      span.Bounds times := by
  induction times using List.reverseRecOn with
  | nil => exact absurd rfl nonempty
  | append_singleton init last inductionHypothesis =>
    rw [List.forall_mem_append, List.forall_mem_singleton] at numbers
    rw [List.foldl_concat]
    by_cases isFirst : init = []
    · subst isFirst
      exact ⟨_, rfl, StartSpan.bounds_single numbers.2⟩
    · obtain ⟨span, isSpan, bounds⟩ := inductionHypothesis isFirst numbers.1
      rw [isSpan]
      exact ⟨_, rfl, bounds.add numbers.1 numbers.2⟩

/-! ## The start times that are counted -/

theorem isNumber_of_mem_timesOf {logs : List (List Line)} {source : String × String}
    {seconds : Float} (member : seconds ∈ timesOf logs source) : IsNumber seconds := by
  obtain ⟨time, isTime, rfl⟩ := List.mem_map.mp member
  obtain ⟨lines, _, isTime⟩ := List.mem_flatMap.mp (List.mem_of_mem_filter isTime)
  obtain ⟨start, first, _, _, isSeconds⟩ := StartTime.seconds_of_mem_ofLines isTime
  rw [isSeconds]
  exact StartTime.isNumber_secondsOfMillis _

/-- A run counts once for a container, however often the container writes. -/
theorem length_timesOf (logs : List (List Line)) (source : String × String) :
    (timesOf logs source).length =
      logs.countP fun lines => source ∈ lines.filterMap StartTime.source? := by
  induction logs with
  | nil => rfl
  | cons lines rest inductionHypothesis =>
    have ofRun : ((StartTime.ofLines lines).filter fun time => time.source = source).length =
        if source ∈ lines.filterMap StartTime.source? then 1 else 0 :=
      calc _ = ((StartTime.ofLines lines).map StartTime.source).count source := by
            rw [← List.countP_eq_length_filter, List.count, List.countP_map]
            exact List.countP_congr fun time _ => by simp
        _ = _ := by
            rw [(StartTime.nodup_map_source_ofLines lines).count,
              StartTime.map_source_ofLines, if_congr List.mem_eraseDups rfl rfl]
    rw [timesOf, List.length_map] at inductionHypothesis ⊢
    rw [List.flatMap_cons, List.filter_append, List.length_append, inductionHypothesis, ofRun,
      List.countP_cons, Nat.add_comm]
    simp only [decide_eq_true_eq]

/-- What the table holds about a container that some run has. -/
theorem exists_bounds_ofLogs {logs : List (List Line)} {source : String × String}
    (isSeen : ∃ lines ∈ logs, source ∈ lines.filterMap StartTime.source?) :
    ∃ span, (ofLogs logs).spanOf? source = some span ∧ span.Bounds (timesOf logs source) := by
  rw [spanOf?_ofLogs]
  refine exists_bounds_foldl_addSpan ?_ fun _ => isNumber_of_mem_timesOf
  rw [← List.length_pos_iff, length_timesOf, List.countP_pos_iff]
  obtain ⟨lines, isLog, member⟩ := isSeen
  exact ⟨lines, isLog, decide_eq_true member⟩

theorem isSeen_of_spanOf?_ofLogs {logs : List (List Line)} {source : String × String}
    {span : StartSpan} (found : (ofLogs logs).spanOf? source = some span) :
    ∃ lines ∈ logs, source ∈ lines.filterMap StartTime.source? := by
  have nonempty : timesOf logs source ≠ [] := by
    rintro isEmpty
    rw [spanOf?_ofLogs, isEmpty] at found
    cases found
  rw [← List.length_pos_iff, length_timesOf, List.countP_pos_iff] at nonempty
  obtain ⟨lines, isLog, member⟩ := nonempty
  exact ⟨lines, isLog, of_decide_eq_true member⟩

theorem bounds_of_spanOf?_ofLogs {logs : List (List Line)} {source : String × String}
    {span : StartSpan} (found : (ofLogs logs).spanOf? source = some span) :
    span.Bounds (timesOf logs source) := by
  obtain ⟨known, isKnown, bounds⟩ := exists_bounds_ofLogs (isSeen_of_spanOf?_ofLogs found)
  rw [found] at isKnown
  cases isKnown
  exact bounds

/-! ## The order of the rows -/

/-- Pods ascend, and so do the containers of each pod. -/
def Ordered (table : StartTable) : Prop :=
  SortedTable.Ascending table ∧ ∀ entry ∈ table, SortedTable.Ascending entry.2

theorem Ordered.addTime {table : StartTable} (ordered : table.Ordered) (time : StartTime) :
    (table.addTime time).Ordered := by
  refine ⟨ordered.1.alter _ _, fun entry member => ?_⟩
  rcases SortedTable.eq_or_mem_of_mem_insert member with rfl | isOld
  · refine SortedTable.Ascending.alter ?_ _ _
    cases found : SortedTable.find? table time.pod with
    | none => exact SortedTable.ascending_nil
    | some containers => exact ordered.2 _ (SortedTable.mem_of_find? found)
  · exact ordered.2 entry isOld

theorem ordered_ofLogs (logs : List (List Line)) : (ofLogs logs).Ordered :=
  List.foldlRecOn logs _ ⟨SortedTable.ascending_nil, by nofun⟩ fun _ ordered lines _ =>
    List.foldlRecOn (StartTime.ofLines lines) _ ordered fun _ ordered time _ => ordered.addTime time

section Rows

variable {table : StartTable} {row : StartRow}

/-- There is a row for each container that the table holds. -/
theorem Ordered.mem_rows_iff (ordered : table.Ordered) :
    row ∈ table.rows ↔
      ∃ pod container span, table.spanOf? (pod, container) = some span ∧
        rowOf pod container span = row := by
  rw [rows, List.mem_flatMap]
  constructor
  · rintro ⟨⟨pod, containers⟩, isEntry, isRow⟩
    obtain ⟨⟨container, span⟩, isInner, isRow⟩ := List.mem_map.mp isRow
    refine ⟨pod, container, span, ?_, isRow⟩
    rw [spanOf?, ordered.1.find?_of_mem isEntry, Option.bind_some]
    exact (ordered.2 _ isEntry).find?_of_mem isInner
  · rintro ⟨pod, container, span, found, isRow⟩
    obtain ⟨containers, isPod, isContainer⟩ := Option.bind_eq_some_iff.mp found
    exact ⟨(pod, containers), SortedTable.mem_of_find? isPod,
      List.mem_map.mpr ⟨(container, span), SortedTable.mem_of_find? isContainer, isRow⟩⟩

theorem Ordered.pairwise_rows (ordered : table.Ordered) :
    table.rows.Pairwise fun left right =>
      left.pod < right.pod ∨ left.pod = right.pod ∧ left.container < right.container := by
  rw [rows, List.pairwise_flatMap]
  constructor
  · intro entry isEntry
    exact List.pairwise_map.mpr ((ordered.2 entry isEntry).imp fun isLess => .inr ⟨rfl, isLess⟩)
  · refine ordered.1.imp fun isLess left isLeft right isRight => .inl ?_
    obtain ⟨_, _, rfl⟩ := List.mem_map.mp isLeft
    obtain ⟨_, _, rfl⟩ := List.mem_map.mp isRight
    exact isLess

end Rows

/-- The start times of a run are one for each container with a pod, a container and a time on some
line, in the order of the first of these lines, and each counts the whole milliseconds from the
first timed line of the run to that first line. A line of a container that has written before adds
nothing.

The table over several runs has a row for each container that some run has, in strict order of pods
and then of containers. The row holds the number of these runs and the bounds of their start
times. -/
theorem rows_of_first_lines :
    (∀ lines : List Line,
      (StartTime.ofLines lines).map StartTime.source =
          (lines.filterMap StartTime.source?).eraseDups ∧
        ((StartTime.ofLines lines).map StartTime.source).Nodup ∧
        ∀ time ∈ StartTime.ofLines lines, ∃ start first,
          StartTime.firstTime? lines = some start ∧
            StartTime.firstTimeOf? lines time.source = some first ∧
            time.seconds = Float.ofInt ((first.nanosSince start).tdiv 1000000) / 1000.0) ∧
      (∀ (before after : List Line) (line : Line) (source : String × String),
        StartTime.source? line = some source → source ∈ before.filterMap StartTime.source? →
          StartTime.ofLines (before ++ line :: after) = StartTime.ofLines (before ++ after)) ∧
      ∀ logs : List (List Line),
        ((ofLogs logs).rows.Pairwise fun left right =>
            left.pod < right.pod ∨ left.pod = right.pod ∧ left.container < right.container) ∧
          (∀ source, (∃ row ∈ (ofLogs logs).rows, row.source = source) ↔
            ∃ lines ∈ logs, source ∈ lines.filterMap StartTime.source?) ∧
          ∀ row ∈ (ofLogs logs).rows,
            row.runs =
                logs.countP (fun lines => row.source ∈ lines.filterMap StartTime.source?) ∧
              row.least ∈ timesOf logs row.source ∧
              row.greatest ∈ timesOf logs row.source ∧
              ∀ seconds ∈ timesOf logs row.source,
                row.least ≤ seconds ∧ seconds ≤ row.greatest := by
  refine ⟨fun lines => ⟨StartTime.map_source_ofLines lines,
    StartTime.nodup_map_source_ofLines lines, fun time => StartTime.seconds_of_mem_ofLines⟩,
    fun before after line source => StartTime.ofLines_leave_out, fun logs => ?_⟩
  have ordered := ordered_ofLogs logs
  refine ⟨ordered.pairwise_rows, fun source => ⟨?_, fun isSeen => ?_⟩, fun row isRow => ?_⟩
  · rintro ⟨row, isRow, rfl⟩
    obtain ⟨pod, container, span, found, rfl⟩ := ordered.mem_rows_iff.mp isRow
    exact isSeen_of_spanOf?_ofLogs found
  · obtain ⟨span, isSpan, _⟩ := exists_bounds_ofLogs isSeen
    exact ⟨rowOf source.1 source.2 span, ordered.mem_rows_iff.mpr ⟨_, _, _, isSpan, rfl⟩, rfl⟩
  · obtain ⟨pod, container, span, found, rfl⟩ := ordered.mem_rows_iff.mp isRow
    have bounds := bounds_of_spanOf?_ofLogs found
    refine ⟨bounds.runs.trans (length_timesOf logs _), bounds.least_mem, bounds.greatest_mem,
      fun seconds member => ⟨bounds.least_le seconds member, bounds.le_greatest seconds member⟩⟩

end StartTable

end RunTriage
