import RunTriage.Line.Basic

/-!
Contract: how long containers take to start.

Owns:
- when each container of a run produced its first line, counted from the first
  timed line of the run;
- the table of these times over many runs.

Does not own: how the table is shown, which is in `RunTriage.Report`.
-/

namespace RunTriage

/-- When a container of a run produced its first line. -/
structure StartTime where
  pod : String
  container : String
  /-- Seconds after the first timed line of the run. -/
  seconds : Float
deriving Repr, Inhabited

namespace StartTime

/-- Seconds of a number of milliseconds. -/
def secondsOfMillis (millis : Int) : Float :=
  Float.ofInt millis / 1000.0

/-- The pod, the container and the time of a line that has all three. -/
def origin? (line : Line) : Option (String × String × Instant) :=
  match line.pod, line.container, line.time with
  | some pod, some container, some time => some (pod, container, time)
  | _, _, _ => none

/-- The times of the first lines of containers that have not been seen. A line of the
container that wrote last in its pod needs no look-up. -/
def collect (start : Instant) (current : SortedTable String) (seen : List (String × String)) :
    List Line → List StartTime
  | [] => []
  | line :: rest =>
    match origin? line with
    | none => collect start current seen rest
    | some (pod, container, time) =>
      if current.find? pod = some container then collect start current seen rest
      else
        let current := current.insert pod container
        if seen.contains (pod, container) then collect start current seen rest
        else
          ⟨pod, container, secondsOfMillis (time.millisSince start)⟩ ::
            collect start current ((pod, container) :: seen) rest

/-- The time of the first line that has one. -/
def firstTime? (lines : List Line) : Option Instant :=
  lines.findSome? Line.time

/-- The start times of the containers of a run, in the order of their first lines. -/
def ofLines (lines : List Line) : List StartTime :=
  match firstTime? lines with
  | none => []
  | some start => collect start [] [] lines

end StartTime

/-- Start times of one container over several runs. -/
structure StartSpan where
  sum : Float
  runs : Nat
  least : Float
  greatest : Float
deriving Repr, Inhabited

namespace StartSpan

def single (seconds : Float) : StartSpan := ⟨seconds, 1, seconds, seconds⟩

def add (span : StartSpan) (seconds : Float) : StartSpan :=
  { sum := span.sum + seconds
    runs := span.runs + 1
    least := if seconds < span.least then seconds else span.least
    greatest := if span.greatest < seconds then seconds else span.greatest }

def mean (span : StartSpan) : Float := span.sum / Float.ofNat span.runs

end StartSpan

/-- A row of the table of start times. -/
structure StartRow where
  pod : String
  container : String
  mean : Float
  least : Float
  greatest : Float
  /-- Number of runs with the container. -/
  runs : Nat
deriving Repr, Inhabited

/-- Start times over many runs, by pod and container. -/
abbrev StartTable := SortedTable (SortedTable StartSpan)

namespace StartTable

def addSpan (seconds : Float) : Option StartSpan → StartSpan
  | none => .single seconds
  | some span => span.add seconds

def addTime (table : StartTable) (time : StartTime) : StartTable :=
  table.alter time.pod fun containers =>
    (containers.getD []).alter time.container (addSpan time.seconds)

/-- The table with the start times of one more run. -/
def addRun (table : StartTable) (times : List StartTime) : StartTable :=
  times.foldl addTime table

def rowOf (pod container : String) (span : StartSpan) : StartRow :=
  ⟨pod, container, span.mean, span.least, span.greatest, span.runs⟩

/-- Rows in the order of pods, then of containers. -/
def rows (table : StartTable) : List StartRow :=
  table.flatMap fun entry =>
    entry.2.map fun inner => rowOf entry.1 inner.1 inner.2

end StartTable

end RunTriage
