import RunTriage.Decimal.Layout
import RunTriage.Filter
import RunTriage.TestRecord

/-!
Contract: searching one section of a test for lines.

Owns:
- the search: a filter, the section it reads, and the window of lines it looks at;
- the window, which opens after an anchor and closes by time and by count;
- the meaning of an inverted search, which succeeds when nothing is found;
- the reasons why a search cannot be made.

Does not own: the combination of searches, which is in `RunTriage.Symptom`.
-/

namespace RunTriage

/-- Why a search cannot be made. -/
inductive SearchError where
  | filter (cause : FilterError)
  /-- The window does not last a positive, finite time. -/
  | notPositive (seconds : Float)
  /-- The window lasts longer than can be counted in milliseconds. -/
  | tooLong (seconds : Float)

namespace SearchError

/-- The text without the mark of its kind. -/
def description : SearchError → String
  | .filter cause => cause.description
  | .notPositive seconds =>
    "max_time must be a positive number of seconds, found " ++ Decimal.spelled seconds
  | .tooLong seconds =>
    "max_time of " ++ Decimal.spelled seconds ++ " seconds is too large"

end SearchError

/-- A search through the lines of one section. -/
structure Search where
  filter : Filter
  /-- Path of the section that is read. -/
  path : String
  /-- Only lines after the first one that passes this filter are looked at. -/
  anchor : Option Filter
  /-- How many milliseconds a line may come after the start of the window. -/
  duration : Option Nat
  /-- How many lines are looked at. -/
  most : Option Nat
  /-- Succeed when nothing is found. -/
  missing : Bool
deriving DecidableEq, Repr, Inhabited

namespace Search

/-- The section that is read unless another one is named. -/
def defaultPath : String := "msgs"

/-- A search of the default section without a window. -/
def ofFilter (filter : Filter) : Search :=
  ⟨filter, defaultPath, none, none, none, false⟩

/-- The greatest window in milliseconds. -/
def greatestDuration : Nat := Nat.pow 2 63 - 1

/-- The greatest window as a floating-point number, which is one more. -/
def durationBound : Float := Float.ofScientific 9223372036854775808 false 0

/-- A window in milliseconds, rounded to the nearest one. -/
def durationOfSeconds (seconds : Float) : Except SearchError Nat :=
  if !seconds.isFinite || seconds ≤ 0.0 then .error (.notPositive seconds)
  else
    let millis := (seconds * 1000.0).round
    if millis ≤ durationBound then .ok (min millis.toUInt64.toNat greatestDuration)
    else .error (.tooLong seconds)

/-! ## The window -/

/-- Lines after the first one that passes the anchor, with the time of that line. -/
def linesAfter (anchor : Filter) : List Line → Option (Option Instant × List Line)
  | [] => none
  | line :: rest => if anchor.accepts line then some (line.time, rest) else linesAfter anchor rest

/-- The lines that a search may look at, and the start of its window if an anchor
sets it. There are none if the anchor is not reached. -/
def region? (search : Search) (lines : List Line) : Option (Option Instant × List Line) :=
  match search.anchor with
  | none => some (none, lines)
  | some anchor => linesAfter anchor lines

/-- The time between two instants exceeds a number of milliseconds. -/
def isLater (start time : Instant) (millis : Nat) : Bool :=
  (millis : Int) * 1000000 < time.nanosSince start

/-- Lines up to the first one that is too late. The window starts with the first
line that has a time, unless its start is known. A line without a time is never
too late. -/
def withinTime (millis : Nat) (start : Option Instant) : List Line → List Line
  | [] => []
  | line :: rest =>
    match line.time with
    | none => line :: withinTime millis start rest
    | some time =>
      if isLater (start.getD time) time millis then []
      else line :: withinTime millis (some (start.getD time)) rest

/-- The part of the region that lies in the window. -/
def window (search : Search) (start : Option Instant) (lines : List Line) : List Line :=
  let counted :=
    match search.most with
    | none => lines
    | some most => lines.take most
  match search.duration with
  | none => counted
  | some millis => withinTime millis start counted

/-! ## The result -/

/-- How often a search succeeds on the lines of its section, and the lines found. -/
def ofLines (search : Search) (lines : List Line) : Nat × List Line :=
  match search.region? lines with
  | none => (0, [])
  | some (start, region) =>
    let found := (search.window start region).filter search.filter.accepts
    if search.missing then (if found.isEmpty then 1 else 0, [])
    else (found.length, found)

/-- How often a search succeeds on a test, and the lines found. A section that is
absent holds neither a line nor an anchor. -/
def ofRecord (search : Search) (record : TestRecord) : Nat × List Line :=
  match record.section? search.path with
  | none => (if search.missing && search.anchor.isNone then 1 else 0, [])
  | some lines => search.ofLines lines

end Search

end RunTriage
