import RunTriage.Tally
import RunTriage.Text.Blank

/-!
Contract: points in time as the log collector writes them, in Coordinated
Universal Time with nanoseconds and leap seconds.

Owns:
- calendar dates of the proleptic Gregorian calendar and their order;
- instants, their order and the signed distance between two of them;
- reading the two accepted notations (`Instant.read?`);
- writing with the fewest fraction groups (`Instant.render`).

Does not own: the error raised for a timestamp that cannot be read, which
belongs to the reader of log lines.
-/

namespace RunTriage

/-- A day of the proleptic Gregorian calendar. -/
structure Date where
  year : Int
  month : Nat
  day : Nat
deriving DecidableEq, Repr, Inhabited

namespace Date

def isLeapYear (year : Int) : Bool :=
  year % 4 = 0 && (year % 100 ≠ 0 || year % 400 = 0)

def daysInMonth (year : Int) (month : Nat) : Nat :=
  match month with
  | 2 => if isLeapYear year then 29 else 28
  | 4 | 6 | 9 | 11 => 30
  | _ => 31

/-- The first and the last year that a date may have. -/
def firstYear : Int := -262143

def lastYear : Int := 262142

/-- The date with these fields, if the calendar has one. -/
def ofFields? (year : Int) (month day : Nat) : Option Date :=
  if firstYear ≤ year && year ≤ lastYear && 1 ≤ month && month ≤ 12 &&
      1 ≤ day && day ≤ daysInMonth year month then
    some ⟨year, month, day⟩
  else
    none

/-- The following day. -/
def next (date : Date) : Date :=
  if date.day < daysInMonth date.year date.month then
    { date with day := date.day + 1 }
  else if date.month < 12 then
    ⟨date.year, date.month + 1, 1⟩
  else
    ⟨date.year + 1, 1, 1⟩

/-- The day before. -/
def previous (date : Date) : Date :=
  if 1 < date.day then
    { date with day := date.day - 1 }
  else if 1 < date.month then
    ⟨date.year, date.month - 1, daysInMonth date.year (date.month - 1)⟩
  else
    ⟨date.year - 1, 12, 31⟩

/-- Days of the year before a month begins. -/
def daysBeforeMonth (year : Int) (month : Nat) : Nat :=
  total ((List.range (month - 1)).map fun earlier => daysInMonth year (earlier + 1))

/-- Number of the day, counted from the last day before year 1. -/
def ordinal (date : Date) : Int :=
  let elapsed := date.year - 1
  365 * elapsed + elapsed / 4 - elapsed / 100 + elapsed / 400 +
    daysBeforeMonth date.year date.month + date.day

end Date

/-- A point in time.

Within a leap second `second` stays at 59 and `nanos` continues from one
billion, so that such an instant sorts after every other one of its minute. -/
structure Instant where
  date : Date
  hour : Nat
  minute : Nat
  second : Nat
  nanos : Nat
deriving DecidableEq, Repr, Inhabited

namespace Instant

def nanosPerSecond : Nat := 1000000000

/-- The fields from the coarsest to the finest; their order is the order of
instants. -/
def fields (instant : Instant) : List Int :=
  [instant.date.year, instant.date.month, instant.date.day, instant.hour,
   instant.minute, instant.second, instant.nanos]

/-- The first field in which two instants differ decides. -/
def compareFields : List Int → List Int → Ordering
  | [], [] => .eq
  | [], _ :: _ => .lt
  | _ :: _, [] => .gt
  | left :: lefts, right :: rights =>
    if left < right then .lt
    else if right < left then .gt
    else compareFields lefts rights

def compare (left right : Instant) : Ordering :=
  compareFields left.fields right.fields

instance : Ord Instant := ⟨Instant.compare⟩

/-- The instant lies strictly before the other one. -/
def isBefore (left right : Instant) : Bool :=
  compare left right == .lt

/-- The later of two instants; of equal ones the second. -/
def latest (left right : Instant) : Instant :=
  if right.isBefore left then left else right

def secondOfDay (instant : Instant) : Nat :=
  instant.hour * 3600 + instant.minute * 60 + instant.second

/-- Nanoseconds from `earlier` to `later`, negative if `later` lies before.

A leap second counts as elapsed once the clock time has moved past the second
that contains it; which of the two clock times is the greater one is decided
within the day, whatever the dates. -/
def nanosSince (later earlier : Instant) : Int :=
  let clock : Int := later.secondOfDay - earlier.secondOfDay
  let leap : Int :=
    if later.secondOfDay > earlier.secondOfDay && earlier.nanos ≥ nanosPerSecond then 1
    else if later.secondOfDay < earlier.secondOfDay && later.nanos ≥ nanosPerSecond then -1
    else 0
  let days := later.date.ordinal - earlier.date.ordinal
  (days * 86400 + clock + leap) * nanosPerSecond + ((later.nanos : Int) - earlier.nanos)

/-- Whole milliseconds from `earlier` to `later`, rounded toward zero. -/
def millisSince (later earlier : Instant) : Int :=
  (nanosSince later earlier).tdiv 1000000

/-! ## Reading -/

def digitValue? (char : Char) : Option Nat :=
  if char.isDigit then some (char.toNat - 48) else none

/-- The value of a run of decimal digits. -/
def digitsValue (digits : List Char) : Nat :=
  digits.foldl (fun value digit => value * 10 + (digit.toNat - 48)) 0

/-- Between `least` and `most` leading digits, as many as there are, and the
text after them. -/
def readNumber (least most : Nat) (chars : List Char) : Option (Nat × List Char) :=
  let digits := (chars.take most).takeWhile Char.isDigit
  if least ≤ digits.length then
    some (digitsValue digits, chars.drop digits.length)
  else
    none

/-- The text after one expected character. -/
def readChar (expected : Char) : List Char → Option (List Char)
  | char :: rest => if char = expected then some rest else none
  | [] => none

/-- An optional fraction of a second. Digits after the ninth are dropped. -/
def readFraction (chars : List Char) : Option (Nat × List Char) :=
  match chars with
  | '.' :: rest =>
    match readNumber 1 9 rest with
    | some (value, after) =>
      let width := rest.length - after.length
      some (value * Nat.pow 10 (9 - width), after.dropWhile Char.isDigit)
    | none => none
  | _ => some (0, chars)

/-- A clock time, where second 60 stands for a leap second. -/
def ofClock? (date : Date) (hour minute second nanos : Nat) : Option Instant :=
  if hour < 24 && minute < 60 then
    if second < 60 then
      some ⟨date, hour, minute, second, nanos⟩
    else if second = 60 then
      some ⟨date, hour, minute, 59, nanos + nanosPerSecond⟩
    else
      none
  else
    none

/-- Signed minutes of an offset such as `+05:30`; `Z` is zero. The sign may
also be the minus sign of typesetters. -/
def readOffset (chars : List Char) : Option (Int × List Char) :=
  match chars with
  | [] => none
  | sign :: rest =>
    if sign = 'Z' || sign = 'z' then
      some (0, rest)
    else if sign = '+' || sign = '-' || sign = '\u2212' then
      match readNumber 2 2 rest with
      | none => none
      | some (hours, afterHours) =>
        match readChar ':' afterHours with
        | none => none
        | some afterColon =>
          match readNumber 2 2 afterColon with
          | none => none
          | some (minutes, afterMinutes) =>
            if hours < 24 && minutes < 60 then
              let offset : Int := hours * 60 + minutes
              some (if sign = '+' then offset else -offset, afterMinutes)
            else
              none
    else
      none

/-- The same instant with a local time's offset from universal time removed.
An offset is shorter than a day, so the date moves by at most one day. -/
def removeOffset (localTime : Instant) (offsetMinutes : Int) : Instant :=
  let minutes : Int := localTime.hour * 60 + localTime.minute - offsetMinutes
  let date :=
    if minutes < 0 then localTime.date.previous
    else if 1440 ≤ minutes then localTime.date.next
    else localTime.date
  let minuteOfDay := (minutes % 1440).toNat
  { localTime with date := date, hour := minuteOfDay / 60, minute := minuteOfDay % 60 }

/-- The strict notation: every field with its full width, a letter `T` in
either case or one space between date and time, and an offset at the end. -/
def readWithOffset? (chars : List Char) : Option Instant := do
  let (year, rest) ← readNumber 4 4 chars
  let rest ← readChar '-' rest
  let (month, rest) ← readNumber 2 2 rest
  let rest ← readChar '-' rest
  let (day, rest) ← readNumber 2 2 rest
  let rest ← match rest with
    | separator :: rest =>
      if separator = 'T' || separator = 't' || separator = ' ' then some rest else none
    | [] => none
  let (hour, rest) ← readNumber 2 2 rest
  let rest ← readChar ':' rest
  let (minute, rest) ← readNumber 2 2 rest
  let rest ← readChar ':' rest
  let (second, rest) ← readNumber 2 2 rest
  let (nanos, rest) ← readFraction rest
  let (offset, rest) ← readOffset rest
  if rest.isEmpty then
    let date ← Date.ofFields? year month day
    let localTime ← ofClock? date hour minute second nanos
    some (localTime.removeOffset offset)
  else
    none

/-- A field of the lenient notation: blanks before it are skipped and it may be
shorter than `width`. -/
def readField (width : Nat) (chars : List Char) : Option (Nat × List Char) :=
  readNumber 1 width (Text.trimStart chars)

/-- A year of the lenient notation: at most four digits, or any number of
digits after a sign. -/
def readYear (chars : List Char) : Option (Int × List Char) :=
  match Text.trimStart chars with
  | '-' :: rest => (readNumber 1 rest.length rest).map fun (year, after) => (-(year : Int), after)
  | '+' :: rest => (readNumber 1 rest.length rest).map fun (year, after) => ((year : Int), after)
  | rest => (readNumber 1 4 rest).map fun (year, after) => ((year : Int), after)

/-- What stands between date and time of the lenient notation. -/
inductive Separator where
  | letter
  | blanks
deriving DecidableEq, Repr

/-- The text after the separator; blanks may be missing altogether. -/
def Separator.skip : Separator → List Char → Option (List Char)
  | .letter, chars => readChar 'T' chars
  | .blanks, chars => some (Text.trimStart chars)

/-- The lenient notation, without an offset and taken as universal time. -/
def readWithoutOffset? (separator : Separator) (chars : List Char) : Option Instant := do
  let (year, rest) ← readYear chars
  let rest ← readChar '-' rest
  let (month, rest) ← readField 2 rest
  let rest ← readChar '-' rest
  let (day, rest) ← readField 2 rest
  let rest ← separator.skip rest
  let (hour, rest) ← readField 2 rest
  let rest ← readChar ':' rest
  let (minute, rest) ← readField 2 rest
  let rest ← readChar ':' rest
  let (second, rest) ← readField 2 rest
  let (nanos, rest) ← readFraction rest
  if rest.isEmpty then
    let date ← Date.ofFields? year month day
    ofClock? date hour minute second nanos
  else
    none

/-- Read an instant: the strict notation first, then the lenient one with a
letter, then the lenient one with blanks. -/
def read? (text : String) : Option Instant :=
  let chars := text.toList
  (readWithOffset? chars).or
    ((readWithoutOffset? .letter chars).or (readWithoutOffset? .blanks chars))

/-! ## Writing -/

/-- The decimal digits of a number, with zeros in front up to `width`. -/
def padNumber (width value : Nat) : String :=
  let digits := toString value
  String.ofList (List.replicate (width - digits.length) '0') ++ digits

/-- Four digits, or a sign and at least four digits outside the years 0 to 9999. -/
def renderYear (year : Int) : String :=
  if 0 ≤ year && year ≤ 9999 then padNumber 4 year.toNat
  else if year < 0 then "-" ++ padNumber 4 year.natAbs
  else "+" ++ padNumber 4 year.natAbs

def renderDate (date : Date) : String :=
  renderYear date.year ++ "-" ++ padNumber 2 date.month ++ "-" ++ padNumber 2 date.day

/-- Second as shown on a clock, which is 60 within a leap second. -/
def clockSecond (instant : Instant) : Nat :=
  instant.second + instant.nanos / nanosPerSecond

def renderClock (instant : Instant) : String :=
  padNumber 2 instant.hour ++ ":" ++ padNumber 2 instant.minute ++ ":" ++
    padNumber 2 instant.clockSecond

/-- No fraction, or as few groups of three digits as lose nothing. -/
def renderFraction (instant : Instant) : String :=
  let nanos := instant.nanos % nanosPerSecond
  if nanos = 0 then ""
  else if nanos % 1000000 = 0 then "." ++ padNumber 3 (nanos / 1000000)
  else if nanos % 1000 = 0 then "." ++ padNumber 6 (nanos / 1000)
  else "." ++ padNumber 9 nanos

/-- Everything but the mark of universal time. -/
def renderUnzoned (instant : Instant) : String :=
  renderDate instant.date ++ "T" ++ instant.renderClock ++ instant.renderFraction

/-- The form stored in records, with `Z` for universal time. -/
def render (instant : Instant) : String :=
  instant.renderUnzoned ++ "Z"

/-- The form used in tables, with a numeric offset. -/
def renderNumericOffset (instant : Instant) : String :=
  instant.renderUnzoned ++ "+00:00"

/-- Clock time with microseconds, for the head of a displayed line. -/
def renderMicros (instant : Instant) : String :=
  instant.renderClock ++ "." ++ padNumber 6 (instant.nanos % nanosPerSecond / 1000)

/-- Date and clock time without a fraction. -/
def renderSeconds (instant : Instant) : String :=
  renderDate instant.date ++ " " ++ instant.renderClock

end Instant

end RunTriage
