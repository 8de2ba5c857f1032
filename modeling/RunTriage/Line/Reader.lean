import RunTriage.Json.Printer
import RunTriage.Json.Reader
import RunTriage.Line.Basic

/-!
Contract: reading log lines and whole logs.

Owns:
- decoding one JSON object into a line, with the reasons why it can fail;
- decoding a log from its bytes, where a line that cannot be decoded is counted
  and left out, and bytes that are not text make the whole log fail;
- the same in one pass, with counters of the lines decoded and of the others.

Does not own: files.
-/

namespace RunTriage

/-- Why a text is no line. -/
inductive LineError where
  | notJson
  | notObject (kind : String)
  | timeNotText (kind : String)
  | badTime (text : String)
deriving DecidableEq, Repr

namespace LineError

def message : LineError → String
  | .notJson => "serialization error"
  | .notObject kind => "parse error: expected JSON object, found " ++ kind
  | .timeNotText kind => "parse error: time must be a string, found " ++ kind
  | .badTime text => "parse error: invalid timestamp '" ++ text ++ "'"

end LineError

namespace Line

/-- The instant that a text stands for. -/
def readTime (text : String) : Except LineError Instant :=
  match Instant.read? text with
  | some instant => .ok instant
  | none => .error (.badTime text)

/-- The text kept for a value: a string as it is, nothing for null, and any
other value in its compact form. -/
def keptText : Json → Option String
  | .null => none
  | .string text => some text
  | value => some value.compact

/-- Take one member of a stored line into the line read so far. -/
def takeMember (line : Line) (name : String) (value : Json) : Except LineError Line :=
  if name = "time" then
    match value with
    | .string text => (readTime text).map fun time => { line with time := some time }
    | .null => .ok { line with time := none }
    | other => .error (.timeNotText other.kind)
  else if name = "msg" then .ok { line with message := (keptText value).getD "" }
  else if name = "level" then .ok { line with level := keptText value }
  else if name = "pod" then .ok { line with pod := keptText value }
  else if name = "container" then .ok { line with container := keptText value }
  else
    match keptText value with
    | some text => .ok { line with attributes := line.attributes.insert name text }
    | none => .ok line

/-- Take members in order. -/
def takeMembers (line : Line) : List (String × Json) → Except LineError Line
  | [] => .ok line
  | (name, value) :: rest =>
    match takeMember line name value with
    | .ok line => takeMembers line rest
    | .error error => .error error

/-- The line of a stored form. -/
def ofJson : Json → Except LineError Line
  | .object members => takeMembers (ofMessage "") members
  | other => .error (.notObject other.kind)

/-- The line written as one JSON object. -/
def read (text : String) : Except LineError Line :=
  match Json.read? text with
  | some value => ofJson value
  | none => .error .notJson

end Line

/-- Why a log cannot be read at all. -/
inductive LogError where
  | notText
deriving DecidableEq, Repr

def LogError.message : LogError → String
  | .notText => "io error: stream did not contain valid UTF-8"

/-- A decoded log: its lines in order, and how many could not be decoded. -/
structure Log where
  lines : List Line
  malformed : Nat
deriving DecidableEq, Repr, Inhabited

namespace Log

/-- The pieces of a byte string between line feeds. -/
def splitLines : List UInt8 → List (List UInt8)
  | [] => [[]]
  | byte :: rest =>
    if byte = 10 then [] :: splitLines rest
    else
      match splitLines rest with
      | [] => [[byte]]
      | line :: lines => (byte :: line) :: lines

/-- The text that bytes encode. -/
def decodeText? (bytes : List UInt8) : Option String :=
  String.fromUTF8? ⟨bytes.toArray⟩

/-- The log of the lines of `left` followed by those of `right`. -/
def append (left right : Log) : Log :=
  ⟨left.lines ++ right.lines, left.malformed + right.malformed⟩

/-- What one line of text adds to a log. Blank lines add nothing. -/
def ofText (text : String) : Log :=
  let trimmed := Text.trim text
  if trimmed.isEmpty then ⟨[], 0⟩
  else
    match Line.read trimmed with
    | .ok line => ⟨[line], 0⟩
    | .error _ => ⟨[], 1⟩

/-- The log of encoded lines. -/
def readLines : List (List UInt8) → Except LogError Log
  | [] => .ok ⟨[], 0⟩
  | bytes :: rest =>
    match decodeText? bytes with
    | none => .error .notText
    | some text =>
      match readLines rest with
      | .ok log => .ok ((ofText text).append log)
      | .error error => .error error

/-- The log stored in a byte string. -/
def read (bytes : List UInt8) : Except LogError Log :=
  readLines (splitLines bytes)

/-! ## Counters -/

/-- What has been read of a log, with the counters kept on the way. -/
structure Reading where
  lines : List Line
  /-- Lines that could be decoded. -/
  decoded : Nat
  /-- Lines that could not be decoded. -/
  malformed : Nat
deriving DecidableEq, Repr, Inhabited

namespace Reading

def start : Reading := ⟨[], 0, 0⟩

/-- One more line of text. A blank one changes nothing. -/
def take (reading : Reading) (text : String) : Reading :=
  let trimmed := Text.trim text
  if trimmed.isEmpty then reading
  else
    match Line.read trimmed with
    | .ok line => ⟨reading.lines ++ [line], reading.decoded + 1, reading.malformed⟩
    | .error _ => ⟨reading.lines, reading.decoded, reading.malformed + 1⟩

/-- Read encoded lines one after the other. -/
def takeAll (reading : Reading) : List (List UInt8) → Except LogError Reading
  | [] => .ok reading
  | bytes :: rest =>
    match decodeText? bytes with
    | none => .error .notText
    | some text => (reading.take text).takeAll rest

end Reading

/-- The counting view of `read`: the same lines in one pass, for those who ask how many lines
could be decoded and how many could not. -/
def readCounting (bytes : List UInt8) : Except LogError Reading :=
  Reading.start.takeAll (splitLines bytes)

end Log

end RunTriage
