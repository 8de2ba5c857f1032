import RunTriage.Instant
import RunTriage.Json.Basic
import RunTriage.Pattern.Match
import RunTriage.Text.Pad

/-!
Contract: one line of a captured log.

Owns:
- the line with its core fields and its open attributes;
- look-up of a field or attribute by name;
- the displayed form of a line, without its terminal escape sequences;
- the stored form of a line, an object of strings.

Does not own: reading the stored form, which is in `RunTriage.Line.Reader`.
-/

namespace RunTriage

/-- A captured line. Whatever the collector attached beyond the core fields is
kept as text in `attributes`. -/
structure Line where
  time : Option Instant
  level : Option String
  pod : Option String
  container : Option String
  message : String
  attributes : SortedTable String
deriving DecidableEq, Repr, Inhabited

namespace Line

/-- A line with nothing but its message. -/
def ofMessage (message : String) : Line :=
  ⟨none, none, none, none, message, []⟩

/-- The text under a name: a core field other than the time, or an attribute. -/
def attribute? (line : Line) (name : String) : Option String :=
  if name = "msg" then some line.message
  else if name = "level" then line.level
  else if name = "pod" then line.pod
  else if name = "container" then line.container
  else line.attributes.find? name

/-! ## Display -/

def charsFrom (low high : Char) : Pattern := .charIn (.range low high)

/-- A terminal escape sequence: the escape character and a letter, or one control
character in place of both, then parameters, intermediate characters and one
final character. -/
def escapeSequence : Pattern :=
  .concat [
    .either
      (.concat [.literal '\x1b', charsFrom '@' '_'])
      (charsFrom '\u0080' '\u009f'),
    .zeroOrMore (charsFrom '0' '?'),
    .zeroOrMore (charsFrom ' ' '/'),
    charsFrom '@' '~']

/-- The text without the escape sequences found in one pass from left to right. -/
def withoutEscapes (text : String) : String :=
  escapeSequence.removeAll text

/-- The displayed form: clock time, level, origin and message. -/
def display (line : Line) : String :=
  let time := (line.time.map Instant.renderMicros).getD "???"
  time ++ " " ++ Text.alignRight 7 (line.level.getD "") ++ " " ++ line.pod.getD "---" ++ ":" ++
    line.container.getD "---" ++ " | " ++ withoutEscapes line.message

/-! ## The stored form -/

/-- A member for a field that is present. -/
def optionalMember (name : String) (value : Option String) : List (String × Json) :=
  match value with
  | some value => [(name, .string value)]
  | none => []

/-- The stored form: every field that is present and every attribute as a string. -/
def toJson (line : Line) : Json :=
  .ofMembers
    (optionalMember "time" (line.time.map Instant.render) ++
      optionalMember "level" line.level ++
      optionalMember "pod" line.pod ++
      optionalMember "container" line.container ++
      [("msg", .string line.message)] ++
      line.attributes.map fun entry => (entry.1, .string entry.2))

end Line

end RunTriage
