import RunTriage.Line.Basic
import RunTriage.Pattern.Compile

/-!
Contract: conditions on a single log line.

Owns:
- filters: a pattern that has to match from the start of the message, and
  accepted values of attributes;
- the reason why a filter cannot be made.

Does not own: counting the lines of a test, which is in `RunTriage.Symptom`.
-/

namespace RunTriage

/-- Why a filter cannot be made. -/
structure FilterError where
  pattern : String
  cause : Pattern.CompileError
deriving DecidableEq, Repr

namespace FilterError

/-- The text without the mark of its kind. -/
def description (error : FilterError) : String :=
  "Invalid pattern '" ++ error.pattern ++ "'" ++ error.cause.detail

end FilterError

/-- A pattern for messages and the accepted values of attributes. -/
structure Filter where
  /-- The written form of the pattern, bound to the start of the message. -/
  source : String
  pattern : Pattern
  /-- Attribute names with their accepted values. -/
  attributes : List (String × List String)
deriving DecidableEq, Repr, Inhabited

namespace Filter

/-- The written pattern bound to the start of a text. -/
def anchored (pattern : String) : String := "^(?:" ++ pattern ++ ")"

/-- The filter for messages that a pattern matches from their start. -/
def ofPattern (pattern : String) : Except FilterError Filter :=
  match Pattern.compile (anchored pattern) with
  | .ok compiled => .ok ⟨anchored pattern, compiled, []⟩
  | .error cause => .error ⟨pattern, cause⟩

/-- Accept only lines whose attribute has one of the values. -/
def withAttribute (filter : Filter) (name : String) (values : List String) : Filter :=
  { filter with attributes := filter.attributes ++ [(name, values)] }

/-- The attribute has an accepted value. One that is missing counts as empty. -/
def acceptsAttribute (line : Line) (name : String) (values : List String) : Bool :=
  values.contains ((line.attribute? name).getD "")

/-- The line satisfies every condition of the filter. -/
def accepts (filter : Filter) (line : Line) : Bool :=
  (filter.attributes.all fun entry => acceptsAttribute line entry.1 entry.2) &&
    filter.pattern.isMatch line.message

end Filter

end RunTriage
