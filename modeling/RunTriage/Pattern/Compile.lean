import RunTriage.Pattern.Meaning
import RunTriage.Pattern.Reader
import RunTriage.Pattern.Size

/-!
Contract: from the written form of a pattern to the pattern.

Owns:
- `compile`, with the two reasons why it can fail;
- the names of the groups of a compiled pattern.

Does not own: the error that a user sees, which depends on where the pattern was
written.
-/

namespace RunTriage.Pattern

/-- Why a text is no usable pattern. -/
inductive CompileError where
  | malformed
  | tooLarge
deriving DecidableEq, Repr

/-- What follows an error's head line: nothing for a malformed pattern. -/
def CompileError.detail : CompileError → String
  | .malformed => ""
  | .tooLarge => ": Compiled regex exceeds size limit of " ++ toString greatestSize ++ " bytes."

/-- The pattern of a text. -/
def compile (text : String) : Except CompileError Pattern :=
  match (Reader.read? text).bind fun tree => tree.meaning? .default with
  | none => .error .malformed
  | some (pattern, _) =>
    if greatestSize < pattern.size then .error .tooLarge else .ok pattern

mutual

/-- The named groups of a tree, except those that are to occur zero times. -/
def Tree.groupNames : Tree → List (String × Nat)
  | .repeated body _ most _ => if most = some 0 then [] else body.groupNames
  | .group (.capture index (some name)) body => (name, index) :: body.groupNames
  | .group _ body => body.groupNames
  | .either branches => listGroupNames branches
  | .concat parts => listGroupNames parts
  | _ => []

def listGroupNames : List Tree → List (String × Nat)
  | [] => []
  | tree :: rest => tree.groupNames ++ listGroupNames rest

end

/-- The number of the group with a name in a written pattern. -/
def groupIndex? (text name : String) : Option Nat :=
  match Reader.read? text with
  | some tree => (tree.groupNames.find? fun entry => entry.1 = name).map Prod.snd
  | none => none

end RunTriage.Pattern
