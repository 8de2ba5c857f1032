/-!
Contract: plain search of one text within another.

Owns: whether a text starts with another one, and whether it contains it.
-/

namespace RunTriage.Text

/-- The characters occur next to each other somewhere in the list. -/
def occursIn (wanted : List Char) : List Char → Bool
  | [] => wanted.isEmpty
  | char :: rest => wanted.isPrefixOf (char :: rest) || occursIn wanted rest

/-- One text contains another one. -/
def contains (text wanted : String) : Bool :=
  occursIn wanted.toList text.toList

/-- One text starts with another one. -/
def startsWith (text start : String) : Bool :=
  start.toList.isPrefixOf text.toList

end RunTriage.Text
