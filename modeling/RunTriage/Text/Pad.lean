/-!
Contract: text of a fixed least width, counted in characters.

Owns: padding with blanks on either side. A longer text stays as it is.
-/

namespace RunTriage.Text

def blanks (count : Nat) : String :=
  String.ofList (List.replicate count ' ')

/-- The text at the right end of a column. -/
def alignRight (width : Nat) (text : String) : String :=
  blanks (width - text.length) ++ text

/-- The text at the left end of a column. -/
def alignLeft (width : Nat) (text : String) : String :=
  text ++ blanks (width - text.length)

end RunTriage.Text
