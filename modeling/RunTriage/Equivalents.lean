import RunTriage.SortedTable

/-!
Contract: values of attributes that stand for one another.

A pod is renamed between deployments: a rule that names one of its names accepts
the declared equivalents too.

Owns:
- the table of equivalents and its growth;
- the expansion of accepted values.

Does not own: the rules that use it.
-/

namespace RunTriage

/-- Values with the sets of values that are accepted in their place. -/
structure Equivalents where
  entries : SortedTable (List String)
deriving DecidableEq, Repr, Inhabited

namespace Equivalents

def empty : Equivalents := ⟨[]⟩

/-- Accept further values in place of one. -/
def declare (table : Equivalents) (value : String) (others : List String) : Equivalents :=
  ⟨table.entries.alter value fun known => sortedStrings (known.getD [] ++ others)⟩

def ofEntries (entries : List (String × List String)) : Equivalents :=
  entries.foldl (fun table entry => table.declare entry.1 entry.2) empty

/-- The values accepted in place of one, without itself. -/
def others (table : Equivalents) (value : String) : List String :=
  (table.entries.find? value).getD []

/-- Values and all that are accepted in their place, as a set. -/
def expand (table : Equivalents) (values : List String) : List String :=
  sortedStrings (values.flatMap fun value => value :: table.others value)

/-- Number of values with declared equivalents. -/
def size (table : Equivalents) : Nat := table.entries.length

def isEmpty (table : Equivalents) : Bool := table.entries.isEmpty

end Equivalents

end RunTriage
