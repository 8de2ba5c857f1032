import RunTriage.Rule

/-!
Contract: what earlier tests of a run mean for later ones.

Owns:
- the history: whether the run is tainted, the codes reported so far, and the
  codes that are no longer reported;
- its growth. Nothing is ever taken back.

Does not own: when a rule fires, which is in `RunTriage.Diagnosis`.
-/

namespace RunTriage

/-- What happened earlier in a run. Both lists are sets in ascending order. -/
structure History where
  tainted : Bool
  shown : List String
  suppressed : List String
deriving DecidableEq, Repr, Inhabited

namespace History

/-- The history at the start of a run. -/
def start : History := ⟨false, [], []⟩

def hasShown (history : History) (code : String) : Bool :=
  history.shown.contains code

def isSuppressed (history : History) (code : String) : Bool :=
  history.suppressed.contains code

/-- A rule is passed over once it has been reported, if once is enough. -/
def passesOver (history : History) (rule : Rule) : Bool :=
  rule.onlyOnce && history.hasShown rule.code

/-- The history after a report of a code. -/
def markShown (history : History) (code : String) : History :=
  { history with shown := sortedStrings (code :: history.shown) }

/-- The history after a rule has fired, whether it was reported or not. -/
def apply (history : History) (rule : Rule) : History :=
  { history with
    tainted := history.tainted || rule.taints
    suppressed := sortedStrings (history.suppressed ++ rule.suppresses) }

end History

end RunTriage
