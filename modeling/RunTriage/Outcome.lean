/-!
Contract: the outcome that a test runner reports for a test.

Owns:
- the outcomes in their order, and their keywords;
- which outcomes need no explanation.
-/

namespace RunTriage

inductive Outcome where
  | passed
  | failed
  | error
  | skipped
  | expectedFailure
  | unexpectedPass
deriving DecidableEq, Repr, Inhabited

namespace Outcome

/-- Every outcome in order. -/
def all : List Outcome :=
  [.passed, .failed, .error, .skipped, .expectedFailure, .unexpectedPass]

/-- The keyword printed by the runner. -/
def keyword : Outcome → String
  | .passed => "PASSED"
  | .failed => "FAILED"
  | .error => "ERROR"
  | .skipped => "SKIPPED"
  | .expectedFailure => "XFAIL"
  | .unexpectedPass => "XPASS"

/-- The outcome with a keyword. -/
def ofKeyword? (word : String) : Option Outcome :=
  all.find? fun outcome => outcome.keyword = word

/-- The outcome needs no explanation. -/
def isBenign : Outcome → Bool
  | .passed | .skipped | .unexpectedPass => true
  | .failed | .error | .expectedFailure => false

/-- The text shown for a word that is no keyword. -/
def unknownMessage (word : String) : String :=
  "unknown test status '" ++ word ++ "'"

/-- The set of the outcomes of a list, in order. -/
def sortedSet (outcomes : List Outcome) : List Outcome :=
  all.filter fun outcome => outcomes.contains outcome

theorem ofKeyword?_keyword (outcome : Outcome) :
    ofKeyword? outcome.keyword = some outcome := by
  cases outcome <;> decide

theorem keyword_of_ofKeyword? {word : String} {outcome : Outcome}
    (found : ofKeyword? word = some outcome) : outcome.keyword = word := by
  have := List.find?_some found
  simpa using this

end Outcome

end RunTriage
