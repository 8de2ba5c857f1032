import RunTriage.Search

/-!
Contract: conditions on the record of a test.

Owns:
- the tree of conditions: a search, an outcome, or all of several conditions;
- how often a condition holds of a test, and the lines that show it.

Does not own: what follows from a condition, which is in `RunTriage.Rule`.
-/

namespace RunTriage

/-- A condition on the record of a test. -/
inductive Symptom where
  | search (query : Search)
  /-- The test ended with one of the outcomes. -/
  | outcome (outcomes : List Outcome)
  /-- Every part holds, and there is at least one. -/
  | all (parts : List Symptom)
deriving Inhabited

namespace Symptom

/-- The condition that a test ended with one of several outcomes. -/
def ofOutcomes (outcomes : List Outcome) : Symptom :=
  .outcome (Outcome.sortedSet outcomes)

mutual

/-- How often a condition holds of a test. The lines that show it are put behind
those gathered before, and only if it holds. -/
def gather (record : TestRecord) (symptom : Symptom) (gathered : List Line) :
    Nat × List Line :=
  match symptom with
  | .search query =>
    let (count, lines) := query.ofRecord record
    if 0 < count then (count, gathered ++ lines) else (0, gathered)
  | .outcome outcomes =>
    if record.outcome.any outcomes.contains then (1, gathered) else (0, gathered)
  | .all parts =>
    if parts.isEmpty then (0, gathered)
    else
      match gatherAll record parts 0 [] with
      | some (total, lines) => (total, gathered ++ lines)
      | none => (0, gathered)

/-- The sum of the counts of conditions that all hold, and the lines that show
them. -/
def gatherAll (record : TestRecord) (parts : List Symptom) (total : Nat)
    (gathered : List Line) : Option (Nat × List Line) :=
  match parts with
  | [] => some (total, gathered)
  | part :: rest =>
    let (count, lines) := gather record part gathered
    if count = 0 then none
    else gatherAll record rest (total + count) lines

end

/-- The lines that show a condition, if it holds of a test. -/
def evidence? (record : TestRecord) (symptom : Symptom) : Option (List Line) :=
  let (count, lines) := symptom.gather record []
  if 0 < count then some lines else none

end Symptom

end RunTriage
