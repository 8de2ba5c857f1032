import RunTriage.StartTimes

/-!
Contract: what is known about many runs at one moment.

Owns: the summaries of rules, runs and revisions, and the snapshot that holds
them.

Does not own: what follows from a snapshot, which is in
`RunTriage.Snapshot.Statistics`, and where it comes from, which is
`RunTriage.Archive`.
-/

namespace RunTriage

/-- A rule or fallback without its symptoms. -/
structure RuleSummary where
  code : String
  message : String
  taints : Bool
  harmless : Bool
  /-- The code belongs to a fallback. -/
  fallback : Bool
deriving DecidableEq, Repr, Inhabited

/-- A run without its lines. -/
structure RunSummary where
  name : String
  /-- Number under which the run was added. -/
  logId : Nat
  source : Option String
  revision : Option String
  date : Option Instant
  /-- Number of lines. -/
  lines : Nat
  tests : Nat
  sessionLines : Nat
  unattributed : Nat
  /-- The codes reported in the run. -/
  codes : List String
deriving DecidableEq, Repr, Inhabited

/-- The runs of one revision. -/
structure RevisionSummary where
  revision : String
  /-- The latest date of its runs. -/
  latest : Option Instant
  /-- Names of its runs. -/
  runs : List String
deriving DecidableEq, Repr, Inhabited

/-- What is known about many runs. -/
structure Snapshot where
  totalLines : Nat
  rules : List RuleSummary
  runs : List RunSummary
  revisions : List RevisionSummary
  startRows : List StartRow
deriving Inhabited

end RunTriage
