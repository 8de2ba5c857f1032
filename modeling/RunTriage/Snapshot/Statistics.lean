import RunTriage.Rule
import RunTriage.Snapshot.Basic

/-!
Contract: how often codes were reported, and together with which others.

Every figure depends only on which codes were reported in which runs.

Owns:
- counts and rates, over all runs or those of one revision;
- the frequency of a code, in words;
- the last run with a code;
- correlations: codes that are reported more often among the runs of a given code
  than among all runs;
- the overview, a row for each code.

Does not own: stored and printed forms.
-/

namespace RunTriage

/-- How often a code is reported. -/
inductive Frequency where
  | never
  | sometimes
  | always
deriving DecidableEq, Repr, Inhabited

namespace Frequency

/-- The rate from which on a code counts as always reported. -/
def alwaysRate : Float := 0.9

def ofRate (rate : Float) : Frequency :=
  if rate ≤ 0.0 then .never
  else if alwaysRate ≤ rate then .always
  else .sometimes

def word : Frequency → String
  | .never => "Never"
  | .sometimes => "Sometimes"
  | .always => "Always"

end Frequency

/-! ## Rates -/

/-- What the comparison of rates needs of a kind of numbers. -/
structure RateKind (ρ : Type) where
  quotient : Nat → Nat → ρ
  difference : ρ → ρ → ρ
  isPositive : ρ → Bool
  isGreater : ρ → ρ → Bool

/-- Rates as floating-point numbers. -/
def floatRates : RateKind Float where
  quotient part whole := Float.ofNat part / Float.ofNat whole
  difference left right := left - right
  isPositive value := 0.0 < value
  isGreater left right := right < left

/-- A code that is over-represented among the runs of another one. -/
structure Correlation (ρ : Type) where
  code : String
  /-- Its rate among the runs of the other code. -/
  rate : ρ
  /-- By how much this exceeds its rate among all runs. -/
  excess : ρ
deriving DecidableEq, Repr, Inhabited

namespace Correlation

/-- The greater excess comes first, then the smaller code. -/
def precedes {ρ : Type} (kind : RateKind ρ) (left right : Correlation ρ) : Bool :=
  if kind.isGreater left.excess right.excess then true
  else if kind.isGreater right.excess left.excess then false
  else left.code ≤ right.code

end Correlation

/-- A row of the overview. -/
structure OverviewRow where
  code : String
  message : String
  /-- Number of runs with the code. -/
  runs : Nat
  rate : Float
  frequency : Frequency
  /-- Date and name of the last dated run with the code. -/
  lastSeen : Option Instant
  lastRun : Option String
  correlations : List (Correlation Float)
deriving Inhabited

/-- The code was reported in the run. -/
def RunSummary.has (run : RunSummary) (code : String) : Bool := run.codes.contains code

/-- The run belongs to a revision, or any run is meant. -/
def RunSummary.belongsTo (revision : Option String) (run : RunSummary) : Bool :=
  match revision with
  | none => true
  | some _ => run.revision = revision

/-- Of two runs, the one with the later date, then with the smaller name. Of equal ones
the second. -/
def RunSummary.later (left right : RunSummary) : RunSummary :=
  match left.date, right.date with
  | some leftDate, some rightDate =>
    match leftDate.compare rightDate with
    | .lt => right
    | .gt => left
    | .eq => if left.name < right.name then left else right
  | some _, none => left
  | none, _ => right

namespace Snapshot

/-! ## Counts -/

/-- The runs of a revision, or all of them. -/
def runsOf (snapshot : Snapshot) (revision : Option String) : List RunSummary :=
  snapshot.runs.filter (RunSummary.belongsTo revision)

def totalRuns (snapshot : Snapshot) (revision : Option String) : Nat :=
  (snapshot.runsOf revision).length

/-- The runs in which a code was reported. -/
def runsWith (snapshot : Snapshot) (code : String) (revision : Option String) :
    List RunSummary :=
  (snapshot.runsOf revision).filter fun run => run.has code

def affectedRuns (snapshot : Snapshot) (code : String) (revision : Option String) : Nat :=
  (snapshot.runsWith code revision).length

/-- The part of the runs in which a code was reported. -/
def matchRate (snapshot : Snapshot) (code : String) (revision : Option String) : Float :=
  if snapshot.totalRuns revision = 0 then 0.0
  else floatRates.quotient (snapshot.affectedRuns code revision) (snapshot.totalRuns revision)

/-- How often a code is reported in all runs. -/
def frequency (snapshot : Snapshot) (code : String) : Frequency :=
  .ofRate (snapshot.matchRate code none)

/-- The codes with a frequency. -/
def codesOf (snapshot : Snapshot) (frequency : Frequency) : List String :=
  (snapshot.rules.filter fun rule => snapshot.frequency rule.code = frequency).map
    RuleSummary.code

/-- The last dated run in which a code was reported. -/
def lastSeen? (snapshot : Snapshot) (code : String) (revision : Option String) :
    Option RunSummary :=
  match (snapshot.runsWith code revision).filter fun run => run.date.isSome with
  | [] => none
  | run :: rest => some (rest.foldl RunSummary.later run)

/-! ## Correlations -/

/-- Number of correlations of a code. -/
def correlationLimit : Nat := 3

/-- The code belongs to a rule that taints runs. -/
def isTainting (snapshot : Snapshot) (code : String) : Bool :=
  snapshot.rules.any fun rule => rule.code = code && rule.taints

/-- A code may correlate with any other one. One that taints runs does not correlate
with the fallbacks that follow from that. -/
def mayCorrelate (snapshot : Snapshot) (code other : String) : Bool :=
  other != code &&
    !(snapshot.isTainting code &&
      (other = Fallback.taint.code || other = Fallback.taintTeardown.code))

/-- Number of runs in which two codes were reported. -/
def sharedRuns (snapshot : Snapshot) (code other : String) (revision : Option String) : Nat :=
  ((snapshot.runsWith code revision).filter fun run => run.has other).length

/-- The comparison of one code with another. -/
def correlation {ρ : Type} (kind : RateKind ρ) (snapshot : Snapshot) (code : String)
    (revision : Option String) (other : String) : Correlation ρ :=
  let rate := kind.quotient (snapshot.sharedRuns code other revision)
    (snapshot.affectedRuns code revision)
  let baseline := kind.quotient (snapshot.affectedRuns other revision)
    (snapshot.totalRuns revision)
  ⟨other, rate, kind.difference rate baseline⟩

/-- The codes that exceed their rate most among the runs of a code, for a kind of
rates. -/
def correlationsBy {ρ : Type} (kind : RateKind ρ) (snapshot : Snapshot) (code : String)
    (revision : Option String) : List (Correlation ρ) :=
  if snapshot.affectedRuns code revision = 0 then []
  else
    let others := (snapshot.rules.map RuleSummary.code).filter (snapshot.mayCorrelate code)
    let compared := others.map (correlation kind snapshot code revision)
    let positive := compared.filter fun correlation => kind.isPositive correlation.excess
    (positive.mergeSort (Correlation.precedes kind)).take correlationLimit

/-- The correlations of a code. -/
def correlations (snapshot : Snapshot) (code : String) (revision : Option String) :
    List (Correlation Float) :=
  correlationsBy floatRates snapshot code revision

/-! ## The overview -/

def overviewRow (snapshot : Snapshot) (revision : Option String) (rule : RuleSummary) :
    OverviewRow :=
  let rate := snapshot.matchRate rule.code revision
  let last := snapshot.lastSeen? rule.code revision
  { code := rule.code
    message := rule.message
    runs := snapshot.affectedRuns rule.code revision
    rate := rate
    frequency := .ofRate rate
    lastSeen := last.bind RunSummary.date
    lastRun := last.map RunSummary.name
    correlations := snapshot.correlations rule.code revision }

/-- A row for each rule, in their order. -/
def overview (snapshot : Snapshot) (revision : Option String) : List OverviewRow :=
  snapshot.rules.map (snapshot.overviewRow revision)

end Snapshot

end RunTriage
