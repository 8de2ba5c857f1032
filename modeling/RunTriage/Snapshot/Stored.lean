import RunTriage.Snapshot.Statistics

/-!
Contract: the stored form of a snapshot and of what follows from it.

Owns: the fields of each record in their order. A field without a value is left
out.

Does not own: JSON text, which is in `RunTriage.Json.Printer`.
-/

namespace RunTriage

def RuleSummary.toJson (rule : RuleSummary) : Json :=
  .object
    [("code", .string rule.code), ("message", .string rule.message),
      ("taints", .bool rule.taints), ("harmless", .bool rule.harmless),
      ("pseudo", .bool rule.fallback)]

/-- A field for a time that is known. -/
def optionalTime (name : String) (time : Option Instant) : List (String × Json) :=
  Line.optionalMember name (time.map Instant.render)

def RunSummary.toJson (run : RunSummary) : Json :=
  .object
    ([("name", .string run.name), ("log_id", .count run.logId)] ++
      Line.optionalMember "source" run.source ++
      Line.optionalMember "revision" run.revision ++
      optionalTime "date" run.date ++
      [("lines", .count run.lines), ("tests", .count run.tests),
        ("session_lines", .count run.sessionLines),
        ("unattributed", .count run.unattributed), ("codes", .strings run.codes)])

def RevisionSummary.toJson (revision : RevisionSummary) : Json :=
  .object
    ([("revision", .string revision.revision)] ++ optionalTime "latest" revision.latest ++
      [("runs", .strings revision.runs)])

def StartRow.toJson (row : StartRow) : Json :=
  .object
    [("pod", .string row.pod), ("container", .string row.container),
      ("mean_secs", .float row.mean), ("min_secs", .float row.least),
      ("max_secs", .float row.greatest), ("runs", .count row.runs)]

def StartTime.toJson (time : StartTime) : Json :=
  .object
    [("pod", .string time.pod), ("container", .string time.container),
      ("offset_secs", .float time.seconds)]

def Correlation.toJson (correlation : Correlation Float) : Json :=
  .object
    [("code", .string correlation.code), ("conditional_rate", .float correlation.rate),
      ("delta", .float correlation.excess)]

def OverviewRow.toJson (row : OverviewRow) : Json :=
  .object
    ([("code", .string row.code), ("message", .string row.message), ("runs", .count row.runs),
        ("rate", .float row.rate), ("frequency", .string row.frequency.word)] ++
      optionalTime "last_seen" row.lastSeen ++ Line.optionalMember "last_run" row.lastRun ++
      [("correlations", .array (row.correlations.map Correlation.toJson))])

namespace Snapshot

/-- The fields of the stored form. -/
def fields (snapshot : Snapshot) : List (String × Json) :=
  [("total_lines", .count snapshot.totalLines),
    ("classifiers", .array (snapshot.rules.map RuleSummary.toJson)),
    ("runs", .array (snapshot.runs.map RunSummary.toJson)),
    ("revisions", .array (snapshot.revisions.map RevisionSummary.toJson)),
    ("pod_timings", .array (snapshot.startRows.map StartRow.toJson))]

def toJson (snapshot : Snapshot) : Json := .object snapshot.fields

end Snapshot

end RunTriage
