import RunTriage.Main
import RunTriage.Proofs.Attribution
import RunTriage.Proofs.Fallback
import RunTriage.Proofs.Replacement
import RunTriage.RuleFile.Stored
import RunTriage.Proofs.NewestOrder
import RunTriage.Proofs.Survivors
import RunTriage.Proofs.Embedding
import RunTriage.Proofs.Examples
import RunTriage.Proofs.ReportMatching
import RunTriage.Proofs.SnapshotAgreement
import RunTriage.Proofs.AddingOrder
import RunTriage.Proofs.Payload
import RunTriage.Proofs.PayloadInsertion
import RunTriage.Proofs.Truncation
import RunTriage.Proofs.InformativeRules
import RunTriage.Proofs.RuleOrder
import RunTriage.Proofs.OverviewRows
import RunTriage.Proofs.ExcerptLines
import RunTriage.Proofs.Splitting
import RunTriage.Proofs.Evidence
import RunTriage.Proofs.ReadableLogs
import RunTriage.Proofs.BatchRuns
import RunTriage.Proofs.CsvReading
import RunTriage.Proofs.ExcerptItems
import RunTriage.Proofs.SearchWindow
import RunTriage.Proofs.InstantText
import RunTriage.Proofs.JsonText
import RunTriage.Proofs.LineText
import RunTriage.Proofs.StoredRules
import RunTriage.Proofs.SymptomTrees
import RunTriage.Proofs.TestWindows
import RunTriage.Proofs.NodeLines
import RunTriage.Proofs.AnchoredFilters
import RunTriage.Proofs.RuleLookups
import RunTriage.Proofs.UnmarkedTests
import RunTriage.Proofs.ReportSections
import RunTriage.Proofs.SectionPaths
import RunTriage.Proofs.RuleFaults
import RunTriage.Proofs.HistorySummary
import RunTriage.Proofs.Correlations
import RunTriage.Proofs.StartTables
import RunTriage.Proofs.NewestChanges
import RunTriage.Proofs.ExcerptSums
import RunTriage.Proofs.LogLines
import RunTriage.Proofs.EscapeSequences
