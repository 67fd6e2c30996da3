import ElmOnSave.LogLevel
import ElmOnSave.Main
import ElmOnSave.Session
import ElmOnSave.Supervision
import ElmOnSave.Proofs.Grouping
import ElmOnSave.Session.History
import ElmOnSave.Proofs.CompilerRecords
import ElmOnSave.Proofs.AnalyzerRecords
import ElmOnSave.Proofs.LastResolved
import ElmOnSave.Proofs.LatestStarted
import ElmOnSave.Proofs.Supersession
import ElmOnSave.Proofs.LineFaults
import ElmOnSave.Proofs.WholeSave
import ElmOnSave.Proofs.ProjectRoots
import ElmOnSave.Proofs.EscapingFaults
import ElmOnSave.Proofs.LongNumbers
import ElmOnSave.Proofs.IndependentSaves
import ElmOnSave.Proofs.AbsoluteLocations
import ElmOnSave.Proofs.ReportRoundTrip
import ElmOnSave.Proofs.TerminalReport
import ElmOnSave.Proofs.WholeText
import ElmOnSave.Proofs.StandardOutput
import ElmOnSave.Proofs.Cleanup
import ElmOnSave.Proofs.ReportFormat
import ElmOnSave.Proofs.OversizedLines
import ElmOnSave.Proofs.ConfigFaults
import ElmOnSave.Proofs.IssueArrays
import ElmOnSave.Proofs.GroupPartition
import ElmOnSave.Proofs.ReportLoading
import ElmOnSave.Proofs.MissingCompiler
import ElmOnSave.Proofs.LocatedPrograms
import ElmOnSave.Proofs.TreeLookups
import ElmOnSave.Proofs.OldManifests
import ElmOnSave.Proofs.NearestManifest
import ElmOnSave.Proofs.PositiveTimeouts
import ElmOnSave.Proofs.JoinedMarkers
import ElmOnSave.Proofs.ExpandedValues
import ElmOnSave.Proofs.EditorRanges
import ElmOnSave.Proofs.CollectionHistory
import ElmOnSave.Proofs.CanonicalReport
import ElmOnSave.Proofs.Respacing
import ElmOnSave.Proofs.IssueReaders
import ElmOnSave.Proofs.ReportRows
import ElmOnSave.Proofs.CommandLines
import ElmOnSave.Proofs.CopiedProjects
