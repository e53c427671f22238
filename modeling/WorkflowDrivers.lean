import WorkflowDrivers.Lib.StrEnum
import WorkflowDrivers.Lib.Json
import WorkflowDrivers.Lib.JsonReader
import WorkflowDrivers.Lib.Text
import WorkflowDrivers.Lib.LineLog
import WorkflowDrivers.Lib.Replay
import WorkflowDrivers.Lib.Program
import WorkflowDrivers.Lib.Interleave
import WorkflowDrivers.Models.Enums
import WorkflowDrivers.Models.Records
import WorkflowDrivers.Models.Decision
import WorkflowDrivers.Policies.Progress
import WorkflowDrivers.Policies.Replay
import WorkflowDrivers.Policies.Templates
import WorkflowDrivers.Policies.Evidence
import WorkflowDrivers.Policies.Proposal
import WorkflowDrivers.Policies.GateSpec
import WorkflowDrivers.Policies.Audit
import WorkflowDrivers.Workflows.Decisions
import WorkflowDrivers.Workflows.ProjectDriver
import WorkflowDrivers.Workflows.TaskDriver
import WorkflowDrivers.Correctness.DriverEngine
import WorkflowDrivers.Correctness.ProjectGates
import WorkflowDrivers.Correctness.ProcessAudit
import WorkflowDrivers.Correctness.DriverAuthorization
import WorkflowDrivers.Correctness.DriverPolicy
import WorkflowDrivers.Correctness.DriverAdvances
import WorkflowDrivers.Store.Status
import WorkflowDrivers.Correctness.ReplayForm
import WorkflowDrivers.Correctness.BlockedStates
import WorkflowDrivers.Correctness.BlockedWaits
import WorkflowDrivers.Correctness.TerminalStates
import WorkflowDrivers.Correctness.EngineBlockers
import WorkflowDrivers.Correctness.TemplateRuns
import WorkflowDrivers.Correctness.ResumeTargets
import WorkflowDrivers.Models.Dump
import WorkflowDrivers.Activities.Runner
import WorkflowDrivers.Correctness.ActivityRuns
import WorkflowDrivers.Store.Files
import WorkflowDrivers.Store.History
import WorkflowDrivers.Correctness.StoreRuns
import WorkflowDrivers.Correctness.StoreCrashes
import WorkflowDrivers.Correctness.TwoWriters
import WorkflowDrivers.Store.Log
import WorkflowDrivers.Correctness.LogRoundTrip
import WorkflowDrivers.Correctness.PendingWaits
import WorkflowDrivers.Correctness.ProgressNotions
import WorkflowDrivers.Correctness.SubstituteApprovals
import WorkflowDrivers.Correctness.OwnershipRouting
import WorkflowDrivers.Correctness.TaskAggregation
import WorkflowDrivers.Lib.Cells
import WorkflowDrivers.Correctness.KeyIsolation
import WorkflowDrivers.Workflows.TemporalSkeleton
import WorkflowDrivers.Correctness.StoreKeys
import WorkflowDrivers.Lib.Entries
import WorkflowDrivers.Correctness.VerdictOrder
import WorkflowDrivers.Correctness.ReviewLoops
import WorkflowDrivers.Lib.Compare
import WorkflowDrivers.Correctness.TargetComparisons
import WorkflowDrivers.Lib.Drive
import WorkflowDrivers.Lib.Reach
import WorkflowDrivers.Policies.EventReplay
import WorkflowDrivers.Correctness.EventReplays
import WorkflowDrivers.Correctness.DriverRuns
import WorkflowDrivers.Lib.Writers
import WorkflowDrivers.Correctness.StoreWriters
import WorkflowDrivers.Store.Cli
import WorkflowDrivers.Correctness.CliSessions
import WorkflowDrivers.Workflows.ReviewTriggers
import WorkflowDrivers.Correctness.ReviewRequests
import WorkflowDrivers.Correctness.PolicyOutcomes
import WorkflowDrivers.Correctness.WaitEscalation
import WorkflowDrivers.Correctness.DriverProgress
import WorkflowDrivers.Policies.Routing
import WorkflowDrivers.Correctness.Routing
import WorkflowDrivers.Correctness.ActivityLedger
import WorkflowDrivers.Correctness.TextLogs
import WorkflowDrivers.Correctness.JsonLogs
import WorkflowDrivers.Correctness.EvidenceGrowth
