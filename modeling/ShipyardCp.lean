import ShipyardCp.Domain.RetrospectiveService
import ShipyardCp.Properties.AcceptanceEvidence
import ShipyardCp.Properties.ActiveTasks
import ShipyardCp.Properties.AdapterLifecycle
import ShipyardCp.Properties.AlertIndex
import ShipyardCp.Properties.BackendAgreement
import ShipyardCp.Properties.BlockedTasks
import ShipyardCp.Properties.BundleIntegrity
import ShipyardCp.Properties.BundleMerges
import ShipyardCp.Properties.CancelledAttempts
import ShipyardCp.Properties.CapacityBooks
import ShipyardCp.Properties.CasUpdates
import ShipyardCp.Properties.CliRuns
import ShipyardCp.Properties.CompletionStreams
import ShipyardCp.Properties.ConcurrencySlots
import ShipyardCp.Properties.ConversationCompaction
import ShipyardCp.Properties.DispatchAtomicity
import ShipyardCp.Properties.DoomLoops
import ShipyardCp.Properties.DryRuns
import ShipyardCp.Properties.EventChain
import ShipyardCp.Properties.ExternalGate
import ShipyardCp.Properties.FailedSessions
import ShipyardCp.Properties.FallbackHonesty
import ShipyardCp.Properties.GateMerging
import ShipyardCp.Properties.IngestedDocs
import ShipyardCp.Properties.InstructionPrompts
import ShipyardCp.Properties.IntegrationGuard
import ShipyardCp.Properties.LLMFailures
import ShipyardCp.Properties.LatestBundle
import ShipyardCp.Properties.LocalBackend
import ShipyardCp.Properties.LogMasking
import ShipyardCp.Properties.LoopIndependence
import ShipyardCp.Properties.MarkdownChunks
import ShipyardCp.Properties.MergedUpdates
import ShipyardCp.Properties.ObservationPaging
import ShipyardCp.Properties.OrphanedLeases
import ShipyardCp.Properties.PatchIntents
import ShipyardCp.Properties.PatchSize
import ShipyardCp.Properties.PermissionIngestion
import ShipyardCp.Properties.PipelineOrder
import ShipyardCp.Properties.ProcessLifecycle
import ShipyardCp.Properties.ProtectedBranches
import ShipyardCp.Properties.PublishApproval
import ShipyardCp.Properties.PublishIdempotency
import ShipyardCp.Properties.PunctualWorkers
import ShipyardCp.Properties.Redelivery
import ShipyardCp.Properties.ReferenceLists
import ShipyardCp.Properties.ReferenceUpdates
import ShipyardCp.Properties.ResolverBackends
import ShipyardCp.Properties.ResourceLocking
import ShipyardCp.Properties.RestartRecovery
import ShipyardCp.Properties.RestorePointUndo
import ShipyardCp.Properties.ResultAtomicity
import ShipyardCp.Properties.RiskMonotonicity
import ShipyardCp.Properties.RunTimeouts
import ShipyardCp.Properties.ServerProcess
import ShipyardCp.Properties.SessionLifecycle
import ShipyardCp.Properties.SpawnLimit
import ShipyardCp.Properties.SpawnQueue
import ShipyardCp.Properties.StaleFlag
import ShipyardCp.Properties.StateIndex
import ShipyardCp.Properties.SyncEventIndex
import ShipyardCp.Properties.TaskHistory
import ShipyardCp.Properties.TaskIsolation
import ShipyardCp.Properties.TaskMetadata
import ShipyardCp.Properties.TerminalStates
import ShipyardCp.Properties.TokenBuckets
import ShipyardCp.Properties.ToolPaths
import ShipyardCp.Properties.ToolRegistrations
import ShipyardCp.Properties.ToolResultBounding
import ShipyardCp.Properties.TrackerIndexes
import ShipyardCp.Properties.TypedRefAlgebra
import ShipyardCp.Properties.VersionCounter
import ShipyardCp.Properties.WarmPool
import ShipyardCp.Properties.WorkspaceLifecycle
