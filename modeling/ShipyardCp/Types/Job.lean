import ShipyardCp.Types.Base

/-! The task record, the run metadata it carries and the events of its log. -/

namespace ShipyardCp.Types

structure RepoRef where
  owner : String
  name : String
  defaultBranch : String
  baseSha : Option String
  deriving DecidableEq

inductive WorkspaceKind where
  | container | volume | hostPath
  deriving DecidableEq

structure WorkspaceRef where
  workspaceId : String
  kind : WorkspaceKind
  reusable : Option Bool
  deriving DecidableEq

inductive PublishMode where
  | noOp | dryRun | apply
  deriving DecidableEq

structure PublishPlan where
  mode : Option PublishMode
  idempotencyKey : Option String
  approvalRequired : Option Bool
  policyWarnings : Option (List String)
  deriving DecidableEq

def PublishPlan.empty : PublishPlan := ⟨none, none, none, none⟩

inductive UpdateStrategy where
  | directPush | pullRequest | fastForwardOnly
  deriving DecidableEq

inductive MainPushActor where
  | bot | human | any
  deriving DecidableEq

structure RepoPolicy where
  updateStrategy : UpdateStrategy
  mainPushActor : MainPushActor
  requireCiPass : Bool
  integrationBranchPrefix : Option String
  protectedBranches : Option (List String)
  deriving DecidableEq

inductive VerdictOutcome where
  | accept | reject | rework | needsManualReview
  deriving DecidableEq

structure Verdict where
  outcome : VerdictOutcome
  reason : Option String
  manualNotes : Option String
  deriving DecidableEq

structure ManualChecklistItem where
  id : String
  description : String
  required : Bool
  checked : Option Bool
  checkedBy : Option String
  checkedAt : Option Timestamp
  notes : Option String
  deriving DecidableEq

inductive ArtifactKind where
  | log | report | screenshot | trace | json | other
  deriving DecidableEq

structure ArtifactRef where
  artifactId : String
  kind : ArtifactKind
  deriving DecidableEq

structure ReworkContext where
  sourceJobId : String
  stage : WorkerStage
  attempt : Nat
  maxAttempts : Nat
  reason : String
  failureSummary : Option String
  testFailureSummary : Option String
  artifactIds : List String
  createdAt : Timestamp
  deriving DecidableEq

structure AcceptanceGateContext where
  required : Bool
  sourceJobId : String
  reason : String
  artifactIds : List String
  createdAt : Timestamp
  deriving DecidableEq

inductive LinkRole where
  | primary | related | duplicate | blocks | causedBy
  deriving DecidableEq

inductive ExternalRefKind where
  | githubIssue | githubProjectItem | release | deployment | tag | trackerIssue | syncEvent
  | entityLink
  deriving DecidableEq

instance : LawfulBEq (ExternalRefKind × String) := inferInstance

structure ExternalRef where
  kind : ExternalRefKind
  value : String
  connectionRef : Option String
  linkRole : Option LinkRole
  metadataJson : Option String
  deriving DecidableEq

inductive StaleStatus where
  | fresh | stale | unknown
  deriving DecidableEq

structure StaleDocCounts where
  fresh : Nat
  stale : Nat
  unknown : Nat
  deriving DecidableEq

/-- Document references of a task; as a partial record, `none` is an absent key. -/
structure ResolverRefs where
  docRefs : Option (List String)
  chunkRefs : Option (List String)
  ackRefs : Option (List String)
  contractRefs : Option (List String)
  staleStatus : Option StaleStatus
  staleDocCounts : Option StaleDocCounts
  deriving DecidableEq

def ResolverRefs.empty : ResolverRefs := ⟨none, none, none, none, none, none⟩

/-- States a blocked task can be recorded to resume in. -/
inductive ResumeState where
  | planning | developing | accepting | integrating | integrated | publishing
  deriving DecidableEq

def ResumeState.toTaskState : ResumeState → TaskState
  | planning => .planning
  | developing => .developing
  | accepting => .accepting
  | integrating => .integrating
  | integrated => .integrated
  | publishing => .publishing

inductive WaitingOn where
  | litellm | worker | human | policy | github | environment | resolver | trackerBridge
  | agentTaskstate
  deriving DecidableEq

structure BlockedContext where
  resumeState : ResumeState
  reason : String
  waitingOn : Option WaitingOn := none
  capabilityMissing : Option (List Capability) := none
  loopFingerprint : Option String := none
  orphanedRun : Option Bool := none
  deriving DecidableEq

structure IntegrationState where
  integrationBranch : Option String
  integrationHeadSha : Option String
  mainUpdatedSha : Option String
  checksPassed : Option Bool
  originalBaseSha : Option String
  deriving DecidableEq

inductive RunProgressStatus where
  | pending | running | succeeded | failed | timeout
  deriving DecidableEq

structure IntegrationRun where
  runId : String
  startedAt : Timestamp
  status : RunProgressStatus
  progress : Option Int
  timeoutAt : Timestamp
  completedAt : Option Timestamp
  error : Option String
  deriving DecidableEq

structure PublishRun where
  runId : String
  startedAt : Timestamp
  status : RunProgressStatus
  progress : Option Int
  timeoutAt : Timestamp
  completedAt : Option Timestamp
  error : Option String
  externalRefs : Option (List ExternalRef)
  deriving DecidableEq

/-- A partial record with one optional entry for each worker stage. -/
structure StageRecord (α : Type) where
  plan : Option α
  dev : Option α
  acceptance : Option α
  deriving DecidableEq

namespace StageRecord

variable {α : Type}

def empty : StageRecord α := ⟨none, none, none⟩

def get (r : StageRecord α) : WorkerStage → Option α
  | .plan => r.plan
  | .dev => r.dev
  | .acceptance => r.acceptance

def set (r : StageRecord α) (stage : WorkerStage) (a : α) : StageRecord α :=
  match stage with
  | .plan => { r with plan := some a }
  | .dev => { r with dev := some a }
  | .acceptance => { r with acceptance := some a }

def merge (r u : StageRecord α) : StageRecord α :=
  ⟨u.plan.orElse fun _ => r.plan, u.dev.orElse fun _ => r.dev,
    u.acceptance.orElse fun _ => r.acceptance⟩

end StageRecord

structure Task where
  taskId : String
  title : String
  objective : String
  typedRef : String
  description : Option String
  state : TaskState
  version : Nat
  riskLevel : RiskLevel
  repoRef : RepoRef
  repoPolicy : Option RepoPolicy
  activeJobId : Option String
  latestJobIds : Option (StageRecord String)
  lastVerdict : Option Verdict
  workspaceRef : Option WorkspaceRef
  publishPlan : Option PublishPlan
  pendingApprovalToken : Option String
  pendingApprovalExpiresAt : Option Timestamp
  blockedContext : Option BlockedContext
  integration : Option IntegrationState
  integrationRun : Option IntegrationRun
  publishRun : Option PublishRun
  artifacts : Option (List ArtifactRef)
  manualChecklist : Option (List ManualChecklistItem)
  resolverRefs : Option ResolverRefs
  labels : Option (List String)
  externalRefs : Option (List ExternalRef)
  contextBundleRef : Option String
  rollbackNotes : Option String
  retryCounts : Option (StageRecord Int)
  lastFailureClass : Option FailureClass
  reworkContext : Option ReworkContext
  acceptanceGateContext : Option AcceptanceGateContext
  detectedSideEffects : Option (List SideEffectCategory)
  loopFingerprint : Option String
  createdAt : Timestamp
  updatedAt : Timestamp
  completedAt : Option Timestamp
  deriving DecidableEq

structure StateTransitionEvent where
  eventId : String
  taskId : String
  fromState : TaskState
  toState : TaskState
  actorType : ActorType
  actorId : String
  reason : String
  jobId : Option String
  artifactIds : Option (List String)
  occurredAt : Timestamp
  deriving DecidableEq

/-- What a caller of `transitionTask` supplies of the event. -/
structure TransitionInput where
  actorType : ActorType
  actorId : String
  reason : String
  jobId : Option String := none
  artifactIds : Option (List String) := none

/-! Worker jobs, the results workers report for them and the requests of the control plane. -/

/-- Values of the flat metadata records of jobs and results. -/
inductive MetadataValue where
  | str (s : String) | num (n : Int) | bool (b : Bool) | null
  deriving DecidableEq

abbrev Metadata := List (String × MetadataValue)

namespace Metadata

def get (m : Option Metadata) (key : String) : Option MetadataValue :=
  m.bind fun entries => entries.lookup key

def set (m : Option Metadata) (key : String) (v : MetadataValue) : Option Metadata :=
  some ((key, v) :: (m.getD []).filter (fun e => e.1 ≠ key))

end Metadata

inductive ExecutionBackend where
  | external | lmstudio
  deriving DecidableEq

inductive ApprovalMode where
  | deny | ask | allow
  deriving DecidableEq

inductive SandboxProfile where
  | readOnly | workspaceWrite | fullAuto | custom
  deriving DecidableEq

structure ApprovalPolicy where
  mode : ApprovalMode
  allowedSideEffectCategories : Option (List SideEffectCategory)
  operatorApprovalRequired : Option Bool
  sandboxProfile : Option SandboxProfile
  deriving DecidableEq

structure RetryPolicy where
  maxRetries : Nat
  backoffBaseSeconds : Nat
  maxBackoffSeconds : Nat
  jitterEnabled : Bool
  deriving DecidableEq

inductive JobStatus where
  | pending | running | completed | failed
  deriving DecidableEq

inductive RequestedOutput where
  | patch | branch | tests | verdict | artifacts | planNotes | resolverRefs
  deriving DecidableEq

structure WorkerJob where
  jobId : String
  taskId : String
  typedRef : String
  stage : WorkerStage
  workerType : WorkerType
  executionBackend : Option ExecutionBackend
  status : JobStatus
  workspaceRef : WorkspaceRef
  executorInstanceId : Option String
  inputPrompt : String
  repoRef : RepoRef
  capabilityRequirements : List Capability
  riskLevel : RiskLevel
  approvalPolicy : ApprovalPolicy
  retryPolicy : Option RetryPolicy
  retryCount : Option Int
  loopFingerprint : Option String
  leaseOwner : Option String
  leaseExpiresAt : Option Timestamp
  requestedOutputs : Option (List RequestedOutput)
  metadata : Option Metadata
  deriving DecidableEq

inductive TestStatus where
  | passed | failed | skipped | notRun
  deriving DecidableEq

structure TestResult where
  suite : String
  status : TestStatus
  passed : Option Int
  failed : Option Int
  skipped : Option Int
  durationMs : Option Int
  artifactId : Option String
  deriving DecidableEq

inductive EscalationKind where
  | networkAccess | workspaceOutsideWrite | protectedPathWrite | destructiveTool | secretAccess
  | humanVerdict
  deriving DecidableEq

def EscalationKind.text : EscalationKind → String
  | networkAccess => "network_access"
  | workspaceOutsideWrite => "workspace_outside_write"
  | protectedPathWrite => "protected_path_write"
  | destructiveTool => "destructive_tool"
  | secretAccess => "secret_access"
  | humanVerdict => "human_verdict"

structure RequestedEscalation where
  kind : EscalationKind
  reason : String
  approved : Option Bool
  deriving DecidableEq

inductive PatchFormat where
  | unifiedDiff | gitApplyPatch | url
  deriving DecidableEq

structure PatchRef where
  format : PatchFormat
  content : String
  baseSha : Option String
  deriving DecidableEq

structure BranchRef where
  name : String
  headSha : Option String
  deriving DecidableEq

inductive ResultArtifactKind where
  | log | screenshot | report | trace | json | html | other
  deriving DecidableEq

/-- `html` artifacts are kept on the task as `other`. -/
def ResultArtifactKind.toArtifactKind : ResultArtifactKind → ArtifactKind
  | log => .log
  | screenshot => .screenshot
  | report => .report
  | trace => .trace
  | json => .json
  | html => .other
  | other => .other

structure ResultArtifact where
  artifactId : String
  kind : ResultArtifactKind
  uri : String
  deriving DecidableEq

inductive ResultStatus where
  | succeeded | failed | blocked
  deriving DecidableEq

structure WorkerResult where
  jobId : String
  typedRef : String
  status : ResultStatus
  summary : Option String
  patchRef : Option PatchRef
  branchRef : Option BranchRef
  artifacts : List ResultArtifact
  testResults : List TestResult
  verdict : Option Verdict
  requestedEscalations : List RequestedEscalation
  retryCount : Option Int
  failureClass : Option FailureClass
  failureCode : Option String
  failureSummary : Option String
  resolverRefs : Option ResolverRefs
  externalRefs : Option (List ExternalRef)
  contextBundleRef : Option String
  rollbackNotes : Option String
  loopFingerprint : Option String
  detectedSideEffects : Option (List SideEffectCategory)
  metadata : Option Metadata
  deriving DecidableEq

def getArtifactIds (result : WorkerResult) : List String := result.artifacts.map (·.artifactId)

structure CreateTaskRequest where
  title : String
  objective : String
  typedRef : String
  description : Option String
  repoRef : RepoRef
  repoPolicy : Option RepoPolicy
  riskLevel : Option RiskLevel
  labels : Option (List String)
  publishPlan : Option PublishPlan
  externalRefs : Option (List ExternalRef)

structure DispatchRequest where
  targetStage : WorkerStage
  workerSelection : Option WorkerType
  overrideRiskLevel : Option RiskLevel
  deriving DecidableEq

structure CheckedItem where
  id : String
  checkedBy : Option String
  notes : Option String

structure CompleteAcceptanceRequest where
  checkedItems : Option (List CheckedItem)
  verdict : Option Verdict

structure CompleteIntegrateRequest where
  checksPassed : Bool
  integrationHeadSha : Option String
  mainUpdatedSha : Option String
  isFastForward : Option Bool
  hasConflicts : Option Bool

/-- The body of a publish call; the route schema requires none of its fields. -/
structure PublishRequest where
  mode : Option PublishMode
  idempotencyKey : Option String
  approvalToken : Option String

structure CompletePublishRequest where
  externalRefs : Option (List ExternalRef)
  rollbackNotes : Option String

structure ResultApplyResponse where
  task : Task
  emittedEvents : List StateTransitionEvent
  nextAction : NextAction
  failoverWorker : Option WorkerType := none

end ShipyardCp.Types
