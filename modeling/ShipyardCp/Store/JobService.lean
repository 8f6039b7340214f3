import ShipyardCp.Store.ResultOrchestrator

/-! Dispatching jobs, applying their results and polling them. A dispatch is split at the await of
`submitJob`: it begins with the snapshot of the task it read, and settles when the worker answers. -/

namespace ShipyardCp.Store

open Types Domain Lib

/-- A dispatch that waits for `submitJob`: the task it read, the request, and the job it built. -/
structure PendingDispatch where
  task : Task
  request : DispatchRequest
  job : WorkerJob
  nextState : ResumeState
  deriving DecidableEq

/-- What `submitJob` answers. -/
inductive SubmissionResult where
  | success (executionBackend : Option ExecutionBackend) (fallbackReason : Option String)
  | failure (error : Option String)
  | thrown (message : String)

def renderReworkContext (rework : ReworkContext) : String := "\n".intercalate
    (["Rework context:", "- Source job: " ++ rework.sourceJobId,
      "- Failed stage: " ++ rework.stage.text,
      "- Attempt: " ++ toString rework.attempt ++ "/" ++ toString rework.maxAttempts,
      "- Reason: " ++ rework.reason] ++
    (if isTruthy rework.failureSummary then
      ["- Failure summary: " ++ rework.failureSummary.getD ""] else []) ++
    (if isTruthy rework.testFailureSummary then
      ["- Test failure summary:\n" ++ rework.testFailureSummary.getD ""] else []) ++
    (if rework.artifactIds ≠ [] then
      ["- Evidence artifacts: " ++ ", ".intercalate rework.artifactIds] else []) ++
    ["Use this context to repair the previous failure. Do not repeat unchanged failing work."])

def stageHeading : WorkerStage → String
  | .plan => "PLAN"
  | .dev => "DEV"
  | .acceptance => "ACCEPTANCE"

def buildPrompt (task : Task) (stage : WorkerStage) : String := "\n\n".intercalate
    ([stageHeading stage ++ " task: " ++ task.title, "Objective: " ++ task.objective] ++
    (if isTruthy task.description then ["Description: " ++ task.description.getD ""] else []) ++
    (match task.reworkContext with
    | some rework => if stage = .dev then [renderReworkContext rework] else []
    | none => []))

/-- The job of a dispatch. Its instruction envelope is left out. -/
def buildJob (env : Env) (s : ControlPlane) (task : Task) (request : DispatchRequest)
    (workerType : WorkerType) (lease : Lease) : WorkerJob where
  jobId := createId env 0 "job"
  taskId := task.taskId
  typedRef := task.typedRef
  stage := request.targetStage
  workerType := workerType
  executionBackend := none
  status := .pending
  workspaceRef := task.workspaceRef.getD ⟨"ws_" ++ task.taskId, .container, some true⟩
  executorInstanceId := none
  inputPrompt := buildPrompt task request.targetStage
  repoRef := task.repoRef
  capabilityRequirements := (checkWorkerCapabilities workerType request.targetStage).required
  riskLevel := request.overrideRiskLevel.getD task.riskLevel
  approvalPolicy :=
    buildApprovalPolicy request.targetStage (request.overrideRiskLevel.getD task.riskLevel)
  retryPolicy := some ⟨getDefaultMaxRetries request.targetStage, 2, 60, true⟩
  retryCount := some ((s.retryTracker.get? (task.taskId, request.targetStage)).getD 0)
  loopFingerprint := some ("loop:" ++ task.taskId ++ ":" ++ request.targetStage.text ++ ":" ++
    env.fingerprintHash)
  leaseOwner := some lease.leaseOwner
  leaseExpiresAt := some lease.leaseExpiresAt
  requestedOutputs := some (getRequestedOutputs request.targetStage)
  metadata := some [("instruction_envelope_version", .str "2.0"),
    ("instruction_envelope_stage", .str request.targetStage.text)]

def missingText (missing : List Capability) : String := ", ".intercalate (missing.map Capability.text)

def incapableTask (task : Task) (stage : WorkerStage) (missing : List Capability) : Task :=
  { task with
    blockedContext := some
      { resumeState := stageToActiveResumeState stage
        reason := "insufficient_capability"
        capabilityMissing := some missing
        waitingOn := some .worker } }

def incapableInput (stage : WorkerStage) (missing : List Capability) : TransitionInput :=
  { actorType := .controlPlane, actorId := "shipyard-cp"
    reason := "capability mismatch for " ++ stage.text ++ ": missing [" ++ missingText missing ++ "]" }

/-- The first half of a dispatch: the orchestrator on the stored task. A capability mismatch blocks
the task and throws. -/
def beginDispatch (env : Env) (taskId : String) (request : DispatchRequest) :
    StoreM PendingDispatch := do
  let task ← requireTask taskId
  match getAllowedDispatchStage task.state with
  | none => throw (.cannotDispatchWorker task.state)
  | some allowedStage =>
    if allowedStage ≠ request.targetStage then
      throw (.error ("state " ++ task.state.text ++ " cannot dispatch " ++ request.targetStage.text))
    else
      let workerType := request.workerSelection.getD (getDefaultWorker request.targetStage)
      let capabilityResult := checkWorkerCapabilities workerType request.targetStage
      if !capabilityResult.passed then
        let blockedTask := incapableTask task request.targetStage capabilityResult.missing
        let _ ← transitionTask env 0 blockedTask .blocked
          (incapableInput request.targetStage capabilityResult.missing)
        throw (.error ("cannot dispatch: missing capabilities [" ++
          missingText capabilityResult.missing ++ "]"))
      else
        let s ← get
        match s.concurrencyManager.canAccept workerType.text with
        | .globalCapacityExceeded => throw (.error "cannot dispatch: global_capacity_exceeded")
        | .workerCapacityExceeded => throw (.error "cannot dispatch: worker_capacity_exceeded")
        | .accepted =>
          match s.leaseManager.acquire env.now (createId env 0 "job") workerType.text with
          | none => throw (.error "Failed to acquire lease for job")
          | some (lease, leaseManager) =>
            let job := buildJob env s task request workerType lease
            let nextState := stageToActiveResumeState request.targetStage
            modify fun s => { s.setJob job with
              leaseManager := leaseManager
              concurrencyManager := s.concurrencyManager.recordStart env.now job.jobId
                workerType.text request.targetStage
              doomLoopDetector := s.doomLoopDetector.trackTransition job.jobId
                ⟨task.state, nextState.toTaskState, request.targetStage, env.now⟩ }
            pure { task, request, job, nextState }

def mentions (text code : String) : Bool := JsText.includes text.toList code.toList

def isBackendRefusal (failure : String) : Bool :=
  mentions failure "WORKER_BACKEND_UNAVAILABLE" || mentions failure "WORKER_BACKEND_POLICY_DENIED"

/-- The job as it is stored once the worker has accepted it. -/
def selectedJob (s : ControlPlane) (job : WorkerJob) (executionBackend : Option ExecutionBackend)
    (fallbackReason : Option String) : WorkerJob :=
  { job with
    executionBackend
    executorInstanceId := some s.executorInstanceId
    metadata := Metadata.set (Metadata.set job.metadata "execution_backend"
        (.str (match executionBackend with
          | some .lmstudio => "lmstudio"
          | _ => "external")))
      "fallback_reason" (match fallbackReason with
        | some reason => .str reason
        | none => .null) }

def dispatchedInput (stage : WorkerStage) (job : WorkerJob) : TransitionInput :=
  { actorType := .controlPlane, actorId := "shipyard-cp"
    reason := "dispatched " ++ stage.text ++ " job", jobId := some job.jobId }

def dispatchedTask (d : PendingDispatch) : Task :=
  { d.task with
    activeJobId := some d.job.jobId
    latestJobIds := some ((d.task.latestJobIds.getD .empty).set d.request.targetStage d.job.jobId)
    workspaceRef := some d.job.workspaceRef }

/-- The task a refused dispatch writes back: the snapshot with the reason of the refusal. -/
def refusedTask (d : PendingDispatch) (failure : String) : Task :=
  { d.task with
    blockedContext := some
      { resumeState := d.nextState
        reason := if mentions failure "POLICY_DENIED" then "worker_backend_policy_denied"
          else "worker_backend_unavailable"
        waitingOn := some .worker } }

def refusedInput (job : WorkerJob) (failure : String) : TransitionInput :=
  { actorType := .controlPlane, actorId := "shipyard-cp", reason := failure
    jobId := some job.jobId }

/-- The second half of a dispatch. The transition is checked and made on the snapshot, not on the
task stored by now. -/
def settleDispatch (env : Env) (d : PendingDispatch) (submission : SubmissionResult) :
    StoreM WorkerJob := do
  match submission with
  | .thrown message => throw (.error message)
  | .failure error =>
    let failure := error.getD "unknown worker submission failure"
    if isBackendRefusal failure then
      let _ ← transitionTask env 0 (refusedTask d failure) .blocked (refusedInput d.job failure)
    throw (.error ("Failed to submit job: " ++ failure))
  | .success executionBackend fallbackReason =>
    let s ← get
    let job := selectedJob s d.job executionBackend fallbackReason
    modify fun s => s.setJob job
    let _ ← transitionTask env 0 (dispatchedTask d) d.nextState.toTaskState
      (dispatchedInput d.request.targetStage d.job)
    pure job

/-- A result counts only for the active job of the task; others are answered without effect. The
result is stored before the orchestrator runs. -/
def applyResult (env : Env) (taskId : String) (result : WorkerResult) :
    StoreM ResultApplyResponse := do
  let task ← requireTask taskId
  if !isTruthy task.activeJobId then
    pure { task, emittedEvents := [], nextAction := .none }
  else if task.activeJobId ≠ some result.jobId then
    pure { task, emittedEvents := [], nextAction := .none }
  else if result.typedRef ≠ task.typedRef then
    throw (.typedRefMismatch task.typedRef result.typedRef)
  else
    match (← get).jobs.get? result.jobId with
    | none => throw .jobNotFound
    | some job =>
      modify fun s => s.setResult result
      let response ← orchestrateResult env result task job
      modify fun s => s.setTask response.task
      pure response

/-- The failed result that stands for a job whose polling went wrong. -/
def pollFailureResult (job : WorkerJob) (failureSummary : String) : WorkerResult where
  jobId := job.jobId
  typedRef := job.typedRef
  status := .failed
  summary := some ("Worker job failed: " ++ failureSummary)
  patchRef := none
  branchRef := none
  artifacts := []
  testResults := []
  verdict := none
  requestedEscalations := []
  retryCount := none
  failureClass := some .retryableTransient
  failureCode := some "worker_poll_failed"
  failureSummary := some failureSummary
  resolverRefs := none
  externalRefs := none
  contextBundleRef := none
  rollbackNotes := none
  loopFingerprint := none
  detectedSideEffects := none
  metadata := some [("source", .str "job-service.pollJobCompletion")]

def applyPollFailure (env : Env) (job : WorkerJob) (failureSummary : String) : StoreM Unit := do
  modify fun s => s.setJob { job with status := .failed }
  let result := pollFailureResult job failureSummary
  try
    let _ ← applyResult env job.taskId result
  catch _ =>
    modify fun s => s.setResult result

/-- The end of polling a job: `waitForJob` returned a result or threw. An error thrown while the
result is applied is treated like one of the wait. -/
def settlePoll (env : Env) (job : WorkerJob) (outcome : Except String WorkerResult) :
    StoreM Unit := do
  match outcome with
  | .error failureSummary => applyPollFailure env job failureSummary
  | .ok result =>
    modify fun s => s.setJob { job with status := .completed }
    try
      let _ ← applyResult env job.taskId result
    catch e =>
      applyPollFailure env job e.message

structure JobHeartbeatResponse where
  jobId : String
  leaseExpiresAt : Timestamp
  nextHeartbeatDueAt : Timestamp
  lastHeartbeatAt : Option Timestamp

def heartbeat (env : Env) (jobId workerId : String) : StoreM JobHeartbeatResponse := do
  let s ← get
  match s.jobs.get? jobId with
  | none => throw (.error ("job not found: " ++ jobId))
  | some _ =>
    match s.leaseManager.heartbeat env.now jobId workerId with
    | none => throw (.error "heartbeat rejected: not lease owner or job orphaned")
    | some (lease, leaseManager) =>
      modify fun s => { s with leaseManager := leaseManager }
      pure
        { jobId, leaseExpiresAt := lease.leaseExpiresAt
          nextHeartbeatDueAt := s.leaseManager.nextHeartbeatDueAt env.now
          lastHeartbeatAt := lease.lastHeartbeatAt }

end ShipyardCp.Store
