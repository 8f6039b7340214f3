import ShipyardCp.Domain.ResultValidator
import ShipyardCp.Domain.WorkerPolicy
import ShipyardCp.Domain.ManualChecklist
import ShipyardCp.Lib.Json
import ShipyardCp.Store.State

/-! Applying a worker result to its task: validation failures, blocked, failed and succeeded results.
The store runs the run-system gate in advisory mode, in which it never blocks a transition. -/

namespace ShipyardCp.Store

open Types Domain Lib Metadata

def maxReworkAttempts : Nat := 2

def releaseLease (job : WorkerJob) : StoreM Unit :=
  modify fun s => { s with leaseManager := s.leaseManager.release job.jobId job.workerType.text }

def finalizeJob (job : WorkerJob) (releaseConcurrency : Bool) : StoreM Unit := do
  releaseLease job
  if releaseConcurrency then
    modify fun s => { s with
      concurrencyManager := s.concurrencyManager.recordComplete job.jobId job.workerType.text }

def setRetryCount (taskId : String) (stage : WorkerStage) (count : Int) : StoreM Unit :=
  modify fun s => { s with retryTracker := s.retryTracker.set (taskId, stage) count }

def maxRetriesOf (job : WorkerJob) : Nat :=
  match job.retryPolicy with
  | some policy => policy.maxRetries
  | none => getDefaultMaxRetries job.stage

def analyzeSideEffects (escalations : List EscalationKind) : List SideEffectCategory :=
  escalations.filterMap fun
    | .networkAccess => some .networkAccess
    | .workspaceOutsideWrite => some .workspaceOutsideWrite
    | .protectedPathWrite => some .protectedPathWrite
    | .destructiveTool => some .destructiveTool
    | .secretAccess => some .secretAccess
    | .humanVerdict => none

def requiresToolPlanAcceptanceGate (result : WorkerResult) : Bool :=
  if result.metadata.isNone then false
  else if get result.metadata "tool_plan_dry_run" = some (.bool true) then false
  else get result.metadata "tool_plan_applied" = some (.bool true) ||
    get result.metadata "tool_plan_execution_verdict" = some (.str "applied")

/-- The updates a result makes on its task, in the order in which they are merged. -/
def resultUpdates (env : Env) (result : WorkerResult) (job : WorkerJob) : List TaskUpdate :=
  let newArtifacts : List ArtifactRef :=
    result.artifacts.map fun a => ⟨a.artifactId, a.kind.toArtifactKind⟩
  (if newArtifacts = [] then [] else [{ mergeArtifacts := some newArtifacts }]) ++
  (match result.resolverRefs with
  | none => []
  | some refs => [{ mergeResolverRefs := some refs }]) ++
  (match result.externalRefs with
  | some (ref :: refs) => [{ mergeExternalRefs := some (ref :: refs) }]
  | _ => []) ++
  (if isTruthy result.contextBundleRef then [{ contextBundleRef := result.contextBundleRef }]
    else []) ++
  (if isTruthy result.rollbackNotes then [{ rollbackNotes := result.rollbackNotes }] else []) ++
  (match result.verdict with
  | none => []
  | some verdict => [{ lastVerdict := some verdict }]) ++
  (match result.retryCount with
  | none => []
  | some count => [{ retryCounts := some (StageRecord.empty.set job.stage count) }]) ++
  (match result.failureClass with
  | none => []
  | some failureClass => [{ lastFailureClass := some failureClass }]) ++
  (if job.stage = .dev ∧ requiresToolPlanAcceptanceGate result then
    [{ acceptanceGateContext := some
        { required := true, sourceJobId := job.jobId,
          reason := "tool_plan applied workspace changes and requires independent acceptance before integration",
          artifactIds := getArtifactIds result, createdAt := env.now } }]
    else []) ++
  (if isTruthy result.loopFingerprint then [{ loopFingerprint := result.loopFingerprint }]
    else []) ++
  (match result.detectedSideEffects with
  | some effects => [{ detectedSideEffects := some effects }]
  | none =>
    if result.requestedEscalations = [] then []
    else
      let categories := analyzeSideEffects (result.requestedEscalations.map (·.kind))
      [{ detectedSideEffects := some categories }])

def computeTaskUpdatesFromResult (env : Env) (result : WorkerResult) (job : WorkerJob) : TaskUpdate :=
  mergeTaskUpdates (resultUpdates env result job)

def sliceSummary (text : List Char) : String :=
  String.ofList (Json.decodeUnits ((JsText.charCodes text).take 4000))

def readTestFailureSummary (result : WorkerResult) : Option String :=
  match get result.metadata "tool_plan_test_failure_summaries" with
  | some (.str summary) =>
    if summary = "" then none
    else match Json.parse summary.toList with
      | some (.arr items) =>
        some (sliceSummary ("\n\n".intercalate (items.filterMap Json.asString?)).toList)
      | some _ => none
      | none => some (sliceSummary summary.toList)
  | _ => none

def buildReworkContext (env : Env) (job : WorkerJob) (result : WorkerResult) (attempt : Nat) :
    ReworkContext where
  sourceJobId := job.jobId
  stage := job.stage
  attempt := attempt
  maxAttempts := maxReworkAttempts
  reason := (result.summary.orElse fun _ => result.failureCode).getD "worker failed"
  failureSummary := result.failureSummary
  testFailureSummary := readTestFailureSummary result
  artifactIds := getArtifactIds result
  createdAt := env.now

def handleBlockedResult (env : Env) (task : Task) (job : WorkerJob) (result : WorkerResult)
    (taskUpdates : TaskUpdate) : StoreM ResultApplyResponse := do
  let blockedUpdate : TaskUpdate :=
    { blockedContext := some
        { resumeState := stageToActiveResumeState job.stage
          reason := result.summary.getD "worker blocked"
          waitingOn := some .human } }
  let updatedTask := applyTaskUpdate env task (mergeTaskUpdates [taskUpdates, blockedUpdate])
  let (event, transitionedTask) ← transitionTask env 0 updatedTask .blocked
    { actorType := .worker, actorId := job.workerType.text
      reason := result.summary.getD "worker blocked"
      jobId := some job.jobId, artifactIds := some (getArtifactIds result) }
  pure { task := transitionedTask, emittedEvents := [event], nextAction := .waitManual }

def handleDoomLoop (env : Env) (task : Task) (job : WorkerJob) (result : WorkerResult)
    (loopType : LoopType) (taskUpdates : TaskUpdate) : StoreM ResultApplyResponse := do
  let blockedUpdate : TaskUpdate :=
    { blockedContext := some
        { resumeState := stageToActiveResumeState job.stage
          reason := "Doom loop detected: " ++ loopType.text
          waitingOn := some .policy
          loopFingerprint := job.loopFingerprint }
      activeJobId := none }
  let updatedTask := applyTaskUpdate env task (mergeTaskUpdates [taskUpdates, blockedUpdate])
  let (event, transitionedTask) ← transitionTask env 0 updatedTask .blocked
    { actorType := .policyEngine, actorId := "doom_loop_detector"
      reason := "doom loop detected: " ++ loopType.text
      jobId := some job.jobId, artifactIds := some (getArtifactIds result) }
  finalizeJob job false
  pure { task := transitionedTask, emittedEvents := [event], nextAction := .waitManual }

/-- Keeps the concurrency slot for the retry; only the lease is released. -/
def handleRetry (env : Env) (task : Task) (job : WorkerJob) (result : WorkerResult)
    (currentRetryCount : Int) (maxRetries : Nat) (failureClass : FailureClass)
    (taskUpdates : TaskUpdate) : StoreM ResultApplyResponse := do
  setRetryCount task.taskId job.stage (currentRetryCount + 1)
  let retryUpdate : TaskUpdate := { activeJobId := none }
  let updatedTask := applyTaskUpdate env task (mergeTaskUpdates [taskUpdates, retryUpdate])
  let (event, transitionedTask) ← transitionTask env 0 updatedTask (stageToActiveState job.stage)
    { actorType := .policyEngine, actorId := "retry_manager"
      reason := "retry " ++ toString (currentRetryCount + 1) ++ "/" ++ toString maxRetries ++
        " after " ++ failureClass.text
      jobId := some job.jobId, artifactIds := some (getArtifactIds result) }
  releaseLease job
  pure { task := transitionedTask, emittedEvents := [event], nextAction := .retry }

def handleFailover (env : Env) (task : Task) (job : WorkerJob) (result : WorkerResult)
    (nextWorker : WorkerType) (taskUpdates : TaskUpdate) : StoreM ResultApplyResponse := do
  releaseLease job
  let failoverUpdate : TaskUpdate := { activeJobId := none }
  let updatedTask := applyTaskUpdate env task (mergeTaskUpdates [taskUpdates, failoverUpdate])
  let (event, transitionedTask) ← transitionTask env 0 updatedTask (stageToActiveState job.stage)
    { actorType := .policyEngine, actorId := "failover_manager"
      reason := "failover to " ++ nextWorker.text ++ " after " ++ job.workerType.text ++ " failure"
      jobId := some job.jobId, artifactIds := some (getArtifactIds result) }
  pure { task := transitionedTask, emittedEvents := [event], nextAction := .failover
         failoverWorker := some nextWorker }

def previousReworkAttempt (task : Task) (job : WorkerJob) : Nat :=
  match task.reworkContext with
  | some context => if context.stage = job.stage then context.attempt else 0
  | none => 0

def exhaustedReason (task : Task) (job : WorkerJob) (result : WorkerResult)
    (failureClass : FailureClass) : String :=
  "bounded rework attempts exhausted after " ++ toString (previousReworkAttempt task job) ++
    " attempt(s): " ++ result.summary.getD failureClass.text

def handleFinalFailure (env : Env) (task : Task) (job : WorkerJob) (result : WorkerResult)
    (failureClass : FailureClass) (taskUpdates : TaskUpdate) : StoreM ResultApplyResponse := do
  let previousAttempt := previousReworkAttempt task job
  if previousAttempt ≥ maxReworkAttempts then
    let reason := exhaustedReason task job result failureClass
    let blockedUpdate : TaskUpdate :=
      { activeJobId := none
        blockedContext := some
          { resumeState := stageToActiveResumeState job.stage, reason, waitingOn := some .policy } }
    let updatedTask := applyTaskUpdate env task (mergeTaskUpdates [taskUpdates, blockedUpdate])
    let (event, transitionedTask) ← transitionTask env 0 updatedTask .blocked
      { actorType := .policyEngine, actorId := "rework_loop_guard", reason
        jobId := some job.jobId, artifactIds := some (getArtifactIds result) }
    finalizeJob job true
    pure { task := transitionedTask, emittedEvents := [event], nextAction := .waitManual }
  else
    let failUpdate : TaskUpdate :=
      { activeJobId := none
        reworkContext := some (buildReworkContext env job result (previousAttempt + 1)) }
    let updatedTask := applyTaskUpdate env task (mergeTaskUpdates [taskUpdates, failUpdate])
    let (event, transitionedTask) ← transitionTask env 0 updatedTask .reworkRequired
      { actorType := .worker, actorId := job.workerType.text
        reason := result.summary.getD ("failed (" ++ failureClass.text ++ ", retries exhausted)")
        jobId := some job.jobId, artifactIds := some (getArtifactIds result) }
    finalizeJob job true
    pure { task := transitionedTask, emittedEvents := [event], nextAction := .dispatchDev }

def currentRetryCountOf (s : ControlPlane) (task : Task) (job : WorkerJob) (result : WorkerResult) :
    Int :=
  (result.retryCount.orElse fun _ => s.retryTracker.get? (task.taskId, job.stage)).getD 0

def failureClassOf (result : WorkerResult) : FailureClass :=
  result.failureClass.getD (classifyFromResult result)

def handleFailedResult (env : Env) (task : Task) (job : WorkerJob) (result : WorkerResult)
    (taskUpdates : TaskUpdate) : StoreM ResultApplyResponse := do
  let s ← get
  let failureClass := failureClassOf result
  let currentRetryCount := currentRetryCountOf s task job result
  let maxRetries := maxRetriesOf job
  match s.doomLoopDetector.detectLoop job.jobId with
  | some loopType => handleDoomLoop env task job result loopType taskUpdates
  | none =>
    match getFailoverWorker job.stage job.workerType with
    | some nextWorker => handleFailover env task job result nextWorker taskUpdates
    | none =>
      if shouldRetry failureClass currentRetryCount maxRetries then
        handleRetry env task job result currentRetryCount maxRetries failureClass taskUpdates
      else handleFinalFailure env task job result failureClass taskUpdates

def isRejection (result : WorkerResult) : Bool :=
  result.verdict.any fun v => v.outcome = .reject || v.outcome = .rework

def handleSucceededStage (env : Env) (task : Task) (job : WorkerJob) (result : WorkerResult)
    (taskUpdates : TaskUpdate) : StoreM ResultApplyResponse := do
  match job.stage with
  | .plan =>
    let (event, transitionedTask) ← transitionTask env 0 (applyTaskUpdate env task taskUpdates)
      .planned
      { actorType := .worker, actorId := job.workerType.text
        reason := result.summary.getD "plan completed"
        jobId := some job.jobId, artifactIds := some (getArtifactIds result) }
    pure { task := transitionedTask, emittedEvents := [event], nextAction := .dispatchDev }
  | .dev =>
    let (event, transitionedTask) ← transitionTask env 0 (applyTaskUpdate env task taskUpdates)
      .devCompleted
      { actorType := .worker, actorId := job.workerType.text
        reason := result.summary.getD "dev completed"
        jobId := some job.jobId, artifactIds := some (getArtifactIds result) }
    pure { task := transitionedTask, emittedEvents := [event], nextAction := .dispatchAcceptance }
  | .acceptance =>
    if isRejection result then
      let (event, transitionedTask) ← transitionTask env 0 (applyTaskUpdate env task taskUpdates)
        .reworkRequired
        { actorType := .worker, actorId := job.workerType.text
          reason := (result.verdict.bind (·.reason)).getD "acceptance rejected by worker"
          jobId := some job.jobId, artifactIds := some (getArtifactIds result) }
      pure { task := transitionedTask, emittedEvents := [event], nextAction := .dispatchDev }
    else
      let verdictUpdate : TaskUpdate := { lastVerdict := result.verdict }
      let checklistUpdate : TaskUpdate :=
        if task.manualChecklist.getD [] ≠ [] then {}
        else { manualChecklist := some (generateChecklist task.riskLevel) }
      let mergedTaskUpdates := mergeTaskUpdates [taskUpdates, verdictUpdate, checklistUpdate]
      pure { task := applyTaskUpdate env task mergedTaskUpdates, emittedEvents := []
             nextAction := .waitManual }

def handleSucceededResultFinal (env : Env) (task : Task) (job : WorkerJob) (result : WorkerResult)
    (taskUpdates : TaskUpdate) : StoreM ResultApplyResponse := do
  let response ← handleSucceededStage env task job result taskUpdates
  finalizeJob job true
  pure response

def isPolicyViolation (errors : List ValidationError) : Bool :=
  errors.any fun e => e.code = .policyViolation || e.code = .authorityConflict

def isRetryableSchemaError (errors : List ValidationError) : Bool :=
  !isPolicyViolation errors && errors.any fun e => e.code = .schemaError || e.code = .parseError

def isAcceptanceManualGateError (job : WorkerJob) (errors : List ValidationError) : Bool :=
  job.stage = .acceptance && errors.any fun e =>
    e.path = "evidence" || e.path = "verdict.outcome" || e.code = .policyViolation

def needsManualGate (job : WorkerJob) (errors : List ValidationError) : Bool :=
  isPolicyViolation errors || isAcceptanceManualGateError job errors

def errorSummary (errors : List ValidationError) : String :=
  "; ".intercalate (errors.map fun e => e.path ++ ": " ++ e.message)

/-- Retries a result of bad structure while retries are left; else the task is blocked for a manual
gate or sent to rework. -/
def handleValidationFailure (env : Env) (result : WorkerResult) (task : Task) (job : WorkerJob)
    (validation : ResultValidation) : StoreM ResultApplyResponse := do
  let s ← get
  let errors := validation.errors
  let currentRetryCount := (s.retryTracker.get? (task.taskId, job.stage)).getD 0
  let maxRetries := maxRetriesOf job
  if isRetryableSchemaError errors ∧ shouldRetry .retryableTransient currentRetryCount maxRetries then
    setRetryCount task.taskId job.stage (currentRetryCount + 1)
    let updatedTask := applyTaskUpdate env task (mergeTaskUpdates [{}, { activeJobId := none }])
    let (event, transitionedTask) ← transitionTask env 0 updatedTask (stageToActiveState job.stage)
      { actorType := .policyEngine, actorId := "validation_layer"
        reason := "retry " ++ toString (currentRetryCount + 1) ++ "/" ++ toString maxRetries ++
          " after schema validation failure"
        jobId := some job.jobId, artifactIds := some (getArtifactIds result) }
    releaseLease job
    pure { task := transitionedTask, emittedEvents := [event], nextAction := .retry }
  else
    let manualGate := needsManualGate job errors
    let nextState : TaskState := if manualGate then .blocked else .reworkRequired
    let blockedUpdate : TaskUpdate :=
      if manualGate then
        { blockedContext := some
            { resumeState := stageToActiveResumeState job.stage
              reason := "Validation requires manual gate: " ++ errorSummary errors
              waitingOn := some .policy }
          activeJobId := none }
      else { activeJobId := none }
    let updatedTask := applyTaskUpdate env task (mergeTaskUpdates [{}, blockedUpdate])
    let (event, transitionedTask) ← transitionTask env 0 updatedTask nextState
      { actorType := .controlPlane, actorId := "validation_layer"
        reason := "validation failed: " ++ errorSummary errors
        jobId := some job.jobId, artifactIds := some (getArtifactIds result) }
    finalizeJob job true
    pure { task := transitionedTask, emittedEvents := [event]
           nextAction := if manualGate then .waitManual else .dispatchDev }

/-- The entry point of the orchestrator. -/
def orchestrateResult (env : Env) (result : WorkerResult) (task : Task) (job : WorkerJob) :
    StoreM ResultApplyResponse := do
  let validation := validateResult result task job
  if !validation.valid then handleValidationFailure env result task job validation
  else
    let taskUpdates := computeTaskUpdatesFromResult env result job
    match result.status with
    | .blocked => handleBlockedResult env task job result taskUpdates
    | .failed => handleFailedResult env task job result taskUpdates
    | .succeeded => handleSucceededResultFinal env task job result taskUpdates

end ShipyardCp.Store
