import ShipyardCp.Store.ResultOrchestrator

/-! The decisions of the result orchestrator as data: what each result writes to its task, where it
moves it and what it releases. The orchestrator performs exactly these answers. -/

namespace ShipyardCp.Store

open Types Domain Lib ControlPlane

/-- What is given back when a result was handled. -/
inductive JobRelease where
  | nothing | lease | leaseAndSlot
  deriving DecidableEq

/-- The answer to a result. Without a `move` the task is patched and stays in its state. -/
structure ResultAnswer where
  retryCount : Option Int := none
  releaseFirst : Bool := false
  update : TaskUpdate
  move : Option (TaskState × TransitionInput)
  release : JobRelease
  nextAction : NextAction
  failoverWorker : Option WorkerType := none

namespace ResultAnswer

def releaseProgram (job : WorkerJob) : JobRelease → StoreM Unit
  | .nothing => pure ()
  | .lease => finalizeJob job false
  | .leaseAndSlot => finalizeJob job true

def patched (a : ResultAnswer) (env : Env) (task : Task) : Task := applyTaskUpdate env task a.update

/-- Writes the task of an answer and gives back what the job held. -/
def finish (a : ResultAnswer) (env : Env) (task : Task) (job : WorkerJob) :
    StoreM ResultApplyResponse := do
  match a.move with
  | none =>
    releaseProgram job a.release
    pure { task := a.patched env task, emittedEvents := [], nextAction := a.nextAction
           failoverWorker := a.failoverWorker }
  | some (toState, input) =>
    let (event, transitionedTask) ← transitionTask env 0 (a.patched env task) toState input
    releaseProgram job a.release
    pure { task := transitionedTask, emittedEvents := [event], nextAction := a.nextAction
           failoverWorker := a.failoverWorker }

def perform (a : ResultAnswer) (env : Env) (task : Task) (job : WorkerJob) :
    StoreM ResultApplyResponse := do
  match a.retryCount with
  | none => pure ()
  | some count => setRetryCount task.taskId job.stage count
  if a.releaseFirst then releaseLease job
  a.finish env task job

end ResultAnswer

def jobInput (job : WorkerJob) (result : WorkerResult) (actorType : ActorType) (actorId : String)
    (reason : String) : TransitionInput :=
  { actorType, actorId, reason, jobId := some job.jobId
    artifactIds := some (getArtifactIds result) }

def stageContext (job : WorkerJob) (reason : String) (waitingOn : WaitingOn)
    (loopFingerprint : Option String) : BlockedContext :=
  { resumeState := stageToActiveResumeState job.stage, reason, waitingOn := some waitingOn
    loopFingerprint }

def retryPrefix (count : Int) (job : WorkerJob) : String :=
  "retry " ++ toString (count + 1) ++ "/" ++ toString (maxRetriesOf job)

def retriesValidation (s : ControlPlane) (task : Task) (job : WorkerJob)
    (errors : List ValidationError) : Bool :=
  isRetryableSchemaError errors &&
    shouldRetry .retryableTransient ((s.retryTracker.get? (task.taskId, job.stage)).getD 0)
      (maxRetriesOf job)

def validationAnswer (s : ControlPlane) (task : Task) (job : WorkerJob) (result : WorkerResult)
    (errors : List ValidationError) : ResultAnswer :=
  let count := (s.retryTracker.get? (task.taskId, job.stage)).getD 0
  if retriesValidation s task job errors then
    { retryCount := some (count + 1)
      update := mergeTaskUpdates [{}, {}]
      move := some (stageToActiveState job.stage, jobInput job result .policyEngine
        "validation_layer" (retryPrefix count job ++ " after schema validation failure"))
      release := .lease
      nextAction := .retry }
  else if needsManualGate job errors then
    { update := mergeTaskUpdates [{}, { blockedContext := some (stageContext job
        ("Validation requires manual gate: " ++ errorSummary errors) .policy none) }]
      move := some (.blocked, jobInput job result .controlPlane "validation_layer"
        ("validation failed: " ++ errorSummary errors))
      release := .leaseAndSlot
      nextAction := .waitManual }
  else
    { update := mergeTaskUpdates [{}, {}]
      move := some (.reworkRequired, jobInput job result .controlPlane "validation_layer"
        ("validation failed: " ++ errorSummary errors))
      release := .leaseAndSlot
      nextAction := .dispatchDev }

def blockedAnswer (job : WorkerJob) (result : WorkerResult) (taskUpdates : TaskUpdate) :
    ResultAnswer where
  update := mergeTaskUpdates [taskUpdates, { blockedContext := some (stageContext job
    (result.summary.getD "worker blocked") .human none) }]
  move := some (.blocked, jobInput job result .worker job.workerType.text
    (result.summary.getD "worker blocked"))
  release := .nothing
  nextAction := .waitManual

def doomLoopAnswer (job : WorkerJob) (result : WorkerResult) (loopType : LoopType)
    (taskUpdates : TaskUpdate) : ResultAnswer where
  update := mergeTaskUpdates [taskUpdates, { blockedContext := some (stageContext job
    ("Doom loop detected: " ++ loopType.text) .policy job.loopFingerprint) }]
  move := some (.blocked, jobInput job result .policyEngine "doom_loop_detector"
    ("doom loop detected: " ++ loopType.text))
  release := .lease
  nextAction := .waitManual

def failoverAnswer (job : WorkerJob) (result : WorkerResult) (nextWorker : WorkerType)
    (taskUpdates : TaskUpdate) : ResultAnswer where
  releaseFirst := true
  update := mergeTaskUpdates [taskUpdates, {}]
  move := some (stageToActiveState job.stage, jobInput job result .policyEngine "failover_manager"
    ("failover to " ++ nextWorker.text ++ " after " ++ job.workerType.text ++ " failure"))
  release := .nothing
  nextAction := .failover
  failoverWorker := some nextWorker

def retryAnswer (job : WorkerJob) (result : WorkerResult) (count : Int)
    (failureClass : FailureClass) (taskUpdates : TaskUpdate) : ResultAnswer where
  retryCount := some (count + 1)
  update := mergeTaskUpdates [taskUpdates, {}]
  move := some (stageToActiveState job.stage, jobInput job result .policyEngine "retry_manager"
    (retryPrefix count job ++ " after " ++ failureClass.text))
  release := .lease
  nextAction := .retry

def finalFailureAnswer (env : Env) (task : Task) (job : WorkerJob) (result : WorkerResult)
    (failureClass : FailureClass) (taskUpdates : TaskUpdate) : ResultAnswer :=
  if previousReworkAttempt task job ≥ maxReworkAttempts then
    { update := mergeTaskUpdates [taskUpdates, { blockedContext := some (stageContext job
        (exhaustedReason task job result failureClass) .policy none) }]
      move := some (.blocked, jobInput job result .policyEngine "rework_loop_guard"
        (exhaustedReason task job result failureClass))
      release := .leaseAndSlot
      nextAction := .waitManual }
  else
    let context := buildReworkContext env job result (previousReworkAttempt task job + 1)
    { update := mergeTaskUpdates [taskUpdates, { reworkContext := some context }]
      move := some (.reworkRequired, jobInput job result .worker job.workerType.text
        (result.summary.getD ("failed (" ++ failureClass.text ++ ", retries exhausted)")))
      release := .leaseAndSlot
      nextAction := .dispatchDev }

def failedAnswer (env : Env) (s : ControlPlane) (task : Task) (job : WorkerJob)
    (result : WorkerResult) (taskUpdates : TaskUpdate) : ResultAnswer :=
  match s.doomLoopDetector.detectLoop job.jobId with
  | some loopType => doomLoopAnswer job result loopType taskUpdates
  | none =>
    match getFailoverWorker job.stage job.workerType with
    | some nextWorker => failoverAnswer job result nextWorker taskUpdates
    | none =>
      if shouldRetry (failureClassOf result) (currentRetryCountOf s task job result)
          (maxRetriesOf job) then
        retryAnswer job result (currentRetryCountOf s task job result) (failureClassOf result)
          taskUpdates
      else finalFailureAnswer env task job result (failureClassOf result) taskUpdates

def completedAnswer (job : WorkerJob) (result : WorkerResult) (toState : TaskState)
    (reason : String) (nextAction : NextAction) (taskUpdates : TaskUpdate) : ResultAnswer where
  update := taskUpdates
  move := some (toState, jobInput job result .worker job.workerType.text reason)
  release := .leaseAndSlot
  nextAction := nextAction

/-- An acceptance result leaves its verdict and a checklist, and waits for manual acceptance. -/
def evidenceAnswer (task : Task) (result : WorkerResult) (taskUpdates : TaskUpdate) :
    ResultAnswer where
  update := mergeTaskUpdates [taskUpdates, { lastVerdict := result.verdict },
    if task.manualChecklist.getD [] ≠ [] then {}
    else { manualChecklist := some (generateChecklist task.riskLevel) }]
  move := none
  release := .leaseAndSlot
  nextAction := .waitManual

def succeededAnswer (task : Task) (job : WorkerJob) (result : WorkerResult)
    (taskUpdates : TaskUpdate) : ResultAnswer :=
  match job.stage with
  | .plan => completedAnswer job result .planned (result.summary.getD "plan completed")
      .dispatchDev taskUpdates
  | .dev => completedAnswer job result .devCompleted (result.summary.getD "dev completed")
      .dispatchAcceptance taskUpdates
  | .acceptance =>
    if isRejection result then
      completedAnswer job result .reworkRequired
        ((result.verdict.bind (·.reason)).getD "acceptance rejected by worker") .dispatchDev
        taskUpdates
    else evidenceAnswer task result taskUpdates

/-- The answer to a result in a given state of the store. -/
def resultAnswer (env : Env) (s : ControlPlane) (result : WorkerResult) (task : Task)
    (job : WorkerJob) : ResultAnswer :=
  let validation := validateResult result task job
  if !validation.valid then validationAnswer s task job result validation.errors
  else
    let taskUpdates := computeTaskUpdatesFromResult env result job
    match result.status with
    | .blocked => blockedAnswer job result taskUpdates
    | .failed => failedAnswer env s task job result taskUpdates
    | .succeeded => succeededAnswer task job result taskUpdates

section perform

variable {env : Env} {task : Task} {job : WorkerJob} {result : WorkerResult}
  {taskUpdates : TaskUpdate}

open ResultAnswer

theorem handleBlockedResult_eq : handleBlockedResult env task job result taskUpdates =
    (blockedAnswer job result taskUpdates).perform env task job := rfl

theorem handleDoomLoop_eq (loopType : LoopType) :
    handleDoomLoop env task job result loopType taskUpdates =
      (doomLoopAnswer job result loopType taskUpdates).perform env task job := rfl

theorem handleFailover_eq (nextWorker : WorkerType) :
    handleFailover env task job result nextWorker taskUpdates =
      (failoverAnswer job result nextWorker taskUpdates).perform env task job := rfl

theorem handleRetry_eq (count : Int) (failureClass : FailureClass) :
    handleRetry env task job result count (maxRetriesOf job) failureClass taskUpdates =
      (retryAnswer job result count failureClass taskUpdates).perform env task job := rfl

theorem handleFinalFailure_eq (failureClass : FailureClass) :
    handleFinalFailure env task job result failureClass taskUpdates =
      (finalFailureAnswer env task job result failureClass taskUpdates).perform env task job := by
  unfold handleFinalFailure finalFailureAnswer
  generalize exhaustedReason task job result failureClass = reason
  dsimp only
  split_ifs
  · rfl
  · rfl

theorem handleFailedResult_eq (s : ControlPlane) :
    (handleFailedResult env task job result taskUpdates).run s =
      ((failedAnswer env s task job result taskUpdates).perform env task job).run s := by
  rw [handleFailedResult, run_get_bind, failedAnswer]
  dsimp only
  cases s.doomLoopDetector.detectLoop job.jobId with
  | some loopType => exact congrFun (handleDoomLoop_eq loopType) s
  | none =>
    cases getFailoverWorker job.stage job.workerType with
    | some nextWorker => exact congrFun (handleFailover_eq nextWorker) s
    | none =>
      dsimp only
      split_ifs
      · exact congrFun (handleRetry_eq _ _) s
      · exact congrFun (handleFinalFailure_eq _) s

theorem handleSucceededResultFinal_eq : handleSucceededResultFinal env task job result taskUpdates =
      (succeededAnswer task job result taskUpdates).perform env task job := by
  unfold handleSucceededResultFinal handleSucceededStage succeededAnswer
  cases job.stage with
  | plan => exact bind_assoc ..
  | dev => exact bind_assoc ..
  | acceptance =>
    dsimp only
    by_cases hrejected : isRejection result = true
    · rw [if_pos hrejected, if_pos hrejected]
      exact bind_assoc ..
    · rw [if_neg hrejected, if_neg hrejected]
      rfl

theorem handleValidationFailure_eq (s : ControlPlane) (validation : ResultValidation) :
    (handleValidationFailure env result task job validation).run s =
      ((validationAnswer s task job result validation.errors).perform env task job).run s := by
  rw [handleValidationFailure, run_get_bind, validationAnswer]
  dsimp only
  have hretries : (isRetryableSchemaError validation.errors ∧
      shouldRetry .retryableTransient ((s.retryTracker.get? (task.taskId, job.stage)).getD 0)
        (maxRetriesOf job)) ↔ retriesValidation s task job validation.errors = true := by
    rw [retriesValidation, Bool.and_eq_true]
  simp only [hretries]
  by_cases hretry : retriesValidation s task job validation.errors = true
  · rw [if_pos hretry, if_pos hretry]
    rfl
  · rw [if_neg hretry, if_neg hretry]
    by_cases hgate : needsManualGate job validation.errors = true
    · simp only [if_pos hgate]
      rfl
    · simp only [if_neg hgate]
      rfl

theorem orchestrateResult_run (s : ControlPlane) : (orchestrateResult env result task job).run s =
      ((resultAnswer env s result task job).perform env task job).run s := by
  unfold orchestrateResult resultAnswer
  dsimp only
  split_ifs
  · exact handleValidationFailure_eq s _
  · cases result.status with
    | blocked => exact congrFun handleBlockedResult_eq s
    | failed => exact handleFailedResult_eq s
    | succeeded => exact congrFun handleSucceededResultFinal_eq s

theorem wp_orchestrateResult {s : ControlPlane}
    {Q : EStateM.Result StoreError ControlPlane ResultApplyResponse → Prop} :
    wp (orchestrateResult env result task job) Q s ↔
      wp ((resultAnswer env s result task job).perform env task job) Q s := by
  rw [wp, wp, orchestrateResult_run]

end perform

section updates

variable {env : Env} {s : ControlPlane} {result : WorkerResult} {task : Task} {job : WorkerJob}

theorem resultUpdates_fields {u : TaskUpdate} (hu : u ∈ resultUpdates env result job) :
    u.activeJobId = none ∧ u.blockedContext = none ∧ u.manualChecklist = none ∧
      ∀ v, u.lastVerdict = some v → result.verdict = some v := by
  simp only [resultUpdates, List.mem_append] at hu
  rcases hu with (((((((((hu | hu) | hu) | hu) | hu) | hu) | hu) | hu) | hu) | hu) | hu
  all_goals
    split at hu
    all_goals simp_all

/-- The limits of what a result may write: no active job, a resume state of its own stage, its own
verdict, and a fresh checklist where there was none. -/
structure ResultUpdate (result : WorkerResult) (task : Task) (job : WorkerJob) (u : TaskUpdate) :
    Prop where
  activeJobId : u.activeJobId = none
  resumeState : ∀ c, u.blockedContext = some c → c.resumeState = stageToActiveResumeState job.stage
  verdict : ∀ v, u.lastVerdict = some v → result.verdict = some v
  checklist : ∀ items, u.manualChecklist = some items →
    items = generateChecklist task.riskLevel ∧ task.manualChecklist.getD [] = []

theorem ResultUpdate.empty : ResultUpdate result task job {} := by
  constructor <;> simp

theorem ResultUpdate.merge {us : List TaskUpdate} (h : ∀ u ∈ us, ResultUpdate result task job u) :
    ResultUpdate result task job (mergeTaskUpdates us) where
  activeJobId := by
    cases hfield : (mergeTaskUpdates us).activeJobId with
    | none => rfl
    | some jobId =>
      obtain ⟨u, hu, hset⟩ := mem_of_mergeTaskUpdates (·.activeJobId) rfl (fun _ _ => rfl) hfield
      rw [(h u hu).activeJobId] at hset
      cases hset
  resumeState c hc := by
    obtain ⟨u, hu, hset⟩ := mem_of_mergeTaskUpdates (·.blockedContext) rfl (fun _ _ => rfl) hc
    exact (h u hu).resumeState c hset
  verdict v hv := by
    obtain ⟨u, hu, hset⟩ := mem_of_mergeTaskUpdates (·.lastVerdict) rfl (fun _ _ => rfl) hv
    exact (h u hu).verdict v hset
  checklist items hitems := by
    obtain ⟨u, hu, hset⟩ := mem_of_mergeTaskUpdates (·.manualChecklist) rfl (fun _ _ => rfl) hitems
    exact (h u hu).checklist items hset

theorem ResultUpdate.computed :
    ResultUpdate result task job (computeTaskUpdatesFromResult env result job) :=
  .merge fun u hu => by
    obtain ⟨hactive, hblocked, hchecklist, hverdict⟩ := resultUpdates_fields hu
    exact ⟨hactive, by simp [hblocked], hverdict, by simp [hchecklist]⟩

theorem ResultUpdate.context {c : BlockedContext}
    (hc : c.resumeState = stageToActiveResumeState job.stage) :
    ResultUpdate result task job { blockedContext := some c } := by
  constructor <;> simp [hc]

theorem ResultUpdate.pair {u v : TaskUpdate} (hu : ResultUpdate result task job u)
    (hv : ResultUpdate result task job v) :
    ResultUpdate result task job (mergeTaskUpdates [u, v]) :=
  .merge fun w hw => by
    rcases List.mem_pair.mp hw with rfl | rfl
    · exact hu
    · exact hv

/-- Where a result may move its task. -/
inductive ResultMove (job : WorkerJob) (u : TaskUpdate) : TaskState → Prop
  | active : ResultMove job u (stageToActiveState job.stage)
  | planned : ResultMove job u .planned
  | devCompleted : ResultMove job u .devCompleted
  | rework : ResultMove job u .reworkRequired
  | blocked (c : BlockedContext) : u.blockedContext = some c → ResultMove job u .blocked

/-- What every answer keeps to. -/
structure ResultAnswer.Sound (result : WorkerResult) (task : Task) (job : WorkerJob)
    (a : ResultAnswer) : Prop where
  update : ResultUpdate result task job a.update
  move : ∀ toState input, a.move = some (toState, input) → ResultMove job a.update toState
  stays : a.move = none → job.stage = .acceptance

theorem validationAnswer_sound (errors : List ValidationError) :
    (validationAnswer s task job result errors).Sound result task job := by
  unfold validationAnswer
  dsimp only
  split_ifs
  · exact ⟨.pair .empty .empty, by rintro _ _ ⟨⟩; exact .active, by simp⟩
  · exact ⟨.pair .empty (.context rfl), by rintro _ _ ⟨⟩; exact .blocked _ rfl, by simp⟩
  · exact ⟨.pair .empty .empty, by rintro _ _ ⟨⟩; exact .rework, by simp⟩

theorem failedAnswer_sound {taskUpdates : TaskUpdate}
    (hupdates : ResultUpdate result task job taskUpdates) :
    (failedAnswer env s task job result taskUpdates).Sound result task job := by
  have hrework : ∀ context : ReworkContext,
      ResultUpdate result task job { reworkContext := some context } :=
    fun context => by constructor <;> simp
  unfold failedAnswer
  cases s.doomLoopDetector.detectLoop job.jobId with
  | some loopType =>
    exact ⟨.pair hupdates (.context rfl), by rintro _ _ ⟨⟩; exact .blocked _ rfl,
      by simp [doomLoopAnswer]⟩
  | none =>
    cases getFailoverWorker job.stage job.workerType with
    | some nextWorker =>
      exact ⟨.pair hupdates .empty, by rintro _ _ ⟨⟩; exact .active, by simp [failoverAnswer]⟩
    | none =>
      dsimp only
      split_ifs
      · exact ⟨.pair hupdates .empty, by rintro _ _ ⟨⟩; exact .active, by simp [retryAnswer]⟩
      · unfold finalFailureAnswer
        dsimp only
        split_ifs
        · exact ⟨.pair hupdates (.context rfl), by rintro _ _ ⟨⟩; exact .blocked _ rfl, by simp⟩
        · exact ⟨.pair hupdates (hrework _), by rintro _ _ ⟨⟩; exact .rework, by simp⟩

theorem succeededAnswer_sound {taskUpdates : TaskUpdate}
    (hupdates : ResultUpdate result task job taskUpdates) :
    (succeededAnswer task job result taskUpdates).Sound result task job := by
  unfold succeededAnswer
  cases hstage : job.stage with
  | plan => exact ⟨hupdates, by rintro _ _ ⟨⟩; exact .planned, by simp [completedAnswer]⟩
  | dev => exact ⟨hupdates, by rintro _ _ ⟨⟩; exact .devCompleted, by simp [completedAnswer]⟩
  | acceptance =>
    dsimp only
    split_ifs
    · exact ⟨hupdates, by rintro _ _ ⟨⟩; exact .rework, by simp [completedAnswer]⟩
    · refine ⟨.merge fun u hu => ?_, by simp [evidenceAnswer], fun _ => hstage⟩
      simp only [List.mem_cons, List.not_mem_nil, or_false] at hu
      rcases hu with rfl | rfl | rfl
      · exact hupdates
      · constructor <;> simp
      · split_ifs with hempty
        · exact .empty
        · constructor <;> simp_all

theorem resultAnswer_sound : (resultAnswer env s result task job).Sound result task job := by
  unfold resultAnswer
  dsimp only
  split_ifs
  · exact validationAnswer_sound _
  · cases result.status with
    | blocked =>
      exact ⟨.pair .computed (.context rfl), by rintro _ _ ⟨⟩; exact .blocked _ rfl,
        by simp [blockedAnswer]⟩
    | failed => exact failedAnswer_sound .computed
    | succeeded => exact succeededAnswer_sound .computed

end updates

namespace ResultAnswer

variable (a : ResultAnswer) (env : Env) (s : ControlPlane) (task : Task) (job : WorkerJob)

/-- The store before the task of an answer is written: the retry count is set, and a failover gives
its lease back. -/
def prepared : ControlPlane :=
  let s := match a.retryCount with
    | none => s
    | some count => { s with retryTracker := s.retryTracker.set (task.taskId, job.stage) count }
  if a.releaseFirst then
    { s with leaseManager := s.leaseManager.release job.jobId job.workerType.text }
  else s

def released : ControlPlane :=
  match a.release with
  | .nothing => s
  | .lease => { s with leaseManager := s.leaseManager.release job.jobId job.workerType.text }
  | .leaseAndSlot =>
    { s with
      leaseManager := s.leaseManager.release job.jobId job.workerType.text
      concurrencyManager := s.concurrencyManager.recordComplete job.jobId job.workerType.text }

section simp

@[simp] theorem patched_state : (a.patched env task).state = task.state := rfl
@[simp] theorem patched_taskId : (a.patched env task).taskId = task.taskId := rfl

@[simp] theorem prepared_tasks : (a.prepared s task job).tasks = s.tasks := by
  unfold prepared; cases a.retryCount <;> cases a.releaseFirst <;> rfl
@[simp] theorem prepared_events : (a.prepared s task job).events = s.events := by
  unfold prepared; cases a.retryCount <;> cases a.releaseFirst <;> rfl
@[simp] theorem prepared_jobs : (a.prepared s task job).jobs = s.jobs := by
  unfold prepared; cases a.retryCount <;> cases a.releaseFirst <;> rfl
@[simp] theorem prepared_results : (a.prepared s task job).results = s.results := by
  unfold prepared; cases a.retryCount <;> cases a.releaseFirst <;> rfl
theorem prepared_retryTracker : (a.prepared s task job).retryTracker =
    match a.retryCount with
    | none => s.retryTracker
    | some count => s.retryTracker.set (task.taskId, job.stage) count := by
  unfold prepared; cases a.retryCount <;> cases a.releaseFirst <;> rfl

@[simp] theorem prepared_concurrencyManager :
    (a.prepared s task job).concurrencyManager = s.concurrencyManager := by
  unfold prepared; cases a.retryCount <;> cases a.releaseFirst <;> rfl

theorem prepared_beside :
    (a.prepared s task job).publishIdempotencyKeys = s.publishIdempotencyKeys ∧
      (a.prepared s task job).doomLoopDetector = s.doomLoopDetector := by
  unfold prepared; cases a.retryCount <;> cases a.releaseFirst <;> exact ⟨rfl, rfl⟩

theorem prepared_leaseManager {P : LeaseManager → Prop}
    (hrelease : ∀ m jobId owner, P m → P (m.release jobId owner)) (h : P s.leaseManager) :
    P (a.prepared s task job).leaseManager := by
  unfold prepared
  cases a.retryCount <;> cases a.releaseFirst <;> first | exact h | exact hrelease _ _ _ h

theorem prepared_leases : (a.prepared s task job).leaseManager =
    if a.releaseFirst then s.leaseManager.release job.jobId job.workerType.text
    else s.leaseManager := by
  unfold prepared; cases a.retryCount <;> cases a.releaseFirst <;> rfl

@[simp] theorem released_tasks : (a.released s job).tasks = s.tasks := by
  unfold released; cases a.release <;> rfl
@[simp] theorem released_events : (a.released s job).events = s.events := by
  unfold released; cases a.release <;> rfl
@[simp] theorem released_jobs : (a.released s job).jobs = s.jobs := by
  unfold released; cases a.release <;> rfl
@[simp] theorem released_results : (a.released s job).results = s.results := by
  unfold released; cases a.release <;> rfl
@[simp] theorem released_retryTracker : (a.released s job).retryTracker = s.retryTracker := by
  unfold released; cases a.release <;> rfl

theorem released_concurrencyManager : (a.released s job).concurrencyManager =
    if a.release = .leaseAndSlot then
      s.concurrencyManager.recordComplete job.jobId job.workerType.text
    else s.concurrencyManager := by
  unfold released; cases a.release <;> rfl

theorem released_beside : (a.released s job).publishIdempotencyKeys = s.publishIdempotencyKeys ∧
    (a.released s job).doomLoopDetector = s.doomLoopDetector := by
  unfold released; cases a.release <;> exact ⟨rfl, rfl⟩

theorem released_leaseManager {P : LeaseManager → Prop}
    (hrelease : ∀ m jobId owner, P m → P (m.release jobId owner)) (h : P s.leaseManager) :
    P (a.released s job).leaseManager := by
  unfold released
  cases a.release with
  | nothing => exact h
  | lease => exact hrelease _ _ _ h
  | leaseAndSlot => exact hrelease _ _ _ h

@[simp] theorem prepared_task? (id : String) : (a.prepared s task job).task? id = s.task? id := by
  rw [task?, prepared_tasks, task?]
@[simp] theorem prepared_log (id : String) : (a.prepared s task job).log id = s.log id := by
  rw [log, prepared_events, log]
@[simp] theorem released_task? (id : String) : (a.released s job).task? id = s.task? id := by
  rw [task?, released_tasks, task?]
@[simp] theorem released_log (id : String) : (a.released s job).log id = s.log id := by
  rw [log, released_events, log]

theorem released_setTask (t : Task) : (a.released s job).setTask t = a.released (s.setTask t) job := by
  unfold released; cases a.release <;> rfl

end simp

variable {a env s task job}

theorem wp_releaseProgram {Q : EStateM.Result StoreError ControlPlane Unit → Prop} :
    wp (releaseProgram job a.release) Q s ↔ Q (.ok () (a.released s job)) := by
  unfold released
  cases a.release <;> exact Iff.rfl

theorem wp_perform {Q : EStateM.Result StoreError ControlPlane ResultApplyResponse → Prop} :
    wp (a.perform env task job) Q s ↔
      match a.move with
      | none => Q (.ok
          { task := a.patched env task, emittedEvents := [], nextAction := a.nextAction
            failoverWorker := a.failoverWorker } (a.released (a.prepared s task job) job))
      | some (toState, input) =>
        if canTransition task.state toState then
          Q (.ok
            { task := transitioned env (a.patched env task) toState
              emittedEvents := [transitionEvent env 0 (a.patched env task) toState input]
              nextAction := a.nextAction, failoverWorker := a.failoverWorker }
            (a.released ((a.prepared s task job).commit
              (transitioned env (a.patched env task) toState)
              (transitionEvent env 0 (a.patched env task) toState input)) job))
        else Q (.error (.transitionNotAllowed task.state toState) (a.prepared s task job)) := by
  have hfinish : wp (a.perform env task job) Q s ↔ wp (a.finish env task job) Q
      (a.prepared s task job) := by
    unfold perform prepared
    cases a.retryCount with
    | none => cases a.releaseFirst <;> exact Iff.rfl
    | some count => cases a.releaseFirst <;> exact Iff.rfl
  rw [hfinish, finish]
  cases a.move with
  | none => simp [wp_releaseProgram]
  | some move =>
    by_cases hcan : canTransition task.state move.1 = true
    · simp [hcan, wp_releaseProgram]
    · simp [hcan]

end ResultAnswer

end ShipyardCp.Store
