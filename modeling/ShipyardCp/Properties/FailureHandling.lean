import ShipyardCp.Store.Application
import ShipyardCp.Store.Attempts
import ShipyardCp.Store.Wiring

/-! Whether the attempts that are promised can be made: retries and failovers of a result, retries of
the orphan scan, and the resume of a blocked task. -/

namespace ShipyardCp.Properties

open Types Domain Lib Store

def Executable (s : ControlPlane) (taskId : String) (stage : WorkerStage) : Prop :=
  ∃ env request d, request.targetStage = stage ∧
    returned? (beginDispatch env taskId request) s = some d

def Undispatchable (s : ControlPlane) (taskId : String) : Prop :=
  ∃ task, s.task? taskId = some task ∧ getAllowedDispatchStage task.state = none

section dispatch

variable {s : ControlPlane} {taskId : String}

theorem not_executable (h : Undispatchable s taskId) (stage : WorkerStage) :
    ¬Executable s taskId stage := by
  obtain ⟨task, htask, hstage⟩ := h
  rintro ⟨env, request, d, _, hreturned⟩
  rw [returned?, beginDispatch_refused htask hstage] at hreturned
  cases hreturned

theorem getAllowedDispatchStage_active (stage : WorkerStage) :
    getAllowedDispatchStage (stageToActiveState stage) = none := by
  cases stage <;> rfl

end dispatch

section results

variable {env : Env} {s : ControlPlane} {taskId : String} {result : WorkerResult}
  {response : ResultApplyResponse}

theorem of_returned {α : Type} {p : StoreM α} {P : α → Prop} {a : α}
    (h : wp p (fun r => ∀ a s', r = .ok a s' → P a) s) (hreturned : returned? p s = some a) :
    P a := by
  unfold returned? at hreturned
  unfold wp at h
  cases hrun : p.run s with
  | ok b s' =>
    rw [hrun] at hreturned
    obtain rfl := Option.some.inj hreturned
    exact h b s' hrun
  | error e s' =>
    rw [hrun] at hreturned
    cases hreturned

theorem nextAction_ignored (h : ¬∃ task job, Delivery s taskId result task job)
    (hreturned : returned? (applyResult env taskId result) s = some response) :
    response.nextAction = .none := by
  refine of_returned (P := fun response => response.nextAction = .none) ?_ hreturned
  refine wp_applyResult_ignored h (fun _ _ _ h => by cases h) fun response hnone => ?_
  rintro _ _ ⟨⟩
  exact hnone

theorem nextAction_delivered {task : Task} {job : WorkerJob} (h : Delivery s taskId result task job)
    (hreturned : returned? (applyResult env taskId result) s = some response) :
    response.nextAction = (deliveryAnswer env s result task job).nextAction := by
  refine of_returned (P := fun response => response.nextAction = _) ?_ hreturned
  rw [wp_applyResult h, wp_orchestrateResult, ResultAnswer.wp_perform]
  cases hmove : (resultAnswer env (s.setResult result) result task job).move with
  | none =>
    simp only [andThen_ok, wp_bind, wp_modify, wp_pure]
    rintro response' _ ⟨⟩
    rfl
  | some move =>
    dsimp only
    split_ifs
    · simp only [andThen_ok, wp_bind, wp_modify, wp_pure]
      rintro response' _ ⟨⟩
      rfl
    · simp

theorem undispatchable_of_retry
    (hreturned : returned? (applyResult env taskId result) s = some response)
    (hnext : response.nextAction = .retry ∨ response.nextAction = .failover) :
    Undispatchable (deliver env s taskId result) taskId := by
  by_cases hdelivery : ∃ task job, Delivery s taskId result task job
  swap
  · rw [nextAction_ignored hdelivery hreturned] at hnext
    rcases hnext with hnext | hnext <;> cases hnext
  obtain ⟨task, job, hdelivery⟩ := hdelivery
  have hallowed : (deliveryAnswer env s result task job).allowed task = true :=
    (applyResult_succeeds_iff env hdelivery).mp (by rw [hreturned]; rfl)
  rw [nextAction_delivered hdelivery hreturned] at hnext
  have htask : (afterDelivery env s result task job).task? taskId = _ :=
    afterDelivery_task? taskId hallowed
  rw [if_pos (s.task?_taskId hdelivery.stored).symm] at htask
  refine ⟨_, (congrArg (·.task? taskId) (applyResult_delivered hdelivery)).trans htask, ?_⟩
  have hmoves : AnswerMove s task job result (deliveryAnswer env s result task job) :=
    answerMove_delivery
  cases hmoves with
  | keeps _ _ _ hwait => simp [hwait] at hnext
  | resumes input _ _ hmove _ =>
    rw [ResultAnswer.resultTask, hmove]
    exact getAllowedDispatchStage_active job.stage
  | ends toState input _ _ _ _ _ hdispatch =>
    rcases hdispatch with hdispatch | hdispatch <;> simp [hdispatch] at hnext

end results

section scan

variable {env : Env} {s : ControlPlane}

def ScanRetries (env : Env) (s : ControlPlane) (taskId : String) (stage : WorkerStage) : Prop :=
  ∃ task info reason, s.task? taskId = some task ∧ activeJobForOrphanScan s task = some info ∧
    detectOrphan env.now info.lease = some reason ∧ info.action = .retry stage

theorem undispatchable_of_scan {taskId : String} {stage : WorkerStage}
    (hretries : ScanRetries env s taskId stage) :
    Undispatchable (finalState (scanForOrphans env) s) taskId := by
  obtain ⟨task, info, reason, htask, hinfo, _, _⟩ := hretries
  obtain ⟨_, retryCount, haction⟩ := activeJobForOrphanScan_eq_some hinfo
  have hchange := (finalState_scanForOrphans env s).2 taskId
  dsimp only at hchange
  cases hblock : (s.task? taskId).bind (orphanBlock env s) with
  | none =>
    rw [hblock] at hchange
    exact ⟨task, hchange.1.trans htask, (determineRecoveryAction_eq_some haction).1⟩
  | some block =>
    rw [hblock] at hchange
    obtain ⟨_, _, _, _, _, hblocked, _⟩ := hchange
    exact ⟨_, hblocked, rfl⟩

end scan

section resume

variable {env : Env} {s : ControlPlane}

/-- The operator moves the blocked task to the resume state of its context, that of the stage. -/
def Resumes (s : ControlPlane) (taskId : String) (event : StateTransitionEvent)
    (stage : WorkerStage) : Prop :=
  ∃ task context, s.task? taskId = some task ∧ task.state = .blocked ∧
    task.blockedContext = some context ∧ context.resumeState = stageToActiveResumeState stage ∧
    event.taskId = taskId ∧ event.fromState = .blocked ∧
    event.toState = context.resumeState.toTaskState

theorem undispatchable_of_resume {taskId : String} {event : StateTransitionEvent}
    {stage : WorkerStage} (hresumes : Resumes s taskId event stage) :
    Undispatchable (finalState (recordTransition env taskId event) s) taskId := by
  obtain ⟨task, context, htask, hblocked, _, hstage, hid, hfrom, hto⟩ := hresumes
  have hactive : event.toState = stageToActiveState stage := by
    rw [hto, hstage, stageToActiveState]
  have hcan : canTransition task.state event.toState = true := by
    rw [hblocked, hactive]
    cases stage <;> rfl
  rw [finalState_recordTransition_of_valid env htask hid (hfrom.trans hblocked.symm) hcan]
  refine ⟨recorded env task event.toState, ?_, ?_⟩
  · rw [ControlPlane.commit_task?]
    exact if_pos (s.task?_taskId htask).symm
  · rw [recorded_state, hactive]
    exact getAllowedDispatchStage_active stage

end resume

/-- In every state, none of the attempts that are promised can be made: not the retry or failover a
result is answered with, not the retry of the orphan scan, not that of a resumed stage. -/
theorem attempts_not_executable (s : ControlPlane) : (∀ env taskId result response stage,
      returned? (applyResult env taskId result) s = some response →
      response.nextAction = .retry ∨ response.nextAction = .failover →
      ¬Executable (deliver env s taskId result) taskId stage) ∧
    (∀ env taskId stage, ScanRetries env s taskId stage →
      ¬Executable (finalState (scanForOrphans env) s) taskId stage) ∧
    ∀ env taskId event stage, Resumes s taskId event stage →
      ¬Executable (finalState (recordTransition env taskId event) s) taskId stage :=
  ⟨fun _ _ _ _ stage hreturned hnext =>
      not_executable (undispatchable_of_retry hreturned hnext) stage,
    fun _ _ stage hretries => not_executable (undispatchable_of_scan hretries) stage,
    fun _ _ _ stage hresumes => not_executable (undispatchable_of_resume hresumes) stage⟩

def developingScript : Script := [line "0" (.createTask sampleRequest)] ++
    stageScript "0" .plan (sampleResult "job_0" .succeeded) ++
    [dispatchLine "1" .dev, settleLine submitted]

def answersRetry (sys : System) : Bool :=
  (returned? (applyResult (sampleEnv "2") "task_0" (sampleResult "job_1" .failed)) sys.store).any
    fun response => response.nextAction = .retry

/-- A failed development is answered with a retry that cannot be dispatched. -/
theorem retry_not_executable : ¬∀ h sys, controlPlane.Run h sys → ∀ env taskId result response job,
      returned? (applyResult env taskId result) sys.store = some response →
      response.nextAction = .retry → sys.store.jobs.get? result.jobId = some job →
      Executable (deliver env sys.store taskId result) taskId job.stage := by
  intro hall
  obtain ⟨h, sys, hrun, htest⟩ := exists_run_of_play developingScript
    (fun p => answersRetry p.2 && (p.2.store.jobs.get? "job_1").isSome) (by decide +kernel)
  rw [Bool.and_eq_true, answersRetry, Option.any_eq_true, Option.isSome_iff_exists] at htest
  obtain ⟨⟨response, hreturned, hretry⟩, job, hjob⟩ := htest
  have hretry := of_decide_eq_true hretry
  have hundispatchable := undispatchable_of_retry hreturned (Or.inl hretry)
  exact not_executable hundispatchable job.stage
    (hall h sys hrun _ _ _ response job hreturned hretry hjob)

/-! Which failed and blocked results reach the failure handling, and which are answered by the checks
made for output. -/

/-- The answer of the failure handling to a failed or a blocked result. -/
def failureAnswer (env : Env) (s : ControlPlane) (task : Task) (job : WorkerJob)
    (result : WorkerResult) : ResultAnswer :=
  let taskUpdates := computeTaskUpdatesFromResult env result job
  if result.status = .blocked then blockedAnswer job result taskUpdates
  else failedAnswer env s task job result taskUpdates

/-- The result is decided by the failure handling, and a transient failure with retries left is
answered with a retry or a failover. -/
structure ReachesFailureHandling (env : Env) (s : ControlPlane) (taskId : String)
    (result : WorkerResult) (task : Task) (job : WorkerJob) : Prop where
  decided : deliveryAnswer env s result task job =
    failureAnswer env (s.setResult result) task job result
  triedAgain : result.status = .failed → failureClassOf result = .retryableTransient →
    currentRetryCountOf s task job result < maxRetriesOf job →
    ∀ response, returned? (applyResult env taskId result) s = some response →
      response.nextAction = .retry ∨ response.nextAction = .failover

/-- What the checks of a stage ask of a result that did not succeed. -/
def PassesOutputChecks (result : WorkerResult) (riskLevel : RiskLevel) : WorkerStage → Prop
  | .plan => result.patchRef = none ∧ result.branchRef = none ∧
      ∀ e ∈ result.requestedEscalations, isForbiddenInPlan e.kind = true → e.approved = some true
  | .dev => True
  | .acceptance => result.patchRef = none ∧ result.branchRef = none ∧
      ∃ verdict, result.verdict = some verdict ∧ verdict.outcome ≠ .needsManualReview ∧
        (riskLevel = .high → verdict.outcome = .accept →
          ∃ t ∈ result.testResults, t.suite = "regression" ∧ t.status = .passed)

section checks

variable {result : WorkerResult} {task : Task} {job : WorkerJob} {riskLevel : RiskLevel}

theorem planStageErrors_eq_nil_iff (hstatus : result.status ≠ .succeeded) :
    planStageErrors result = [] ↔ PassesOutputChecks result riskLevel .plan := by
  simp only [planStageErrors, PassesOutputChecks, hstatus, false_and, if_false, List.append_nil,
    List.append_eq_nil_iff, List.map_eq_nil_iff, List.filter_eq_nil_iff, List.mem_filter]
  simp [and_assoc]

theorem acceptanceStageErrors_eq_nil_iff (hstatus : result.status ≠ .succeeded) :
    acceptanceStageErrors result riskLevel = [] ↔
      PassesOutputChecks result riskLevel .acceptance := by
  cases hverdict : result.verdict with
  | none => simp [acceptanceStageErrors, PassesOutputChecks, hverdict]
  | some verdict =>
    simp [acceptanceStageErrors, PassesOutputChecks, hverdict, hstatus]

theorem semanticErrors_eq_nil_iff (hstatus : result.status ≠ .succeeded) (stage : WorkerStage) :
    semanticErrors result stage riskLevel = [] ↔ PassesOutputChecks result riskLevel stage := by
  cases stage with
  | plan => exact planStageErrors_eq_nil_iff hstatus
  | dev => simp [semanticErrors, devStageErrors, PassesOutputChecks, hstatus]
  | acceptance => exact acceptanceStageErrors_eq_nil_iff hstatus

theorem semanticErrors_code {stage : WorkerStage} {e : ValidationError}
    (he : e ∈ semanticErrors result stage riskLevel) :
    e.code ≠ .schemaError ∧ e.code ≠ .parseError := by
  cases stage with
  | plan =>
    simp only [semanticErrors, planStageErrors, List.mem_append] at he
    rcases he with ((he | he) | he) | he
    · split_ifs at he <;> simp_all [semanticError]
    · split_ifs at he <;> simp_all [semanticError]
    · split_ifs at he <;> simp_all [semanticError]
    · obtain ⟨escalation, _, rfl⟩ := List.mem_map.mp he
      exact ⟨by simp, by simp⟩
  | dev =>
    simp only [semanticErrors, devStageErrors] at he
    split_ifs at he <;> simp_all [semanticError]
  | acceptance =>
    simp only [semanticErrors, acceptanceStageErrors, List.mem_append] at he
    rcases he with ((he | he) | he) | he
    · split_ifs at he <;> simp_all [semanticError]
    · split_ifs at he <;> simp_all [semanticError]
    · cases hverdict : result.verdict with
      | none => simp_all [semanticError]
      | some verdict =>
        simp only [hverdict, List.mem_append] at he
        rcases he with he | he
        · split_ifs at he <;> simp_all [semanticError]
        · split_ifs at he <;> simp_all [semanticError]
    · split_ifs at he <;> simp_all

theorem semanticErrors_not_retried (s : ControlPlane) :
    retriesValidation s task job (semanticErrors result job.stage task.riskLevel) = false := by
  have hnone : isRetryableSchemaError (semanticErrors result job.stage task.riskLevel) = false := by
    rw [isRetryableSchemaError, Bool.and_eq_false_iff]
    refine Or.inr (List.any_eq_false.mpr fun e he => ?_)
    obtain ⟨hschema, hparse⟩ := semanticErrors_code he
    simp [hschema, hparse]
  rw [retriesValidation, hnone, Bool.false_and]

end checks

section answers

variable {env : Env} {s : ControlPlane} {result : WorkerResult} {task : Task} {job : WorkerJob}

theorem failureAnswer_actor : ∃ toState input,
    (failureAnswer env s task job result).move = some (toState, input) ∧
      input.actorType ≠ .controlPlane := by
  unfold failureAnswer
  dsimp only
  split_ifs
  · exact ⟨_, _, rfl, by simp [jobInput]⟩
  · unfold failedAnswer
    cases s.doomLoopDetector.detectLoop job.jobId with
    | some loopType => exact ⟨_, _, rfl, by simp [jobInput]⟩
    | none =>
      cases getFailoverWorker job.stage job.workerType with
      | some nextWorker => exact ⟨_, _, rfl, by simp [jobInput]⟩
      | none =>
        dsimp only
        split_ifs
        · exact ⟨_, _, rfl, by simp [jobInput]⟩
        · unfold finalFailureAnswer
          dsimp only
          split_ifs
          · exact ⟨_, _, rfl, by simp [jobInput]⟩
          · exact ⟨_, _, rfl, by simp [jobInput]⟩

theorem validationAnswer_actor (result : WorkerResult) {errors : List ValidationError}
    (hretries : retriesValidation s task job errors = false) : ∃ toState input,
    (validationAnswer s task job result errors).move = some (toState, input) ∧
      input.actorType = .controlPlane := by
  unfold validationAnswer
  dsimp only
  rw [if_neg (by simp [hretries])]
  split_ifs
  · exact ⟨_, _, rfl, rfl⟩
  · exact ⟨_, _, rfl, rfl⟩

theorem failedAnswer_triedAgain {taskUpdates : TaskUpdate}
    (hloop : s.doomLoopDetector.detectLoop job.jobId = none)
    (hclass : failureClassOf result = .retryableTransient)
    (hleft : currentRetryCountOf s task job result < maxRetriesOf job) :
    (failedAnswer env s task job result taskUpdates).nextAction = .retry ∨
      (failedAnswer env s task job result taskUpdates).nextAction = .failover := by
  unfold failedAnswer
  rw [hloop]
  dsimp only
  cases getFailoverWorker job.stage job.workerType with
  | some nextWorker => exact Or.inr rfl
  | none =>
    have hretry : shouldRetry (failureClassOf result) (currentRetryCountOf s task job result)
        (maxRetriesOf job) = true := by
      simpa [hclass, shouldRetry] using hleft
    dsimp only
    rw [if_pos hretry]
    exact Or.inl rfl

theorem deliveryAnswer_eq (env : Env) (s : ControlPlane) (job : WorkerJob)
    (hstatus : result.status ≠ .succeeded) (hschema : schemaErrors result = [])
    (hauthority : detectAuthorityConflict result task = none) :
    deliveryAnswer env s result task job =
      if semanticErrors result job.stage task.riskLevel = [] then
        failureAnswer env (s.setResult result) task job result
      else validationAnswer (s.setResult result) task job result
        (semanticErrors result job.stage task.riskLevel) := by
  by_cases hsemantic : semanticErrors result job.stage task.riskLevel = []
  · have hvalid : validateResult result task job = ⟨true, [], [], []⟩ := by
      simp [validateResult, hauthority, hschema, hsemantic]
    rw [if_pos hsemantic, deliveryAnswer, resultAnswer, hvalid, failureAnswer]
    cases hresult : result.status with
    | blocked => rfl
    | failed => rfl
    | succeeded => exact absurd hresult hstatus
  · have hinvalid : validateResult result task job =
        ⟨false, [], semanticErrors result job.stage task.riskLevel, []⟩ := by
      simp [validateResult, hauthority, hschema, hsemantic]
    rw [if_neg hsemantic, deliveryAnswer, resultAnswer, hinvalid]
    simp [ResultValidation.errors]

end answers

/-- In every reachable system, a failed or blocked result that is tried, without a conflict or an error
of structure, reaches the failure handling exactly when it passes the output checks of its stage. -/
theorem failure_handling_iff {h : History System Call} {sys : System}
    (hrun : controlPlane.Run h sys) {call : Call} (henabled : sys.enabled call = true)
    {s : ControlPlane} {taskId : String} {result : WorkerResult}
    (htried : (s, taskId, result) ∈ triedResults call sys.store) {task : Task} {job : WorkerJob}
    (hdelivery : Delivery s taskId result task job) (hstatus : result.status ≠ .succeeded)
    (hschema : schemaErrors result = [])
    (hauthority : detectAuthorityConflict result task = none) :
    ReachesFailureHandling call.env s taskId result task job ↔
      PassesOutputChecks result task.riskLevel job.stage := by
  have hanswer := deliveryAnswer_eq call.env s job hstatus hschema hauthority
  have hlimits := (attemptLimits_of_run hrun).tried (wired_of_run hrun) henabled htried
  rw [← semanticErrors_eq_nil_iff hstatus]
  constructor
  · intro hreaches
    by_contra hsemantic
    have hdecided := hreaches.decided
    rw [hanswer, if_neg hsemantic] at hdecided
    obtain ⟨toState, input, hmove, hactor⟩ := failureAnswer_actor (s := s.setResult result)
    obtain ⟨toState', input', hmove', hactor'⟩ :=
      validationAnswer_actor result (semanticErrors_not_retried (s.setResult result))
    rw [hdecided, hmove] at hmove'
    obtain ⟨rfl, rfl⟩ : toState = toState' ∧ input = input' := by simpa using hmove'
    exact hactor hactor'
  · intro hsemantic
    rw [if_pos hsemantic] at hanswer
    refine ⟨hanswer, fun hfailed hclass hleft response hreturned => ?_⟩
    rw [nextAction_delivered hdelivery hreturned, hanswer, failureAnswer, if_neg (by simp [hfailed])]
    exact failedAnswer_triedAgain (hlimits.detectLoop job.jobId) hclass hleft

/-- A task whose acceptance is running. -/
def acceptingJobScript : Script := [line "0" (.createTask sampleRequest)] ++
    stageScript "0" .plan (sampleResult "job_0" .succeeded) ++
    stageScript "1" .dev (devResult "job_1") ++
    [dispatchLine "2" .acceptance, settleLine submitted]

def lostPoll? (sys : System) (stage : WorkerStage) : Option WorkerJob :=
  sys.polling.find? fun job => job.stage = stage

def lostStore (sys : System) (job : WorkerJob) : ControlPlane :=
  sys.store.setJob { job with status := .failed }

def lostCall (job : WorkerJob) : Call := ⟨sampleEnv "3", .settlePoll job (.error "worker lost")⟩

/-- The failure of the poll is tried as a result without a conflict or an error of structure. -/
def lostResult? (sys : System) (job : WorkerJob) : Option (Task × WorkerJob) :=
  (delivery? (lostStore sys job) job.taskId (pollFailureResult job "worker lost")).filter fun p =>
    schemaErrors (pollFailureResult job "worker lost") = [] &&
      detectAuthorityConflict (pollFailureResult job "worker lost") p.1 = none &&
      (currentRetryCountOf (lostStore sys job) p.1 p.2 (pollFailureResult job "worker lost") <
        maxRetriesOf p.2)

theorem lostResult_tried {sys : System} (job : WorkerJob) :
    (lostStore sys job, job.taskId, pollFailureResult job "worker lost") ∈
      triedResults (lostCall job) sys.store :=
  mem_triedResults_settlePoll.mpr (Or.inr ⟨_, _, rfl, rfl⟩)

theorem lostResult_facts {sys : System} {job : WorkerJob} {task : Task} {active : WorkerJob}
    (h : lostResult? sys job = some (task, active)) :
    Delivery (lostStore sys job) job.taskId (pollFailureResult job "worker lost") task active ∧
      schemaErrors (pollFailureResult job "worker lost") = [] ∧
      detectAuthorityConflict (pollFailureResult job "worker lost") task = none ∧
      currentRetryCountOf (lostStore sys job) task active (pollFailureResult job "worker lost") <
        maxRetriesOf active := by
  obtain ⟨hdelivery, hchecks⟩ := Option.filter_eq_some_iff.mp h
  simp only [Bool.and_eq_true, decide_eq_true_eq] at hchecks
  exact ⟨delivery?_eq_some_iff.mp hdelivery, hchecks.1.1, hchecks.1.2, hchecks.2⟩

theorem lostPoll_enabled {sys : System} {stage : WorkerStage} {job : WorkerJob}
    (h : lostPoll? sys stage = some job) : sys.enabled (lostCall job) = true := by
  simpa [System.enabled, lostCall] using List.mem_of_find?_eq_some h

/-- A lost development job reaches the failure handling: its checks ask nothing of a failure. -/
theorem lost_development_handled : ∃ h sys job task active, controlPlane.Run h sys ∧
    ReachesFailureHandling (sampleEnv "3") (lostStore sys job) job.taskId
      (pollFailureResult job "worker lost") task active := by
  obtain ⟨h, sys, hrun, htest⟩ := exists_run_of_play developingScript
    (fun p => (lostPoll? p.2 .dev).any fun job => (lostResult? p.2 job).any fun q =>
      q.2.stage = .dev) (by decide +kernel)
  obtain ⟨job, hjob, htest⟩ := (Option.any_eq_true _ _).mp htest
  obtain ⟨⟨task, active⟩, hresult, hstage⟩ := (Option.any_eq_true _ _).mp htest
  obtain ⟨hdelivery, hschema, hauthority, _⟩ := lostResult_facts hresult
  refine ⟨h, sys, job, task, active, hrun, ?_⟩
  refine (failure_handling_iff hrun (lostPoll_enabled hjob) (lostResult_tried job) hdelivery nofun
    hschema hauthority).mpr ?_
  rw [of_decide_eq_true hstage]
  trivial

/-- A lost acceptance job is answered by the checks for output, which ask for its verdict: the task
goes to rework although a retry is left. -/
theorem lost_acceptance_not_retried :
    ¬∀ h sys, controlPlane.Run h sys → ∀ call, sys.enabled call = true →
      ∀ s taskId result, (s, taskId, result) ∈ triedResults call sys.store →
      ∀ task job, Delivery s taskId result task job → result.status ≠ .succeeded →
        schemaErrors result = [] → detectAuthorityConflict result task = none →
        ReachesFailureHandling call.env s taskId result task job := by
  intro hall
  obtain ⟨h, sys, hrun, htest⟩ := exists_run_of_play acceptingJobScript
    (fun p => (lostPoll? p.2 .acceptance).any fun job => (lostResult? p.2 job).isSome &&
      (returned? (applyResult (sampleEnv "3") job.taskId (pollFailureResult job "worker lost"))
        (lostStore p.2 job)).any fun response => response.nextAction = .dispatchDev)
    (by decide +kernel)
  obtain ⟨job, hjob, htest⟩ := (Option.any_eq_true _ _).mp htest
  rw [Bool.and_eq_true, Option.isSome_iff_exists] at htest
  obtain ⟨⟨⟨task, active⟩, hresult⟩, hanswered⟩ := htest
  obtain ⟨response, hreturned, hnext⟩ := (Option.any_eq_true _ _).mp hanswered
  obtain ⟨hdelivery, hschema, hauthority, hleft⟩ := lostResult_facts hresult
  have hreaches := hall h sys hrun _ (lostPoll_enabled hjob) _ _ _ (lostResult_tried job) task active
    hdelivery nofun hschema hauthority
  have hnext : response.nextAction = .dispatchDev := of_decide_eq_true hnext
  rcases hreaches.triedAgain rfl rfl hleft response hreturned with hretry | hfailover
  · rw [hnext] at hretry
    cases hretry
  · rw [hnext] at hfailover
    cases hfailover

end ShipyardCp.Properties
