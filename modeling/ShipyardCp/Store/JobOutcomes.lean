import ShipyardCp.Store.JobService
import ShipyardCp.Store.ResultAnswer

/-! The outcomes of the job operations: what each of them leaves in the store, refused or not. -/

namespace ShipyardCp.Store

open Types Domain Lib ResultAnswer

section applyResult

/-- A result that counts: it comes for the active job of the task, under its typed reference. -/
structure Delivery (s : ControlPlane) (taskId : String) (result : WorkerResult) (task : Task)
    (job : WorkerJob) : Prop where
  stored : s.task? taskId = some task
  active : task.activeJobId = some result.jobId
  named : result.jobId ≠ ""
  typedRef : result.typedRef = task.typedRef
  job : s.jobs.get? result.jobId = some job

def deliveryAnswer (env : Env) (s : ControlPlane) (result : WorkerResult) (task : Task)
    (job : WorkerJob) : ResultAnswer :=
  resultAnswer env (s.setResult result) result task job

def ResultAnswer.allowed (a : ResultAnswer) (task : Task) : Bool :=
  match a.move with
  | none => true
  | some (toState, _) => canTransition task.state toState

def ResultAnswer.resultTask (a : ResultAnswer) (env : Env) (task : Task) : Task :=
  match a.move with
  | none => a.patched env task
  | some (toState, _) => transitioned env (a.patched env task) toState

/-- The store a delivered result leaves. -/
def afterDelivery (env : Env) (s : ControlPlane) (result : WorkerResult) (task : Task)
    (job : WorkerJob) : ControlPlane :=
  let a := deliveryAnswer env s result task job
  let s := a.prepared (s.setResult result) task job
  match a.move with
  | none => a.released (s.setTask (a.patched env task)) job
  | some (toState, input) =>
    if canTransition task.state toState then
      a.released (s.commit (transitioned env (a.patched env task) toState)
        (transitionEvent env 0 (a.patched env task) toState input)) job
    else s

variable {env : Env} {s : ControlPlane} {taskId : String} {result : WorkerResult}

theorem wp_applyResult_ignored {Q : EStateM.Result StoreError ControlPlane ResultApplyResponse → Prop}
    (h : ¬∃ task job, Delivery s taskId result task job) (herror : ∀ e, Q (.error e s))
    (hok : ∀ response, response.nextAction = .none → Q (.ok response s)) :
    wp (applyResult env taskId result) Q s := by
  simp only [applyResult, wp_bind, wp_requireTask]
  cases htask : s.task? taskId with
  | none => simp [herror]
  | some task =>
    by_cases hactive : task.activeJobId = some result.jobId
    swap
    · by_cases htruthy : isTruthy task.activeJobId = true <;>
        simp [htruthy, hactive, hok]
    by_cases hnamed : result.jobId = ""
    · simp [hactive, isTruthy, hnamed, hok]
    by_cases htyped : result.typedRef = task.typedRef
    swap
    · simp [hactive, isTruthy, hnamed, htyped, herror]
    cases hjob : s.jobs.get? result.jobId with
    | none => simp [hactive, isTruthy, hnamed, htyped, hjob, herror]
    | some job => exact absurd ⟨task, job, htask, hactive, hnamed, htyped, hjob⟩ h

theorem applyResult_ignored (env : Env) (h : ¬∃ task job, Delivery s taskId result task job) :
    finalState (applyResult env taskId result) s = s := by
  refine finalState_rec (applyResult env taskId result) s ?_
  exact wp_applyResult_ignored h (fun _ => rfl) fun _ _ => rfl

theorem wp_applyResult {task : Task} {job : WorkerJob}
    {Q : EStateM.Result StoreError ControlPlane ResultApplyResponse → Prop}
    (h : Delivery s taskId result task job) :
    wp (applyResult env taskId result) Q s ↔ wp (orchestrateResult env result task job)
        (andThen (fun response => do
          modify fun s => s.setTask response.task
          pure response) Q) (s.setResult result) := by
  simp only [applyResult, wp_bind, wp_requireTask, h.stored]
  have htruthy : isTruthy (some result.jobId) = true := by simp [isTruthy, h.named]
  simp only [andThen_ok, htruthy, Bool.not_true, Bool.false_eq_true, if_false, h.active, ne_eq,
    not_true_eq_false, h.typedRef, wp_bind, wp_get, h.job, wp_modify]

theorem applyResult_delivered {task : Task} {job : WorkerJob}
    (h : Delivery s taskId result task job) :
    finalState (applyResult env taskId result) s = afterDelivery env s result task job := by
  refine finalState_rec (applyResult env taskId result) s ?_
  rw [wp_applyResult h, wp_orchestrateResult, wp_perform]
  unfold afterDelivery deliveryAnswer
  dsimp only
  cases hmove : (resultAnswer env (s.setResult result) result task job).move with
  | none => simp [released_setTask]
  | some move =>
    by_cases hcan : canTransition task.state move.1 = true
    · simp [hcan, released_setTask]
    · simp [hcan]

theorem applyResult_succeeds_iff (env : Env) {task : Task} {job : WorkerJob}
    (h : Delivery s taskId result task job) :
    (returned? (applyResult env taskId result) s).isSome = true ↔
      (deliveryAnswer env s result task job).allowed task = true := by
  rw [← wp_succeeds_iff, wp_applyResult h, wp_orchestrateResult, wp_perform]
  unfold deliveryAnswer allowed
  cases hmove : (resultAnswer env (s.setResult result) result task job).move with
  | none => simp
  | some move =>
    by_cases hcan : canTransition task.state move.1 = true
    · simp [hcan]
    · simp [hcan]

def delivery? (s : ControlPlane) (taskId : String) (result : WorkerResult) :
    Option (Task × WorkerJob) :=
  match s.task? taskId, s.jobs.get? result.jobId with
  | some task, some job =>
    if task.activeJobId = some result.jobId ∧ result.jobId ≠ "" ∧ result.typedRef = task.typedRef then
      some (task, job)
    else none
  | _, _ => none

theorem delivery?_eq_some_iff {task : Task} {job : WorkerJob} :
    delivery? s taskId result = some (task, job) ↔ Delivery s taskId result task job := by
  constructor
  · intro h
    unfold delivery? at h
    split at h
    · next t j ht hj =>
      split_ifs at h with hguard
      obtain ⟨rfl, rfl⟩ : t = task ∧ j = job := by simpa using h
      exact ⟨ht, hguard.1, hguard.2.1, hguard.2.2, hj⟩
    · cases h
  · rintro ⟨hstored, hactive, hnamed, htyped, hjob⟩
    simp [delivery?, hstored, hjob, hactive, hnamed, htyped]

def accepts (env : Env) (s : ControlPlane) (taskId : String) (result : WorkerResult) : Bool :=
  match delivery? s taskId result with
  | none => false
  | some (task, job) => (deliveryAnswer env s result task job).allowed task

theorem accepts_iff : accepts env s taskId result = true ↔
    ∃ task job, Delivery s taskId result task job ∧
      (deliveryAnswer env s result task job).allowed task = true := by
  unfold accepts
  cases h : delivery? s taskId result with
  | none =>
    simp only [Bool.false_eq_true, false_iff]
    rintro ⟨task, job, hdelivery, _⟩
    rw [delivery?_eq_some_iff.mpr hdelivery] at h
    cases h
  | some p =>
    have hdelivery := delivery?_eq_some_iff.mp h
    refine ⟨fun hallowed => ⟨p.1, p.2, hdelivery, hallowed⟩, ?_⟩
    rintro ⟨task, job, hdelivery', hallowed⟩
    rw [delivery?_eq_some_iff.mpr hdelivery'] at h
    obtain rfl : (task, job) = p := Option.some.inj h
    exact hallowed

section afterDelivery

variable {task : Task} {job : WorkerJob}

theorem afterDelivery_jobs : (afterDelivery env s result task job).jobs = s.jobs := by
  unfold afterDelivery
  dsimp only
  split
  · simp
  · split_ifs <;> simp

theorem afterDelivery_results :
    (afterDelivery env s result task job).results = s.results.put result := by
  unfold afterDelivery
  dsimp only
  split
  · simp [ControlPlane.setResult]
  · split_ifs <;> simp [ControlPlane.setResult]

theorem afterDelivery_retryTracker : (afterDelivery env s result task job).retryTracker =
    match (deliveryAnswer env s result task job).retryCount with
    | none => s.retryTracker
    | some count => s.retryTracker.set (task.taskId, job.stage) count := by
  have hprepared := (deliveryAnswer env s result task job).prepared_retryTracker (s.setResult result)
    task job
  unfold afterDelivery
  dsimp only
  split
  · rw [released_retryTracker]
    exact hprepared
  · split_ifs
    · rw [released_retryTracker]
      exact hprepared
    · exact hprepared

theorem afterDelivery_of_refused (h : (deliveryAnswer env s result task job).allowed task = false) :
    afterDelivery env s result task job =
      (deliveryAnswer env s result task job).prepared (s.setResult result) task job := by
  unfold afterDelivery
  unfold allowed at h
  dsimp only
  split
  · next hmove => simp [hmove] at h
  · next toState input hmove =>
    rw [hmove] at h
    simp [h]

theorem afterDelivery_refused (h : (deliveryAnswer env s result task job).allowed task = false) :
    (afterDelivery env s result task job).tasks = s.tasks ∧
      (afterDelivery env s result task job).events = s.events := by
  rw [afterDelivery_of_refused h]
  exact ⟨prepared_tasks .., prepared_events ..⟩

theorem afterDelivery_concurrencyManager : (afterDelivery env s result task job).concurrencyManager =
      if (deliveryAnswer env s result task job).allowed task ∧
          (deliveryAnswer env s result task job).release = .leaseAndSlot then
        s.concurrencyManager.recordComplete job.jobId job.workerType.text
      else s.concurrencyManager := by
  unfold afterDelivery allowed
  dsimp only
  split
  · simp [released_concurrencyManager]
  · next toState input _ =>
    by_cases hcan : canTransition task.state toState = true
    · simp [hcan, released_concurrencyManager]
    · simp [hcan]

theorem afterDelivery_beside :
    (afterDelivery env s result task job).publishIdempotencyKeys = s.publishIdempotencyKeys ∧
      (afterDelivery env s result task job).doomLoopDetector = s.doomLoopDetector := by
  obtain ⟨hkeys, hloops⟩ := (deliveryAnswer env s result task job).prepared_beside
    (s.setResult result) task job
  unfold afterDelivery
  dsimp only
  split
  · exact ⟨(released_beside ..).1.trans hkeys, (released_beside ..).2.trans hloops⟩
  · split_ifs
    · exact ⟨(released_beside ..).1.trans hkeys, (released_beside ..).2.trans hloops⟩
    · exact ⟨hkeys, hloops⟩

theorem afterDelivery_leaseManager {P : LeaseManager → Prop}
    (hrelease : ∀ m jobId owner, P m → P (m.release jobId owner)) (h : P s.leaseManager) :
    P (afterDelivery env s result task job).leaseManager := by
  have hprepared := (deliveryAnswer env s result task job).prepared_leaseManager
    (s.setResult result) task job hrelease h
  unfold afterDelivery
  dsimp only
  split
  · exact released_leaseManager _ _ _ hrelease hprepared
  · split_ifs
    · exact released_leaseManager _ _ _ hrelease hprepared
    · exact hprepared

def ResultAnswer.events (a : ResultAnswer) (env : Env) (task : Task) : List StateTransitionEvent :=
  match a.move with
  | none => []
  | some (toState, input) => [transitionEvent env 0 (a.patched env task) toState input]

theorem afterDelivery_task? (id : String)
    (h : (deliveryAnswer env s result task job).allowed task = true) :
    (afterDelivery env s result task job).task? id =
      if id = task.taskId then some ((deliveryAnswer env s result task job).resultTask env task)
      else s.task? id := by
  unfold afterDelivery
  unfold allowed at h
  unfold resultTask
  dsimp only
  split
  · simp [ControlPlane.setTask_task?]
  · next toState input hmove =>
    simp only [hmove] at h
    simp [h, ControlPlane.commit_task?]

theorem afterDelivery_log (id : String)
    (h : (deliveryAnswer env s result task job).allowed task = true) :
    (afterDelivery env s result task job).log id =
      if id = task.taskId then
        s.log id ++ (deliveryAnswer env s result task job).events env task
      else s.log id := by
  unfold afterDelivery
  unfold allowed at h
  unfold events
  dsimp only
  split
  · simp
  · next toState input hmove =>
    simp only [hmove] at h
    simp [h, ControlPlane.commit_log]

end afterDelivery

end applyResult

section dispatch

variable {env : Env} {s : ControlPlane} {taskId : String} {request : DispatchRequest}

/-- What is known of a dispatch that waits for its worker. -/
structure Begun (env : Env) (s : ControlPlane) (taskId : String) (request : DispatchRequest)
    (d : PendingDispatch) : Prop where
  stored : s.task? taskId = some d.task
  stage : getAllowedDispatchStage d.task.state = some request.targetStage
  asked : d.request = request
  nextState : d.nextState = stageToActiveResumeState request.targetStage
  jobId : d.job.jobId = createId env 0 "job"
  jobTask : d.job.taskId = d.task.taskId
  jobStage : d.job.stage = request.targetStage
  status : d.job.status = .pending
  unsubmitted : d.job.executorInstanceId = none

theorem wp_beginDispatch {Q : EStateM.Result StoreError ControlPlane PendingDispatch → Prop}
    (hrefused : ∀ e, Q (.error e s))
    (hincapable : ∀ message task missing, s.task? taskId = some task →
      getAllowedDispatchStage task.state = some request.targetStage →
      canTransition (incapableTask task request.targetStage missing).state .blocked = true →
      Q (.error (.error message) (s.commit (transitioned env (incapableTask task request.targetStage missing)
          .blocked)
        (transitionEvent env 0 (incapableTask task request.targetStage missing) .blocked
          (incapableInput request.targetStage missing)))))
    (hbegun : ∀ d lease leases (workerType : WorkerType),
      d.job = buildJob env s d.task request workerType lease → Begun env s taskId request d →
      s.leaseManager.acquire env.now d.job.jobId workerType.text = some (lease, leases) →
      Q (.ok d { s.setJob d.job with
        leaseManager := leases
        concurrencyManager := s.concurrencyManager.recordStart env.now d.job.jobId workerType.text
          request.targetStage
        doomLoopDetector := s.doomLoopDetector.trackTransition d.job.jobId
          ⟨d.task.state, d.nextState.toTaskState, request.targetStage, env.now⟩ })) :
    wp (beginDispatch env taskId request) Q s := by
  simp only [beginDispatch, wp_bind, wp_requireTask]
  cases htask : s.task? taskId with
  | none => exact (hrefused _ :)
  | some task =>
    simp only [andThen_ok]
    cases hstage : getAllowedDispatchStage task.state with
    | none => exact hrefused _
    | some allowedStage =>
      dsimp only
      rw [wp_ite]
      split_ifs with hmismatch hincapable'
      · exact hrefused _
      · obtain rfl : allowedStage = request.targetStage := by simpa using hmismatch
        have hcan : ∀ missing, canTransition
            (incapableTask task request.targetStage missing).state .blocked = true :=
          fun missing => canTransition_blocked_iff.mpr (not_isTerminal_of_dispatchStage hstage)
        simp only [wp_bind, wp_transitionTask, hcan, if_true, andThen_ok, wp_throw]
        exact hincapable _ task _ htask hstage (hcan _)
      · obtain rfl : allowedStage = request.targetStage := by simpa using hmismatch
        simp only [wp_bind, wp_get, andThen_ok]
        split
        · exact hrefused _
        · exact hrefused _
        · split
          · exact hrefused _
          · next lease leaseManager hacquire =>
            simp only [wp_bind, wp_modify, andThen_ok, wp_pure]
            let workerType := request.workerSelection.getD (getDefaultWorker request.targetStage)
            exact hbegun ⟨task, request, buildJob env s task request workerType lease,
              stageToActiveResumeState request.targetStage⟩ lease leaseManager workerType rfl
              ⟨htask, hstage, rfl, rfl, rfl, rfl, rfl, rfl, rfl⟩ hacquire

theorem wp_settleDispatch {d : PendingDispatch} {submission : SubmissionResult}
    {Q : EStateM.Result StoreError ControlPlane WorkerJob → Prop}
    (hfailed : ∀ e, (∀ backend reason, submission ≠ .success backend reason) → Q (.error e s))
    (hrefused : ∀ message failure, submission = .failure failure →
      isBackendRefusal (failure.getD "unknown worker submission failure") = true →
      canTransition d.task.state .blocked = true →
      Q (.error (.error message) (s.commit
        (transitioned env (refusedTask d (failure.getD "unknown worker submission failure")) .blocked)
        (transitionEvent env 0
          (refusedTask d (failure.getD "unknown worker submission failure")) .blocked
          (refusedInput d.job (failure.getD "unknown worker submission failure"))))))
    (hstuck : ∀ e backend reason, submission = .success backend reason →
      canTransition d.task.state d.nextState.toTaskState = false →
      Q (.error e (s.setJob (selectedJob s d.job backend reason))))
    (hdispatched : ∀ backend reason, submission = .success backend reason →
      canTransition d.task.state d.nextState.toTaskState = true →
      Q (.ok (selectedJob s d.job backend reason)
        ((s.setJob (selectedJob s d.job backend reason)).commit
          (transitioned env (dispatchedTask d) d.nextState.toTaskState)
          (transitionEvent env 0 (dispatchedTask d) d.nextState.toTaskState
            (dispatchedInput d.request.targetStage d.job))))) :
    wp (settleDispatch env d submission) Q s := by
  unfold settleDispatch
  cases submission with
  | thrown message => exact hfailed _ (by simp)
  | failure error =>
    dsimp only
    rw [wp_ite]
    split_ifs with hrefusal
    · rw [wp_bind, wp_transitionTask]
      split_ifs with hcan
      · exact hrefused _ error rfl hrefusal hcan
      · exact hfailed _ (by simp)
    · exact hfailed _ (by simp)
  | success backend reason =>
    simp only [wp_bind, wp_get, andThen_ok, wp_modify, wp_transitionTask]
    split_ifs with hcan
    · exact hdispatched backend reason rfl hcan
    · exact hstuck _ backend reason rfl (Bool.eq_false_iff.mpr hcan)

end dispatch

section poll

variable {env : Env} {s : ControlPlane} {job : WorkerJob}

/-- The end of a poll seen as deliveries: the store in which the result of the wait is tried, and the
store and result of the failure that stands in for it. -/
def polled (s : ControlPlane) (job : WorkerJob) : ControlPlane :=
  s.setJob { job with status := .completed }

def pollFailure (env : Env) (s : ControlPlane) (job : WorkerJob)
    (outcome : Except String WorkerResult) : Option (ControlPlane × String) :=
  match outcome with
  | .error failureSummary => some (s.setJob { job with status := .failed }, failureSummary)
  | .ok result =>
    match (applyResult env job.taskId result).run (polled s job) with
    | .ok _ _ => none
    | .error e s' => some (s'.setJob { job with status := .failed }, e.message)

/-- The results a poll applies: at most one. -/
def appliedByPoll (env : Env) (s : ControlPlane) (job : WorkerJob)
    (outcome : Except String WorkerResult) : Option WorkerResult :=
  match pollFailure env s job outcome with
  | some (s', failureSummary) =>
    if accepts env s' job.taskId (pollFailureResult job failureSummary) then
      some (pollFailureResult job failureSummary)
    else none
  | none =>
    match outcome with
    | .error _ => none
    | .ok result => if accepts env (polled s job) job.taskId result then some result else none

def deliver (env : Env) (s : ControlPlane) (taskId : String) (result : WorkerResult) : ControlPlane :=
  finalState (applyResult env taskId result) s

theorem deliver_of_accepts {taskId : String} {result : WorkerResult}
    (h : accepts env s taskId result = true) :
    ∃ task job, Delivery s taskId result task job ∧
      (deliveryAnswer env s result task job).allowed task = true ∧
      deliver env s taskId result = afterDelivery env s result task job := by
  obtain ⟨task, job, hdelivery, hallowed⟩ := accepts_iff.mp h
  exact ⟨task, job, hdelivery, hallowed, applyResult_delivered hdelivery⟩

theorem deliver_of_not_accepts {taskId : String} {result : WorkerResult}
    (h : accepts env s taskId result = false) :
    (deliver env s taskId result).tasks = s.tasks ∧ (deliver env s taskId result).events = s.events ∧
      (deliver env s taskId result).jobs = s.jobs := by
  by_cases hdelivery : ∃ task job, Delivery s taskId result task job
  · obtain ⟨task, job, hdelivery⟩ := hdelivery
    have hrefused : (deliveryAnswer env s result task job).allowed task = false := by
      by_contra hallowed
      rw [accepts_iff.mpr ⟨task, job, hdelivery, by simpa using hallowed⟩] at h
      cases h
    rw [deliver, applyResult_delivered hdelivery]
    exact ⟨(afterDelivery_refused hrefused).1, (afterDelivery_refused hrefused).2, afterDelivery_jobs⟩
  · rw [deliver, applyResult_ignored env hdelivery]
    exact ⟨rfl, rfl, rfl⟩

theorem deliver_jobs {taskId : String} {result : WorkerResult} :
    (deliver env s taskId result).jobs = s.jobs := by
  cases h : accepts env s taskId result with
  | false => exact (deliver_of_not_accepts h).2.2
  | true =>
    obtain ⟨task, job, _, _, hafter⟩ := deliver_of_accepts h
    rw [hafter, afterDelivery_jobs]

theorem deliver_beside (taskId : String) (result : WorkerResult) :
    (deliver env s taskId result).publishIdempotencyKeys = s.publishIdempotencyKeys ∧
      (deliver env s taskId result).doomLoopDetector = s.doomLoopDetector := by
  by_cases hdelivery : ∃ task job, Delivery s taskId result task job
  · obtain ⟨task, job, hdelivery⟩ := hdelivery
    rw [deliver, applyResult_delivered hdelivery]
    exact afterDelivery_beside
  · rw [deliver, applyResult_ignored env hdelivery]
    exact ⟨rfl, rfl⟩

theorem applyResult_run_of_accepts (env : Env) {taskId : String} {result : WorkerResult}
    (h : accepts env s taskId result = true) :
    ∃ response, (applyResult env taskId result).run s = .ok response (deliver env s taskId result) := by
  obtain ⟨task, job, hdelivery, hallowed⟩ := accepts_iff.mp h
  have hsome := (applyResult_succeeds_iff env hdelivery).mpr hallowed
  unfold deliver finalState
  unfold returned? at hsome
  cases hrun : (applyResult env taskId result).run s with
  | ok response s' => exact ⟨response, rfl⟩
  | error e s' => simp [hrun] at hsome

theorem applyPollFailure_final (failureSummary : String) :
    let s' := s.setJob { job with status := .failed }
    let result := pollFailureResult job failureSummary
    finalState (applyPollFailure env job failureSummary) s = deliver env s' job.taskId result ∨
      (accepts env s' job.taskId result = false ∧
        finalState (applyPollFailure env job failureSummary) s =
          (deliver env s' job.taskId result).setResult result) := by
  intro s' result
  cases hrun : (applyResult env job.taskId result).run s' with
  | ok response s₂ =>
    refine Or.inl ?_
    refine finalState_rec (applyPollFailure env job failureSummary) s ?_
    have hdeliver : deliver env s' job.taskId result = s₂ := by
      rw [deliver, finalState, hrun]
    rw [hdeliver]
    simp only [applyPollFailure, wp_bind, wp_modify, andThen_ok, wp_tryCatch]
    rw [wp, hrun]
    simp
  | error e s₂ =>
    refine Or.inr ⟨?_, ?_⟩
    · by_contra haccepts
      obtain ⟨response, hok⟩ := applyResult_run_of_accepts env (by simpa using haccepts)
      rw [hok] at hrun
      cases hrun
    · refine finalState_rec (applyPollFailure env job failureSummary) s ?_
      have hdeliver : deliver env s' job.taskId result = s₂ := by
        rw [deliver, finalState, hrun]
      rw [hdeliver]
      simp only [applyPollFailure, wp_bind, wp_modify, andThen_ok, wp_tryCatch]
      rw [wp, hrun]
      rfl

/-- How polling a job leaves the store: the job is finished, and the tasks and logs are those of at
most one accepted result. -/
structure PollOutcome (env : Env) (s : ControlPlane) (job : WorkerJob)
    (outcome : Except String WorkerResult) (s' : ControlPlane) : Prop where
  jobs : ∃ status, status ≠ .pending ∧ status ≠ .running ∧
    s'.jobs = s.jobs.put { job with status := status }
  tasks : match appliedByPoll env s job outcome with
    | none => s'.tasks = s.tasks ∧ s'.events = s.events
    | some result => ∃ s₀ task job' status, s₀.tasks = s.tasks ∧ s₀.events = s.events ∧
      s₀.jobs = s.jobs.put { job with status := status } ∧
      Delivery s₀ job.taskId result task job' ∧
      (deliveryAnswer env s₀ result task job').allowed task = true ∧
      s'.tasks = (afterDelivery env s₀ result task job').tasks ∧
      s'.events = (afterDelivery env s₀ result task job').events

theorem pollFailure_cases {outcome : Except String WorkerResult} {s₁ : ControlPlane}
    {failureSummary : String} (h : pollFailure env s job outcome = some (s₁, failureSummary)) :
    s₁ = s.setJob { job with status := .failed } ∨
    ∃ result, outcome = .ok result ∧ accepts env (polled s job) job.taskId result = false ∧
      s₁ = (deliver env (polled s job) job.taskId result).setJob { job with status := .failed } := by
  cases outcome with
  | error summary => exact .inl (Prod.mk.inj (Option.some.inj h)).1.symm
  | ok result =>
    cases hrun : (applyResult env job.taskId result).run (polled s job) with
    | ok response s₂ => simp [pollFailure, hrun] at h
    | error e s₂ =>
      obtain ⟨rfl, -⟩ : s₂.setJob { job with status := .failed } = s₁ ∧
          e.message = failureSummary := by simpa [pollFailure, hrun] using h
      refine .inr ⟨result, rfl, ?_, by rw [deliver, finalState, hrun]⟩
      by_contra haccepts
      obtain ⟨response, hok⟩ := applyResult_run_of_accepts env (by simpa using haccepts)
      rw [hok] at hrun
      cases hrun

theorem pollFailure_store {outcome : Except String WorkerResult} {s₁ : ControlPlane}
    {failureSummary : String} (h : pollFailure env s job outcome = some (s₁, failureSummary)) :
    s₁.tasks = s.tasks ∧ s₁.events = s.events ∧
      s₁.jobs = s.jobs.put { job with status := .failed } := by
  rcases pollFailure_cases h with rfl | ⟨result, rfl, hrejected, rfl⟩
  · exact ⟨rfl, rfl, rfl⟩
  · obtain ⟨htasks, hevents, hjobs⟩ := deliver_of_not_accepts hrejected
    refine ⟨htasks, hevents, ?_⟩
    rw [ControlPlane.setJob, hjobs]
    exact KeyedMap.put_put_of_key_eq _ rfl

theorem settlePoll_final (env : Env) (job : WorkerJob) (outcome : Except String WorkerResult) :
    (∃ s₁ failureSummary, pollFailure env s job outcome = some (s₁, failureSummary) ∧
      (finalState (settlePoll env job outcome) s =
          deliver env s₁ job.taskId (pollFailureResult job failureSummary) ∨
        (accepts env s₁ job.taskId (pollFailureResult job failureSummary) = false ∧
          finalState (settlePoll env job outcome) s =
            (deliver env s₁ job.taskId (pollFailureResult job failureSummary)).setResult
              (pollFailureResult job failureSummary)))) ∨
    ∃ result, outcome = .ok result ∧ pollFailure env s job outcome = none ∧
      finalState (settlePoll env job outcome) s = deliver env (polled s job) job.taskId result := by
  cases outcome with
  | error failureSummary =>
    exact Or.inl ⟨_, failureSummary, rfl, applyPollFailure_final failureSummary⟩
  | ok result =>
    have hstart : finalState (settlePoll env job (.ok result)) s =
        finalState (tryCatch (do let _ ← applyResult env job.taskId result)
          fun e => applyPollFailure env job e.message) (polled s job) := rfl
    rw [hstart]
    cases hrun : (applyResult env job.taskId result).run (polled s job) with
    | ok response s₂ =>
      refine Or.inr ⟨result, rfl, by simp [pollFailure, hrun], ?_⟩
      rw [deliver]
      refine finalState_rec (tryCatch _ _) _ ?_
      simp only [wp_tryCatch, wp_bind]
      rw [wp, hrun, finalState, hrun]
      rfl
    | error e s₂ =>
      refine Or.inl ⟨s₂.setJob { job with status := .failed }, e.message,
        by simp [pollFailure, hrun], ?_⟩
      have hcaught : finalState (tryCatch (do let _ ← applyResult env job.taskId result)
          fun e => applyPollFailure env job e.message) (polled s job) =
          finalState (applyPollFailure env job e.message) s₂ := by
        refine finalState_rec (tryCatch _ _) _ ?_
        simp only [wp_tryCatch, wp_bind]
        rw [wp, hrun]
        exact wp_onState_iff.mpr rfl
      rw [hcaught]
      exact applyPollFailure_final e.message

theorem settlePoll_rec {P : ControlPlane → Prop} (job : WorkerJob)
    (outcome : Except String WorkerResult)
    (hdeliver : ∀ s taskId result, P s → P (deliver env s taskId result))
    (hjob : ∀ s job, P s → P (s.setJob job)) (hresult : ∀ s result, P s → P (s.setResult result))
    (h : P s) : P (finalState (settlePoll env job outcome) s) := by
  rcases settlePoll_final env job outcome (s := s) with
    ⟨s₁, failureSummary, hfailure, hfinal⟩ | ⟨result, rfl, _, hfinal⟩
  · have hfailed : P s₁ := by
      rcases pollFailure_cases hfailure with rfl | ⟨result, -, -, rfl⟩
      · exact hjob _ _ h
      · exact hjob _ _ (hdeliver _ _ _ (hjob _ _ h))
    rcases hfinal with hfinal | ⟨_, hfinal⟩ <;> rw [hfinal]
    · exact hdeliver _ _ _ hfailed
    · exact hresult _ _ (hdeliver _ _ _ hfailed)
  · rw [hfinal]
    exact hdeliver _ _ _ (hjob _ _ h)

theorem finalState_settlePoll (env : Env) (job : WorkerJob) (outcome : Except String WorkerResult) :
    PollOutcome env s job outcome (finalState (settlePoll env job outcome) s) := by
  rcases settlePoll_final env job outcome (s := s) with
    ⟨s₁, failureSummary, hfailure, hfinal⟩ | ⟨result, rfl, hfailure, hfinal⟩
  · obtain ⟨htasks, hevents, hjobs⟩ := pollFailure_store hfailure
    cases haccepts : accepts env s₁ job.taskId (pollFailureResult job failureSummary) with
    | true =>
      have hdelivered : finalState (settlePoll env job outcome) s =
          deliver env s₁ job.taskId (pollFailureResult job failureSummary) := by
        rcases hfinal with hfinal | ⟨hrejected, _⟩
        · exact hfinal
        · rw [haccepts] at hrejected
          cases hrejected
      obtain ⟨task, job', hdelivery, hallowed, hafter⟩ := deliver_of_accepts haccepts
      rw [hdelivered, hafter]
      refine ⟨⟨.failed, by decide, by decide, by rw [afterDelivery_jobs, hjobs]⟩, ?_⟩
      simp only [appliedByPoll, hfailure, haccepts, if_true]
      exact ⟨s₁, task, job', .failed, htasks, hevents, hjobs, hdelivery, hallowed, rfl, rfl⟩
    | false =>
      obtain ⟨htasks', hevents', hjobs'⟩ := deliver_of_not_accepts haccepts
      have hkept : (finalState (settlePoll env job outcome) s).tasks = s.tasks ∧
          (finalState (settlePoll env job outcome) s).events = s.events ∧
          (finalState (settlePoll env job outcome) s).jobs = s₁.jobs := by
        rcases hfinal with hfinal | ⟨_, hfinal⟩
        · rw [hfinal]
          exact ⟨htasks'.trans htasks, hevents'.trans hevents, hjobs'⟩
        · rw [hfinal]
          exact ⟨htasks'.trans htasks, hevents'.trans hevents, hjobs'⟩
      refine ⟨⟨.failed, by decide, by decide, hkept.2.2.trans hjobs⟩, ?_⟩
      simp only [appliedByPoll, hfailure, haccepts, Bool.false_eq_true, if_false]
      exact ⟨hkept.1, hkept.2.1⟩
  · cases haccepts : accepts env (polled s job) job.taskId result with
    | true =>
      obtain ⟨task, job', hdelivery, hallowed, hafter⟩ := deliver_of_accepts haccepts
      rw [hfinal, hafter]
      refine ⟨⟨.completed, by decide, by decide, afterDelivery_jobs⟩, ?_⟩
      simp only [appliedByPoll, hfailure, haccepts, if_true]
      exact ⟨polled s job, task, job', .completed, rfl, rfl, rfl, hdelivery, hallowed, rfl, rfl⟩
    | false =>
      obtain ⟨htasks', hevents', hjobs'⟩ := deliver_of_not_accepts haccepts
      rw [hfinal]
      refine ⟨⟨.completed, by decide, by decide, hjobs'⟩, ?_⟩
      simp only [appliedByPoll, hfailure, haccepts, Bool.false_eq_true, if_false]
      exact ⟨htasks', hevents'⟩

theorem wp_heartbeat {jobId workerId : String}
    {Q : EStateM.Result StoreError ControlPlane JobHeartbeatResponse → Prop}
    (hrejected : ∀ e, Q (.error e s))
    (hextended : ∀ lease leases,
      s.leaseManager.heartbeat env.now jobId workerId = some (lease, leases) →
      Q (.ok ⟨jobId, lease.leaseExpiresAt, s.leaseManager.nextHeartbeatDueAt env.now,
        lease.lastHeartbeatAt⟩ { s with leaseManager := leases })) :
    wp (heartbeat env jobId workerId) Q s := by
  simp only [heartbeat, wp_bind, wp_get, andThen_ok]
  cases s.jobs.get? jobId with
  | none => exact hrejected _
  | some job =>
    dsimp only
    cases hbeat : s.leaseManager.heartbeat env.now jobId workerId with
    | none => exact hrejected _
    | some p => exact hextended p.1 p.2 hbeat

theorem finalState_heartbeat (env : Env) (jobId workerId : String) :
    ∃ leases, finalState (heartbeat env jobId workerId) s = { s with leaseManager := leases } ∧
      (leases = s.leaseManager ∨
        ∃ lease, s.leaseManager.heartbeat env.now jobId workerId = some (lease, leases)) := by
  refine finalState_rec (heartbeat env jobId workerId) s ?_
  exact wp_heartbeat (fun _ => ⟨s.leaseManager, rfl, Or.inl rfl⟩)
    fun lease leases hbeat => ⟨leases, rfl, Or.inr ⟨lease, hbeat⟩⟩

end poll

end ShipyardCp.Store
