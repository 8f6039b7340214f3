import ShipyardCp.Store.Frame

/-! Where an answer moves its task, read off the result, the job and the state before. -/

namespace ShipyardCp.Store

open Types Domain Lib ControlPlane

/-- The result blocks its task once more, or is the evidence of an acceptance, which moves nothing. -/
def keepsState (s : ControlPlane) (task : Task) (job : WorkerJob) (result : WorkerResult) : Bool :=
  let validation := validateResult result task job
  if !validation.valid then
    !retriesValidation s task job validation.errors && needsManualGate job validation.errors
  else match result.status with
    | .blocked => true
    | .failed =>
      (s.doomLoopDetector.detectLoop job.jobId).isSome ||
        ((getFailoverWorker job.stage job.workerType).isNone &&
          !shouldRetry (failureClassOf result) (currentRetryCountOf s task job result)
            (maxRetriesOf job) &&
          maxReworkAttempts ≤ previousReworkAttempt task job)
    | .succeeded => job.stage = .acceptance && !isRejection result

def resumesStage (s : ControlPlane) (task : Task) (job : WorkerJob) (result : WorkerResult) : Bool :=
  let validation := validateResult result task job
  if !validation.valid then retriesValidation s task job validation.errors
  else
    result.status = .failed && (s.doomLoopDetector.detectLoop job.jobId).isNone &&
      ((getFailoverWorker job.stage job.workerType).isSome ||
        shouldRetry (failureClassOf result) (currentRetryCountOf s task job result)
          (maxRetriesOf job))

def blocksTask (s : ControlPlane) (task : Task) (job : WorkerJob) (result : WorkerResult) : Bool :=
  keepsState s task job result &&
    !((validateResult result task job).valid && result.status = .succeeded)

def blocksSlot (s : ControlPlane) (task : Task) (job : WorkerJob) (result : WorkerResult) : Bool :=
  (validateResult result task job).valid &&
    (result.status = .blocked ||
      (result.status = .failed && (s.doomLoopDetector.detectLoop job.jobId).isSome))

/-- The moves of an answer and the next action it names, by what its result asks for. -/
inductive AnswerMove (s : ControlPlane) (task : Task) (job : WorkerJob) (result : WorkerResult)
    (a : ResultAnswer) : Prop
  | keeps : keepsState s task job result = true → resumesStage s task job result = false →
      (a.move = none ∨ ∃ input, a.move = some (.blocked, input)) → a.nextAction = .waitManual →
      AnswerMove s task job result a
  | resumes (input : TransitionInput) : keepsState s task job result = false →
      resumesStage s task job result = true →
      a.move = some (stageToActiveState job.stage, input) →
      (a.nextAction = .retry ∨ a.nextAction = .failover) → AnswerMove s task job result a
  | ends (toState : TaskState) (input : TransitionInput) : keepsState s task job result = false →
      resumesStage s task job result = false → a.move = some (toState, input) →
      (toState = .planned ∨ toState = .devCompleted ∨ toState = .reworkRequired) →
      a.retryCount = none → (a.nextAction = .dispatchDev ∨ a.nextAction = .dispatchAcceptance) →
      AnswerMove s task job result a

section answers

variable {env : Env} {s : ControlPlane} {task : Task} {job : WorkerJob} {result : WorkerResult}

theorem blocksTask_of_blocksSlot (h : blocksSlot s task job result = true) :
    blocksTask s task job result = true := by
  simp only [blocksSlot, Bool.and_eq_true, Bool.or_eq_true, decide_eq_true_eq] at h
  obtain ⟨hvalid, hstatus | ⟨hstatus, hloop⟩⟩ := h
  · simp [blocksTask, keepsState, hvalid, hstatus]
  · simp [blocksTask, keepsState, hvalid, hstatus, hloop]

theorem stageToActiveState_ne_blocked (stage : WorkerStage) :
    stageToActiveState stage ≠ .blocked := by
  cases stage <;> decide

theorem answerMove_validation (hvalid : (validateResult result task job).valid = false) :
    AnswerMove s task job result
      (validationAnswer s task job result (validateResult result task job).errors) := by
  unfold validationAnswer
  dsimp only
  by_cases hretries : retriesValidation s task job (validateResult result task job).errors = true
  · rw [if_pos hretries]
    exact .resumes _ (by simp [keepsState, hvalid, hretries])
      (by simp [resumesStage, hvalid, hretries]) rfl (Or.inl rfl)
  · rw [if_neg hretries]
    by_cases hgate : needsManualGate job (validateResult result task job).errors = true
    · rw [if_pos hgate]
      exact .keeps (by simp [keepsState, hvalid, hretries, hgate])
        (by simp [resumesStage, hvalid, hretries]) (Or.inr ⟨_, rfl⟩) rfl
    · rw [if_neg hgate]
      exact .ends _ _ (by simp [keepsState, hvalid, hgate])
        (by simp [resumesStage, hvalid, hretries]) rfl (Or.inr (Or.inr rfl)) rfl (Or.inl rfl)

variable {taskUpdates : TaskUpdate}

theorem answerMove_failed
    (hvalid : (validateResult result task job).valid = true) (hstatus : result.status = .failed) :
    AnswerMove s task job result (failedAnswer env s task job result taskUpdates) := by
  unfold failedAnswer
  cases hloop : s.doomLoopDetector.detectLoop job.jobId with
  | some loopType =>
    exact .keeps (by simp [keepsState, hvalid, hstatus, hloop])
      (by simp [resumesStage, hvalid, hloop]) (Or.inr ⟨_, rfl⟩) rfl
  | none =>
    cases hworker : getFailoverWorker job.stage job.workerType with
    | some nextWorker =>
      exact .resumes _ (by simp [keepsState, hvalid, hstatus, hloop, hworker])
        (by simp [resumesStage, hvalid, hstatus, hloop, hworker]) rfl (Or.inr rfl)
    | none =>
      dsimp only
      by_cases hretry : shouldRetry (failureClassOf result) (currentRetryCountOf s task job result)
          (maxRetriesOf job) = true
      · rw [if_pos hretry]
        exact .resumes _ (by simp [keepsState, hvalid, hstatus, hloop, hretry])
          (by simp [resumesStage, hvalid, hstatus, hloop, hretry]) rfl (Or.inl rfl)
      · rw [if_neg hretry, finalFailureAnswer]
        dsimp only
        by_cases hattempt : previousReworkAttempt task job ≥ maxReworkAttempts
        · rw [if_pos hattempt]
          exact .keeps (by simp [keepsState, hvalid, hstatus, hloop, hworker, hretry, hattempt])
            (by simp [resumesStage, hvalid, hloop, hworker, hretry]) (Or.inr ⟨_, rfl⟩) rfl
        · rw [if_neg hattempt]
          exact .ends _ _ (by simp [keepsState, hvalid, hstatus, hloop, hattempt])
            (by simp [resumesStage, hvalid, hloop, hworker, hretry]) rfl (Or.inr (Or.inr rfl)) rfl
            (Or.inl rfl)

theorem answerMove_succeeded
    (hvalid : (validateResult result task job).valid = true) (hstatus : result.status = .succeeded) :
    AnswerMove s task job result (succeededAnswer task job result taskUpdates) := by
  have hresumes : resumesStage s task job result = false := by simp [resumesStage, hvalid, hstatus]
  unfold succeededAnswer
  cases hstage : job.stage with
  | plan =>
    exact .ends _ _ (by simp [keepsState, hvalid, hstatus, hstage]) hresumes rfl (Or.inl rfl) rfl
      (Or.inl rfl)
  | dev =>
    exact .ends _ _ (by simp [keepsState, hvalid, hstatus, hstage]) hresumes rfl
      (Or.inr (Or.inl rfl)) rfl (Or.inr rfl)
  | acceptance =>
    dsimp only
    by_cases hrejected : isRejection result = true
    · rw [if_pos hrejected]
      exact .ends _ _ (by simp [keepsState, hvalid, hstatus, hrejected]) hresumes rfl
        (Or.inr (Or.inr rfl)) rfl (Or.inl rfl)
    · rw [if_neg hrejected]
      exact .keeps (by simp [keepsState, hvalid, hstatus, hstage, hrejected]) hresumes (Or.inl rfl)
        rfl

theorem answerMove_result : AnswerMove s task job result (resultAnswer env s result task job) := by
  unfold resultAnswer
  dsimp only
  cases hvalid : (validateResult result task job).valid with
  | false =>
    simp only [Bool.not_false, if_true]
    exact answerMove_validation hvalid
  | true =>
    simp only [Bool.not_true, Bool.false_eq_true, if_false]
    cases hstatus : result.status with
    | blocked =>
      exact .keeps (by simp [keepsState, hvalid, hstatus]) (by simp [resumesStage, hvalid, hstatus])
        (Or.inr ⟨_, rfl⟩) rfl
    | failed => exact answerMove_failed hvalid hstatus
    | succeeded => exact answerMove_succeeded hvalid hstatus

/-- What an answer does about the state and the slot, by what its result asks for. -/
structure AnswerEffect (s : ControlPlane) (task : Task) (job : WorkerJob) (result : WorkerResult)
    (a : ResultAnswer) : Prop where
  blocks : (a.move.any fun move => move.1 = .blocked) = blocksTask s task job result
  context : a.update.blockedContext.isSome = blocksTask s task job result
  release : a.release = .leaseAndSlot ↔
    (resumesStage s task job result || blocksSlot s task job result) = false

theorem answerEffect_validation (hvalid : (validateResult result task job).valid = false) :
    AnswerEffect s task job result
      (validationAnswer s task job result (validateResult result task job).errors) := by
  unfold validationAnswer
  dsimp only
  by_cases hretries : retriesValidation s task job (validateResult result task job).errors = true
  · have hblocks : blocksTask s task job result = false := by
      simp [blocksTask, keepsState, hvalid, hretries]
    rw [if_pos hretries]
    exact ⟨by simp [hblocks, stageToActiveState_ne_blocked], by rw [hblocks]; rfl,
      by simp [resumesStage, hvalid, hretries]⟩
  · rw [if_neg hretries]
    by_cases hgate : needsManualGate job (validateResult result task job).errors = true
    · have hblocks : blocksTask s task job result = true := by
        simp [blocksTask, keepsState, hvalid, hretries, hgate]
      rw [if_pos hgate]
      exact ⟨by simp [hblocks], by rw [hblocks]; rfl,
        by simp [resumesStage, blocksSlot, hvalid, hretries]⟩
    · have hblocks : blocksTask s task job result = false := by
        simp [blocksTask, keepsState, hvalid, hgate]
      rw [if_neg hgate]
      exact ⟨by simp [hblocks], by rw [hblocks]; rfl,
        by simp [resumesStage, blocksSlot, hvalid, hretries]⟩

theorem answerEffect_failed (hcontext : taskUpdates.blockedContext = none)
    (hvalid : (validateResult result task job).valid = true) (hstatus : result.status = .failed) :
    AnswerEffect s task job result (failedAnswer env s task job result taskUpdates) := by
  have hblocks : blocksTask s task job result = keepsState s task job result := by
    simp [blocksTask, hstatus]
  have hmerged : ∀ u : TaskUpdate, u.blockedContext = none →
      (mergeTaskUpdates [taskUpdates, u]).blockedContext = none := fun u hu => by
    simp [mergeTaskUpdates, mergeTaskUpdate, hcontext, hu]
  unfold failedAnswer
  cases hloop : s.doomLoopDetector.detectLoop job.jobId with
  | some loopType =>
    have hkeeps : keepsState s task job result = true := by simp [keepsState, hvalid, hstatus, hloop]
    exact ⟨by simp [hblocks, hkeeps, doomLoopAnswer], by rw [hblocks, hkeeps]; rfl,
      by simp [doomLoopAnswer, blocksSlot, hvalid, hstatus, hloop]⟩
  | none =>
    cases hworker : getFailoverWorker job.stage job.workerType with
    | some nextWorker =>
      have hkeeps : keepsState s task job result = false := by
        simp [keepsState, hvalid, hstatus, hloop, hworker]
      exact ⟨by simp [hblocks, hkeeps, failoverAnswer, stageToActiveState_ne_blocked],
        by simp [hblocks, hkeeps, failoverAnswer, hmerged],
        by simp [failoverAnswer, resumesStage, hvalid, hstatus, hloop, hworker]⟩
    | none =>
      dsimp only
      by_cases hretry : shouldRetry (failureClassOf result) (currentRetryCountOf s task job result)
          (maxRetriesOf job) = true
      · have hkeeps : keepsState s task job result = false := by
          simp [keepsState, hvalid, hstatus, hloop, hretry]
        rw [if_pos hretry]
        exact ⟨by simp [hblocks, hkeeps, retryAnswer, stageToActiveState_ne_blocked],
          by simp [hblocks, hkeeps, retryAnswer, hmerged],
          by simp [retryAnswer, resumesStage, hvalid, hstatus, hloop, hretry]⟩
      · have hfinal : (resumesStage s task job result || blocksSlot s task job result) = false := by
          simp [resumesStage, blocksSlot, hvalid, hstatus, hloop, hworker, hretry]
        rw [if_neg hretry, finalFailureAnswer]
        dsimp only
        by_cases hattempt : previousReworkAttempt task job ≥ maxReworkAttempts
        · have hkeeps : keepsState s task job result = true := by
            simp [keepsState, hvalid, hstatus, hloop, hworker, hretry, hattempt]
          rw [if_pos hattempt]
          exact ⟨by simp [hblocks, hkeeps], by rw [hblocks, hkeeps]; rfl, by simp [hfinal]⟩
        · have hkeeps : keepsState s task job result = false := by
            simp [keepsState, hvalid, hstatus, hloop, hattempt]
          rw [if_neg hattempt]
          exact ⟨by simp [hblocks, hkeeps], by simp [hblocks, hkeeps, hmerged], by simp [hfinal]⟩

theorem answerEffect_succeeded (hcontext : taskUpdates.blockedContext = none)
    (hvalid : (validateResult result task job).valid = true) (hstatus : result.status = .succeeded) :
    AnswerEffect s task job result (succeededAnswer task job result taskUpdates) := by
  have hblocks : blocksTask s task job result = false := by simp [blocksTask, hvalid, hstatus]
  have hfinal : (resumesStage s task job result || blocksSlot s task job result) = false := by
    simp [resumesStage, blocksSlot, hvalid, hstatus]
  have hcompleted : ∀ toState reason nextAction, toState ≠ .blocked → AnswerEffect s task job result
      (completedAnswer job result toState reason nextAction taskUpdates) :=
    fun toState reason nextAction hne => ⟨by simp [completedAnswer, hblocks, hne],
      by simp [completedAnswer, hblocks, hcontext], by simp [completedAnswer, hfinal]⟩
  unfold succeededAnswer
  cases job.stage with
  | plan => exact hcompleted _ _ _ (by decide)
  | dev => exact hcompleted _ _ _ (by decide)
  | acceptance =>
    dsimp only
    split_ifs
    · exact hcompleted _ _ _ (by decide)
    · refine ⟨by simp [evidenceAnswer, hblocks], ?_, by simp [evidenceAnswer, hfinal]⟩
      unfold evidenceAnswer
      split_ifs <;> simp [mergeTaskUpdates, mergeTaskUpdate, hcontext, hblocks]

theorem computeTaskUpdates_blockedContext :
    (computeTaskUpdatesFromResult env result job).blockedContext = none := by
  cases hfield : (computeTaskUpdatesFromResult env result job).blockedContext with
  | none => rfl
  | some context =>
    obtain ⟨u, hu, hset⟩ := mem_of_mergeTaskUpdates (·.blockedContext) rfl (fun _ _ => rfl) hfield
    rw [(resultUpdates_fields hu).2.1] at hset
    cases hset

theorem answerEffect_result : AnswerEffect s task job result (resultAnswer env s result task job) := by
  unfold resultAnswer
  dsimp only
  cases hvalid : (validateResult result task job).valid with
  | false =>
    simp only [Bool.not_false, if_true]
    exact answerEffect_validation hvalid
  | true =>
    simp only [Bool.not_true, Bool.false_eq_true, if_false]
    cases hstatus : result.status with
    | blocked =>
      have hblocks : blocksTask s task job result = true := by
        simp [blocksTask, keepsState, hvalid, hstatus]
      exact ⟨by simp [blockedAnswer, hblocks], by rw [hblocks]; rfl,
        by simp [blockedAnswer, blocksSlot, hvalid, hstatus]⟩
    | failed => exact answerEffect_failed computeTaskUpdates_blockedContext hvalid hstatus
    | succeeded => exact answerEffect_succeeded computeTaskUpdates_blockedContext hvalid hstatus

theorem answerEffect_delivery :
    AnswerEffect s task job result (deliveryAnswer env s result task job) := by
  have heffect : AnswerEffect (s.setResult result) task job result
      (deliveryAnswer env s result task job) := answerEffect_result
  exact ⟨heffect.blocks, heffect.context, heffect.release⟩

theorem answerMove_delivery : AnswerMove s task job result (deliveryAnswer env s result task job) := by
  have hkeeps : keepsState (s.setResult result) task job result = keepsState s task job result := rfl
  have hresumes : resumesStage (s.setResult result) task job result =
      resumesStage s task job result := rfl
  have hmoves : AnswerMove (s.setResult result) task job result
      (deliveryAnswer env s result task job) := answerMove_result
  cases hmoves with
  | keeps hk hr hmove hnext => exact .keeps (hkeeps ▸ hk) (hresumes ▸ hr) hmove hnext
  | resumes input hk hr hmove hnext => exact .resumes input (hkeeps ▸ hk) (hresumes ▸ hr) hmove hnext
  | ends toState input hk hr hmove hto hcount hnext =>
    exact .ends toState input (hkeeps ▸ hk) (hresumes ▸ hr) hmove hto hcount hnext

end answers

/-! The calls that apply a result: which result they apply, to which task, and what they leave. -/

/-- The result a call hands over, its task, and the store it is tried in: a poll stores the status of
its job first, and a poll that fails stands a failure in for its result. -/
def handedOver? (call : Call) (s : ControlPlane) : Option (ControlPlane × String × WorkerResult) :=
  match call.op with
  | .applyResult taskId result => some (s, taskId, result)
  | .settlePoll job outcome =>
    match pollFailure call.env s job outcome with
    | some (s₁, failureSummary) => some (s₁, job.taskId, pollFailureResult job failureSummary)
    | none => outcome.toOption.map fun result => (polled s job, job.taskId, result)
  | _ => none

/-- A result that is applied, with its task, its job and the store it is applied in. -/
structure AppliedResult where
  store : ControlPlane
  task : Task
  job : WorkerJob
  result : WorkerResult

namespace AppliedResult

def answer (r : AppliedResult) (env : Env) : ResultAnswer :=
  deliveryAnswer env r.store r.result r.task r.job

def blocksTask (r : AppliedResult) : Bool := Store.blocksTask r.store r.task r.job r.result

def blocksSlot (r : AppliedResult) : Bool := Store.blocksSlot r.store r.task r.job r.result

def resumesStage (r : AppliedResult) : Bool := Store.resumesStage r.store r.task r.job r.result

end AppliedResult

def acceptedResult? (env : Env) (s : ControlPlane) (taskId : String) (result : WorkerResult) :
    Option AppliedResult :=
  (delivery? s taskId result).bind fun p =>
    if (deliveryAnswer env s result p.1 p.2).allowed p.1 then some ⟨s, p.1, p.2, result⟩ else none

def appliedResult? (call : Call) (s : ControlPlane) : Option AppliedResult :=
  (handedOver? call s).bind fun p => acceptedResult? call.env p.1 p.2.1 p.2.2

/-- What the application of a result leaves of the tasks and the slots. -/
structure Applied (env : Env) (r : AppliedResult) (s s' : ControlPlane) : Prop where
  stored : s.task? r.task.taskId = some r.task
  active : r.task.activeJobId = some r.job.jobId
  allowed : (r.answer env).allowed r.task = true
  task? : ∀ id, s'.task? id = if id = r.task.taskId then
    some ((r.answer env).resultTask env r.task) else s.task? id
  concurrencyManager : s'.concurrencyManager = if (r.answer env).release = .leaseAndSlot then
    s.concurrencyManager.recordComplete r.job.jobId r.job.workerType.text else s.concurrencyManager

def Application (call : Call) (s s' : ControlPlane) : Prop :=
  match appliedResult? call s with
  | none => s'.tasks = s.tasks ∧ s'.concurrencyManager = s.concurrencyManager
  | some r => Applied call.env r s s'

section effects

variable {env : Env} {s s₁ : ControlPlane} {taskId : String} {result : WorkerResult}

theorem acceptedResult?_eq_some {r : AppliedResult}
    (h : acceptedResult? env s taskId result = some r) :
    Delivery s taskId result r.task r.job ∧ r.store = s ∧ r.result = result ∧
      (r.answer env).allowed r.task = true := by
  obtain ⟨p, hdelivery, hallowed⟩ := Option.bind_eq_some_iff.mp h
  split_ifs at hallowed with hcan
  obtain rfl := Option.some.inj hallowed
  exact ⟨delivery?_eq_some_iff.mp hdelivery, rfl, rfl, hcan⟩

theorem deliver_application (env : Env) (taskId : String) (result : WorkerResult)
    (htasks : s₁.tasks = s.tasks) (hslots : s₁.concurrencyManager = s.concurrencyManager) :
    match acceptedResult? env s₁ taskId result with
    | none => (deliver env s₁ taskId result).tasks = s.tasks ∧
        (deliver env s₁ taskId result).concurrencyManager = s.concurrencyManager
    | some r => Applied env r s (deliver env s₁ taskId result) := by
  have htask? : ∀ id, s₁.task? id = s.task? id := fun id => by
    rw [task?, htasks, task?]
  cases haccepted : acceptedResult? env s₁ taskId result with
  | none =>
    dsimp only
    cases hdelivery : delivery? s₁ taskId result with
    | none =>
      have hignored : ¬∃ task job, Delivery s₁ taskId result task job := by
        rintro ⟨task, job, h⟩
        rw [delivery?_eq_some_iff.mpr h] at hdelivery
        cases hdelivery
      rw [deliver, applyResult_ignored env hignored]
      exact ⟨htasks, hslots⟩
    | some p =>
      have hrefused : (deliveryAnswer env s₁ result p.1 p.2).allowed p.1 = false := by
        simpa [acceptedResult?, hdelivery] using haccepted
      rw [deliver, applyResult_delivered (delivery?_eq_some_iff.mp hdelivery)]
      refine ⟨(afterDelivery_refused hrefused).1.trans htasks, ?_⟩
      rw [afterDelivery_concurrencyManager, hrefused, ← hslots]
      exact if_neg (by simp)
  | some r =>
    dsimp only
    obtain ⟨hdelivery, hstore, hresult, hallowed⟩ := acceptedResult?_eq_some haccepted
    have hanswer : r.answer env = deliveryAnswer env s₁ result r.task r.job := by
      rw [AppliedResult.answer, hstore, hresult]
    have hid := s₁.task?_taskId hdelivery.stored
    rw [deliver, applyResult_delivered hdelivery]
    constructor
    · rw [hid, ← htask?]
      exact hdelivery.stored
    · rw [s₁.jobs.key_of_get? hdelivery.job]
      exact hdelivery.active
    · exact hallowed
    · intro id
      rw [hanswer] at hallowed ⊢
      rw [afterDelivery_task? id hallowed, htask?]
    · rw [hanswer] at hallowed ⊢
      rw [afterDelivery_concurrencyManager, hallowed, hslots]
      simp

theorem application_applyResult :
    Application ⟨env, .applyResult taskId result⟩ s (finalState (applyResult env taskId result) s) :=
  deliver_application env taskId result rfl rfl

theorem pollFailure_concurrencyManager {job : WorkerJob} {outcome : Except String WorkerResult}
    {failureSummary : String} (h : pollFailure env s job outcome = some (s₁, failureSummary)) :
    s₁.concurrencyManager = s.concurrencyManager := by
  rcases pollFailure_cases h with rfl | ⟨result, rfl, hrejected, rfl⟩
  · rfl
  · have hnone : acceptedResult? env (polled s job) job.taskId result = none := by
      cases haccepted : acceptedResult? env (polled s job) job.taskId result with
      | none => rfl
      | some r =>
        obtain ⟨hdelivery, hstore, hresult, hallowed⟩ := acceptedResult?_eq_some haccepted
        rw [AppliedResult.answer, hstore, hresult] at hallowed
        rw [accepts_iff.mpr ⟨_, _, hdelivery, hallowed⟩] at hrejected
        cases hrejected
    have hkept := deliver_application env job.taskId result
      (show (polled s job).tasks = s.tasks from rfl) rfl
    rw [hnone] at hkept
    exact hkept.2

theorem application_settlePoll {job : WorkerJob} {outcome : Except String WorkerResult} :
    Application ⟨env, .settlePoll job outcome⟩ s (finalState (settlePoll env job outcome) s) := by
  unfold Application appliedResult? handedOver?
  rcases settlePoll_final env job outcome (s := s) with
    ⟨s₁, failureSummary, hfailure, hfinal⟩ | ⟨result, rfl, hfailure, hfinal⟩
  · have hdelivered := deliver_application env job.taskId (pollFailureResult job failureSummary)
      (pollFailure_store hfailure).1 (pollFailure_concurrencyManager hfailure)
    simp only [hfailure, Option.bind_some]
    rcases hfinal with hfinal | ⟨hrejected, hfinal⟩
    · rw [hfinal]
      exact hdelivered
    · cases haccepted : acceptedResult? env s₁ job.taskId (pollFailureResult job failureSummary) with
      | none =>
        rw [haccepted] at hdelivered
        rw [hfinal]
        exact hdelivered
      | some r =>
        obtain ⟨hdelivery, hstore, hresult, hallowed⟩ := acceptedResult?_eq_some haccepted
        rw [AppliedResult.answer, hstore, hresult] at hallowed
        rw [accepts_iff.mpr ⟨_, _, hdelivery, hallowed⟩] at hrejected
        cases hrejected
  · simp only [hfailure, Except.toOption, Option.map_some, Option.bind_some]
    rw [hfinal]
    exact deliver_application env job.taskId result rfl rfl

theorem deliver_log (env : Env) (taskId : String) (result : WorkerResult)
    (hevents : s₁.events = s.events) (id : String) :
    (deliver env s₁ taskId result).log id =
      match acceptedResult? env s₁ taskId result with
      | none => s.log id
      | some r =>
        if id = r.task.taskId then s.log id ++ (r.answer env).events env r.task else s.log id := by
  have hlog : s₁.log id = s.log id := by rw [log, hevents, log]
  cases haccepted : acceptedResult? env s₁ taskId result with
  | none =>
    have hrejected : accepts env s₁ taskId result = false := by
      by_contra haccepts
      obtain ⟨task, job, hdelivery, hallowed⟩ := accepts_iff.mp (by simpa using haccepts)
      simp [acceptedResult?, delivery?_eq_some_iff.mpr hdelivery, hallowed] at haccepted
    dsimp only
    rw [log, (deliver_of_not_accepts hrejected).2.1, ← log, hlog]
  | some r =>
    obtain ⟨hdelivery, hstore, hresult, hallowed⟩ := acceptedResult?_eq_some haccepted
    rw [AppliedResult.answer, hstore, hresult] at hallowed
    dsimp only
    rw [deliver, applyResult_delivered hdelivery, afterDelivery_log id hallowed, hlog,
      AppliedResult.answer, hstore, hresult]

def appliesResult : Op → Bool
  | .applyResult _ _ | .settlePoll _ _ => true
  | _ => false

theorem application_of_step {sys sys' : System} {call : Call}
    (hop : appliesResult call.op = true) (hstep : controlPlane.step sys call sys') :
    Application call sys.store sys'.store := by
  obtain ⟨_, rfl⟩ := step_iff.mp hstep
  obtain ⟨env, op⟩ := call
  cases op with
  | applyResult taskId result => exact application_applyResult
  | settlePoll job outcome => exact application_settlePoll
  | _ => cases hop

theorem log_of_application {sys sys' : System} {call : Call} (hop : appliesResult call.op = true)
    (hstep : controlPlane.step sys call sys') (id : String) :
    sys'.store.log id =
      match appliedResult? call sys.store with
      | none => sys.store.log id
      | some r =>
        if id = r.task.taskId then
          sys.store.log id ++ (r.answer call.env).events call.env r.task
        else sys.store.log id := by
  obtain ⟨_, rfl⟩ := step_iff.mp hstep
  obtain ⟨env, op⟩ := call
  cases op with
  | applyResult taskId result => exact deliver_log env taskId result rfl id
  | settlePoll job outcome =>
    change (finalState (settlePoll env job outcome) sys.store).log id = _
    unfold appliedResult? handedOver?
    rcases settlePoll_final env job outcome (s := sys.store) with
      ⟨s₁, failureSummary, hfailure, hfinal⟩ | ⟨result, rfl, hfailure, hfinal⟩
    · have hdelivered := deliver_log env job.taskId (pollFailureResult job failureSummary)
        (pollFailure_store hfailure).2.1 id
      simp only [hfailure, Option.bind_some]
      rcases hfinal with hfinal | ⟨_, hfinal⟩
      · rw [hfinal]
        exact hdelivered
      · rw [hfinal]
        exact hdelivered
    · simp only [hfailure, Except.toOption, Option.map_some, Option.bind_some]
      rw [hfinal]
      exact deliver_log env job.taskId result rfl id
  | _ => cases hop

/-- What a call can do to the slots: a dispatch that begins to wait takes one, and an applied result
may give one back. -/
inductive SlotEffect (sys : System) (call : Call) (sys' : System) : Prop
  | kept : sys'.store.concurrencyManager = sys.store.concurrencyManager →
      (∀ taskId request, call.op = .beginDispatch taskId request →
        sys'.dispatching = sys.dispatching) → SlotEffect sys call sys'
  | taken (taskId : String) (request : DispatchRequest) (d : PendingDispatch) (workerId : String) :
      Begun call.env sys.store taskId request d → sys'.dispatching = sys.dispatching ++ [d] →
      sys'.store.concurrencyManager = sys.store.concurrencyManager.recordStart call.env.now
        d.job.jobId workerId request.targetStage → SlotEffect sys call sys'
  | given (r : AppliedResult) : appliedResult? call sys.store = some r →
      Applied call.env r sys.store sys'.store →
      sys'.store.concurrencyManager =
        sys.store.concurrencyManager.recordComplete r.job.jobId r.job.workerType.text →
      SlotEffect sys call sys'

theorem slotEffect_of_step {sys sys' : System} {call : Call}
    (hstep : controlPlane.step sys call sys') : SlotEffect sys call sys' := by
  cases hslots : usesSlots call.op with
  | false =>
    obtain ⟨_, rfl⟩ := step_iff.mp hstep
    refine .kept (concurrencyManager_perform hslots) fun taskId request hop => ?_
    rw [hop] at hslots
    cases hslots
  | true =>
    cases happly : appliesResult call.op with
    | true =>
      have hbegin : ∀ taskId request, call.op = .beginDispatch taskId request →
          sys'.dispatching = sys.dispatching := fun taskId request hop => by
        rw [hop] at happly
        cases happly
      have happlication := application_of_step happly hstep
      unfold Application at happlication
      cases happlied : appliedResult? call sys.store with
      | none =>
        rw [happlied] at happlication
        exact .kept happlication.2 hbegin
      | some r =>
        rw [happlied] at happlication
        have hmanager := happlication.concurrencyManager
        split_ifs at hmanager
        · exact .given r happlied happlication hmanager
        · exact .kept hmanager hbegin
    | false =>
      obtain ⟨_, rfl⟩ := step_iff.mp hstep
      obtain ⟨env, op⟩ := call
      cases op with
      | beginDispatch taskId request =>
        rcases beginDispatch_slots sys env taskId request with
          ⟨hdispatching, hmanager⟩ | ⟨d, workerId, hbegun, hdispatching, hmanager⟩
        · exact .kept hmanager fun _ _ _ => hdispatching
        · exact .taken taskId request d workerId hbegun hdispatching hmanager
      | applyResult _ _ | settlePoll _ _ => cases happly
      | _ => cases hslots

end effects

end ShipyardCp.Store
