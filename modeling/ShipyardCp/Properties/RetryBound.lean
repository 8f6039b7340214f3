import ShipyardCp.Properties.FailureHandling

/-! How often a stage is retried, and which failures are never tried again. -/

namespace ShipyardCp.Properties

open Types Domain Lib Store ResultValidation

def retryAnswered (taskId : String) (stage : WorkerStage) (sys : System) (call : Call) : Bool :=
  (appliedResult? call sys.store).any fun r =>
    r.task.taskId = taskId && r.job.stage = stage && (r.answer call.env).nextAction = .retry

def stageSucceeded (taskId : String) (stage : WorkerStage) (sys : System) (call : Call) : Bool :=
  (appliedResult? call sys.store).any fun r =>
    r.task.taskId = taskId && r.job.stage = stage && r.result.status = .succeeded &&
      (validateResult r.result r.task r.job).valid

def RetriesBounded (h : History System Call) : Prop :=
  ∀ taskId stage before between after, h = before ++ between ++ after →
    (∀ p ∈ between, stageSucceeded taskId stage p.1 p.2 = false) →
    (between.countP fun p => retryAnswered taskId stage p.1 p.2) ≤ getDefaultMaxRetries stage

def isNonRetryable : FailureClass → Bool
  | .nonRetryablePolicy | .nonRetryableLogic => true
  | _ => false

def NeverTriedAgain (h : History System Call) : Prop :=
  ∀ p ∈ h, ∀ r, appliedResult? p.2 p.1.store = some r → r.result.status = .failed →
    isNonRetryable (failureClassOf r.result) = true →
    (r.answer p.2.env).nextAction ≠ .retry ∧ (r.answer p.2.env).nextAction ≠ .failover

def LeftToHandling (task : Task) (job : WorkerJob) (result : WorkerResult) : Prop :=
  detectAuthorityConflict result task = none ∧ schemaErrors result = [] ∧
    PassesOutputChecks result task.riskLevel job.stage

/-- What a failed result has to be like: it does not report fewer retries than were tracked, and where
its class is not to be retried, no other worker stands by and no repair of its structure is left. -/
structure KeepsRetryRules (s : ControlPlane) (task : Task) (job : WorkerJob)
    (result : WorkerResult) : Prop where
  reported : LeftToHandling task job result → isNonRetryable (failureClassOf result) = false →
    getFailoverWorker job.stage job.workerType = none →
    ∀ count, result.retryCount = some count → trackedRetries s task.taskId job.stage ≤ count
  noFailover : LeftToHandling task job result → isNonRetryable (failureClassOf result) = true →
    getFailoverWorker job.stage job.workerType = none
  noRepair : detectAuthorityConflict result task = none → schemaErrors result ≠ [] →
    isNonRetryable (failureClassOf result) = true →
    maxRetriesOf job ≤ trackedRetries s task.taskId job.stage

def RetryRulesKept (sys : System) (call : Call) : Prop :=
  ∀ s taskId result, (s, taskId, result) ∈ triedResults call sys.store →
    ∀ task job, Delivery s taskId result task job → result.status = .failed →
      KeepsRetryRules s task job result

section answers

variable {env : Env} {s : ControlPlane} {task : Task} {job : WorkerJob} {result : WorkerResult}

theorem leftToHandling_of_valid (hstatus : result.status ≠ .succeeded)
    (hvalid : (validateResult result task job).valid = true) : LeftToHandling task job result := by
  unfold validateResult at hvalid
  cases hauthority : detectAuthorityConflict result task with
  | some message => simp [hauthority] at hvalid
  | none =>
    simp only [hauthority] at hvalid
    split_ifs at hvalid with hschema hsemantic
    exact ⟨hauthority, not_not.mp hschema,
      (semanticErrors_eq_nil_iff hstatus job.stage).mp (not_not.mp hsemantic)⟩

/-- What an answer says of retries: it promises none and counts none, or it promises one and counts it
on a number that is not below the tracked one and below the limit. -/
inductive RetryEffect (s : ControlPlane) (task : Task) (job : WorkerJob) (a : ResultAnswer) : Prop
  | uncounted : a.nextAction ≠ .retry → a.retryCount = none → RetryEffect s task job a
  | counted (count : Int) : a.nextAction = .retry → a.retryCount = some (count + 1) →
      trackedRetries s task.taskId job.stage ≤ count → count < maxRetriesOf job →
      RetryEffect s task job a

theorem retryEffect_validation {errors : List ValidationError} :
    RetryEffect s task job (validationAnswer s task job result errors) := by
  unfold validationAnswer
  dsimp only
  split_ifs with hretries hgate
  · rw [retriesValidation, Bool.and_eq_true] at hretries
    exact .counted (trackedRetries s task.taskId job.stage) rfl rfl (Int.le_refl _)
      (shouldRetry_lt hretries.2)
  · exact .uncounted (by rintro ⟨⟩) rfl
  · exact .uncounted (by rintro ⟨⟩) rfl

theorem retryEffect_failed {taskUpdates : TaskUpdate}
    (hreported : isNonRetryable (failureClassOf result) = false →
      getFailoverWorker job.stage job.workerType = none →
      ∀ count, result.retryCount = some count → trackedRetries s task.taskId job.stage ≤ count) :
    RetryEffect s task job (failedAnswer env s task job result taskUpdates) := by
  unfold failedAnswer
  cases s.doomLoopDetector.detectLoop job.jobId with
  | some loopType => exact .uncounted (by rintro ⟨⟩) rfl
  | none =>
    cases hworker : getFailoverWorker job.stage job.workerType with
    | some nextWorker => exact .uncounted (by rintro ⟨⟩) rfl
    | none =>
      dsimp only
      split_ifs with hretry
      · have hclass : isNonRetryable (failureClassOf result) = false := by
          cases hfailure : failureClassOf result <;> simp_all [isNonRetryable, shouldRetry]
        refine .counted (currentRetryCountOf s task job result) rfl rfl ?_ (shouldRetry_lt hretry)
        cases hcount : result.retryCount with
        | none =>
          rw [currentRetryCountOf, hcount]
          exact Int.le_refl _
        | some count =>
          rw [currentRetryCountOf, hcount]
          exact hreported hclass hworker count hcount
      · unfold finalFailureAnswer
        dsimp only
        split_ifs
        · exact .uncounted (by rintro ⟨⟩) rfl
        · exact .uncounted (by rintro ⟨⟩) rfl

theorem retryEffect_succeeded {taskUpdates : TaskUpdate} :
    RetryEffect s task job (succeededAnswer task job result taskUpdates) := by
  unfold succeededAnswer
  cases job.stage with
  | plan => exact .uncounted (by rintro ⟨⟩) rfl
  | dev => exact .uncounted (by rintro ⟨⟩) rfl
  | acceptance =>
    dsimp only
    split_ifs
    · exact .uncounted (by rintro ⟨⟩) rfl
    · exact .uncounted (by rintro ⟨⟩) rfl

theorem retryEffect_result (hrules : result.status = .failed → KeepsRetryRules s task job result) :
    RetryEffect s task job (resultAnswer env s result task job) := by
  unfold resultAnswer
  dsimp only
  cases hvalid : (validateResult result task job).valid with
  | false =>
    simp only [Bool.not_false, if_true]
    exact retryEffect_validation
  | true =>
    simp only [Bool.not_true, Bool.false_eq_true, if_false]
    cases hstatus : result.status with
    | blocked => exact .uncounted (by rintro ⟨⟩) rfl
    | failed =>
      have hleft := leftToHandling_of_valid (by simp [hstatus]) hvalid
      exact retryEffect_failed ((hrules hstatus).reported hleft)
    | succeeded => exact retryEffect_succeeded

end answers

section tracker

/-- Retries are counted up, and not beyond the limit of their stage. -/
structure TrackerGrows (s s' : ControlPlane) : Prop where
  grows : ∀ taskId stage, trackedRetries s taskId stage ≤ trackedRetries s' taskId stage
  bounded : ∀ taskId stage, trackedRetries s taskId stage ≤ getDefaultMaxRetries stage →
    trackedRetries s' taskId stage ≤ getDefaultMaxRetries stage

variable {env : Env} {s s' s'' : ControlPlane} {task : Task} {job : WorkerJob}
  {result : WorkerResult} {taskId : String}

theorem TrackerGrows.of_eq (h : s'.retryTracker = s.retryTracker) : TrackerGrows s s' := by
  have hsame : ∀ taskId stage, trackedRetries s' taskId stage = trackedRetries s taskId stage :=
    fun taskId stage => by rw [trackedRetries, h, trackedRetries]
  exact ⟨fun taskId stage => Int.le_of_eq (hsame taskId stage).symm,
    fun taskId stage hbounded => Int.le_trans (Int.le_of_eq (hsame taskId stage)) hbounded⟩

theorem TrackerGrows.trans (h : TrackerGrows s s') (h' : TrackerGrows s' s'') : TrackerGrows s s'' :=
  ⟨fun taskId stage => Int.le_trans (h.grows taskId stage) (h'.grows taskId stage),
    fun taskId stage hbounded => h'.bounded taskId stage (h.bounded taskId stage hbounded)⟩

theorem afterDelivery_tracker (hlimits : AttemptLimits s)
    (hdelivery : Delivery s taskId result task job)
    (hrules : result.status = .failed → KeepsRetryRules s task job result) :
    TrackerGrows s (afterDelivery env s result task job) ∧
      ((deliveryAnswer env s result task job).nextAction = .retry →
        trackedRetries s task.taskId job.stage + 1 ≤
          trackedRetries (afterDelivery env s result task job) task.taskId job.stage) := by
  have heffect : RetryEffect (s.setResult result) task job (deliveryAnswer env s result task job) :=
    retryEffect_result fun hstatus =>
      ⟨(hrules hstatus).reported, (hrules hstatus).noFailover, (hrules hstatus).noRepair⟩
  have hmax : maxRetriesOf job = getDefaultMaxRetries job.stage := hlimits.maxRetries _ _ hdelivery.job
  have htracker := @afterDelivery_retryTracker env s result task job
  cases heffect with
  | uncounted hnext hcount =>
    rw [hcount] at htracker
    exact ⟨.of_eq htracker, fun hretry => absurd hretry hnext⟩
  | counted count _ hcount hgrows hbound =>
    rw [hcount] at htracker
    have htracked : ∀ taskId stage, trackedRetries (afterDelivery env s result task job) taskId stage =
        if (taskId, stage) = (task.taskId, job.stage) then count + 1
        else trackedRetries s taskId stage := by
      intro taskId stage
      rw [trackedRetries, htracker, InsertionMap.get?_set]
      split_ifs
      · rfl
      · rfl
    have hgrows : trackedRetries s task.taskId job.stage ≤ count := hgrows
    refine ⟨⟨fun taskId stage => ?_, fun taskId stage hbounded => ?_⟩, fun _ => ?_⟩
    · rw [htracked]
      split_ifs with hkey
      · obtain ⟨rfl, rfl⟩ := Prod.mk.inj hkey
        omega
      · exact Int.le_refl _
    · rw [htracked]
      split_ifs with hkey
      · obtain ⟨rfl, rfl⟩ := Prod.mk.inj hkey
        omega
      · exact hbounded
    · rw [htracked, if_pos rfl]
      omega

theorem deliver_tracker (hlimits : AttemptLimits s)
    (hrules : ∀ task job, Delivery s taskId result task job → result.status = .failed →
      KeepsRetryRules s task job result) : TrackerGrows s (deliver env s taskId result) := by
  by_cases hdelivery : ∃ task job, Delivery s taskId result task job
  · obtain ⟨task, job, hdelivery⟩ := hdelivery
    rw [deliver, applyResult_delivered hdelivery]
    exact (afterDelivery_tracker hlimits hdelivery (hrules task job hdelivery)).1
  · rw [deliver, applyResult_ignored env hdelivery]
    exact .of_eq rfl

variable {sys sys' : System} {call : Call}

theorem handedOver_tracker (hlimits : ∀ p ∈ triedResults call sys.store, AttemptLimits p.1)
    (hrules : RetryRulesKept sys call)
    (hhanded : handedOver? call sys.store = some (s, taskId, result)) :
    TrackerGrows sys.store s := by
  obtain ⟨env, op⟩ := call
  cases op with
  | applyResult taskId' result' =>
    obtain ⟨rfl, _⟩ : sys.store = s ∧ taskId' = taskId ∧ result' = result := by
      simpa [handedOver?] using hhanded
    exact .of_eq rfl
  | settlePoll job outcome =>
    rcases mem_triedResults_settlePoll.mp (mem_triedResults_of_handedOver hhanded) with
      ⟨_, _, htried⟩ | ⟨s₁, failureSummary, hfailure, htried⟩
    · obtain ⟨rfl, _⟩ := Prod.mk.inj htried
      exact .of_eq rfl
    · obtain ⟨rfl, _⟩ := Prod.mk.inj htried
      rcases pollFailure_cases hfailure with rfl | ⟨result₀, rfl, -, rfl⟩
      · exact .of_eq rfl
      · have htried₀ : (polled sys.store job, job.taskId, result₀) ∈
            triedResults ⟨env, .settlePoll job (.ok result₀)⟩ sys.store :=
          mem_triedResults_settlePoll.mpr (Or.inl ⟨result₀, rfl, rfl⟩)
        have hdelivered : TrackerGrows (polled sys.store job)
            (deliver env (polled sys.store job) job.taskId result₀) :=
          deliver_tracker (hlimits _ htried₀) (hrules _ _ _ htried₀)
        exact ⟨hdelivered.grows, hdelivered.bounded⟩
  | _ => simp [handedOver?] at hhanded

theorem appliedResult?_delivery {r : AppliedResult}
    (happlied : appliedResult? call sys.store = some r) :
    ∃ s taskId result, handedOver? call sys.store = some (s, taskId, result) ∧
      Delivery s taskId result r.task r.job ∧ r.result = result ∧
      r.answer call.env = deliveryAnswer call.env s result r.task r.job := by
  obtain ⟨⟨s, taskId, result⟩, hhanded, haccepted⟩ := Option.bind_eq_some_iff.mp happlied
  obtain ⟨hdelivery, hstore, hresult, _⟩ := acceptedResult?_eq_some haccepted
  exact ⟨s, taskId, result, hhanded, hdelivery, hresult,
    by rw [AppliedResult.answer, hstore, hresult]⟩

theorem handedOver?_eq_none (h : appliesResult call.op = false) : handedOver? call s = none := by
  obtain ⟨env, op⟩ := call
  cases op with
  | applyResult _ _ | settlePoll _ _ => cases h
  | _ => rfl

theorem tracker_of_step (hrun : AttemptLimits sys.store) (hwired : Wired sys)
    (hrules : RetryRulesKept sys call) (hstep : controlPlane.step sys call sys') :
    TrackerGrows sys.store sys'.store ∧ ∀ taskId stage, retryAnswered taskId stage sys call = true →
        trackedRetries sys.store taskId stage + 1 ≤ trackedRetries sys'.store taskId stage := by
  obtain ⟨henabled, rfl⟩ := step_iff.mp hstep
  cases happlies : appliesResult call.op with
  | false =>
    refine ⟨.of_eq (retryTracker_perform happlies), fun taskId stage hanswered => ?_⟩
    obtain ⟨r, happlied, _⟩ := (Option.any_eq_true _ _).mp hanswered
    obtain ⟨_, _, _, hhanded, _⟩ := appliedResult?_delivery happlied
    rw [handedOver?_eq_none happlies] at hhanded
    cases hhanded
  | true =>
    obtain ⟨s₁, taskId, result, hhanded, htracker⟩ :
        ∃ s₁ taskId result, handedOver? call sys.store = some (s₁, taskId, result) ∧
          (sys.perform call).store.retryTracker =
            (deliver call.env s₁ taskId result).retryTracker := retryTracker_handedOver happlies
    have hlimits : ∀ p ∈ triedResults call sys.store, AttemptLimits p.1 :=
      fun p hp => hrun.tried hwired henabled hp
    have htried := mem_triedResults_of_handedOver hhanded
    have hbefore := handedOver_tracker hlimits hrules hhanded
    have hafter : TrackerGrows s₁ (deliver call.env s₁ taskId result) :=
      deliver_tracker (hlimits _ htried) (hrules _ _ _ htried)
    refine ⟨(hbefore.trans hafter).trans (.of_eq htracker), fun taskId' stage hanswered => ?_⟩
    obtain ⟨r, happlied, hchecks⟩ := (Option.any_eq_true _ _).mp hanswered
    simp only [Bool.and_eq_true, decide_eq_true_eq] at hchecks
    obtain ⟨⟨rfl, rfl⟩, hretry⟩ := hchecks
    obtain ⟨s₂, taskId₂, result₂, hhanded₂, hdelivery, _, hanswer⟩ := appliedResult?_delivery happlied
    obtain ⟨rfl, rfl, rfl⟩ : s₁ = s₂ ∧ taskId = taskId₂ ∧ result = result₂ := by
      simpa using hhanded.symm.trans hhanded₂
    have hcounted := (afterDelivery_tracker (hlimits _ htried) hdelivery
      (hrules _ _ _ htried _ _ hdelivery)).2 (hanswer ▸ hretry)
    have hfinal : trackedRetries (sys.perform call).store r.task.taskId r.job.stage =
        trackedRetries (afterDelivery call.env s₁ result r.task r.job) r.task.taskId r.job.stage := by
      rw [trackedRetries, htracker, deliver, applyResult_delivered hdelivery]
      rfl
    rw [hfinal]
    exact Int.le_trans (Int.add_le_add_right (hbefore.grows _ _) 1) hcounted

end tracker

section failures

variable {env : Env} {s : ControlPlane} {task : Task} {job : WorkerJob} {result : WorkerResult}

theorem schemaErrors_of_retriesValidation
    (h : retriesValidation s task job (validateResult result task job).errors = true) :
    detectAuthorityConflict result task = none ∧ schemaErrors result ≠ [] := by
  unfold validateResult at h
  cases hauthority : detectAuthorityConflict result task with
  | some message =>
    simp [hauthority, retriesValidation, isRetryableSchemaError, isPolicyViolation, errors] at h
  | none =>
    refine ⟨rfl, fun hschema => ?_⟩
    have hnone : retriesValidation s task job (semanticErrors result job.stage task.riskLevel) =
        false := semanticErrors_not_retried s
    by_cases hsemantic : semanticErrors result job.stage task.riskLevel = []
    · simp [hauthority, hschema, hsemantic, errors, retriesValidation, isRetryableSchemaError] at h
    · simp only [hauthority, hschema, hsemantic, ne_eq, not_true_eq_false, not_false_eq_true,
        if_true, if_false, errors, List.nil_append, List.append_nil, hnone] at h
      cases h

theorem not_triedAgain (hrules : KeepsRetryRules s task job result) (hstatus : result.status = .failed)
    (hclass : isNonRetryable (failureClassOf result) = true) :
    (resultAnswer env s result task job).nextAction ≠ .retry ∧
      (resultAnswer env s result task job).nextAction ≠ .failover := by
  unfold resultAnswer
  dsimp only
  cases hvalid : (validateResult result task job).valid with
  | false =>
    simp only [Bool.not_false, if_true]
    have hretries : retriesValidation s task job (validateResult result task job).errors = false := by
      by_contra hretries
      rw [Bool.not_eq_false] at hretries
      obtain ⟨hauthority, hschema⟩ := schemaErrors_of_retriesValidation hretries
      have hcount := hrules.noRepair hauthority hschema hclass
      rw [retriesValidation, Bool.and_eq_true] at hretries
      exact Int.not_lt.mpr hcount (shouldRetry_lt hretries.2)
    unfold validationAnswer
    dsimp only
    rw [if_neg (by simp [hretries])]
    split_ifs
    · exact ⟨by rintro ⟨⟩, by rintro ⟨⟩⟩
    · exact ⟨by rintro ⟨⟩, by rintro ⟨⟩⟩
  | true =>
    have hleft := leftToHandling_of_valid (by simp [hstatus]) hvalid
    have hretry : ∀ count, shouldRetry (failureClassOf result) count (maxRetriesOf job) = false := by
      intro count
      cases hfailure : failureClassOf result <;> simp_all [isNonRetryable, shouldRetry]
    simp only [Bool.not_true, Bool.false_eq_true, if_false, hstatus]
    unfold failedAnswer
    rw [hrules.noFailover hleft hclass]
    cases s.doomLoopDetector.detectLoop job.jobId with
    | some loopType => exact ⟨by rintro ⟨⟩, by rintro ⟨⟩⟩
    | none =>
      dsimp only
      rw [if_neg (by simp [hretry])]
      unfold finalFailureAnswer
      dsimp only
      split_ifs
      · exact ⟨by rintro ⟨⟩, by rintro ⟨⟩⟩
      · exact ⟨by rintro ⟨⟩, by rintro ⟨⟩⟩

end failures

/-- What a run has counted of the retries it answered. -/
def RetriesCounted (h : History System Call) (sys : System) : Prop := ∀ taskId stage,
    ((h.countP fun p => retryAnswered taskId stage p.1 p.2 : Nat) : Int) ≤
      trackedRetries sys.store taskId stage ∧
    trackedRetries sys.store taskId stage ≤ getDefaultMaxRetries stage

theorem retriesCounted_of_run {h : History System Call} {sys : System}
    (hrun : controlPlane.Run h sys) (hrules : Machine.Steps RetryRulesKept h) :
    RetriesCounted h sys := by
  refine Machine.Run.invariant (I := RetriesCounted) ?_ ?_ hrun hrules
  · rintro _ ⟨_, _, _, rfl⟩ taskId stage
    exact ⟨Int.le_refl _, Int.natCast_nonneg _⟩
  · intro h sys call sys' hrun _ hcounted hrules hstep taskId stage
    obtain ⟨hgrows, hanswered⟩ :=
      tracker_of_step (attemptLimits_of_run hrun) (wired_of_run hrun) hrules hstep
    obtain ⟨hcount, hmax⟩ := hcounted taskId stage
    refine ⟨?_, hgrows.bounded taskId stage hmax⟩
    rw [List.countP_append, List.countP_singleton]
    split_ifs with hanswer
    · have hmore := hanswered taskId stage hanswer
      push_cast
      omega
    · have hmore := hgrows.grows taskId stage
      push_cast
      omega

/-- In every run whose failed results keep the rules, the retries of a stage are bounded and failures
that are not to be retried are not tried again. -/
theorem retries_bounded {h : History System Call} {sys : System} (hrun : controlPlane.Run h sys)
    (hrules : Machine.Steps RetryRulesKept h) : RetriesBounded h ∧ NeverTriedAgain h := by
  constructor
  · rintro taskId stage before between after rfl _
    obtain ⟨hcount, hmax⟩ := retriesCounted_of_run hrun hrules taskId stage
    rw [List.countP_append, List.countP_append] at hcount
    omega
  · rintro ⟨sys₀, call⟩ hp r happlied hstatus hclass
    obtain ⟨s, taskId, result, hhanded, hdelivery, hresult, hanswer⟩ :=
      appliedResult?_delivery happlied
    rw [hresult] at hstatus hclass
    have hkept := hrules _ hp _ _ _ (mem_triedResults_of_handedOver hhanded) _ _ hdelivery hstatus
    rw [hanswer]
    exact not_triedAgain ⟨hkept.reported, hkept.noFailover, hkept.noRepair⟩ hstatus hclass

def plainFailures (sys : System) (call : Call) : Bool :=
  (triedResults call sys.store).all fun p => p.2.2.status ≠ .failed ||
    (p.2.2.retryCount = none && !isNonRetryable (failureClassOf p.2.2))

theorem retryRulesKept_of_plainFailures {sys : System} {call : Call}
    (h : plainFailures sys call = true) : RetryRulesKept sys call := by
  intro s taskId result htried task job _ hstatus
  have hplain := List.all_eq_true.mp h _ htried
  simp only [hstatus, ne_eq, not_true_eq_false, decide_false, Bool.false_or, Bool.and_eq_true,
    decide_eq_true_eq, Bool.not_eq_true'] at hplain
  obtain ⟨hcount, hclass⟩ := hplain
  refine ⟨fun _ _ _ count hsome => ?_, fun _ hnever => ?_, fun _ _ hnever => ?_⟩
  · rw [hcount] at hsome
    cases hsome
  · rw [hclass] at hnever
    cases hnever
  · rw [hclass] at hnever
    cases hnever

/-- A development that fails once and is retried keeps the bound. -/
theorem retried_development_bounded : ∃ h sys, controlPlane.Run h sys ∧
    (h.countP fun p => retryAnswered "task_0" .dev p.1 p.2) = 1 ∧ RetriesBounded h ∧
      NeverTriedAgain h := by
  obtain ⟨h, sys, hrun, htest⟩ := exists_run_of_play
    (developingScript ++ [line "2" (.applyResult "task_0" (sampleResult "job_1" .failed))])
    (fun p => (p.1.countP fun q => retryAnswered "task_0" .dev q.1 q.2) = 1 &&
      p.1.all fun q => plainFailures q.1 q.2) (by decide +kernel)
  rw [Bool.and_eq_true, List.all_eq_true] at htest
  obtain ⟨hcount, hplain⟩ := htest
  exact ⟨h, sys, hrun, of_decide_eq_true hcount, retries_bounded hrun fun p hp =>
    retryRulesKept_of_plainFailures (hplain p hp)⟩

def forgetfulFailure : WorkerResult := { sampleResult "job_1" .failed with retryCount := some 0 }

def forbiddenFailure : WorkerResult :=
  { sampleResult "job_0" .failed with failureClass := some .nonRetryablePolicy }

/-- A development is retried four times of three, and a plan that broke a policy fails over. -/
theorem retries_exceeded : (∃ h sys, controlPlane.Run h sys ∧ ¬RetriesBounded h) ∧
      ∃ h sys, controlPlane.Run h sys ∧ ¬NeverTriedAgain h := by
  constructor
  · obtain ⟨h, sys, hrun, htest⟩ := exists_run_of_play
      (developingScript ++ List.replicate 4 (line "2" (.applyResult "task_0" forgetfulFailure)))
      (fun p => (p.1.countP fun q => retryAnswered "task_0" .dev q.1 q.2) = 4 &&
        p.1.all fun q => !stageSucceeded "task_0" .dev q.1 q.2) (by decide +kernel)
    rw [Bool.and_eq_true, List.all_eq_true] at htest
    obtain ⟨hcount, hfailed⟩ := htest
    refine ⟨h, sys, hrun, fun hbounded => ?_⟩
    have hle := hbounded "task_0" .dev [] h [] (by simp) fun p hp => by simpa using hfailed p hp
    rw [of_decide_eq_true hcount] at hle
    exact absurd hle (by decide)
  · obtain ⟨h, sys, hrun, htest⟩ := exists_run_of_play
      [line "0" (.createTask sampleRequest), dispatchLine "0" .plan, settleLine submitted,
        line "1" (.applyResult "task_0" forbiddenFailure)]
      (fun p => p.1.any fun q => (appliedResult? q.2 q.1.store).any fun r =>
        r.result.status = .failed && isNonRetryable (failureClassOf r.result) &&
          (r.answer q.2.env).nextAction = .failover) (by decide +kernel)
    obtain ⟨p, hp, htest⟩ := List.any_eq_true.mp htest
    obtain ⟨r, happlied, hchecks⟩ := (Option.any_eq_true _ _).mp htest
    simp only [Bool.and_eq_true, decide_eq_true_eq] at hchecks
    obtain ⟨⟨hstatus, hclass⟩, hfailover⟩ := hchecks
    exact ⟨h, sys, hrun, fun hnever => (hnever p hp r happlied hstatus hclass).2 hfailover⟩

end ShipyardCp.Properties
