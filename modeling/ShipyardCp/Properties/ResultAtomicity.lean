import ShipyardCp.Store.Application

/-! Whether manual acceptance that is refused leaves the task as it was. -/

namespace ShipyardCp.Properties

open Types Domain Lib Store ResultAnswer

section acceptance

variable {env : Env} {s : ControlPlane} {taskId : String} {task : Task}
  {request : CompleteAcceptanceRequest}

def KeepsTaskOnThrow {α : Type} (p : StoreM α) (taskId : String) (s : ControlPlane) : Prop :=
  thrown? p s ≠ none → (finalState p s).task? taskId = s.task? taskId

theorem wp_keepsTask_iff {α : Type} {p : StoreM α} :
    wp p (onThrow fun s' => s'.task? taskId = s.task? taskId) s ↔ KeepsTaskOnThrow p taskId s :=
  wp_onThrow_iff

theorem keepsTask_of_not_accepting (htask : s.task? taskId = some task)
    (hstate : task.state ≠ .accepting) :
    KeepsTaskOnThrow (completeAcceptance env taskId request) taskId s := by
  refine wp_keepsTask_iff.mp ?_
  simp [completeAcceptance, htask, hstate]

theorem keepsTask_of_accepted (htask : s.task? taskId = some task)
    (hstate : task.state = .accepting) (hgates : AcceptanceGates env.now task request) :
    KeepsTaskOnThrow (completeAcceptance env taskId request) taskId s := by
  refine wp_keepsTask_iff.mp ?_
  have hnone := (acceptanceRefusal_eq_none_iff hstate).mpr hgates
  have hcan : canTransition (acceptedCandidate env.now task request).state .accepted = true := by
    simp [acceptedCandidate, hstate, canTransition, allowedTransitions]
  by_cases hwrites : writesChecklist task request = true <;>
  simp [completeAcceptance, htask, hstate, hwrites, hnone, hcan]

theorem keepsTask_refused_iff (htask : s.task? taskId = some task)
    (hstate : task.state = .accepting) (hgates : ¬ AcceptanceGates env.now task request) :
    KeepsTaskOnThrow (completeAcceptance env taskId request) taskId s ↔
      writesChecklist task request = false := by
  have hid := s.task?_taskId htask
  rw [← wp_keepsTask_iff]
  cases hrefusal : acceptanceRefusal env.now task request with
  | none => exact absurd ((acceptanceRefusal_eq_none_iff hstate).mp hrefusal) hgates
  | some message =>
    cases hwrites : writesChecklist task request with
    | false => simp [completeAcceptance, htask, hstate, hwrites, hrefusal]
    | true =>
      have hversion : checklistWritten env task request ≠ task := by
        intro h
        have hcount : task.version + 1 = task.version := congrArg Task.version h
        omega
      simpa [completeAcceptance, htask, hstate, hwrites, hrefusal, ControlPlane.setTask_task?,
        checklistWritten, hid] using hversion

/-- Manual acceptance that throws keeps the task exactly when the task is not accepting, or has no
checklist, or the request checks no items, or every gate is met. -/
theorem completeAcceptance_atomic_iff (env : Env) (s : ControlPlane) (taskId : String)
    (request : CompleteAcceptanceRequest) :
    KeepsTaskOnThrow (completeAcceptance env taskId request) taskId s ↔
      ∀ task, s.task? taskId = some task → task.state = .accepting →
        writesChecklist task request = true → AcceptanceGates env.now task request := by
  cases htask : s.task? taskId with
  | none =>
    refine iff_of_true (wp_keepsTask_iff.mp ?_) (by simp)
    simp [completeAcceptance, htask]
  | some task =>
    simp only [Option.some.injEq, forall_eq']
    by_cases hstate : task.state = .accepting
    swap
    · exact iff_of_true (keepsTask_of_not_accepting htask hstate) fun h => absurd h hstate
    by_cases hgates : AcceptanceGates env.now task request
    · exact iff_of_true (keepsTask_of_accepted htask hstate hgates) fun _ _ => hgates
    · rw [keepsTask_refused_iff htask hstate hgates, ← Bool.not_eq_true]
      exact ⟨fun h _ hwrites => absurd hwrites h, fun h hwrites => hgates (h hstate hwrites)⟩

def checkOne : CompleteAcceptanceRequest where
  checkedItems := some [⟨"tests-passed", some "operator", none⟩]
  verdict := none

/-- A request refused for two missing items leaves the third one checked and a new version. -/
theorem refused_acceptance_written : ∃ h sys, controlPlane.Run h sys ∧
    ¬ KeepsTaskOnThrow (completeAcceptance (sampleEnv "3") "task_0" checkOne) "task_0"
      sys.store := by
  obtain ⟨h, sys, hrun, htest⟩ := exists_run_of_play (acceptingScript sampleRequest)
    (fun p => (thrown? (completeAcceptance (sampleEnv "3") "task_0" checkOne) p.2.store).isSome &&
      decide (((finalState (completeAcceptance (sampleEnv "3") "task_0" checkOne)
        p.2.store).task? "task_0").map (·.version) ≠
          (p.2.store.task? "task_0").map (·.version))) (by decide +kernel)
  rw [Bool.and_eq_true, decide_eq_true_eq] at htest
  obtain ⟨hthrown, hversions⟩ := htest
  refine ⟨h, sys, hrun, fun hkeeps => hversions ?_⟩
  rw [hkeeps (Option.isSome_iff_ne_none.mp hthrown)]

end acceptance

/-! Whether a result that is refused with an error leaves everything as it was. -/

/-- The tasks, their logs, the results, the retry counts, the leases and the slots are the same. -/
structure SameBooks (s s' : ControlPlane) : Prop where
  tasks : s'.tasks = s.tasks
  events : s'.events = s.events
  results : s'.results = s.results
  retryTracker : s'.retryTracker = s.retryTracker
  leaseManager : s'.leaseManager = s.leaseManager
  concurrencyManager : s'.concurrencyManager = s.concurrencyManager

def RefusesCleanly (env : Env) (taskId : String) (result : WorkerResult) (s : ControlPlane) : Prop :=
  thrown? (applyResult env taskId result) s ≠ none →
    SameBooks s (finalState (applyResult env taskId result) s)

def failsOver (s : ControlPlane) (task : Task) (job : WorkerJob) (result : WorkerResult) : Bool :=
  (validateResult result task job).valid && result.status = .failed &&
    (s.doomLoopDetector.detectLoop job.jobId).isNone &&
    (getFailoverWorker job.stage job.workerType).isSome

def retryStart (s : ControlPlane) (task : Task) (job : WorkerJob) (result : WorkerResult) : Int :=
  if (validateResult result task job).valid then currentRetryCountOf s task job result
  else (s.retryTracker.get? (task.taskId, job.stage)).getD 0

/-- The state in which a result ends its stage. -/
def endState (task : Task) (job : WorkerJob) (result : WorkerResult) : TaskState :=
  if (validateResult result task job).valid && result.status = .succeeded then
    match job.stage with
    | .plan => .planned
    | .dev => .devCompleted
    | .acceptance => .reworkRequired
  else .reworkRequired

/-- The state a result asks for; the evidence of an acceptance asks for none. -/
def requestedState (s : ControlPlane) (task : Task) (job : WorkerJob) (result : WorkerResult) :
    Option TaskState :=
  if resumesStage s task job result then some (stageToActiveState job.stage)
  else if blocksTask s task job result then some .blocked
  else if keepsState s task job result then none
  else some (endState task job result)

/-- What the orchestrator asks for, and what it writes before it asks. -/
structure AnswerRequest (s : ControlPlane) (task : Task) (job : WorkerJob) (result : WorkerResult)
    (a : ResultAnswer) : Prop where
  move : a.move.map Prod.fst = requestedState s task job result
  releaseFirst : a.releaseFirst = failsOver s task job result
  retryCount : a.retryCount =
    if resumesStage s task job result && !failsOver s task job result then
      some (retryStart s task job result + 1)
    else none

section answers

variable {env : Env} {s : ControlPlane} {task : Task} {job : WorkerJob} {result : WorkerResult}

theorem answerRequest_validation (hvalid : (validateResult result task job).valid = false) :
    AnswerRequest s task job result
      (validationAnswer s task job result (validateResult result task job).errors) := by
  have hfailsOver : failsOver s task job result = false := by simp [failsOver, hvalid]
  unfold validationAnswer
  dsimp only
  by_cases hretries : retriesValidation s task job (validateResult result task job).errors = true
  · have hresumes : resumesStage s task job result = true := by
      simp [resumesStage, hvalid, hretries]
    rw [if_pos hretries]
    exact ⟨by simp [requestedState, hresumes], by simp [hfailsOver],
      by simp [hresumes, hfailsOver, retryStart, hvalid]⟩
  · have hresumes : resumesStage s task job result = false := by
      simp [resumesStage, hvalid, hretries]
    rw [if_neg hretries]
    by_cases hgate : needsManualGate job (validateResult result task job).errors = true
    · have hblocks : blocksTask s task job result = true := by
        simp [blocksTask, keepsState, hvalid, hretries, hgate]
      rw [if_pos hgate]
      exact ⟨by simp [requestedState, hresumes, hblocks], by simp [hfailsOver],
        by simp [hresumes]⟩
    · have hkeeps : keepsState s task job result = false := by
        simp [keepsState, hvalid, hgate]
      rw [if_neg hgate]
      exact ⟨by simp [requestedState, hresumes, blocksTask, hkeeps, endState, hvalid],
        by simp [hfailsOver], by simp [hresumes]⟩

theorem answerRequest_failed {taskUpdates : TaskUpdate}
    (hvalid : (validateResult result task job).valid = true) (hstatus : result.status = .failed) :
    AnswerRequest s task job result (failedAnswer env s task job result taskUpdates) := by
  have hblocks : blocksTask s task job result = keepsState s task job result := by
    simp [blocksTask, hstatus]
  have hend : endState task job result = .reworkRequired := by simp [endState, hstatus]
  unfold failedAnswer
  cases hloop : s.doomLoopDetector.detectLoop job.jobId with
  | some loopType =>
    have hresumes : resumesStage s task job result = false := by simp [resumesStage, hvalid, hloop]
    have hkeeps : keepsState s task job result = true := by simp [keepsState, hvalid, hstatus, hloop]
    exact ⟨by simp [doomLoopAnswer, requestedState, hresumes, hblocks, hkeeps],
      by simp [doomLoopAnswer, failsOver, hloop], by simp [doomLoopAnswer, hresumes]⟩
  | none =>
    cases hworker : getFailoverWorker job.stage job.workerType with
    | some nextWorker =>
      have hresumes : resumesStage s task job result = true := by
        simp [resumesStage, hvalid, hstatus, hloop, hworker]
      have hfailsOver : failsOver s task job result = true := by
        simp [failsOver, hvalid, hstatus, hloop, hworker]
      exact ⟨by simp [failoverAnswer, requestedState, hresumes], by simp [failoverAnswer, hfailsOver],
        by simp [failoverAnswer, hfailsOver]⟩
    | none =>
      have hfailsOver : failsOver s task job result = false := by simp [failsOver, hworker]
      dsimp only
      by_cases hretry : shouldRetry (failureClassOf result) (currentRetryCountOf s task job result)
          (maxRetriesOf job) = true
      · have hresumes : resumesStage s task job result = true := by
          simp [resumesStage, hvalid, hstatus, hloop, hretry]
        rw [if_pos hretry]
        exact ⟨by simp [retryAnswer, requestedState, hresumes], by simp [retryAnswer, hfailsOver],
          by simp [retryAnswer, hresumes, hfailsOver, retryStart, hvalid]⟩
      · have hresumes : resumesStage s task job result = false := by
          simp [resumesStage, hvalid, hloop, hworker, hretry]
        rw [if_neg hretry, finalFailureAnswer]
        dsimp only
        by_cases hattempt : previousReworkAttempt task job ≥ maxReworkAttempts
        · have hkeeps : keepsState s task job result = true := by
            simp [keepsState, hvalid, hstatus, hloop, hworker, hretry, hattempt]
          rw [if_pos hattempt]
          exact ⟨by simp [requestedState, hresumes, hblocks, hkeeps], by simp [hfailsOver],
            by simp [hresumes]⟩
        · have hkeeps : keepsState s task job result = false := by
            simp [keepsState, hvalid, hstatus, hloop, hattempt]
          rw [if_neg hattempt]
          exact ⟨by simp [requestedState, hresumes, hblocks, hkeeps, hend], by simp [hfailsOver],
            by simp [hresumes]⟩

theorem answerRequest_succeeded {taskUpdates : TaskUpdate}
    (hvalid : (validateResult result task job).valid = true) (hstatus : result.status = .succeeded) :
    AnswerRequest s task job result (succeededAnswer task job result taskUpdates) := by
  have hresumes : resumesStage s task job result = false := by simp [resumesStage, hvalid, hstatus]
  have hblocks : blocksTask s task job result = false := by simp [blocksTask, hvalid, hstatus]
  have hfailsOver : failsOver s task job result = false := by simp [failsOver, hstatus]
  have hcompleted : ∀ toState reason nextAction, keepsState s task job result = false →
      endState task job result = toState → AnswerRequest s task job result
        (completedAnswer job result toState reason nextAction taskUpdates) :=
    fun toState reason nextAction hkeeps hend =>
      ⟨by simp [completedAnswer, requestedState, hresumes, hblocks, hkeeps, hend],
        by simp [completedAnswer, hfailsOver], by simp [completedAnswer, hresumes]⟩
  unfold succeededAnswer
  cases hstage : job.stage with
  | plan =>
    exact hcompleted _ _ _ (by simp [keepsState, hvalid, hstatus, hstage])
      (by simp [endState, hvalid, hstatus, hstage])
  | dev =>
    exact hcompleted _ _ _ (by simp [keepsState, hvalid, hstatus, hstage])
      (by simp [endState, hvalid, hstatus, hstage])
  | acceptance =>
    dsimp only
    by_cases hrejected : isRejection result = true
    · rw [if_pos hrejected]
      exact hcompleted _ _ _ (by simp [keepsState, hvalid, hstatus, hrejected])
        (by simp [endState, hvalid, hstatus, hstage])
    · have hkeeps : keepsState s task job result = true := by
        simp [keepsState, hvalid, hstatus, hstage, hrejected]
      rw [if_neg hrejected]
      exact ⟨by simp [evidenceAnswer, requestedState, hresumes, hblocks, hkeeps],
        by simp [evidenceAnswer, hfailsOver], by simp [evidenceAnswer, hresumes]⟩

theorem answerRequest_result :
    AnswerRequest s task job result (resultAnswer env s result task job) := by
  unfold resultAnswer
  dsimp only
  cases hvalid : (validateResult result task job).valid with
  | false =>
    simp only [Bool.not_false, if_true]
    exact answerRequest_validation hvalid
  | true =>
    simp only [Bool.not_true, Bool.false_eq_true, if_false]
    cases hstatus : result.status with
    | blocked =>
      have hresumes : resumesStage s task job result = false := by
        simp [resumesStage, hvalid, hstatus]
      have hblocks : blocksTask s task job result = true := by
        simp [blocksTask, keepsState, hvalid, hstatus]
      exact ⟨by simp [blockedAnswer, requestedState, hresumes, hblocks],
        by simp [blockedAnswer, failsOver, hstatus], by simp [blockedAnswer, hresumes]⟩
    | failed => exact answerRequest_failed hvalid hstatus
    | succeeded => exact answerRequest_succeeded hvalid hstatus

theorem answerRequest_delivery :
    AnswerRequest s task job result (deliveryAnswer env s result task job) := by
  have hrequest : AnswerRequest (s.setResult result) task job result
      (deliveryAnswer env s result task job) := answerRequest_result
  exact ⟨hrequest.move, hrequest.releaseFirst, hrequest.retryCount⟩

end answers

def AllowsRequest (s : ControlPlane) (task : Task) (job : WorkerJob) (result : WorkerResult) : Prop :=
  ∀ toState, requestedState s task job result = some toState → canTransition task.state toState = true

/-- All that a result writes before its move is there already: it is the stored result, a failover
finds no lease of its worker, and a retry finds its own count. -/
structure WrittenBefore (s : ControlPlane) (task : Task) (job : WorkerJob) (result : WorkerResult) :
    Prop where
  stored : s.results.get? result.jobId = some result
  released : failsOver s task job result = true →
    s.leaseManager.releases job.jobId job.workerType.text = false
  counted : resumesStage s task job result = true → failsOver s task job result = false →
    s.retryTracker.get? (task.taskId, job.stage) = some (retryStart s task job result + 1)

section refusals

variable {env : Env} {s : ControlPlane} {taskId : String} {task : Task} {job : WorkerJob}
  {result : WorkerResult}

theorem allowed_delivery_iff :
    (deliveryAnswer env s result task job).allowed task = true ↔ AllowsRequest s task job result := by
  have hrequest : AnswerRequest s task job result (deliveryAnswer env s result task job) :=
    answerRequest_delivery
  unfold allowed AllowsRequest
  rw [← hrequest.move]
  cases (deliveryAnswer env s result task job).move <;> simp

theorem thrown_delivery_iff (env : Env) (hdelivery : Delivery s taskId result task job) :
    thrown? (applyResult env taskId result) s = none ↔ AllowsRequest s task job result := by
  rw [thrown?_eq_none_iff, applyResult_succeeds_iff env hdelivery, allowed_delivery_iff]

theorem release_eq_self_iff {m : LeaseManager} {jobId owner : String} :
    m.release jobId owner = m ↔ m.releases jobId owner = false := by
  unfold LeaseManager.release
  cases hreleases : m.releases jobId owner with
  | false => simp
  | true =>
    simp only [if_true, reduceCtorEq, iff_false]
    intro hsame
    have hdeleted : m.leases.get? jobId = none := by
      rw [← hsame]
      simp
    simp [LeaseManager.releases, hdeleted] at hreleases

theorem sameBooks_refused_iff (hdelivery : Delivery s taskId result task job)
    (hrefused : ¬ AllowsRequest s task job result) :
    SameBooks s (finalState (applyResult env taskId result) s) ↔ WrittenBefore s task job result := by
  have hallowed : (deliveryAnswer env s result task job).allowed task = false := by
    rw [← Bool.not_eq_true, allowed_delivery_iff]
    exact hrefused
  have hrequest : AnswerRequest s task job result (deliveryAnswer env s result task job) :=
    answerRequest_delivery
  obtain ⟨htasks, hevents⟩ := afterDelivery_refused hallowed
  have hresults : (afterDelivery env s result task job).results = _ := afterDelivery_results
  have htracker : (afterDelivery env s result task job).retryTracker = _ := afterDelivery_retryTracker
  have hslots : (afterDelivery env s result task job).concurrencyManager = s.concurrencyManager := by
    rw [afterDelivery_of_refused hallowed, prepared_concurrencyManager]
    rfl
  have hleases : (afterDelivery env s result task job).leaseManager =
      if failsOver s task job result then
        s.leaseManager.release job.jobId job.workerType.text
      else s.leaseManager := by
    rw [afterDelivery_of_refused hallowed, prepared_leases, hrequest.releaseFirst]
    rfl
  rw [hrequest.retryCount] at htracker
  rw [applyResult_delivered hdelivery]
  constructor
  · intro hsame
    refine ⟨KeyedMap.put_eq_self_iff.mp (hresults.symm.trans hsame.results), fun hfails => ?_,
      fun hresumes hfails => ?_⟩
    · rw [if_pos hfails] at hleases
      exact release_eq_self_iff.mp (hleases.symm.trans hsame.leaseManager)
    · simp only [hresumes, hfails, Bool.not_false, Bool.and_self, if_true] at htracker
      exact InsertionMap.set_eq_self_iff.mp (htracker.symm.trans hsame.retryTracker)
  · intro hwritten
    refine ⟨htasks, hevents, hresults.trans (KeyedMap.put_eq_self_iff.mpr hwritten.stored), ?_, ?_, hslots⟩
    · rw [htracker]
      split_ifs with hcounts
      · rw [Bool.and_eq_true, Bool.not_eq_true'] at hcounts
        exact InsertionMap.set_eq_self_iff.mpr (hwritten.counted hcounts.1 hcounts.2)
      · rfl
    · rw [hleases]
      split_ifs with hfails
      · exact release_eq_self_iff.mpr (hwritten.released hfails)
      · rfl

end refusals

/-- Applying a result changes nothing when it throws, exactly when every result that counts asks
for a move the state machine allows or has written nothing new before it. -/
theorem applyResult_atomic_iff (env : Env) (s : ControlPlane) (taskId : String)
    (result : WorkerResult) :
    RefusesCleanly env taskId result s ↔ ∀ task job, Delivery s taskId result task job →
        AllowsRequest s task job result ∨ WrittenBefore s task job result := by
  constructor
  · intro hclean task job hdelivery
    by_cases hallows : AllowsRequest s task job result
    · exact Or.inl hallows
    have hthrown := mt (thrown_delivery_iff env hdelivery).mp hallows
    exact Or.inr ((sameBooks_refused_iff hdelivery hallows).mp (hclean hthrown))
  · intro hcondition hthrown
    by_cases hcounts : ∃ task job, Delivery s taskId result task job
    swap
    · rw [applyResult_ignored env hcounts]
      exact ⟨rfl, rfl, rfl, rfl, rfl, rfl⟩
    obtain ⟨task, job, hdelivery⟩ := hcounts
    by_cases hallows : AllowsRequest s task job result
    · exact absurd ((thrown_delivery_iff env hdelivery).mpr hallows) hthrown
    · exact (sameBooks_refused_iff hdelivery hallows).mpr
        ((hcondition task job hdelivery).resolve_left hallows)

def cancelledPlanScript : Script :=
  [line "0" (.createTask sampleRequest), dispatchLine "0" .plan, settleLine submitted,
    line "1" (.cancel "task_0")]

/-- The late failure of the planner is refused, and stays stored without its lease. -/
theorem refused_result_stored : ∃ h sys, controlPlane.Run h sys ∧
    ¬ RefusesCleanly (sampleEnv "2") "task_0" (sampleResult "job_0" .failed) sys.store := by
  obtain ⟨h, sys, hrun, htest⟩ := exists_run_of_play cancelledPlanScript (fun p =>
      let program := applyResult (sampleEnv "2") "task_0" (sampleResult "job_0" .failed)
      (thrown? program p.2.store).isSome &&
        decide ((finalState program p.2.store).results ≠ p.2.store.results ∧
          (finalState program p.2.store).leaseManager ≠ p.2.store.leaseManager))
    (by decide +kernel)
  rw [Bool.and_eq_true, decide_eq_true_eq] at htest
  obtain ⟨hthrown, hresults, _⟩ := htest
  exact ⟨h, sys, hrun, fun hclean =>
    hresults (hclean (Option.isSome_iff_ne_none.mp hthrown)).results⟩

end ShipyardCp.Properties
