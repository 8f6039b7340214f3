import ShipyardCp.Store.Application
import ShipyardCp.Store.Wiring

/-! What a worker result does to a blocked task. Only the active job guards it, and blocking leaves
that in place. -/

namespace ShipyardCp.Properties

open Types Domain Lib Store ResultAnswer

/-- A result call leaves the blocked task blocked with its context, and does not throw after it
changed a stored result or a retry counter. -/
structure StaysBlocked (env : Env) (s : ControlPlane) (taskId : String) (result : WorkerResult)
    (task : Task) : Prop where
  blocked : ∃ task', (deliver env s taskId result).task? taskId = some task' ∧
    task'.state = .blocked ∧ (task.blockedContext.isSome → task'.blockedContext.isSome)
  atomic : returned? (applyResult env taskId result) s = none →
    (∀ jobId, (deliver env s taskId result).results.get? jobId = s.results.get? jobId) ∧
      ∀ key, (deliver env s taskId result).retryTracker.get? key = s.retryTracker.get? key

/-- The result does not count for the task, or it keeps the state of the task, or it is the stored
one and does not ask for another attempt. -/
def LeavesBlockedAlone (s : ControlPlane) (taskId : String) (result : WorkerResult) : Prop :=
  ∀ task job, Delivery s taskId result task job → keepsState s task job result = true ∨
      (resumesStage s task job result = false ∧ s.results.get? result.jobId = some result)

section delivered

variable {env : Env} {s : ControlPlane} {taskId : String} {result : WorkerResult} {task : Task}
  {job : WorkerJob}

theorem task?_delivered (hdelivery : Delivery s taskId result task job)
    (hallowed : (deliveryAnswer env s result task job).allowed task = true) :
    (deliver env s taskId result).task? taskId =
      some ((deliveryAnswer env s result task job).resultTask env task) := by
  rw [deliver, applyResult_delivered hdelivery, afterDelivery_task? taskId hallowed,
    if_pos (s.task?_taskId hdelivery.stored).symm]

theorem staysBlocked_of_keeps (hdelivery : Delivery s taskId result task job)
    (hblocked : task.state = .blocked)
    (hmove : (deliveryAnswer env s result task job).move = none ∨
      ∃ input, (deliveryAnswer env s result task job).move = some (.blocked, input)) :
    StaysBlocked env s taskId result task := by
  have hallowed : (deliveryAnswer env s result task job).allowed task = true := by
    rcases hmove with hmove | ⟨input, hmove⟩
    · simp [allowed, hmove]
    · simp only [allowed, hmove, hblocked]
      rfl
  have hcontext : task.blockedContext.isSome →
      ((deliveryAnswer env s result task job).patched env task).blockedContext.isSome := by
    intro hsome
    simp only [patched, applyTaskUpdate_blockedContext]
    cases (deliveryAnswer env s result task job).update.blockedContext with
    | none => exact hsome
    | some c => rfl
  constructor
  · refine ⟨_, task?_delivered hdelivery hallowed, ?_⟩
    unfold resultTask
    rcases hmove with hmove | ⟨input, hmove⟩
    · rw [hmove]
      exact ⟨hblocked, hcontext⟩
    · rw [hmove]
      exact ⟨rfl, by simpa using hcontext⟩
  · intro hthrows
    have hreturns := (applyResult_succeeds_iff env hdelivery).mpr hallowed
    rw [hthrows] at hreturns
    cases hreturns

theorem staysBlocked_of_refused (hdelivery : Delivery s taskId result task job)
    (hblocked : task.state = .blocked)
    (hallowed : (deliveryAnswer env s result task job).allowed task = false)
    (hcount : (deliveryAnswer env s result task job).retryCount = none) :
    StaysBlocked env s taskId result task ↔ s.results.get? result.jobId = some result := by
  have hafter : deliver env s taskId result = afterDelivery env s result task job :=
    applyResult_delivered hdelivery
  have hthrows : returned? (applyResult env taskId result) s = none := by
    have hiff := applyResult_succeeds_iff env hdelivery
    rw [hallowed] at hiff
    simpa using hiff
  constructor
  · intro hstays
    have hresults := (hstays.atomic hthrows).1 result.jobId
    rw [hafter, afterDelivery_results, KeyedMap.get?_put_self] at hresults
    exact hresults.symm
  · intro hstored
    obtain ⟨htasks, _⟩ := afterDelivery_refused hallowed
    refine ⟨⟨task, ?_, hblocked, id⟩, fun _ => ⟨fun jobId => ?_, fun key => ?_⟩⟩
    · rw [hafter, ControlPlane.task?, htasks]
      exact hdelivery.stored
    · rw [hafter, afterDelivery_results, KeyedMap.get?_put]
      split_ifs with hid
      · rw [hid, hstored]
      · rfl
    · rw [hafter, afterDelivery_retryTracker, hcount]

theorem staysBlocked_delivered_iff (hdelivery : Delivery s taskId result task job)
    (hblocked : task.state = .blocked) :
    StaysBlocked env s taskId result task ↔ keepsState s task job result = true ∨
        (resumesStage s task job result = false ∧ s.results.get? result.jobId = some result) := by
  have hmoves : AnswerMove s task job result (deliveryAnswer env s result task job) :=
    answerMove_delivery
  cases hmoves with
  | keeps hkeeps _ hmove _ =>
    exact iff_of_true (staysBlocked_of_keeps hdelivery hblocked hmove) (Or.inl hkeeps)
  | resumes input hkeeps hresumes hmove _ =>
    refine iff_of_false (fun hstays => ?_) (by simp [hkeeps, hresumes])
    have hallowed : (deliveryAnswer env s result task job).allowed task = true := by
      simp only [allowed, hmove, hblocked]
      cases job.stage <;> rfl
    obtain ⟨task', htask', hstate, _⟩ := hstays.blocked
    rw [task?_delivered hdelivery hallowed] at htask'
    rw [← Option.some.inj htask', resultTask, hmove] at hstate
    exact stageToActiveState_ne_blocked job.stage hstate
  | ends toState input hkeeps hresumes hmove hto hcount _ =>
    have hallowed : (deliveryAnswer env s result task job).allowed task = false := by
      simp only [allowed, hmove, hblocked]
      rcases hto with rfl | rfl | rfl <;> rfl
    rw [staysBlocked_of_refused hdelivery hblocked hallowed hcount]
    simp [hkeeps, hresumes]

end delivered

/-- In every state, a result leaves a blocked task alone exactly when it does not count, or blocks the
task again, or is refused as a result that is stored already. -/
theorem blocked_stays_iff {s : ControlPlane} {taskId : String} {task : Task}
    (htask : s.task? taskId = some task) (hblocked : task.state = .blocked)
    (env : Env) (result : WorkerResult) :
    StaysBlocked env s taskId result task ↔ LeavesBlockedAlone s taskId result := by
  by_cases hdelivery : ∃ task job, Delivery s taskId result task job
  · obtain ⟨task', job, hdelivery⟩ := hdelivery
    obtain rfl := Option.some.inj (htask.symm.trans hdelivery.stored)
    rw [staysBlocked_delivered_iff hdelivery hblocked]
    constructor
    · intro hcondition task' job' hdelivery'
      obtain rfl := Option.some.inj (htask.symm.trans hdelivery'.stored)
      obtain rfl := Option.some.inj (hdelivery.job.symm.trans hdelivery'.job)
      exact hcondition
    · intro hcondition
      exact hcondition task job hdelivery
  · refine iff_of_true ?_ (fun task job h => absurd ⟨task, job, h⟩ hdelivery)
    have hsame : deliver env s taskId result = s := applyResult_ignored env hdelivery
    refine ⟨⟨task, by rw [hsame]; exact htask, hblocked, id⟩, fun _ => ?_⟩
    rw [hsame]
    exact ⟨fun _ => rfl, fun _ => rfl⟩

def blockedScript : Script :=
  [line "0" (.createTask sampleRequest), dispatchLine "0" .plan, settleLine submitted,
    line "1" (.applyResult "task_0" (sampleResult "job_0" .blocked))]

def isBlocked (sys : System) : Bool :=
  (sys.store.task? "task_0").any fun task => task.state = .blocked

/-- A result for a job that was never active leaves the task blocked. -/
theorem foreign_result_stays_blocked :
    ∃ h sys task, controlPlane.Run h sys ∧ sys.store.task? "task_0" = some task ∧
      task.state = .blocked ∧ StaysBlocked (sampleEnv "2") sys.store "task_0"
        (sampleResult "job_1" .succeeded) task := by
  obtain ⟨h, sys, hrun, htest⟩ := exists_run_of_play blockedScript (fun p => isBlocked p.2 &&
      (delivery? p.2.store "task_0" (sampleResult "job_1" .succeeded)).isNone)
    (by decide +kernel)
  rw [Bool.and_eq_true, isBlocked, Option.any_eq_true] at htest
  obtain ⟨⟨task, htask, hblocked⟩, hnone⟩ := htest
  have hblocked := of_decide_eq_true hblocked
  refine ⟨h, sys, task, hrun, htask, hblocked, (blocked_stays_iff htask hblocked _ _).mpr ?_⟩
  intro task' job hdelivery
  rw [delivery?_eq_some_iff.mpr hdelivery] at hnone
  cases hnone

/-- A late failure of the job moves the blocked task back to planning. -/
theorem blocked_not_stays : ¬∀ h sys, controlPlane.Run h sys → ∀ taskId task env result,
      sys.store.task? taskId = some task → task.state = .blocked →
      StaysBlocked env sys.store taskId result task := by
  intro hall
  obtain ⟨h, sys, hrun, htest⟩ := exists_run_of_play blockedScript (fun p => isBlocked p.2 &&
      ((deliver (sampleEnv "2") p.2.store "task_0" (sampleResult "job_0" .failed)).task?
        "task_0").any fun task => task.state = .planning)
    (by decide +kernel)
  rw [Bool.and_eq_true, isBlocked, Option.any_eq_true, Option.any_eq_true] at htest
  obtain ⟨⟨task, htask, hblocked⟩, moved, hmoved, hplanning⟩ := htest
  obtain ⟨task', htask', hstate, _⟩ := (hall h sys hrun "task_0" task (sampleEnv "2")
    (sampleResult "job_0" .failed) htask (of_decide_eq_true hblocked)).blocked
  obtain rfl := Option.some.inj (hmoved.symm.trans htask')
  rw [of_decide_eq_true hplanning] at hstate
  cases hstate

end ShipyardCp.Properties
