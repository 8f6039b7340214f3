import ShipyardCp.Store.Wiring

/-! Whether a result that was applied can be applied again. Duplicates are told apart by the active
job alone, and no answer of the orchestrator clears it. -/

namespace ShipyardCp.Properties

open Types Domain Lib Store ControlPlane

def Accepted (h : History System Call) (taskId : String) (result : WorkerResult) : Prop :=
  ∃ step ∈ h, appliedBy step.2 step.1.store = some (taskId, result)

/-- The task, its log and every retry counter are the same. -/
structure Unchanged (s s' : ControlPlane) (taskId : String) : Prop where
  task : s'.task? taskId = s.task? taskId
  log : s'.log taskId = s.log taskId
  retries : ∀ key, s'.retryTracker.get? key = s.retryTracker.get? key

/-- The job of the result is not the active one, or the state machine refuses the move the result
asks for, and no other retry count goes with it. -/
def Suppressed (env : Env) (s : ControlPlane) (taskId : String) (result : WorkerResult) : Prop :=
  ∀ task job, s.task? taskId = some task → task.activeJobId = some result.jobId →
    s.jobs.get? result.jobId = some job →
    (deliveryAnswer env s result task job).allowed task = false ∧
      ∀ count, (deliveryAnswer env s result task job).retryCount = some count →
        s.retryTracker.get? (taskId, job.stage) = some count

section applied

variable {sys : System} {call : Call} {taskId : String} {result : WorkerResult}

theorem appliedBy_named (h : appliedBy call sys.store = some (taskId, result)) : result.jobId ≠ "" ∧
      ∃ task, sys.store.task? taskId = some task ∧ result.typedRef = task.typedRef := by
  obtain ⟨env, op⟩ := call
  cases op with
  | applyResult id r =>
    simp only [appliedBy] at h
    split_ifs at h with haccepts
    obtain ⟨rfl, rfl⟩ : id = taskId ∧ r = result := by simpa using h
    obtain ⟨task, job, hdelivery, _⟩ := accepts_iff.mp haccepts
    exact ⟨hdelivery.named, task, hdelivery.stored, hdelivery.typedRef⟩
  | settlePoll job outcome =>
    obtain ⟨r, happlied, hpair⟩ := Option.map_eq_some_iff.mp h
    obtain ⟨rfl, rfl⟩ : job.taskId = taskId ∧ r = result := by simpa using hpair
    have htasks := (finalState_settlePoll env job outcome (s := sys.store)).tasks
    rw [happlied] at htasks
    obtain ⟨s₀, task, job', status, htasks₀, _, _, hdelivery, _⟩ := htasks
    refine ⟨hdelivery.named, task, ?_, hdelivery.typedRef⟩
    rw [task?, ← htasks₀]
    exact hdelivery.stored
  | _ => simp [appliedBy] at h

end applied

variable {h : History System Call} {sys : System} {taskId : String} {result : WorkerResult}

theorem accepted_named (hrun : controlPlane.Run h sys) (haccepted : Accepted h taskId result) :
    result.jobId ≠ "" ∧
      ∃ task, sys.store.task? taskId = some task ∧ result.typedRef = task.typedRef := by
  induction hrun with
  | start _ =>
    obtain ⟨_, hmem, _⟩ := haccepted
    cases hmem
  | @snoc h sys call sys' hbefore hstep ih =>
    obtain ⟨step, hmem, happlied⟩ := haccepted
    have hnamed : result.jobId ≠ "" ∧
        ∃ task, sys.store.task? taskId = some task ∧ result.typedRef = task.typedRef := by
      rw [List.mem_append, List.mem_singleton] at hmem
      rcases hmem with hmem | rfl
      · exact ih ⟨step, hmem, happlied⟩
      · exact appliedBy_named happlied
    obtain ⟨hname, task, htask, htyped⟩ := hnamed
    obtain ⟨task', htask', hsame⟩ := (wired_of_run hbefore).typedRef hstep htask
    exact ⟨hname, task', htask', htyped.trans hsame.symm⟩

theorem delivery_of_accepted (hrun : controlPlane.Run h sys)
    (haccepted : Accepted h taskId result) {task : Task} {job : WorkerJob}
    (htask : sys.store.task? taskId = some task) (hactive : task.activeJobId = some result.jobId)
    (hjob : sys.store.jobs.get? result.jobId = some job) :
    Delivery sys.store taskId result task job := by
  obtain ⟨hnamed, task₀, htask₀, htyped⟩ := accepted_named hrun haccepted
  rw [htask] at htask₀
  obtain rfl := Option.some.inj htask₀
  exact ⟨htask, hactive, hnamed, htyped, hjob⟩

theorem resultTask_ne (a : ResultAnswer) (env : Env) (task : Task) :
    a.resultTask env task ≠ task := by
  intro heq
  have hversion := congrArg Task.version heq
  unfold ResultAnswer.resultTask ResultAnswer.patched at hversion
  split at hversion
  · simp at hversion
  · simp at hversion
    omega

theorem unchanged_delivery_iff {s : ControlPlane} {env : Env} {task : Task} {job : WorkerJob}
    (hdelivery : Delivery s taskId result task job) :
    Unchanged s (deliver env s taskId result) taskId ↔
      (deliveryAnswer env s result task job).allowed task = false ∧
        ∀ count, (deliveryAnswer env s result task job).retryCount = some count →
          s.retryTracker.get? (taskId, job.stage) = some count := by
  have hid := s.task?_taskId hdelivery.stored
  have hafter : deliver env s taskId result = afterDelivery env s result task job :=
    applyResult_delivered hdelivery
  have hretries : (afterDelivery env s result task job).retryTracker = _ := afterDelivery_retryTracker
  rw [hafter]
  constructor
  · intro hsame
    constructor
    · by_contra hallowed
      have htask : (afterDelivery env s result task job).task? taskId = _ :=
        afterDelivery_task? taskId (by simpa using hallowed)
      rw [hsame.task, hdelivery.stored, if_pos hid.symm] at htask
      exact resultTask_ne _ env task (Option.some.inj htask).symm
    · intro count hcount
      have hkey := hsame.retries (taskId, job.stage)
      rw [hretries, hcount, hid] at hkey
      simpa using hkey.symm
  · rintro ⟨hrefused, hcounts⟩
    obtain ⟨htasks, hevents⟩ := afterDelivery_refused hrefused
    refine ⟨by rw [task?, htasks, task?],
      by rw [log, hevents, log], fun key => ?_⟩
    rw [hretries]
    cases hcount : (deliveryAnswer env s result task job).retryCount with
    | none => rfl
    | some count =>
      rw [hid, InsertionMap.get?_set]
      split_ifs with hkey
      · rw [hkey, hcounts count hcount]
      · rfl

def failedScript (result : WorkerResult) : Script :=
  [line "0" (.createTask sampleRequest), dispatchLine "0" .plan, settleLine submitted,
    line "0" (.applyResult "task_0" (sampleResult "job_0" .succeeded)), dispatchLine "1" .dev,
    settleLine submitted, line "0" (.applyResult "task_0" result)]

def wasAccepted (h : History System Call) (taskId : String) (result : WorkerResult) : Bool :=
  h.any fun step => appliedBy step.2 step.1.store = some (taskId, result)

theorem accepted_of_wasAccepted (haccepted : wasAccepted h taskId result = true) :
    Accepted h taskId result := by
  obtain ⟨step, hmem, happlied⟩ := List.any_eq_true.mp haccepted
  exact ⟨step, hmem, by simpa using happlied⟩

end ShipyardCp.Properties
