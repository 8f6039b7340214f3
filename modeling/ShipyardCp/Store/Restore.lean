import ShipyardCp.Store.RedisBackend
import ShipyardCp.Store.State

/-! Restoring the store from the backend in a new process, which blocks the tasks of jobs that an
earlier process left open. -/

namespace ShipyardCp.Store

open Types Domain Lib

def Redis.listTasks (r : Redis) (parse : String → Option Task) (limit : Nat) : List Task :=
  ((r.taskIds.take limit).filterMap r.task?).filterMap parse

def Redis.listJobsByTask (r : Redis) (taskId : String) : List WorkerJob :=
  (r.jobIdsOf taskId).filterMap r.jobs.get?

def Redis.getResult (r : Redis) (jobId : String) : Option WorkerResult := r.results.get? jobId

def restoreTask (r : Redis) (s : ControlPlane) (task : Task) : ControlPlane :=
  let jobs := r.listJobsByTask task.taskId
  { s with
    tasks := s.tasks.put task
    events := s.events.set task.taskId (r.getEvents task.taskId)
    jobs := s.jobs.putAll jobs
    results := s.results.putAll (jobs.filterMap fun job => r.getResult job.jobId) }

def restoreRecords (r : Redis) (parse : String → Option Task) (s : ControlPlane) : ControlPlane :=
  (r.listTasks parse 10000).foldl (restoreTask r)
    { s with tasks := .empty, events := .empty, jobs := .empty, results := .empty }

def isOpen (job : WorkerJob) : Bool := job.status = .pending || job.status = .running

def isExecutorOrphan (executorInstanceId : String) (job : WorkerJob) : Bool :=
  isOpen job && job.executorInstanceId ≠ some executorInstanceId

def recoveredJob (executorInstanceId : String) (job : WorkerJob) : WorkerJob :=
  { job with
    status := .failed
    metadata := Metadata.set (Metadata.set (Metadata.set job.metadata "orphaned" (.bool true))
          "orphaned_reason" (.str "executor_instance_restarted"))
        "recovered_by_instance" (.str executorInstanceId) }

def recoverRestoredActiveJobs : StoreM (List WorkerJob) := do
  let s ← get
  let orphaned := (s.jobs.values.filter (isExecutorOrphan s.executorInstanceId)).map
    (recoveredJob s.executorInstanceId)
  modify fun s => { s with jobs := s.jobs.putAll orphaned }
  pure orphaned

def executorOrphanedTask (task : Task) (job : WorkerJob) : Task :=
  { task with
    activeJobId := none
    blockedContext := some
      { resumeState := stageToActiveResumeState job.stage
        reason := "executor_instance_restarted"
        waitingOn := some .worker
        orphanedRun := some true } }

def executorOrphanInput (executorInstanceId : String) (job : WorkerJob) : TransitionInput :=
  { actorType := .controlPlane, actorId := executorInstanceId
    reason := "executor instance restarted; worker request was not resubmitted"
    jobId := some job.jobId }

/-- Blocks the tasks of jobs; `n` counts the ids drawn. -/
def blockExecutorOrphans (env : Env) (n : Nat) : List WorkerJob → StoreM Unit
  | [] => pure ()
  | job :: jobs => do
    let s ← get
    match s.task? job.taskId with
    | none => blockExecutorOrphans env n jobs
    | some task =>
      if task.state = .blocked || isTerminal task.state then blockExecutorOrphans env n jobs
      else
        let _ ← transitionTask env n (executorOrphanedTask task job) .blocked
          (executorOrphanInput s.executorInstanceId job)
        blockExecutorOrphans env (n + 1) jobs

def restoreCoreState (env : Env) (parse : String → Option Task) (r : Redis) : StoreM Unit := do
  modify (restoreRecords r parse)
  let orphanedJobs ← recoverRestoredActiveJobs
  blockExecutorOrphans env 0 orphanedJobs

section records

variable {r : Redis} {s : ControlPlane} {tasks : List Task}

theorem foldl_restoreTask_tasks : ∀ s : ControlPlane,
    (tasks.foldl (restoreTask r) s).tasks = s.tasks.putAll tasks := by
  induction tasks with
  | nil => exact fun _ => rfl
  | cons task tasks ih => exact fun s => ih (restoreTask r s task)

theorem foldl_restoreTask_jobs : ∀ s : ControlPlane, (tasks.foldl (restoreTask r) s).jobs =
    s.jobs.putAll (tasks.flatMap fun task => r.listJobsByTask task.taskId) := by
  induction tasks with
  | nil => exact fun _ => rfl
  | cons task tasks ih =>
    intro s
    have hrest := ih (restoreTask r s task)
    rw [List.flatMap_cons, KeyedMap.putAll, List.foldl_append]
    exact hrest

theorem foldl_restoreTask_executorInstanceId : ∀ s : ControlPlane,
    (tasks.foldl (restoreTask r) s).executorInstanceId = s.executorInstanceId := by
  induction tasks with
  | nil => exact fun _ => rfl
  | cons task tasks ih => exact fun s => ih (restoreTask r s task)

end records

section blocking

variable {env : Env} {s : ControlPlane}

def afterRestart (env : Env) (orphaned : List WorkerJob) (task : Task) : Task :=
  if task.state = .blocked || isTerminal task.state then task
  else
    match orphaned.find? fun job => job.taskId = task.taskId with
    | none => task
    | some job => transitioned env (executorOrphanedTask task job) .blocked

theorem afterRestart_nil (task : Task) : afterRestart env [] task = task := by
  unfold afterRestart
  split_ifs <;> rfl

theorem afterRestart_of_done {orphaned : List WorkerJob} {task : Task}
    (h : (task.state = .blocked || isTerminal task.state) = true) :
    afterRestart env orphaned task = task := by
  unfold afterRestart
  rw [if_pos h]

theorem afterRestart_cons_of_ne {job : WorkerJob} {orphaned : List WorkerJob} {task : Task}
    (h : job.taskId ≠ task.taskId) :
    afterRestart env (job :: orphaned) task = afterRestart env orphaned task := by
  unfold afterRestart
  rw [List.find?_cons_of_neg (by simpa using h)]

theorem wp_blockExecutorOrphans : ∀ (orphaned : List WorkerJob) (n : Nat) (s : ControlPlane),
    wp (blockExecutorOrphans env n orphaned)
      (returns fun s' => ∀ id, s'.task? id = (s.task? id).map (afterRestart env orphaned)) s := by
  intro orphaned
  induction orphaned with
  | nil =>
    intro n s id
    cases htask : s.task? id with
    | none => rfl
    | some task => rw [Option.map_some, afterRestart_nil]
  | cons job orphaned ih =>
    intro n s
    have hskip : (∀ task, s.task? job.taskId = some task →
        (task.state = .blocked || isTerminal task.state) = true) →
        wp (blockExecutorOrphans env n orphaned) (returns fun s' =>
          ∀ id, s'.task? id = (s.task? id).map (afterRestart env (job :: orphaned))) s := by
      intro hdone
      refine wp_mono (ih n s) fun result hresult => returns_mono (fun s' hs' id => ?_) hresult
      rw [hs' id]
      cases htask : s.task? id with
      | none => rfl
      | some task =>
        have hid := s.task?_taskId htask
        by_cases hjob : job.taskId = task.taskId
        · rw [← hid, ← hjob] at htask
          rw [Option.map_some, Option.map_some, afterRestart_of_done (hdone task htask),
            afterRestart_of_done (hdone task htask)]
        · rw [Option.map_some, Option.map_some, afterRestart_cons_of_ne hjob]
    rw [blockExecutorOrphans, wp_bind, wp_get, andThen_ok]
    cases htask : s.task? job.taskId with
    | none => exact hskip fun task h => by rw [htask] at h; cases h
    | some task =>
      dsimp only
      by_cases hdone : (task.state = .blocked || isTerminal task.state) = true
      · rw [if_pos hdone]
        exact hskip fun task' h => by rwa [← Option.some.inj (htask.symm.trans h)]
      · have hlive : isTerminal task.state = false := by
          rw [Bool.or_eq_true, not_or] at hdone
          exact Bool.eq_false_iff.mpr hdone.2
        have hcan : canTransition (executorOrphanedTask task job).state .blocked = true :=
          canTransition_blocked_iff.mpr hlive
        rw [if_neg hdone, wp_bind, wp_transitionTask, if_pos hcan, andThen_ok]
        refine wp_mono (ih (n + 1) _) fun result hresult => returns_mono (fun s' hs' id => ?_) hresult
        have hid := s.task?_taskId htask
        rw [hs' id, ControlPlane.commit_task?]
        by_cases hjob : id = task.taskId
        · have hblocked : afterRestart env orphaned
              (transitioned env (executorOrphanedTask task job) .blocked) =
              transitioned env (executorOrphanedTask task job) .blocked :=
            afterRestart_of_done rfl
          have hfirst : afterRestart env (job :: orphaned) task =
              transitioned env (executorOrphanedTask task job) .blocked := by
            unfold afterRestart
            rw [if_neg hdone, List.find?_cons_of_pos (by simp [hid])]
          rw [if_pos (show id = (transitioned env (executorOrphanedTask task job) .blocked).taskId
            from hjob), Option.map_some, hblocked, hjob, hid, htask, Option.map_some, hfirst]
        · rw [if_neg (show ¬id = (transitioned env (executorOrphanedTask task job) .blocked).taskId
            from hjob)]
          cases hother : s.task? id with
          | none => rfl
          | some other =>
            have hne : job.taskId ≠ other.taskId := by
              rw [s.task?_taskId hother, ← hid]
              exact Ne.symm hjob
            rw [Option.map_some, Option.map_some, afterRestart_cons_of_ne hne]

theorem task?_restoreCoreState (parse : String → Option Task) (r : Redis) (id : String) :
    (finalState (restoreCoreState env parse r) s).task? id =
      ((restoreRecords r parse s).task? id).map (afterRestart env
        (((restoreRecords r parse s).jobs.values.filter (isExecutorOrphan s.executorInstanceId)).map
          (recoveredJob s.executorInstanceId))) := by
  have hsame : (restoreRecords r parse s).executorInstanceId = s.executorInstanceId :=
    foldl_restoreTask_executorInstanceId _
  refine finalState_rec (restoreCoreState env parse r) s ?_
  simp only [restoreCoreState, recoverRestoredActiveJobs, wp_bind, wp_modify, wp_get, andThen_ok,
    wp_pure, hsame]
  exact wp_mono (wp_blockExecutorOrphans _ 0 _) fun result hresult =>
    onState_of_returns (returns_mono (fun s' hs' => hs' id) hresult)

end blocking

end ShipyardCp.Store
