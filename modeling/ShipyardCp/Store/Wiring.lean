import ShipyardCp.Store.Frame
import ShipyardCp.Store.TaskEffect

/-! What a call can do to the jobs, to the waiting dispatches and to the polls. -/

namespace ShipyardCp.Store

open Types Domain Lib KeyedMap ControlPlane

/-- All a call can do to the job table, the waiting dispatches and the polls. -/
inductive JobEffect (sys : System) (call : Call) (sys' : System) : Prop
  | kept : (∀ d submission, call.op ≠ .settleDispatch d submission) →
      sys'.store.jobs = sys.store.jobs → sys'.dispatching = sys.dispatching →
      sys'.polling = sys.polling → JobEffect sys call sys'
  | begun (taskId : String) (request : DispatchRequest) (d : PendingDispatch) :
      call.op = .beginDispatch taskId request → Begun call.env sys.store taskId request d →
      sys.store.jobs.get? d.job.jobId = none → sys'.store.jobs = sys.store.jobs.put d.job →
      sys'.dispatching = sys.dispatching ++ [d] → sys'.polling = sys.polling →
      JobEffect sys call sys'
  | ended (d : PendingDispatch) (submission : SubmissionResult) :
      call.op = .settleDispatch d submission → d ∈ sys.dispatching →
      (∀ backend reason, submission ≠ .success backend reason) →
      sys'.store.jobs = sys.store.jobs → sys'.dispatching = sys.dispatching.erase d →
      sys'.polling = sys.polling → JobEffect sys call sys'
  | submitted (d : PendingDispatch) (backend : Option ExecutionBackend) (reason : Option String) :
      call.op = .settleDispatch d (.success backend reason) → d ∈ sys.dispatching →
      sys'.store.jobs = sys.store.jobs.put (selectedJob sys.store d.job backend reason) →
      sys'.dispatching = sys.dispatching.erase d →
      (sys'.polling = sys.polling ++ [selectedJob sys.store d.job backend reason] ∨
        (canTransition d.task.state d.nextState.toTaskState = false ∧ sys'.polling = sys.polling)) →
      JobEffect sys call sys'
  | polled (job : WorkerJob) (outcome : Except String WorkerResult) (status : JobStatus) :
      call.op = .settlePoll job outcome → job ∈ sys.polling → status ≠ .pending →
      status ≠ .running → sys'.store.jobs = sys.store.jobs.put { job with status := status } →
      sys'.dispatching = sys.dispatching → sys'.polling = sys.polling.erase job →
      JobEffect sys call sys'

section effects

variable {sys : System} {env : Env}

theorem JobEffect.of_run {α : Type} {op : Op} {p : StoreM α}
    (h : (finalState p sys.store).jobs = sys.store.jobs)
    (hop : ∀ d submission, op ≠ .settleDispatch d submission := by intros; simp) :
    JobEffect sys ⟨env, op⟩ (sys.run p) :=
  .kept hop h rfl rfl

theorem jobEffect_beginDispatch {taskId : String} {request : DispatchRequest}
    (hfresh : sys.store.jobs.get? (createId env 0 "job") = none) :
    JobEffect sys ⟨env, .beginDispatch taskId request⟩ (sys.beginDispatch env taskId request) := by
  have hwp : wp (beginDispatch env taskId request) (returnsOrThrows
      (fun d s' => Begun env sys.store taskId request d ∧ s'.jobs = sys.store.jobs.put d.job)
      fun s' => s'.jobs = sys.store.jobs) sys.store :=
    wp_beginDispatch (fun _ => rfl) (fun _ _ _ _ _ _ => rfl) fun d _ _ _ _ hbegun _ => ⟨hbegun, rfl⟩
  unfold wp at hwp
  unfold System.beginDispatch
  cases hrun : (beginDispatch env taskId request).run sys.store with
  | error e store =>
    rw [hrun] at hwp
    exact .kept (by simp) hwp rfl rfl
  | ok d store =>
    rw [hrun] at hwp
    exact .begun taskId request d rfl hwp.1 (by rw [hwp.1.jobId]; exact hfresh) hwp.2 rfl rfl

theorem jobEffect_settleDispatch {d : PendingDispatch} {submission : SubmissionResult}
    (hpending : d ∈ sys.dispatching) :
    JobEffect sys ⟨env, .settleDispatch d submission⟩ (sys.settleDispatch env d submission) := by
  have hwp : wp (settleDispatch env d submission) (returnsOrThrows
      (fun job s' => ∃ backend reason, submission = .success backend reason ∧
        job = selectedJob sys.store d.job backend reason ∧ s'.jobs = sys.store.jobs.put job)
      fun s' => (s'.jobs = sys.store.jobs ∧
          ∀ backend reason, submission ≠ .success backend reason) ∨ ∃ backend reason,
          submission = .success backend reason ∧
          canTransition d.task.state d.nextState.toTaskState = false ∧
          s'.jobs = sys.store.jobs.put (selectedJob sys.store d.job backend reason)) sys.store :=
    wp_settleDispatch (fun _ hsub => Or.inl ⟨rfl, hsub⟩)
      (fun _ _ hsub _ _ => Or.inl ⟨rfl, by simp [hsub]⟩)
      (fun _ backend reason hsub hcan => Or.inr ⟨backend, reason, hsub, hcan, rfl⟩)
      fun backend reason hsub _ => ⟨backend, reason, hsub, rfl, rfl⟩
  unfold wp at hwp
  unfold System.settleDispatch
  dsimp only
  cases hrun : (settleDispatch env d submission).run sys.store with
  | error e store =>
    rw [hrun] at hwp
    rcases hwp with ⟨hjobs, hsub⟩ | ⟨backend, reason, rfl, hcan, hjobs⟩
    · exact .ended d submission rfl hpending hsub hjobs rfl rfl
    · exact .submitted d backend reason rfl hpending hjobs rfl (Or.inr ⟨hcan, rfl⟩)
  | ok job store =>
    rw [hrun] at hwp
    obtain ⟨backend, reason, rfl, rfl, hjobs⟩ := hwp
    exact .submitted d backend reason rfl hpending hjobs rfl (Or.inl rfl)

theorem jobEffect_settlePoll {job : WorkerJob} {outcome : Except String WorkerResult}
    (hpolling : job ∈ sys.polling) :
    JobEffect sys ⟨env, .settlePoll job outcome⟩ (sys.settlePoll env job outcome) := by
  obtain ⟨status, hpending, hrunning, hjobs⟩ :=
    (finalState_settlePoll env job outcome (s := sys.store)).jobs
  exact .polled job outcome status rfl hpolling hpending hrunning hjobs rfl rfl

theorem jobEffect_perform {call : Call} (henabled : sys.enabled call = true) :
    JobEffect sys call (sys.perform call) := by
  by_cases htasks : writesTasksOnly call.op = true
  · obtain ⟨hdispatching, hpolling⟩ := @pending_perform sys call htasks
    refine .kept (fun d submission hop => ?_) (sameBeside_perform htasks).jobs hdispatching hpolling
    rw [hop] at htasks
    cases htasks
  · obtain ⟨env, op⟩ := call
    cases op with
    | beginDispatch taskId request =>
      exact jobEffect_beginDispatch (by simpa [System.enabled] using henabled)
    | settleDispatch d submission =>
      exact jobEffect_settleDispatch (by simpa [System.enabled] using henabled)
    | applyResult taskId result => exact .of_run deliver_jobs
    | settlePoll job outcome =>
      exact jobEffect_settlePoll (by simpa [System.enabled] using henabled)
    | heartbeat jobId workerId =>
      obtain ⟨leases, h, _⟩ := finalState_heartbeat env jobId workerId (s := sys.store)
      exact .of_run ((congrArg jobs h).trans rfl)
    | publish taskId request => exact .of_run (publish_beside sys.store env taskId request).2.2.1
    | _ => exact absurd rfl htasks

theorem jobEffect_of_step {call : Call} {sys' : System}
    (hstep : controlPlane.step sys call sys') : JobEffect sys call sys' := by
  obtain ⟨henabled, rfl⟩ := step_iff.mp hstep
  exact jobEffect_perform henabled

end effects

/-! The invariant that ties tasks, jobs, waiting dispatches and polls together in every reachable
system. -/

def Submitted (s : ControlPlane) (taskId jobId : String) : Prop :=
  ∃ job, s.jobs.get? jobId = some job ∧ job.taskId = taskId ∧ job.executorInstanceId.isSome = true

/-- A waiting dispatch as it began: its snapshot allows the stage, and its job is not submitted. -/
structure Waiting (d : PendingDispatch) : Prop where
  stage : getAllowedDispatchStage d.task.state = some d.request.targetStage
  nextState : d.nextState = stageToActiveResumeState d.request.targetStage
  jobTask : d.job.taskId = d.task.taskId
  jobStage : d.job.stage = d.request.targetStage
  unsubmitted : d.job.executorInstanceId = none

theorem Waiting.canDispatch {d : PendingDispatch} (h : Waiting d) :
    canTransition d.task.state d.nextState.toTaskState = true := by
  rw [h.nextState]
  exact canTransition_of_dispatchStage h.stage

theorem Waiting.canBlock {d : PendingDispatch} (h : Waiting d) :
    canTransition d.task.state .blocked = true :=
  canTransition_blocked_iff.mpr (not_isTerminal_of_dispatchStage h.stage)

def writesBack : SubmissionResult → Bool
  | .success _ _ => true
  | .failure error => isBackendRefusal (error.getD "unknown worker submission failure")
  | .thrown _ => false

section settle

variable {d : PendingDispatch} (env : Env) (sys : System)

theorem Waiting.settle_success (h : Waiting d) (backend : Option ExecutionBackend)
    (reason : Option String) :
    (sys.settleDispatch env d (.success backend reason)).store =
      (sys.store.setJob (selectedJob sys.store d.job backend reason)).commit
        (transitioned env (dispatchedTask d) d.nextState.toTaskState)
        (transitionEvent env 0 (dispatchedTask d) d.nextState.toTaskState
          (dispatchedInput d.request.targetStage d.job)) := by
  rw [System.settleDispatch_store]
  refine finalState_rec (settleDispatch env d (.success backend reason)) sys.store ?_
  simp only [settleDispatch, wp_bind, wp_get, andThen_ok, wp_modify, wp_transitionTask]
  rw [if_pos]
  · rfl
  · exact h.canDispatch

theorem Waiting.settle_refused (h : Waiting d) {error : Option String} {failure : String}
    (hfailure : failure = error.getD "unknown worker submission failure")
    (hrefusal : isBackendRefusal failure = true) :
    (sys.settleDispatch env d (.failure error)).store =
      sys.store.commit (transitioned env (refusedTask d failure) .blocked)
        (transitionEvent env 0 (refusedTask d failure) .blocked (refusedInput d.job failure)) := by
  rw [System.settleDispatch_store]
  refine finalState_rec (settleDispatch env d (.failure error)) sys.store ?_
  simp only [settleDispatch]
  rw [← hfailure, wp_ite, if_pos hrefusal, wp_bind, wp_transitionTask, if_pos]
  · rfl
  · exact h.canBlock

end settle

def Polled (s : ControlPlane) (job : WorkerJob) : Prop := job.executorInstanceId.isSome = true ∧
    ∃ status, s.jobs.get? job.jobId = some { job with status := status }

/-- How tasks, jobs, waiting dispatches and polls belong together. -/
structure Wired (sys : System) : Prop where
  waiting : ∀ d ∈ sys.dispatching, Waiting d
  waitingJob : ∀ d ∈ sys.dispatching, sys.store.jobs.get? d.job.jobId = some d.job
  waitingDistinct : (sys.dispatching.map fun d => d.job.jobId).Nodup
  waitingTask : ∀ d ∈ sys.dispatching, ∃ task, sys.store.task? d.task.taskId = some task ∧
    task.typedRef = d.task.typedRef
  polled : ∀ job ∈ sys.polling, Polled sys.store job
  jobTask : ∀ jobId job, sys.store.jobs.get? jobId = some job →
    ∃ task, sys.store.task? job.taskId = some task
  active : ∀ id task jobId, sys.store.task? id = some task → task.activeJobId = some jobId →
    Submitted sys.store id jobId
  snapshotActive : ∀ d ∈ sys.dispatching, ∀ jobId, d.task.activeJobId = some jobId →
    Submitted sys.store d.task.taskId jobId

theorem wired_of_fresh {sys : System} (h : IsFresh sys) : Wired sys := by
  obtain ⟨_, _, _, rfl⟩ := h
  constructor <;> simp [System.initial, initial, task?]

section step

variable {sys sys' : System} {call : Call}

theorem Wired.waiting_inj (h : Wired sys) {d e : PendingDispatch} (hd : d ∈ sys.dispatching)
    (he : e ∈ sys.dispatching) (hjob : d.job.jobId = e.job.jobId) : d = e :=
  List.inj_on_of_nodup_map h.waitingDistinct hd he hjob

theorem Wired.mem_erase (h : Wired sys) {d e : PendingDispatch} (hd : d ∈ sys.dispatching)
    (he : e ∈ sys.dispatching.erase d) :
    e ∈ sys.dispatching ∧ e.job.jobId ≠ d.job.jobId := by
  have hnodup : sys.dispatching.Nodup := h.waitingDistinct.of_map
  obtain ⟨hne, hmem⟩ := hnodup.mem_erase_iff.mp he
  exact ⟨hmem, fun hjob => hne (h.waiting_inj hmem hd hjob)⟩

theorem Wired.erase_distinct (h : Wired sys) (d : PendingDispatch) :
    ((sys.dispatching.erase d).map fun d => d.job.jobId).Nodup :=
  (List.erase_sublist.map _).nodup h.waitingDistinct

theorem JobEffect.persists (heffect : JobEffect sys call sys') {jobId : String} {job : WorkerJob}
    (hjob : sys.store.jobs.get? jobId = some job) :
    ∃ job', sys'.store.jobs.get? jobId = some job' := by
  have hput : ∀ v : WorkerJob, ∃ job', (sys.store.jobs.put v).get? jobId = some job' := by
    intro v
    rw [get?_put]
    split_ifs
    · exact ⟨v, rfl⟩
    · exact ⟨job, hjob⟩
  cases heffect with
  | kept _ hjobs _ _ => exact ⟨job, by rw [hjobs]; exact hjob⟩
  | begun _ _ d _ _ _ hjobs _ _ => rw [hjobs]; exact hput _
  | ended d _ _ _ _ hjobs _ _ => exact ⟨job, by rw [hjobs]; exact hjob⟩
  | submitted d _ _ _ _ hjobs _ _ => rw [hjobs]; exact hput _
  | polled _ _ _ _ _ _ _ hjobs _ _ => rw [hjobs]; exact hput _

theorem Submitted.step (hwired : Wired sys) (heffect : JobEffect sys call sys') {id jobId : String}
    (h : Submitted sys.store id jobId) : Submitted sys'.store id jobId := by
  obtain ⟨job, hjob, htask, hsub⟩ := h
  cases heffect with
  | kept _ hjobs _ _ => exact ⟨job, by rw [hjobs]; exact hjob, htask, hsub⟩
  | begun taskId request d _ _ hfresh hjobs _ _ =>
    refine ⟨job, ?_, htask, hsub⟩
    have hne : jobId ≠ d.job.jobId := by
      rintro rfl
      rw [hfresh] at hjob
      cases hjob
    rw [hjobs, get?_put_of_ne _ hne]
    exact hjob
  | ended d submission _ _ _ hjobs _ _ => exact ⟨job, by rw [hjobs]; exact hjob, htask, hsub⟩
  | submitted d backend reason _ hmem hjobs _ _ =>
    have hne : jobId ≠ d.job.jobId := by
      rintro rfl
      rw [hwired.waitingJob d hmem] at hjob
      obtain rfl := Option.some.inj hjob
      rw [(hwired.waiting d hmem).unsubmitted] at hsub
      cases hsub
    refine ⟨job, ?_, htask, hsub⟩
    rw [hjobs]
    exact (get?_put_of_ne _ (by exact hne)).trans hjob
  | polled polledJob outcome status _ hmem _ _ hjobs _ _ =>
    obtain ⟨hsubmitted, oldStatus, hstored⟩ := hwired.polled polledJob hmem
    by_cases hsame : jobId = polledJob.jobId
    · subst hsame
      rw [hstored] at hjob
      obtain rfl := Option.some.inj hjob
      exact ⟨{ polledJob with status := status }, by rw [hjobs]; exact get?_put_self _ _, htask, hsub⟩
    · refine ⟨job, ?_, htask, hsub⟩
      rw [hjobs]
      exact (get?_put_of_ne _ (by exact hsame)).trans hjob

theorem TaskEffect.activeJobId {id : String} {task? : Option Task} {task' : Task}
    {log log' : List StateTransitionEvent}
    (h : TaskEffect sys call id task? log (some task') log') :
    (∃ task, task? = some task ∧ task'.activeJobId = task.activeJobId) ∨
      (task? = none ∧ task'.activeJobId = none) ∨
      (∃ d backend reason, call.op = .settleDispatch d (.success backend reason) ∧
        d ∈ sys.dispatching ∧ d.task.taskId = id ∧ task'.activeJobId = some d.job.jobId) ∨
      ∃ d error, call.op = .settleDispatch d (.failure error) ∧
        isBackendRefusal (error.getD "unknown worker submission failure") = true ∧
        d ∈ sys.dispatching ∧ d.task.taskId = id ∧ task'.activeJobId = d.task.activeJobId := by
  cases h with
  | kept => exact Or.inl ⟨task', rfl, rfl⟩
  | created request _ _ _ => exact Or.inr (Or.inl ⟨rfl, rfl⟩)
  | recorded task _ event _ _ _ _ => exact Or.inl ⟨task, rfl, rfl⟩
  | moved task _ _ event hmove => exact Or.inl ⟨task, rfl, hmove.frame.1⟩
  | patched task _ _ hpatch => exact Or.inl ⟨task, rfl, hpatch.frame.1⟩
  | answered task _ result job a _ _ _ _ hsound _ =>
    exact Or.inl ⟨task, rfl, hsound.activeJobId _⟩
  | dispatched _ _ d backend reason hop hmem htask _ =>
    exact Or.inr (Or.inr (Or.inl ⟨d, backend, reason, hop, hmem, htask, rfl⟩))
  | refused _ _ d error failure hop hfailure hrefusal hmem htask _ =>
    subst hfailure
    exact Or.inr (Or.inr (Or.inr ⟨d, error, hop, hrefusal, hmem, htask, rfl⟩))

theorem Wired.typedRef (hwired : Wired sys) (hstep : controlPlane.step sys call sys') {id : String}
    {task : Task} (hstored : sys.store.task? id = some task) :
    ∃ task', sys'.store.task? id = some task' ∧ task'.typedRef = task.typedRef := by
  have heffect := taskEffect_of_step hstep id
  rw [hstored] at heffect
  obtain ⟨task', htask'⟩ := heffect.isSome
  rw [htask'] at heffect
  refine ⟨task', htask', ?_⟩
  have hsnapshot : ∀ d ∈ sys.dispatching, d.task.taskId = task.taskId →
      d.task.typedRef = task.typedRef := by
    intro d hmem hid
    obtain ⟨t, ht, htyped⟩ := hwired.waitingTask d hmem
    rw [hid, sys.store.task?_taskId hstored, hstored] at ht
    obtain rfl := Option.some.inj ht
    exact htyped.symm
  cases heffect.written (sys.store.task?_taskId hstored) with
  | stored _ htyped _ => exact htyped
  | dispatched d backend reason _ hmem hid htask =>
    rw [htask]
    exact hsnapshot d hmem hid
  | refused d error failure _ _ _ hmem hid htask =>
    rw [htask]
    exact hsnapshot d hmem hid

theorem Begun.waiting {env : Env} {s : ControlPlane} {taskId : String} {request : DispatchRequest}
    {d : PendingDispatch} (h : Begun env s taskId request d) : Waiting d where
  stage := by rw [h.asked]; exact h.stage
  nextState := by rw [h.asked]; exact h.nextState
  jobTask := h.jobTask
  jobStage := by rw [h.asked]; exact h.jobStage
  unsubmitted := h.unsubmitted

theorem JobEffect.waiting (hwired : Wired sys) (heffect : JobEffect sys call sys')
    {d : PendingDispatch} (hd : d ∈ sys'.dispatching) :
    (d ∈ sys.dispatching ∧ sys'.store.jobs.get? d.job.jobId = some d.job) ∨
      ∃ taskId request, Begun call.env sys.store taskId request d ∧
        sys.store.jobs.get? d.job.jobId = none ∧
        sys'.store.jobs.get? d.job.jobId = some d.job := by
  cases heffect with
  | kept _ hjobs hdispatching _ =>
    rw [hdispatching] at hd
    exact Or.inl ⟨hd, by rw [hjobs]; exact hwired.waitingJob d hd⟩
  | begun taskId request e _ hbegun hfresh hjobs hdispatching _ =>
    rw [hdispatching, List.mem_append, List.mem_singleton] at hd
    rcases hd with hd | rfl
    · refine Or.inl ⟨hd, ?_⟩
      have hjob := hwired.waitingJob d hd
      have hne : d.job.jobId ≠ e.job.jobId := fun heq => by
        rw [heq, hfresh] at hjob
        cases hjob
      rw [hjobs, get?_put_of_ne _ hne]
      exact hjob
    · exact Or.inr ⟨taskId, request, hbegun, hfresh, by rw [hjobs]; exact get?_put_self _ _⟩
  | ended e submission _ hmem _ hjobs hdispatching _ =>
    rw [hdispatching] at hd
    obtain ⟨hd, _⟩ := hwired.mem_erase hmem hd
    exact Or.inl ⟨hd, by rw [hjobs]; exact hwired.waitingJob d hd⟩
  | submitted e backend reason _ hmem hjobs hdispatching _ =>
    rw [hdispatching] at hd
    obtain ⟨hd, hne⟩ := hwired.mem_erase hmem hd
    refine Or.inl ⟨hd, ?_⟩
    rw [hjobs]
    exact (get?_put_of_ne _ (by exact hne)).trans (hwired.waitingJob d hd)
  | polled job outcome status _ hmem _ _ hjobs hdispatching _ =>
    rw [hdispatching] at hd
    obtain ⟨hsub, oldStatus, hstored⟩ := hwired.polled job hmem
    have hjob := hwired.waitingJob d hd
    have hne : d.job.jobId ≠ job.jobId := fun heq => by
      rw [heq, hstored] at hjob
      have hunsub := (hwired.waiting d hd).unsubmitted
      rw [← Option.some.inj hjob] at hunsub
      rw [show job.executorInstanceId = none from hunsub] at hsub
      cases hsub
    refine Or.inl ⟨hd, ?_⟩
    rw [hjobs]
    exact (get?_put_of_ne _ (by exact hne)).trans hjob

theorem JobEffect.distinct (hwired : Wired sys) (heffect : JobEffect sys call sys') :
    (sys'.dispatching.map fun d => d.job.jobId).Nodup := by
  cases heffect with
  | kept _ _ hdispatching _ => rw [hdispatching]; exact hwired.waitingDistinct
  | begun taskId request e _ _ hfresh _ hdispatching _ =>
    rw [hdispatching, List.map_append, List.map_singleton]
    refine List.nodup_append'.mpr ⟨hwired.waitingDistinct, List.nodup_singleton _, ?_⟩
    rw [List.disjoint_singleton]
    intro hmem
    obtain ⟨d, hd, heq⟩ := List.mem_map.mp hmem
    have hjob := hwired.waitingJob d hd
    rw [heq, hfresh] at hjob
    cases hjob
  | ended e submission _ _ _ _ hdispatching _ =>
    rw [hdispatching]
    exact hwired.erase_distinct e
  | submitted e backend reason _ _ _ hdispatching _ =>
    rw [hdispatching]
    exact hwired.erase_distinct e
  | polled job outcome status _ _ _ _ _ hdispatching _ =>
    rw [hdispatching]
    exact hwired.waitingDistinct

theorem JobEffect.stored (hwired : Wired sys) (heffect : JobEffect sys call sys') {jobId : String}
    {job : WorkerJob} (hjob : sys'.store.jobs.get? jobId = some job) :
    (∃ old, sys.store.jobs.get? jobId = some old ∧ job.taskId = old.taskId ∧ job.stage = old.stage) ∨
      ∃ taskId request d, Begun call.env sys.store taskId request d ∧ job = d.job := by
  cases heffect with
  | kept _ hjobs _ _ => rw [hjobs] at hjob; exact Or.inl ⟨job, hjob, rfl, rfl⟩
  | begun taskId request e _ hbegun _ hjobs _ _ =>
    rw [hjobs, get?_put] at hjob
    split_ifs at hjob
    · exact Or.inr ⟨taskId, request, e, hbegun, (Option.some.inj hjob).symm⟩
    · exact Or.inl ⟨job, hjob, rfl, rfl⟩
  | ended e submission _ _ _ hjobs _ _ => rw [hjobs] at hjob; exact Or.inl ⟨job, hjob, rfl, rfl⟩
  | submitted e backend reason _ hmem hjobs _ _ =>
    rw [hjobs, get?_put] at hjob
    split_ifs at hjob with hkey
    · refine Or.inl ⟨e.job, ?_, ?_, ?_⟩
      · rw [hkey]
        exact hwired.waitingJob e hmem
      · rw [← Option.some.inj hjob]
        rfl
      · rw [← Option.some.inj hjob]
        rfl
    · exact Or.inl ⟨job, hjob, rfl, rfl⟩
  | polled polledJob outcome status _ hmem _ _ hjobs _ _ =>
    rw [hjobs, get?_put] at hjob
    split_ifs at hjob with hkey
    · obtain ⟨_, oldStatus, hstored⟩ := hwired.polled polledJob hmem
      refine Or.inl ⟨{ polledJob with status := oldStatus }, ?_, ?_, ?_⟩
      · rw [hkey]
        exact hstored
      · rw [← Option.some.inj hjob]
      · rw [← Option.some.inj hjob]
    · exact Or.inl ⟨job, hjob, rfl, rfl⟩

theorem Polled.put {job : WorkerJob} (h : Polled sys.store job) {v : WorkerJob}
    (hv : v.jobId = job.jobId → ∃ status, v = { job with status := status })
    (hjobs : sys'.store.jobs = sys.store.jobs.put v) : Polled sys'.store job := by
  obtain ⟨hsub, status, hstored⟩ := h
  refine ⟨hsub, ?_⟩
  rw [hjobs]
  by_cases hkey : v.jobId = job.jobId
  · obtain ⟨newStatus, hnew⟩ := hv hkey
    refine ⟨newStatus, ?_⟩
    rw [get?_put, if_pos hkey.symm, hnew]
  · exact ⟨status, (get?_put_of_ne _ (Ne.symm hkey)).trans hstored⟩

theorem JobEffect.polling (hwired : Wired sys) (heffect : JobEffect sys call sys')
    {job : WorkerJob} (hjob : job ∈ sys'.polling) : Polled sys'.store job := by
  cases heffect with
  | kept _ hjobs _ hpolling =>
    rw [hpolling] at hjob
    rw [Polled, hjobs]
    exact hwired.polled job hjob
  | begun taskId request d _ _ hfresh hjobs _ hpolling =>
    rw [hpolling] at hjob
    have hpolled := hwired.polled job hjob
    refine hpolled.put (fun hkey => ?_) hjobs
    obtain ⟨_, status, hstored⟩ := hpolled
    rw [← hkey, hfresh] at hstored
    cases hstored
  | ended d submission _ _ _ hjobs _ hpolling =>
    rw [hpolling] at hjob
    rw [Polled, hjobs]
    exact hwired.polled job hjob
  | submitted d backend reason _ hmem hjobs _ hpolling =>
    have hold : job ∈ sys.polling → Polled sys'.store job := fun hjob => by
      have hpolled := hwired.polled job hjob
      refine hpolled.put (fun hkey => ?_) hjobs
      obtain ⟨hsub, status, hstored⟩ := hpolled
      rw [← hkey, show (selectedJob sys.store d.job backend reason).jobId = d.job.jobId from rfl,
        hwired.waitingJob d hmem] at hstored
      have hunsub := (hwired.waiting d hmem).unsubmitted
      rw [Option.some.inj hstored] at hunsub
      rw [show job.executorInstanceId = none from hunsub] at hsub
      cases hsub
    rcases hpolling with hpolling | ⟨_, hpolling⟩
    · rw [hpolling, List.mem_append, List.mem_singleton] at hjob
      rcases hjob with hjob | rfl
      · exact hold hjob
      · refine ⟨rfl, (selectedJob sys.store d.job backend reason).status, ?_⟩
        rw [hjobs]
        exact get?_put_self _ _
    · rw [hpolling] at hjob
      exact hold hjob
  | polled polledJob outcome status _ hmem _ _ hjobs _ hpolling =>
    rw [hpolling] at hjob
    have hjob := List.mem_of_mem_erase hjob
    have hpolled := hwired.polled job hjob
    refine hpolled.put (fun hkey => ?_) hjobs
    obtain ⟨_, oldStatus, hstored⟩ := hpolled
    obtain ⟨_, oldStatus', hstored'⟩ := hwired.polled polledJob hmem
    have hget : sys.store.jobs.get? polledJob.jobId = some { job with status := oldStatus } := by
      rw [show polledJob.jobId = job.jobId from hkey]
      exact hstored
    have hsame := Option.some.inj (hstored'.symm.trans hget)
    exact ⟨status, congrArg (fun j : WorkerJob => { j with status := status }) hsame⟩

theorem task?_persists (hstep : controlPlane.step sys call sys') {id : String} {task : Task}
    (h : sys.store.task? id = some task) : ∃ task', sys'.store.task? id = some task' := by
  have heffect := taskEffect_of_step hstep id
  rw [h] at heffect
  exact heffect.isSome

theorem Wired.step (hwired : Wired sys) (hstep : controlPlane.step sys call sys') : Wired sys' := by
  have heffect := jobEffect_of_step hstep
  refine ⟨?_, ?_, heffect.distinct hwired, ?_, fun job hjob => heffect.polling hwired hjob, ?_, ?_,
    ?_⟩
  · intro d hd
    rcases heffect.waiting hwired hd with ⟨hold, _⟩ | ⟨taskId, request, hbegun, _, _⟩
    · exact hwired.waiting d hold
    · exact hbegun.waiting
  · intro d hd
    rcases heffect.waiting hwired hd with ⟨_, hjob⟩ | ⟨taskId, request, _, _, hjob⟩
    · exact hjob
    · exact hjob
  · intro d hd
    rcases heffect.waiting hwired hd with ⟨hold, _⟩ | ⟨taskId, request, hbegun, _, _⟩
    · obtain ⟨task, htask, htyped⟩ := hwired.waitingTask d hold
      obtain ⟨task', htask', htyped'⟩ := hwired.typedRef hstep htask
      exact ⟨task', htask', htyped'.trans htyped⟩
    · have hid := sys.store.task?_taskId hbegun.stored
      have hstored := hbegun.stored
      rw [← hid] at hstored
      exact hwired.typedRef hstep hstored
  · intro jobId job hjob
    rcases heffect.stored hwired hjob with ⟨old, hold, htask, _⟩ | ⟨taskId, request, d, hbegun, rfl⟩
    · obtain ⟨task, hstored⟩ := hwired.jobTask jobId old hold
      rw [htask]
      exact task?_persists hstep hstored
    · rw [hbegun.jobTask, sys.store.task?_taskId hbegun.stored]
      exact task?_persists hstep hbegun.stored
  · intro id task' jobId htask' hactive
    have htaskEffect := taskEffect_of_step hstep id
    rw [htask'] at htaskEffect
    rcases htaskEffect.activeJobId with ⟨task, htask, hsame⟩ | ⟨_, hnone⟩ |
      ⟨d, backend, reason, hop, hmem, hid, hjob⟩ | ⟨d, _, _, _, hmem, hid, hsame⟩
    · exact (hwired.active id task jobId htask (hsame ▸ hactive)).step hwired heffect
    · rw [hnone] at hactive
      cases hactive
    · obtain rfl : d.job.jobId = jobId := Option.some.inj (hjob.symm.trans hactive)
      cases heffect with
      | kept hno _ _ _ => exact absurd hop (hno d _)
      | begun _ _ _ hop' _ _ _ _ _ => rw [hop] at hop'; cases hop'
      | ended _ _ hop' _ hno _ _ _ =>
        rw [hop] at hop'
        cases hop'
        exact absurd rfl (hno backend reason)
      | submitted e backend' reason' hop' _ hjobs _ _ =>
        rw [hop] at hop'
        cases hop'
        refine ⟨selectedJob sys.store d.job backend reason, ?_,
          (hwired.waiting d hmem).jobTask.trans hid, rfl⟩
        rw [hjobs]
        exact get?_put_self _ _
      | polled _ _ _ hop' _ _ _ _ _ _ => rw [hop] at hop'; cases hop'
    · rw [← hid]
      exact (hwired.snapshotActive d hmem jobId (hsame ▸ hactive)).step hwired heffect
  · intro d hd jobId hactive
    rcases heffect.waiting hwired hd with ⟨hold, _⟩ | ⟨taskId, request, hbegun, _, _⟩
    · exact (hwired.snapshotActive d hold jobId hactive).step hwired heffect
    · have hid := sys.store.task?_taskId hbegun.stored
      rw [hid]
      exact (hwired.active taskId d.task jobId hbegun.stored hactive).step hwired heffect

end step

theorem wired_of_run {h : History System Call} {sys : System} (hrun : controlPlane.Run h sys) :
    Wired sys := by
  induction hrun with
  | start hfresh => exact wired_of_fresh hfresh
  | snoc _ hstep ih => exact ih.step hstep

end ShipyardCp.Store
