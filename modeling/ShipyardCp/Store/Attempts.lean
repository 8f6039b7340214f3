import ShipyardCp.Store.Application
import ShipyardCp.Store.Wiring

/-! What bounds the attempts at a stage: the histories of the loop detector, the retry limits of the
jobs, and the tracked retry counts. -/

namespace ShipyardCp.Store

open Types Domain Lib DoomLoopDetector System

def trackedRetries (s : ControlPlane) (taskId : String) (stage : WorkerStage) : Int :=
  (s.retryTracker.get? (taskId, stage)).getD 0

/-- The results a call tries, each with the store it is tried in: a poll tries the result of its job,
and the failure that stands in for a result that could not be applied. -/
def triedResults (call : Call) (s : ControlPlane) : List (ControlPlane × String × WorkerResult) :=
  match call.op with
  | .applyResult taskId result => [(s, taskId, result)]
  | .settlePoll job outcome =>
    (outcome.toOption.map fun result => (polled s job, job.taskId, result)).toList ++
      ((pollFailure call.env s job outcome).map fun p =>
        (p.1, job.taskId, pollFailureResult job p.2)).toList
  | _ => []

variable {p : ControlPlane × String × WorkerResult}

theorem mem_triedResults_settlePoll {env : Env} {s : ControlPlane} {job : WorkerJob}
    {outcome : Except String WorkerResult} :
    p ∈ triedResults ⟨env, .settlePoll job outcome⟩ s ↔
      (∃ result, outcome = .ok result ∧ p = (polled s job, job.taskId, result)) ∨
      ∃ s₁ failureSummary, pollFailure env s job outcome = some (s₁, failureSummary) ∧
        p = (s₁, job.taskId, pollFailureResult job failureSummary) := by
  simp only [triedResults, List.mem_append, Option.mem_toList, Option.map_eq_some_iff, Prod.exists]
  cases outcome with
  | error summary => simp [Except.toOption, eq_comm]
  | ok result => simp [Except.toOption, eq_comm]

theorem mem_triedResults_of_handedOver {call : Call} {s : ControlPlane} (h : handedOver? call s = some p) :
    p ∈ triedResults call s := by
  obtain ⟨env, op⟩ := call
  cases op with
  | applyResult taskId result =>
    obtain rfl : (s, taskId, result) = p := by simpa [handedOver?] using h
    exact List.mem_singleton.mpr rfl
  | settlePoll job outcome =>
    rw [mem_triedResults_settlePoll]
    simp only [handedOver?] at h
    cases hfailure : pollFailure env s job outcome with
    | some q =>
      rw [hfailure] at h
      exact Or.inr ⟨q.1, q.2, rfl, (Option.some.inj h).symm⟩
    | none =>
      rw [hfailure] at h
      cases outcome with
      | error summary => simp [Except.toOption] at h
      | ok result => exact Or.inl ⟨result, rfl, (Option.some.inj h).symm⟩
  | _ => simp [handedOver?] at h

section loops

variable {sys sys' : System} {call : Call} {env : Env} {s s₁ : ControlPlane}

theorem loops_pollFailure {job : WorkerJob} {outcome : Except String WorkerResult}
    {failureSummary : String} (h : pollFailure env s job outcome = some (s₁, failureSummary)) :
    s₁.doomLoopDetector = s.doomLoopDetector := by
  rcases pollFailure_cases h with rfl | ⟨result, -, -, rfl⟩
  · rfl
  · exact (@deliver_beside env (polled s job) job.taskId result).2

theorem finalState_beginDispatch (env : Env) (s : ControlPlane) (taskId : String)
    (request : DispatchRequest) :
    ((finalState (beginDispatch env taskId request) s).jobs = s.jobs ∧
      (finalState (beginDispatch env taskId request) s).doomLoopDetector = s.doomLoopDetector) ∨
    ∃ task workerType lease record, (finalState (beginDispatch env taskId request) s).jobs =
        s.jobs.put (buildJob env s task request workerType lease) ∧
      (finalState (beginDispatch env taskId request) s).doomLoopDetector =
        s.doomLoopDetector.trackTransition (createId env 0 "job") record := by
  refine finalState_rec (beginDispatch env taskId request) s ?_
  refine wp_beginDispatch (fun _ => Or.inl ⟨rfl, rfl⟩) (fun _ _ _ _ _ _ => Or.inl ⟨rfl, rfl⟩) ?_
  intro d lease leases workerType hjob hbegun _
  refine Or.inr ⟨d.task, workerType, lease,
    ⟨d.task.state, d.nextState.toTaskState, request.targetStage, env.now⟩, ?_, ?_⟩
  · change s.jobs.put d.job = _
    rw [hjob]
  · change s.doomLoopDetector.trackTransition d.job.jobId _ = _
    rw [hbegun.jobId]

theorem loops_perform (hop : ∀ taskId request, call.op ≠ .beginDispatch taskId request) :
    (sys.perform call).store.doomLoopDetector = sys.store.doomLoopDetector := by
  by_cases htasks : writesTasksOnly call.op = true
  · rw [sameBeside_perform htasks]
  · obtain ⟨env, op⟩ := call
    cases op with
    | beginDispatch taskId request => exact absurd rfl (hop taskId request)
    | settleDispatch d submission => exact settleDispatch_beside.2.2.2.1
    | applyResult taskId result => exact (deliver_beside taskId result).2
    | settlePoll job outcome =>
      exact settlePoll_rec (P := fun s => s.doomLoopDetector = sys.store.doomLoopDetector) job
        outcome (fun _ taskId result hs => (deliver_beside taskId result).2.trans hs)
        (fun _ _ hs => hs) (fun _ _ hs => hs) rfl
    | heartbeat jobId workerId =>
      obtain ⟨leases, h, _⟩ := finalState_heartbeat env jobId workerId (s := sys.store)
      exact (congrArg ControlPlane.doomLoopDetector h).trans rfl
    | publish taskId request => exact (publish_beside sys.store env taskId request).2.2.2.1
    | _ => exact absurd rfl htasks

end loops

section tracker

variable {sys : System} {call : Call}

theorem retryTracker_perform (hop : appliesResult call.op = false) :
    (sys.perform call).store.retryTracker = sys.store.retryTracker := by
  by_cases htasks : writesTasksOnly call.op = true
  · rw [sameBeside_perform htasks]
  · obtain ⟨env, op⟩ := call
    cases op with
    | beginDispatch taskId request =>
      change (sys.beginDispatch env taskId request).store.retryTracker = _
      rw [beginDispatch_store]
      refine finalState_rec (beginDispatch env taskId request) sys.store ?_
      exact wp_beginDispatch (fun _ => rfl) (fun _ _ _ _ _ _ => rfl) fun _ _ _ _ _ _ _ => rfl
    | settleDispatch d submission => exact settleDispatch_beside.2.2.2.2.1
    | heartbeat jobId workerId =>
      obtain ⟨leases, h, _⟩ := finalState_heartbeat env jobId workerId (s := sys.store)
      exact (congrArg ControlPlane.retryTracker h).trans rfl
    | publish taskId request => exact (publish_beside sys.store env taskId request).2.2.2.2.1
    | applyResult _ _ | settlePoll _ _ => cases hop
    | _ => exact absurd rfl htasks

theorem retryTracker_handedOver (hop : appliesResult call.op = true) :
    ∃ s₁ taskId result, handedOver? call sys.store = some (s₁, taskId, result) ∧
      (sys.perform call).store.retryTracker = (deliver call.env s₁ taskId result).retryTracker := by
  obtain ⟨env, op⟩ := call
  cases op with
  | applyResult taskId result => exact ⟨_, _, _, rfl, rfl⟩
  | settlePoll job outcome =>
    rcases settlePoll_final env job outcome (s := sys.store) with
      ⟨s₁, failureSummary, hfailure, hfinal⟩ | ⟨result, rfl, hfailure, hfinal⟩
    · refine ⟨s₁, job.taskId, pollFailureResult job failureSummary, by simp [handedOver?, hfailure],
        ?_⟩
      change (finalState (settlePoll env job outcome) sys.store).retryTracker = _
      rcases hfinal with hfinal | ⟨_, hfinal⟩
      · rw [hfinal]
      · rw [hfinal]
        rfl
    · refine ⟨polled sys.store job, job.taskId, result, ?_, ?_⟩
      · simp [handedOver?, hfailure, Except.toOption]
      · change (finalState (settlePoll env job (.ok result)) sys.store).retryTracker = _
        rw [hfinal]
  | _ => cases hop

end tracker

/-- What the jobs and the loop histories keep to: at most one transition is recorded of a job, none
before it is stored, and a job is retried as often as its stage allows. -/
structure AttemptLimits (s : ControlPlane) : Prop where
  short : ∀ jobId, (s.doomLoopDetector.getTransitionHistory jobId).length ≤ 1
  unseen : ∀ jobId, s.jobs.get? jobId = none → s.doomLoopDetector.getTransitionHistory jobId = []
  maxRetries : ∀ jobId job, s.jobs.get? jobId = some job →
    maxRetriesOf job = getDefaultMaxRetries job.stage

namespace AttemptLimits

variable {sys sys' : System} {call : Call} {s s₁ : ControlPlane}

theorem detectLoop (h : AttemptLimits s) (jobId : String) :
    s.doomLoopDetector.detectLoop jobId = none :=
  detectLoop_of_short (Nat.lt_succ_of_le (h.short jobId))

theorem put (h : AttemptLimits s) {old v : WorkerJob}
    (hold : s.jobs.get? v.jobId = some old) (hstage : v.stage = old.stage)
    (hpolicy : v.retryPolicy = old.retryPolicy) (hjobs : s₁.jobs = s.jobs.put v)
    (hloops : s₁.doomLoopDetector = s.doomLoopDetector) : AttemptLimits s₁ := by
  refine ⟨fun jobId => by rw [hloops]; exact h.short jobId, fun jobId hnone => ?_,
    fun jobId job hjob => ?_⟩
  · rw [hloops]
    rw [hjobs, KeyedMap.get?_put] at hnone
    split_ifs at hnone
    exact h.unseen jobId hnone
  · rw [hjobs, KeyedMap.get?_put] at hjob
    split_ifs at hjob
    · obtain rfl := Option.some.inj hjob
      have hmax := h.maxRetries _ _ hold
      unfold maxRetriesOf at hmax ⊢
      rw [hpolicy, hstage]
      exact hmax
    · exact h.maxRetries jobId job hjob

theorem beginDispatch (h : AttemptLimits s) {env : Env} {taskId : String} {request : DispatchRequest}
    (hfresh : s.jobs.get? (createId env 0 "job") = none) :
    AttemptLimits (finalState (beginDispatch env taskId request) s) := by
  rcases finalState_beginDispatch env s taskId request with
    ⟨hjobs, hloops⟩ | ⟨task, workerType, lease, record, hjobs, hloops⟩
  · exact ⟨fun jobId => by rw [hloops]; exact h.short jobId,
      fun jobId hnone => by rw [hloops]; exact h.unseen jobId (hjobs ▸ hnone),
      fun jobId job hjob => h.maxRetries jobId job (hjobs ▸ hjob)⟩
  · have hhistory : ∀ jobId, getTransitionHistory
        (finalState (Store.beginDispatch env taskId request) s).doomLoopDetector jobId =
          if jobId = createId env 0 "job" then [record]
          else s.doomLoopDetector.getTransitionHistory jobId := by
      intro jobId
      have hempty := h.unseen _ hfresh
      rw [hloops, trackTransition, getTransitionHistory, InsertionMap.get?_set]
      split_ifs
      · rw [hempty]
        rfl
      · rfl
    refine ⟨fun jobId => ?_, fun jobId hnone => ?_, fun jobId job hjob => ?_⟩
    · rw [hhistory]
      split_ifs
      · exact le_rfl
      · exact h.short jobId
    · rw [hjobs, KeyedMap.get?_put] at hnone
      split_ifs at hnone with hkey
      rw [hhistory, if_neg (by exact hkey)]
      exact h.unseen jobId hnone
    · rw [hjobs, KeyedMap.get?_put] at hjob
      split_ifs at hjob
      · obtain rfl := Option.some.inj hjob
        rfl
      · exact h.maxRetries jobId job hjob

theorem step (h : AttemptLimits sys.store) (hwired : Wired sys)
    (hstep : controlPlane.step sys call sys') : AttemptLimits sys'.store := by
  have heffect := jobEffect_of_step hstep
  obtain ⟨henabled, rfl⟩ := step_iff.mp hstep
  by_cases hop : ∃ taskId request, call.op = .beginDispatch taskId request
  · obtain ⟨env, _⟩ := call
    obtain ⟨taskId, request, rfl⟩ := hop
    change AttemptLimits (sys.beginDispatch env taskId request).store
    rw [beginDispatch_store]
    exact h.beginDispatch (by simpa [enabled] using henabled)
  · have hloops : (sys.perform call).store.doomLoopDetector = sys.store.doomLoopDetector :=
      loops_perform fun taskId request heq => hop ⟨taskId, request, heq⟩
    have hkept : (sys.perform call).store.jobs = sys.store.jobs →
        AttemptLimits (sys.perform call).store := fun hjobs =>
      ⟨fun jobId => by rw [hloops]; exact h.short jobId,
        fun jobId hnone => by rw [hloops]; exact h.unseen jobId (hjobs ▸ hnone),
        fun jobId job hjob => h.maxRetries jobId job (hjobs ▸ hjob)⟩
    cases heffect with
    | kept _ hjobs _ _ => exact hkept hjobs
    | begun taskId request d hbegins _ _ _ _ _ => exact absurd ⟨taskId, request, hbegins⟩ hop
    | ended d submission _ _ _ hjobs _ _ => exact hkept hjobs
    | submitted d backend reason _ hmem hjobs _ _ =>
      exact h.put (v := selectedJob sys.store d.job backend reason) (hwired.waitingJob d hmem)
        rfl rfl hjobs hloops
    | polled job outcome status _ hmem _ _ hjobs _ _ =>
      obtain ⟨_, oldStatus, hstored⟩ := hwired.polled job hmem
      exact h.put (v := { job with status := status }) hstored rfl rfl hjobs hloops

theorem tried (h : AttemptLimits sys.store) (hwired : Wired sys) (henabled : sys.enabled call = true)
    (hp : p ∈ triedResults call sys.store) : AttemptLimits p.1 := by
  obtain ⟨env, op⟩ := call
  cases op with
  | applyResult taskId result =>
    obtain rfl : p = (sys.store, taskId, result) := by simpa [triedResults] using hp
    exact h
  | settlePoll job outcome =>
    obtain ⟨_, oldStatus, hstored⟩ := hwired.polled job (by simpa [enabled] using henabled)
    have hput : ∀ s₂ : ControlPlane, ∀ status, s₂.jobs = sys.store.jobs.put
        { job with status := status } → s₂.doomLoopDetector = sys.store.doomLoopDetector →
        AttemptLimits s₂ := fun s₂ status hjobs hloops =>
      h.put (v := { job with status := status }) hstored rfl rfl hjobs hloops
    rcases mem_triedResults_settlePoll.mp hp with
      ⟨result, _, rfl⟩ | ⟨s₁, failureSummary, hfailure, rfl⟩
    · exact hput _ .completed rfl rfl
    · exact hput _ .failed (pollFailure_store hfailure).2.2 (loops_pollFailure hfailure)
  | _ => simp [triedResults] at hp

end AttemptLimits

theorem attemptLimits_of_fresh {sys : System} (h : IsFresh sys) : AttemptLimits sys.store := by
  obtain ⟨_, _, _, rfl⟩ := h
  constructor <;>
    simp [initial, ControlPlane.initial, empty, getTransitionHistory]

theorem attemptLimits_of_run {h : History System Call} {sys : System}
    (hrun : controlPlane.Run h sys) : AttemptLimits sys.store := by
  induction hrun with
  | start hfresh => exact attemptLimits_of_fresh hfresh
  | snoc hr hstep ih => exact ih.step (wired_of_run hr) hstep

end ShipyardCp.Store
