import ShipyardCp.Store.Wiring

/-! The idempotency keys of publish requests: who records them, and that they stay recorded. -/

namespace ShipyardCp.Store

open Types Domain Lib

def publishes : Op → Bool
  | .publish _ _ => true
  | _ => false

section keys

variable {sys sys' : System} {call : Call} {env : Env} {s : ControlPlane}

theorem publishIdempotencyKeys_perform (hop : publishes call.op = false) :
    (sys.perform call).store.publishIdempotencyKeys = sys.store.publishIdempotencyKeys := by
  by_cases htasks : writesTasksOnly call.op = true
  · exact (sameBeside_perform htasks).publishIdempotencyKeys
  · obtain ⟨env, op⟩ := call
    cases op with
    | beginDispatch taskId request =>
      change (sys.beginDispatch env taskId request).store.publishIdempotencyKeys = _
      rw [System.beginDispatch_store]
      refine finalState_rec (beginDispatch env taskId request) sys.store ?_
      exact wp_beginDispatch (fun _ => rfl) (fun _ _ _ _ _ _ => rfl) fun _ _ _ _ _ _ _ => rfl
    | settleDispatch d submission => exact settleDispatch_beside.2.2.1
    | applyResult taskId result => exact (deliver_beside taskId result).1
    | settlePoll job outcome =>
      exact settlePoll_rec
        (P := fun s => s.publishIdempotencyKeys = sys.store.publishIdempotencyKeys) job outcome
        (fun _ taskId result hs => (deliver_beside taskId result).1.trans hs)
        (fun _ _ hs => hs) (fun _ _ hs => hs) rfl
    | heartbeat jobId workerId =>
      obtain ⟨leases, h, _⟩ := finalState_heartbeat env jobId workerId (s := sys.store)
      exact (congrArg ControlPlane.publishIdempotencyKeys h).trans rfl
    | publish taskId request => cases hop
    | _ => exact absurd rfl htasks

/-- Every stored task has an id, and every recorded key is that of a stored task. -/
structure KeysRecorded (s : ControlPlane) : Prop where
  named : s.task? "" = none
  stored : ∀ key id, s.publishIdempotencyKeys.get? key = some id → ∃ task, s.task? id = some task

variable {key id : String} {request : PublishRequest}

theorem KeysRecorded.ne_empty (h : KeysRecorded s)
    (hrecorded : s.publishIdempotencyKeys.get? key = some id) : id ≠ "" := by
  rintro rfl
  obtain ⟨task, htask⟩ := h.stored key "" hrecorded
  rw [h.named] at htask
  cases htask

theorem KeysRecorded.publishedBefore (h : KeysRecorded s) (hkey : key ≠ "")
    (hrequest : request.idempotencyKey = some key)
    (hrecorded : s.publishIdempotencyKeys.get? key = some id) :
    publishedBefore s request = s.task? id := by
  simp [Store.publishedBefore, hrequest, hkey, hrecorded, h.ne_empty hrecorded]

theorem KeysRecorded.first (h : KeysRecorded s) (hkey : key ≠ "")
    (hrequest : request.idempotencyKey = some key)
    (hnone : Store.publishedBefore s request = none) : s.publishIdempotencyKeys.get? key = none := by
  cases hrecorded : s.publishIdempotencyKeys.get? key with
  | none => rfl
  | some id =>
    obtain ⟨task, htask⟩ := h.stored key id hrecorded
    rw [h.publishedBefore hkey hrequest hrecorded, htask] at hnone
    cases hnone

theorem keysWith_get? (hrequest : request.idempotencyKey = some key) (hkey : key ≠ "")
    (taskId : String) : (keysWith s request taskId).get? key = some taskId := by
  simp [keysWith, hrequest, hkey]

theorem keysWith_get?_of_ne (hrequest : request.idempotencyKey ≠ some key) (taskId : String) :
    (keysWith s request taskId).get? key = s.publishIdempotencyKeys.get? key := by
  unfold keysWith
  split
  · rfl
  · next key' hsome =>
    split_ifs
    · rfl
    · exact InsertionMap.get?_set_of_ne _ _ fun heq => hrequest (heq ▸ hsome)

theorem publishIdempotencyKeys_of_step (hstep : controlPlane.step sys call sys') :
    sys'.store.publishIdempotencyKeys = sys.store.publishIdempotencyKeys ∨
      ∃ taskId request task, call.op = .publish taskId request ∧
        sys.store.task? taskId = some task ∧ publishedBefore sys.store request = none ∧
        sys'.store.publishIdempotencyKeys = keysWith sys.store request taskId := by
  obtain ⟨_, rfl⟩ := step_iff.mp hstep
  obtain ⟨env, op⟩ := call
  cases hpublishes : publishes op with
  | false => exact Or.inl (publishIdempotencyKeys_perform hpublishes)
  | true =>
    cases op with
    | publish taskId request =>
      change (finalState (publish env taskId request) sys.store).publishIdempotencyKeys = _ ∨
        ∃ _ _ _, _ ∧ _ ∧ _ ∧
          (finalState (publish env taskId request) sys.store).publishIdempotencyKeys = _
      rcases finalState_publish (s := sys.store) env taskId request with
        h | ⟨task, htask, _, hnone, h | ⟨_, _, _, _, _, _, h⟩⟩ <;> rw [h]
      · exact Or.inl rfl
      · exact Or.inr ⟨taskId, request, task, rfl, htask, hnone, rfl⟩
      · exact Or.inr ⟨taskId, request, task, rfl, htask, hnone, rfl⟩
    | _ => cases hpublishes

theorem named_of_step (hwired : Wired sys) (hnamed : sys.store.task? "" = none)
    (hstep : controlPlane.step sys call sys') : sys'.store.task? "" = none := by
  cases htask' : sys'.store.task? "" with
  | none => rfl
  | some task' =>
    have heffect := taskEffect_of_step hstep ""
    rw [hnamed, htask'] at heffect
    have hwaiting : ∀ d ∈ sys.dispatching, d.task.taskId ≠ "" := by
      intro d hd hid
      obtain ⟨task, htask, _⟩ := hwired.waitingTask d hd
      rw [hid, hnamed] at htask
      cases htask
    generalize sys.store.log "" = log, sys'.store.log "" = log' at heffect
    cases heffect with
    | created request _ _ hid =>
      have hnil := congrArg String.toList hid
      simp [newTask, createId] at hnil
    | dispatched _ _ d _ _ _ hd hid _ => exact absurd hid (hwaiting d hd)
    | refused _ _ d _ _ _ _ _ hd hid _ => exact absurd hid (hwaiting d hd)

theorem KeysRecorded.step (hwired : Wired sys) (h : KeysRecorded sys.store)
    (hstep : controlPlane.step sys call sys') : KeysRecorded sys'.store := by
  refine ⟨named_of_step hwired h.named hstep, fun key id hrecorded => ?_⟩
  have hkept : ∀ task, sys.store.task? id = some task → ∃ task', sys'.store.task? id = some task' :=
    fun task htask => by
      have heffect := taskEffect_of_step hstep id
      rw [htask] at heffect
      exact heffect.isSome
  rcases publishIdempotencyKeys_of_step hstep with hsame | ⟨taskId, request, task, _, htask, _, hkeys⟩
  · rw [hsame] at hrecorded
    obtain ⟨task, htask⟩ := h.stored key id hrecorded
    exact hkept task htask
  · rw [hkeys] at hrecorded
    by_cases hrequest : request.idempotencyKey = some key
    · by_cases hkey : key = ""
      · subst hkey
        simp only [keysWith, hrequest, if_true] at hrecorded
        obtain ⟨task, htask⟩ := h.stored "" id hrecorded
        exact hkept task htask
      · rw [keysWith_get? hrequest hkey] at hrecorded
        obtain rfl := Option.some.inj hrecorded
        exact hkept task htask
    · rw [keysWith_get?_of_ne hrequest] at hrecorded
      obtain ⟨task, htask⟩ := h.stored key id hrecorded
      exact hkept task htask

theorem keysRecorded_of_run {h : History System Call} (hrun : controlPlane.Run h sys) :
    KeysRecorded sys.store := by
  induction hrun with
  | start hfresh =>
    obtain ⟨_, _, _, rfl⟩ := hfresh
    exact ⟨rfl, fun _ _ hrecorded => by cases hrecorded⟩
  | snoc hbefore hstep ih => exact ih.step (wired_of_run hbefore) hstep

theorem recorded_of_step (hrecords : KeysRecorded sys.store) (hkey : key ≠ "")
    (hstep : controlPlane.step sys call sys')
    (hrecorded : sys.store.publishIdempotencyKeys.get? key = some id) :
    sys'.store.publishIdempotencyKeys.get? key = some id := by
  rcases publishIdempotencyKeys_of_step hstep with hsame | ⟨taskId, request, _, _, _, hnone, hkeys⟩
  · rw [hsame]
    exact hrecorded
  · rw [hkeys, keysWith_get?_of_ne, hrecorded]
    intro hrequest
    rw [hrecords.first hkey hrequest hnone] at hrecorded
    cases hrecorded

end keys

/-! What the store holds is never dropped: tasks, jobs and results stay, and only stored tasks have a
log. -/

section calls

variable {sys sys' : System} {call : Call} {env : Env} {s s' : ControlPlane}

/-- Nothing the store holds is dropped, and a job stays with its task. -/
structure Grown (s s' : ControlPlane) : Prop where
  tasks : ∀ id task, s.task? id = some task → ∃ task', s'.task? id = some task'
  jobs : ∀ id job, s.jobs.get? id = some job →
    ∃ job', s'.jobs.get? id = some job' ∧ job'.taskId = job.taskId
  results : ∀ id result, s.results.get? id = some result →
    ∃ result', s'.results.get? id = some result'

theorem JobEffect.keepsTask (hwired : Wired sys) (heffect : JobEffect sys call sys') {id : String}
    {job : WorkerJob} (hjob : sys.store.jobs.get? id = some job) :
    ∃ job', sys'.store.jobs.get? id = some job' ∧ job'.taskId = job.taskId := by
  have hput : ∀ v : WorkerJob, (id = v.jobId → v.taskId = job.taskId) →
      ∃ job', (sys.store.jobs.put v).get? id = some job' ∧ job'.taskId = job.taskId := by
    intro v hv
    rw [KeyedMap.get?_put]
    split_ifs with hid
    · exact ⟨v, rfl, hv hid⟩
    · exact ⟨job, hjob, rfl⟩
  cases heffect with
  | kept _ hjobs _ _ => exact ⟨job, by rw [hjobs]; exact hjob, rfl⟩
  | begun _ _ d _ _ hfresh hjobs _ _ =>
    rw [hjobs]
    apply hput
    intro hid
    rw [hid, hfresh] at hjob
    cases hjob
  | ended _ _ _ _ _ hjobs _ _ => exact ⟨job, by rw [hjobs]; exact hjob, rfl⟩
  | submitted d backend reason _ hmem hjobs _ _ =>
    rw [hjobs]
    apply hput
    intro hid
    have hwaiting := hwired.waitingJob d hmem
    rw [← (show id = d.job.jobId from hid), hjob] at hwaiting
    rw [Option.some.inj hwaiting]
    rfl
  | polled polledJob _ status _ hmem _ _ hjobs _ _ =>
    rw [hjobs]
    apply hput
    intro hid
    obtain ⟨_, oldStatus, hstored⟩ := hwired.polled polledJob hmem
    rw [← (show id = polledJob.jobId from hid), hjob] at hstored
    rw [Option.some.inj hstored]

theorem deliver_results (taskId : String) (result : WorkerResult) {id : String}
    (h : ∃ r, s.results.get? id = some r) :
    ∃ r, (deliver env s taskId result).results.get? id = some r := by
  by_cases hdelivery : ∃ task job, Delivery s taskId result task job
  · obtain ⟨task, job, hdelivery⟩ := hdelivery
    rw [deliver, applyResult_delivered hdelivery, afterDelivery_results, KeyedMap.get?_put]
    split_ifs
    · exact ⟨result, rfl⟩
    · exact h
  · rw [deliver, applyResult_ignored env hdelivery]
    exact h

theorem results_perform {id : String} (h : ∃ r, sys.store.results.get? id = some r) :
    ∃ r, (sys.perform call).store.results.get? id = some r := by
  by_cases htasks : writesTasksOnly call.op = true
  · rw [(sameBeside_perform htasks).results]
    exact h
  · obtain ⟨env, op⟩ := call
    cases op with
    | beginDispatch taskId request =>
      change ∃ r, (sys.beginDispatch env taskId request).store.results.get? id = some r
      rw [System.beginDispatch_store]
      refine finalState_rec (beginDispatch env taskId request) sys.store ?_
      exact wp_beginDispatch (fun _ => h) (fun _ _ _ _ _ _ => h) fun _ _ _ _ _ _ _ => h
    | settleDispatch d submission =>
      change ∃ r, (sys.settleDispatch env d submission).store.results.get? id = some r
      rwa [settleDispatch_beside.2.2.2.2.2]
    | applyResult taskId result => exact deliver_results taskId result h
    | settlePoll job outcome =>
      refine settlePoll_rec (P := fun s => ∃ r, s.results.get? id = some r) job outcome
        (fun _ taskId result hs => deliver_results taskId result hs) (fun _ _ hs => hs)
        (fun s result hs => ?_) h
      change ∃ r, (s.results.put result).get? id = some r
      rw [KeyedMap.get?_put]
      split_ifs
      · exact ⟨result, rfl⟩
      · exact hs
    | heartbeat jobId workerId =>
      obtain ⟨leases, hfinal, _⟩ := finalState_heartbeat env jobId workerId (s := sys.store)
      have hresults : (sys.perform ⟨env, .heartbeat jobId workerId⟩).store.results =
          sys.store.results := (congrArg ControlPlane.results hfinal).trans rfl
      rw [hresults]
      exact h
    | publish taskId request =>
      change ∃ r, (finalState (publish env taskId request) sys.store).results.get? id = some r
      rwa [(publish_beside sys.store env taskId request).2.2.2.2.2]
    | _ => exact absurd rfl htasks

theorem grown_of_step (hwired : Wired sys) (hstep : controlPlane.step sys call sys') :
    Grown sys.store sys'.store := by
  refine ⟨fun id task htask => task?_persists hstep htask,
    fun id job hjob => (jobEffect_of_step hstep).keepsTask hwired hjob, fun id result hresult => ?_⟩
  obtain ⟨_, rfl⟩ := step_iff.mp hstep
  exact results_perform ⟨result, hresult⟩

theorem log_eq_nil_of_run {h : History System Call} (hrun : controlPlane.Run h sys) {id : String}
    (hnone : sys.store.task? id = none) : sys.store.log id = [] := by
  induction hrun with
  | start hfresh =>
    obtain ⟨_, _, _, rfl⟩ := hfresh
    rfl
  | @snoc h sys call sys' _ hstep ih =>
    have heffect := taskEffect_of_step hstep id
    rw [hnone] at heffect
    generalize hlog : sys.store.log id = log, sys'.store.log id = log' at heffect
    generalize htask : sys.store.task? id = task? at heffect
    cases heffect with
    | kept =>
      rw [← hlog]
      exact ih htask

end calls

end ShipyardCp.Store
