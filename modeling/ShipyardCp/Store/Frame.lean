import ShipyardCp.Store.ControlPlaneStore

/-! What calls leave alone beside the tasks and their logs. -/

namespace ShipyardCp.Store

open Types Domain Lib

def writesTasksOnly : Op → Bool
  | .beginDispatch _ _ | .settleDispatch _ _ | .applyResult _ _ | .settlePoll _ _ | .heartbeat _ _
  | .publish _ _ => false
  | _ => true

def usesSlots : Op → Bool
  | .beginDispatch _ _ | .applyResult _ _ | .settlePoll _ _ => true
  | _ => false

section frames

variable {sys sys' : System} {call : Call}

theorem SameBeside.refl (s : ControlPlane) : SameBeside s s := rfl

theorem SameBeside.commit (s : ControlPlane) (task : Task) (event : StateTransitionEvent) :
    SameBeside s (s.commit task event) := rfl

theorem SameBeside.setTask (s : ControlPlane) (task : Task) : SameBeside s (s.setTask task) := rfl

theorem SameBeside.updateReferences (s : ControlPlane) (env : Env) (u : ReferenceUpdate) :
    SameBeside s (s.updateReferences env u) := by
  unfold ControlPlane.updateReferences
  cases s.task? u.taskId with
  | none => exact .refl s
  | some task => exact .setTask s _

theorem sameBeside_perform (hop : writesTasksOnly call.op = true) :
    SameBeside sys.store (sys.perform call).store := by
  obtain ⟨env, op⟩ := call
  cases op with
  | createTask request =>
    change SameBeside _ (finalState (createTask env request) sys.store)
    rcases finalState_createTask env request (s := sys.store) with h | h <;> rw [h]
    · exact .refl _
    · exact .commit ..
  | recordTransition taskId event =>
    change SameBeside _ (finalState (recordTransition env taskId event) sys.store)
    rcases finalState_recordTransition env taskId event (s := sys.store) with
      h | ⟨task, _, _, _, _, h⟩ <;> rw [h]
    · exact .refl _
    · exact .commit ..
  | cancel taskId =>
    change SameBeside _ (finalState (cancel env taskId) sys.store)
    rcases finalState_cancel env taskId (s := sys.store) with h | ⟨task, _, _, h⟩ <;> rw [h]
    · exact .refl _
    · exact .commit ..
  | completeAcceptance taskId request =>
    change SameBeside _ (finalState (completeAcceptance env taskId request) sys.store)
    rcases finalState_completeAcceptance (s := sys.store) env taskId request with
      h | ⟨task, _, _, ⟨_, h⟩ | ⟨_, h⟩⟩ <;> rw [h]
    · exact .refl _
    · exact .setTask ..
    · exact .commit ..
  | integrate taskId baseSha =>
    change SameBeside _ (finalState (integrate env taskId baseSha) sys.store)
    rcases finalState_integrate (s := sys.store) env taskId baseSha with
      h | ⟨task, _, _, h⟩ <;> rw [h]
    · exact .refl _
    · exact .commit ..
  | completeIntegrate taskId request =>
    change SameBeside _ (finalState (completeIntegrate env taskId request) sys.store)
    rcases finalState_completeIntegrate (s := sys.store) env taskId request with
      h | ⟨_, _, _, _, _, _, _, _, h⟩ <;> rw [h]
    · exact .refl _
    · exact .commit ..
  | approvePublish taskId approvalToken =>
    change SameBeside _ (finalState (approvePublish env taskId approvalToken) sys.store)
    rcases finalState_approvePublish (s := sys.store) env taskId approvalToken with
      h | ⟨task, _, _, _, h⟩ <;> rw [h]
    · exact .refl _
    · exact .commit ..
  | completePublish taskId request =>
    change SameBeside _ (finalState (completePublish env taskId request) sys.store)
    rcases finalState_completePublish (s := sys.store) env taskId request with
      ⟨h, _⟩ | ⟨task, _, _, h⟩ <;> rw [h]
    · exact .refl _
    · exact .commit ..
  | checkTimeouts => exact (finalState_checkTimeouts env sys.store).1
  | updateIntegrationProgress taskId progress =>
    change SameBeside _ (finalState (updateIntegrationProgress env taskId progress) sys.store)
    rcases finalState_updateIntegrationProgress env taskId progress (s := sys.store) with
      h | ⟨_, _, _, _, _, h⟩ <;> rw [h]
    · exact .refl _
    · exact .setTask ..
  | updatePublishProgress taskId progress =>
    change SameBeside _ (finalState (updatePublishProgress env taskId progress) sys.store)
    rcases finalState_updatePublishProgress env taskId progress (s := sys.store) with
      h | ⟨_, _, _, _, _, h⟩ <;> rw [h]
    · exact .refl _
    · exact .setTask ..
  | scanForOrphans => exact (finalState_scanForOrphans env sys.store).1
  | resolveDocs taskId request =>
    change SameBeside _ (finalState (resolveDocs env taskId request) sys.store)
    rw [finalState_resolveDocs]
    exact .updateReferences ..
  | ackDocs taskId request =>
    change SameBeside _ (finalState (ackDocs env taskId request) sys.store)
    rw [finalState_ackDocs]
    exact .updateReferences ..
  | beginStaleCheck taskId docIds =>
    change SameBeside _ (sys.beginStaleCheck taskId docIds).store
    rw [System.beginStaleCheck_store]
    exact .refl _
  | settleStaleCheck check currentVersions =>
    change SameBeside _ (finalState (settleStaleCheck env check currentVersions) sys.store)
    rw [finalState_settleStaleCheck]
    split_ifs
    · exact .refl _
    · exact .updateReferences ..
  | beginLinkTracker taskId request =>
    change SameBeside _ (sys.beginLinkTracker taskId request).store
    rw [System.beginLinkTracker_store]
    exact .refl _
  | settleLinkTracker link succeeded =>
    cases succeeded with
    | false => exact .refl _
    | true =>
      change SameBeside _ (finalState (settleLinkTracker env link) sys.store)
      rw [finalState_settleLinkTracker]
      exact .updateReferences ..
  | _ => cases hop

theorem pending_perform (hop : writesTasksOnly call.op = true) :
    (sys.perform call).dispatching = sys.dispatching ∧ (sys.perform call).polling = sys.polling := by
  obtain ⟨env, op⟩ := call
  cases op with
  | beginStaleCheck taskId docIds =>
    change (sys.beginStaleCheck taskId docIds).dispatching = _ ∧
      (sys.beginStaleCheck taskId docIds).polling = _
    unfold System.beginStaleCheck
    split <;> exact ⟨rfl, rfl⟩
  | beginLinkTracker taskId request =>
    change (sys.beginLinkTracker taskId request).dispatching = _ ∧
      (sys.beginLinkTracker taskId request).polling = _
    unfold System.beginLinkTracker
    split <;> exact ⟨rfl, rfl⟩
  | beginDispatch _ _ | settleDispatch _ _ | applyResult _ _ | settlePoll _ _ | heartbeat _ _
  | publish _ _ => cases hop
  | _ => exact ⟨rfl, rfl⟩

theorem settleDispatch_beside {env : Env} {d : PendingDispatch} {submission : SubmissionResult} :
    (sys.settleDispatch env d submission).store.concurrencyManager = sys.store.concurrencyManager ∧
      (sys.settleDispatch env d submission).store.leaseManager = sys.store.leaseManager ∧
      (sys.settleDispatch env d submission).store.publishIdempotencyKeys =
        sys.store.publishIdempotencyKeys ∧
      (sys.settleDispatch env d submission).store.doomLoopDetector = sys.store.doomLoopDetector ∧
      (sys.settleDispatch env d submission).store.retryTracker = sys.store.retryTracker ∧
      (sys.settleDispatch env d submission).store.results = sys.store.results := by
  rw [System.settleDispatch_store]
  refine finalState_rec (settleDispatch env d submission) sys.store ?_
  refine wp_settleDispatch ?_ ?_ ?_ ?_ <;> intros <;> exact ⟨rfl, rfl, rfl, rfl, rfl, rfl⟩

theorem publish_beside (s : ControlPlane) (env : Env) (taskId : String) (request : PublishRequest) :
    (finalState (publish env taskId request) s).concurrencyManager = s.concurrencyManager ∧
      (finalState (publish env taskId request) s).leaseManager = s.leaseManager ∧
      (finalState (publish env taskId request) s).jobs = s.jobs ∧
      (finalState (publish env taskId request) s).doomLoopDetector = s.doomLoopDetector ∧
      (finalState (publish env taskId request) s).retryTracker = s.retryTracker ∧
      (finalState (publish env taskId request) s).results = s.results := by
  rcases finalState_publish (s := s) env taskId request with
    h | ⟨_, _, _, _, h | ⟨_, _, _, _, _, _, h⟩⟩ <;> rw [h] <;> exact ⟨rfl, rfl, rfl, rfl, rfl, rfl⟩

theorem concurrencyManager_perform (hop : usesSlots call.op = false) :
    (sys.perform call).store.concurrencyManager = sys.store.concurrencyManager := by
  by_cases htasks : writesTasksOnly call.op = true
  · exact (sameBeside_perform htasks).concurrencyManager
  · obtain ⟨env, op⟩ := call
    cases op with
    | settleDispatch d submission => exact settleDispatch_beside.1
    | heartbeat jobId workerId =>
      obtain ⟨leases, h, _⟩ := finalState_heartbeat env jobId workerId (s := sys.store)
      exact (congrArg ControlPlane.concurrencyManager h).trans rfl
    | publish taskId request => exact (publish_beside sys.store env taskId request).1
    | beginDispatch _ _ | applyResult _ _ | settlePoll _ _ => cases hop
    | _ => exact absurd rfl htasks

theorem beginDispatch_slots (sys : System) (env : Env) (taskId : String) (request : DispatchRequest) :
    ((sys.beginDispatch env taskId request).dispatching = sys.dispatching ∧
      (sys.beginDispatch env taskId request).store.concurrencyManager =
        sys.store.concurrencyManager) ∨
    ∃ d workerId, Begun env sys.store taskId request d ∧
      (sys.beginDispatch env taskId request).dispatching = sys.dispatching ++ [d] ∧
      (sys.beginDispatch env taskId request).store.concurrencyManager =
        sys.store.concurrencyManager.recordStart env.now d.job.jobId workerId request.targetStage := by
  have hwp : wp (beginDispatch env taskId request) (returnsOrThrows
      (fun d s' => Begun env sys.store taskId request d ∧ ∃ workerId, s'.concurrencyManager =
        sys.store.concurrencyManager.recordStart env.now d.job.jobId workerId request.targetStage)
      fun s' => s'.concurrencyManager = sys.store.concurrencyManager) sys.store :=
    wp_beginDispatch (fun _ => rfl) (fun _ _ _ _ _ _ => rfl) fun _ _ _ workerType _ hbegun _ =>
      ⟨hbegun, workerType.text, rfl⟩
  unfold wp at hwp
  unfold System.beginDispatch
  cases hrun : (beginDispatch env taskId request).run sys.store with
  | error e store =>
    rw [hrun] at hwp
    exact Or.inl ⟨rfl, hwp⟩
  | ok d store =>
    rw [hrun] at hwp
    obtain ⟨hbegun, workerId, hslots⟩ := hwp
    exact Or.inr ⟨d, workerId, hbegun, rfl, hslots⟩

end frames

/-! What calls can do to the leases. -/

/-- A predicate that grants, extensions and releases of leases keep. -/
structure LeaseInvariant (P : LeaseManager → Prop) : Prop where
  empty : P .empty
  acquire : ∀ m m' now jobId owner lease, P m → m.acquire now jobId owner = some (lease, m') → P m'
  heartbeat : ∀ m m' now jobId owner lease, P m →
    m.heartbeat now jobId owner = some (lease, m') → P m'
  release : ∀ m jobId owner, P m → P (m.release jobId owner)

section releases

variable {P : LeaseManager → Prop} {env : Env} {s : ControlPlane}
  (hrelease : ∀ m jobId owner, P m → P (m.release jobId owner))

include hrelease

theorem deliver_leaseManager (taskId : String) (result : WorkerResult) (h : P s.leaseManager) :
    P (deliver env s taskId result).leaseManager := by
  cases hdelivery : delivery? s taskId result with
  | none =>
    have hignored : ¬∃ task job, Delivery s taskId result task job := by
      rintro ⟨task, job, h⟩
      rw [delivery?_eq_some_iff.mpr h] at hdelivery
      cases hdelivery
    rw [deliver, applyResult_ignored env hignored]
    exact h
  | some p =>
    rw [deliver, applyResult_delivered (delivery?_eq_some_iff.mp hdelivery)]
    exact afterDelivery_leaseManager hrelease h

theorem settlePoll_leaseManager (job : WorkerJob) (outcome : Except String WorkerResult)
    (h : P s.leaseManager) : P (finalState (settlePoll env job outcome) s).leaseManager :=
  settlePoll_rec (P := fun s => P s.leaseManager) job outcome
    (fun _ taskId result hs => deliver_leaseManager hrelease taskId result hs) (fun _ _ hs => hs)
    (fun _ _ hs => hs) h

theorem leaseManager_of_step {sys sys' : System} {call : Call}
    (hstep : controlPlane.step sys call sys')
    (hbegin : ∀ taskId request, call.op ≠ .beginDispatch taskId request)
    (hheartbeat : ∀ jobId workerId, call.op ≠ .heartbeat jobId workerId)
    (h : P sys.store.leaseManager) : P sys'.store.leaseManager := by
  obtain ⟨_, rfl⟩ := step_iff.mp hstep
  by_cases htasks : writesTasksOnly call.op = true
  · rw [(sameBeside_perform htasks).leaseManager]
    exact h
  · obtain ⟨env, op⟩ := call
    cases op with
    | beginDispatch taskId request => exact absurd rfl (hbegin taskId request)
    | settleDispatch d submission =>
      change P (sys.settleDispatch env d submission).store.leaseManager
      rw [settleDispatch_beside.2.1]
      exact h
    | applyResult taskId result => exact deliver_leaseManager hrelease taskId result h
    | settlePoll job outcome => exact settlePoll_leaseManager hrelease job outcome h
    | heartbeat jobId workerId => exact absurd rfl (hheartbeat jobId workerId)
    | publish taskId request =>
      change P (finalState (publish env taskId request) sys.store).leaseManager
      rw [(publish_beside sys.store env taskId request).2.1]
      exact h
    | _ => exact absurd rfl htasks

end releases

namespace LeaseInvariant

variable {P : LeaseManager → Prop} {env : Env} {s : ControlPlane}

theorem beginDispatch (hP : LeaseInvariant P) (taskId : String) (request : DispatchRequest)
    (h : P s.leaseManager) : P (finalState (beginDispatch env taskId request) s).leaseManager := by
  refine finalState_rec (Store.beginDispatch env taskId request) s ?_
  exact wp_beginDispatch (fun _ => h) (fun _ _ _ _ _ _ => h) fun _ _ _ _ _ _ hacquire =>
    hP.acquire _ _ _ _ _ _ h hacquire

theorem heartbeatKeeps (hP : LeaseInvariant P) (jobId workerId : String) (h : P s.leaseManager) :
    P (finalState (Store.heartbeat env jobId workerId) s).leaseManager := by
  obtain ⟨leases, hfinal, hleases⟩ := finalState_heartbeat env jobId workerId (s := s)
  rw [hfinal]
  rcases hleases with rfl | ⟨lease, hbeat⟩
  · exact h
  · exact hP.heartbeat _ _ _ _ _ _ h hbeat

theorem step (hP : LeaseInvariant P) {sys sys' : System} {call : Call}
    (hstep : controlPlane.step sys call sys') (h : P sys.store.leaseManager) :
    P sys'.store.leaseManager := by
  by_cases hbegin : ∃ taskId request, call.op = .beginDispatch taskId request
  · obtain ⟨taskId, request, hop⟩ := hbegin
    obtain ⟨_, rfl⟩ := step_iff.mp hstep
    have hstore : (sys.perform call).store =
        finalState (Store.beginDispatch call.env taskId request) sys.store := by
      rw [System.perform, hop]
      exact sys.beginDispatch_store call.env taskId request
    rw [hstore]
    exact hP.beginDispatch taskId request h
  by_cases hheartbeat : ∃ jobId workerId, call.op = .heartbeat jobId workerId
  · obtain ⟨jobId, workerId, hop⟩ := hheartbeat
    obtain ⟨_, rfl⟩ := step_iff.mp hstep
    have hstore : (sys.perform call).store =
        finalState (Store.heartbeat call.env jobId workerId) sys.store := by
      rw [System.perform, hop]
      rfl
    rw [hstore]
    exact hP.heartbeatKeeps jobId workerId h
  · exact leaseManager_of_step hP.release hstep (fun taskId request hop =>
      hbegin ⟨taskId, request, hop⟩) (fun jobId workerId hop => hheartbeat ⟨jobId, workerId, hop⟩) h

theorem of_run (hP : LeaseInvariant P) {h : History System Call} {sys : System}
    (hrun : controlPlane.Run h sys) : P sys.store.leaseManager := by
  induction hrun with
  | start hfresh =>
    obtain ⟨_, _, _, rfl⟩ := hfresh
    exact hP.empty
  | snoc _ hstep ih => exact hP.step hstep ih

end LeaseInvariant

theorem unmarked_leaseInvariant : LeaseInvariant LeaseManager.Unmarked where
  empty := by
    intro jobId lease h
    cases h
  acquire _ _ _ _ _ _ h hacquire := h.acquire hacquire
  heartbeat _ _ _ _ _ _ h hbeat := h.heartbeat hbeat
  release _ jobId owner h := h.release jobId owner

end ShipyardCp.Store
