import ShipyardCp.Store.ControlPlaneStore

/-! Calls that are refused for the state of their task. What such a call wrote before it threw, it
wrote beside the tasks and their logs. -/

namespace ShipyardCp.Store

open Types Domain Lib ResultAnswer

def SameTasks (s s' : ControlPlane) : Prop := s'.tasks = s.tasks ∧ s'.events = s.events

/-- A program run from `s` that throws for a state has kept the tasks and the logs. -/
def Refuses {α : Type} (s : ControlPlane) : EStateM.Result StoreError ControlPlane α → Prop
  | .ok _ _ => True
  | .error e s' => e.refusesState = true → SameTasks s s'

section refuses

variable {α : Type} {s s' : ControlPlane}

@[simp] theorem refuses_ok {a : α} : Refuses s (.ok a s') ↔ True := Iff.rfl

@[simp] theorem refuses_self {e : StoreError} : Refuses (α := α) s (.error e s) ↔ True :=
  ⟨fun _ => trivial, fun _ _ => ⟨rfl, rfl⟩⟩

@[simp] theorem refuses_message {message : String} :
    Refuses (α := α) s (.error (.error message) s') ↔ True :=
  ⟨fun _ => trivial, fun _ h => by cases h⟩

theorem refuses_of_returns {P : ControlPlane → Prop} {r : EStateM.Result StoreError ControlPlane α}
    (h : returns P r) : Refuses s r := by
  cases r with
  | ok a s₁ => trivial
  | error e s₁ => exact h.elim

theorem sameTasks_of_thrown {p : StoreM α} {e : StoreError} (h : wp p (Refuses s) s)
    (hthrown : thrown? p s = some e) (hstate : e.refusesState = true) :
    SameTasks s (finalState p s) := by
  unfold wp at h
  unfold thrown? at hthrown
  unfold finalState
  cases hrun : p.run s with
  | ok a s' =>
    rw [hrun] at hthrown
    cases hthrown
  | error e' s' =>
    rw [hrun] at hthrown h
    obtain rfl := Option.some.inj hthrown
    exact h hstate

end refuses

section programs

variable {s : ControlPlane} {env : Env} {taskId : String}

theorem refuses_createTask (request : CreateTaskRequest) :
    wp (createTask env request) (Refuses s) s := by
  simp [createTask, validateCreateRequest]

theorem refuses_recordTransition (event : StateTransitionEvent) :
    wp (recordTransition env taskId event) (Refuses s) s := by
  simp only [recordTransition, validateTransitionEvent, validateTransition, wp_bind, wp_requireTask]
  cases s.task? taskId with
  | none => simp
  | some task => simp

theorem refuses_cancel : wp (cancel env taskId) (Refuses s) s := by
  simp only [cancel, wp_bind, wp_requireTask]
  cases htask : s.task? taskId with
  | none => simp
  | some task =>
    have hid := s.task?_taskId htask
    by_cases hterm : isTerminal task.state = true
    · simp [hterm]
    · by_cases hcan : canTransition task.state .cancelled = true
      · simp [hterm, hcan, ControlPlane.commit_task?, hid]
      · simp [hterm, hcan]

theorem refuses_beginDispatch (request : DispatchRequest) :
    wp (beginDispatch env taskId request) (Refuses s) s :=
  wp_beginDispatch (fun _ => refuses_self.mpr trivial)
    (fun _ _ _ _ _ _ => refuses_message.mpr trivial) fun _ _ _ _ _ _ _ => trivial

theorem refuses_settleDispatch (d : PendingDispatch) (submission : SubmissionResult) :
    wp (settleDispatch env d submission) (Refuses s) s :=
  wp_settleDispatch (fun _ _ => refuses_self.mpr trivial)
    (fun _ _ _ _ _ => refuses_message.mpr trivial) (fun _ _ _ _ _ _ => ⟨rfl, rfl⟩)
    fun _ _ _ _ => trivial

theorem refuses_applyResult (result : WorkerResult) :
    wp (applyResult env taskId result) (Refuses s) s := by
  by_cases hdelivery : ∃ task job, Delivery s taskId result task job
  · obtain ⟨task, job, hdelivery⟩ := hdelivery
    rw [wp_applyResult hdelivery, wp_orchestrateResult, wp_perform]
    cases (resultAnswer env (s.setResult result) result task job).move with
    | none => simp
    | some move =>
      dsimp only
      split_ifs
      · simp
      · exact fun _ => ⟨prepared_tasks .., prepared_events ..⟩
  · have hfinal := applyResult_ignored env hdelivery
    unfold finalState at hfinal
    unfold wp
    cases hrun : (applyResult env taskId result).run s with
    | ok response s' => trivial
    | error e s' =>
      rw [hrun] at hfinal
      obtain rfl : s' = s := hfinal
      exact refuses_self.mpr trivial

theorem settlePoll_returns (job : WorkerJob) (outcome : Except String WorkerResult) :
    wp (settlePoll env job outcome) (returns fun _ => True) s := by
  have hfailure : ∀ failureSummary s, wp (applyPollFailure env job failureSummary)
      (returns fun _ => True) s := by
    intro failureSummary s
    simp only [applyPollFailure, wp_bind, wp_modify, andThen_ok, wp_tryCatch]
    refine wp_mono (Q := fun _ => True) trivial fun r _ => ?_
    cases r <;> simp
  cases outcome with
  | error failureSummary => exact hfailure failureSummary s
  | ok result =>
    simp only [settlePoll, wp_bind, wp_modify, andThen_ok, wp_tryCatch]
    refine wp_mono (Q := fun _ => True) trivial fun r _ => ?_
    cases r with
    | ok response s' => simp
    | error e s' => exact hfailure e.message s'

theorem refuses_heartbeat (jobId workerId : String) :
    wp (heartbeat env jobId workerId) (Refuses s) s := by
  simp only [heartbeat, wp_bind, wp_get, andThen_ok]
  cases s.jobs.get? jobId with
  | none => simp
  | some job =>
    dsimp only
    cases s.leaseManager.heartbeat env.now jobId workerId <;> simp

theorem refuses_completeAcceptance (request : CompleteAcceptanceRequest) :
    wp (completeAcceptance env taskId request) (Refuses s) s := by
  simp only [completeAcceptance, wp_bind, wp_requireTask]
  cases htask : s.task? taskId with
  | none => simp
  | some task =>
    by_cases hstate : task.state = .accepting
    swap
    · simp [hstate]
    have hcan : canTransition (acceptedCandidate env.now task request).state .accepted = true := by
      simp [acceptedCandidate, hstate, canTransition, allowedTransitions]
    cases hrefusal : acceptanceRefusal env.now task request <;>
    by_cases hwrites : writesChecklist task request = true <;>
    simp [hstate, hwrites, htask, hrefusal, hcan]

theorem refuses_integrate (baseSha : String) : wp (integrate env taskId baseSha) (Refuses s) s := by
  simp only [integrate, wp_bind, wp_requireTask]
  cases htask : s.task? taskId with
  | none => simp
  | some task =>
    by_cases hstate : task.state = .accepted
    · by_cases hcan : canTransition (integratingTask env task baseSha).state .integrating = true
      · simp [hstate, hcan]
      · simp [hstate, hcan]
    · simp [hstate]

theorem refuses_completeIntegrate (request : CompleteIntegrateRequest) :
    wp (completeIntegrate env taskId request) (Refuses s) s := by
  simp only [completeIntegrate, wp_bind, wp_requireTask]
  cases htask : s.task? taskId with
  | none => simp
  | some task =>
    by_cases hstate : task.state = .integrating
    swap
    · simp [hstate]
    cases hint : task.integration with
    | none => simp [hstate, hint]
    | some integration =>
      simp only [andThen_ok, hstate, ne_eq, not_true_eq_false, if_false, hint]
      exact wp_completeIntegration env hstate hint fun _ _ _ _ _ _ => trivial

theorem refuses_publish (request : PublishRequest) :
    wp (publish env taskId request) (Refuses s) s := by
  simp only [publish, wp_bind, wp_requireTask]
  cases htask : s.task? taskId with
  | none => simp
  | some task =>
    by_cases hstate : task.state = .integrated
    swap
    · simp [hstate]
    simp only [andThen_ok, hstate, ne_eq, not_true_eq_false, if_false, wp_bind, wp_get]
    cases publishedBefore s request with
    | some existingTask => simp
    | none =>
      simp only [wp_bind]
      rw [wp_storeIdempotencyKey, andThen_ok]
      exact wp_startPublish env hstate (refuses_message.mpr trivial) fun _ _ _ _ _ _ => trivial

theorem refuses_approvePublish (approvalToken : String) :
    wp (approvePublish env taskId approvalToken) (Refuses s) s := by
  simp only [approvePublish, wp_bind, wp_requireTask]
  cases htask : s.task? taskId with
  | none => simp
  | some task =>
    by_cases hstate : task.state = .publishPendingApproval
    swap
    · simp [hstate]
    cases hvalid : validateApprovalToken env.now task approvalToken with
    | some message => simp [hstate, hvalid]
    | none =>
      by_cases hcan : canTransition (approvedTask env task).state .publishing = true
      · simp [hstate, hvalid, hcan]
      · simp [hstate, hvalid, hcan]

theorem refuses_completePublish (request : CompletePublishRequest) :
    wp (completePublish env taskId request) (Refuses s) s := by
  simp only [completePublish, wp_bind, wp_requireTask]
  cases htask : s.task? taskId with
  | none => simp
  | some task =>
    by_cases hstate : task.state = .publishing
    · by_cases hcan : canTransition (publishedTask env task request).state .published = true
      · simp [hstate, hcan]
      · simp [hstate, hcan]
    · simp [hstate]

theorem refuses_updateIntegrationProgress (progress : Int) :
    wp (updateIntegrationProgress env taskId progress) (Refuses s) s := by
  simp only [updateIntegrationProgress, wp_bind, wp_requireTask]
  cases s.task? taskId with
  | none => simp
  | some task => by_cases hstate : task.state = .integrating <;> simp [hstate]

theorem refuses_updatePublishProgress (progress : Int) :
    wp (updatePublishProgress env taskId progress) (Refuses s) s := by
  simp only [updatePublishProgress, wp_bind, wp_requireTask]
  cases s.task? taskId with
  | none => simp
  | some task => by_cases hstate : task.state = .publishing <;> simp [hstate]

theorem refuses_resolveDocs (request : ResolveDocsRequest) :
    wp (resolveDocs env taskId request) (Refuses s) s := by
  simp only [resolveDocs, wp_bind, wp_requireTask]
  cases htask : s.task? taskId <;> simp [htask]

theorem refuses_ackDocs (request : AckDocsRequest) :
    wp (ackDocs env taskId request) (Refuses s) s := by
  simp only [ackDocs, wp_bind, wp_requireTask]
  cases htask : s.task? taskId <;> simp [htask]

theorem refuses_settleStaleCheck (check : PendingStaleCheck) (currentVersions : List DocVersionInfo) :
    wp (settleStaleCheck env check currentVersions) (Refuses s) s := by
  simp only [settleStaleCheck, wp_ite, wp_bind, wp_updateTask]
  cases s.task? check.taskId <;> simp

theorem refuses_settleLinkTracker (link : PendingLink) :
    wp (settleLinkTracker env link) (Refuses s) s := by
  simp only [settleLinkTracker, wp_bind, wp_updateTask]
  cases s.task? link.taskId <;> simp

end programs

theorem sameTasks_of_refused {sys : System} {call : Call} {e : StoreError}
    (hthrown : sys.thrown? call = some e) (hstate : e.refusesState = true) :
    SameTasks sys.store (sys.perform call).store := by
  obtain ⟨env, op⟩ := call
  have hrefused : ∀ {α : Type} {p : StoreM α}, wp p (Refuses sys.store) sys.store →
      Lib.thrown? p sys.store = some e → SameTasks sys.store (finalState p sys.store) :=
    fun h hthrown => sameTasks_of_thrown h hthrown hstate
  cases op with
  | createTask request => exact hrefused (refuses_createTask request) hthrown
  | recordTransition taskId event => exact hrefused (refuses_recordTransition event) hthrown
  | cancel taskId => exact hrefused refuses_cancel hthrown
  | beginDispatch taskId request =>
    rw [System.perform, System.beginDispatch_store]
    exact hrefused (refuses_beginDispatch request) hthrown
  | settleDispatch d submission =>
    rw [System.perform, System.settleDispatch_store]
    exact hrefused (refuses_settleDispatch d submission) hthrown
  | applyResult taskId result => exact hrefused (refuses_applyResult result) hthrown
  | settlePoll job outcome =>
    exact hrefused (wp_mono (settlePoll_returns job outcome) fun _ => refuses_of_returns) hthrown
  | heartbeat jobId workerId => exact hrefused (refuses_heartbeat jobId workerId) hthrown
  | completeAcceptance taskId request =>
    exact hrefused (refuses_completeAcceptance request) hthrown
  | integrate taskId baseSha => exact hrefused (refuses_integrate baseSha) hthrown
  | completeIntegrate taskId request => exact hrefused (refuses_completeIntegrate request) hthrown
  | publish taskId request => exact hrefused (refuses_publish request) hthrown
  | approvePublish taskId approvalToken =>
    exact hrefused (refuses_approvePublish approvalToken) hthrown
  | completePublish taskId request => exact hrefused (refuses_completePublish request) hthrown
  | checkTimeouts =>
    exact hrefused (wp_mono (wp_checkTimeouts _) fun _ => refuses_of_returns) hthrown
  | updateIntegrationProgress taskId progress =>
    exact hrefused (refuses_updateIntegrationProgress progress) hthrown
  | updatePublishProgress taskId progress =>
    exact hrefused (refuses_updatePublishProgress progress) hthrown
  | scanForOrphans =>
    exact hrefused (wp_mono (wp_scanForOrphans _) fun _ => refuses_of_returns) hthrown
  | resolveDocs taskId request => exact hrefused (refuses_resolveDocs request) hthrown
  | ackDocs taskId request => exact hrefused (refuses_ackDocs request) hthrown
  | beginStaleCheck taskId docIds =>
    rw [System.perform, System.beginStaleCheck_store]
    exact ⟨rfl, rfl⟩
  | settleStaleCheck check currentVersions =>
    exact hrefused (refuses_settleStaleCheck check currentVersions) hthrown
  | beginLinkTracker taskId request =>
    rw [System.perform, System.beginLinkTracker_store]
    exact ⟨rfl, rfl⟩
  | settleLinkTracker link succeeded =>
    cases succeeded with
    | false => exact ⟨rfl, rfl⟩
    | true => exact hrefused (refuses_settleLinkTracker link) hthrown

end ShipyardCp.Store
