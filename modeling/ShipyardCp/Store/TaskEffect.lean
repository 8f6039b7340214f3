import ShipyardCp.Store.ControlPlaneStore

/-! What a call can do to one task and its log. Every call changes each task in one of a few ways; the
properties of the control plane are derived from these. -/

namespace ShipyardCp.Store

open Types Domain Lib ControlPlane ResultAnswer System

/-- The transitions that operations make on the stored task. -/
inductive Moved (call : Call) (id : String) (task : Task) : Task → StateTransitionEvent → Prop
  | cancelled : call.op = .cancel id → isTerminal task.state = false →
      Moved call id task (transitioned call.env task .cancelled)
        (transitionEvent call.env 0 task .cancelled cancelInput)
  | incapable (request : DispatchRequest) (missing : List Capability) :
      call.op = .beginDispatch id request →
      getAllowedDispatchStage task.state = some request.targetStage →
      Moved call id task
        (transitioned call.env (incapableTask task request.targetStage missing) .blocked)
        (transitionEvent call.env 0 (incapableTask task request.targetStage missing) .blocked
          (incapableInput request.targetStage missing))
  | accepted (request : CompleteAcceptanceRequest) : call.op = .completeAcceptance id request →
      AcceptanceGates call.env.now task request →
      Moved call id task
        (transitioned call.env (acceptedCandidate call.env.now task request) .accepted)
        (transitionEvent call.env 0 (acceptedCandidate call.env.now task request) .accepted
          acceptedInput)
  | integrating (baseSha : String) : call.op = .integrate id baseSha → task.state = .accepted →
      Moved call id task (transitioned call.env (integratingTask call.env task baseSha) .integrating)
        (transitionEvent call.env 1 (integratingTask call.env task baseSha) .integrating
          (integrateInput task baseSha))
  | integrationEnded (request : CompleteIntegrateRequest) (moved : Task) (toState : TaskState)
      (reason : String) : call.op = .completeIntegrate id request → task.state = .integrating →
      IntegrationMove call.env task request moved toState →
      Moved call id task (transitioned call.env moved toState)
        (transitionEvent call.env 0 moved toState (blockInput reason))
  | publish (request : PublishRequest) (n : Nat) (moved : Task) (toState : TaskState)
      (input : TransitionInput) : call.op = .publish id request → task.state = .integrated →
      PublishMove call.env task request moved toState input →
      Moved call id task (transitioned call.env moved toState)
        (transitionEvent call.env n moved toState input)
  | approved (approvalToken : String) : call.op = .approvePublish id approvalToken →
      task.state = .publishPendingApproval →
      validateApprovalToken call.env.now task approvalToken = none →
      Moved call id task (transitioned call.env (approvedTask call.env task) .publishing)
        (transitionEvent call.env 1 (approvedTask call.env task) .publishing approvedInput)
  | published (request : CompletePublishRequest) : call.op = .completePublish id request →
      task.state = .publishing →
      Moved call id task (transitioned call.env (publishedTask call.env task request) .published)
        (transitionEvent call.env 0 (publishedTask call.env task request) .published
          (controlPlaneInput "publish completed"))
  | timedOut (updatedTask : Task) (reason : String) (n : Nat) : call.op = .checkTimeouts →
      timedOut call.env.now task = some (updatedTask, reason) →
      Moved call id task (transitioned call.env updatedTask .blocked)
        (transitionEvent call.env n updatedTask .blocked (timeoutInput reason))
  | orphaned (resumeState : ResumeState) (reason : String) (n : Nat) :
      call.op = .scanForOrphans → resumeState.toTaskState = task.state →
      canTransition task.state .blocked = true →
      Moved call id task (applyTaskUpdate call.env (transitioned call.env task .blocked)
          { blockedContext := some (orphanContext resumeState reason) })
        (transitionEvent call.env n task .blocked (orphanInput reason))

/-- The references a call writes. -/
def referenceUpdate? (call : Call) : Option ReferenceUpdate :=
  match call.op with
  | .resolveDocs taskId request => some ⟨taskId, fun _ => some (resolvedRefs request), fun _ => none⟩
  | .ackDocs taskId request =>
    some ⟨taskId, fun task => some (acknowledgedRefs taskId task request), fun _ => none⟩
  | .settleStaleCheck check currentVersions =>
    if staleItems call.env.now check currentVersions = [] then none
    else some ⟨check.taskId, fun _ => some { check.resolverRefs with staleStatus := some .stale },
        fun _ => none⟩
  | .settleLinkTracker link true =>
    some ⟨link.taskId, fun _ => none, fun _ =>
      some (mergeTrackerRefs link.externalRefs (linkedRefs call.env.now link.taskId link.request))⟩
  | _ => none

/-- The writes that leave the task in its state and are not logged. -/
inductive Patched (call : Call) (id : String) (task : Task) : Task → Prop
  | checklist (request : CompleteAcceptanceRequest) : call.op = .completeAcceptance id request →
      task.state = .accepting → writesChecklist task request = true →
      Patched call id task (checklistWritten call.env task request)
  | integrationProgress (progress : Int) (run : IntegrationRun) :
      call.op = .updateIntegrationProgress id progress → task.state = .integrating →
      task.integrationRun = some run →
      Patched call id task (integrationProgressed call.env task run progress)
  | publishProgress (progress : Int) (run : PublishRun) :
      call.op = .updatePublishProgress id progress → task.state = .publishing →
      task.publishRun = some run →
      Patched call id task (publishProgressed call.env task run progress)
  | references (u : ReferenceUpdate) : referenceUpdate? call = some u → u.taskId = id →
      Patched call id task (u.applied call.env task)

def appliedBy (call : Call) (s : ControlPlane) : Option (String × WorkerResult) :=
  match call.op with
  | .applyResult taskId result =>
    if accepts call.env s taskId result then some (taskId, result) else none
  | .settlePoll job outcome =>
    (appliedByPoll call.env s job outcome).map fun result => (job.taskId, result)
  | _ => none

def Known (sys : System) (job : WorkerJob) : Prop :=
  ∃ job₀, (sys.store.jobs.get? job.jobId = some job₀ ∨ (job₀ ∈ sys.polling ∧ job₀.jobId = job.jobId)) ∧
    job = { job₀ with status := job.status }

/-- All a call can do to the task of an id and to its log. -/
inductive TaskEffect (sys : System) (call : Call) (id : String) :
    Option Task → List StateTransitionEvent → Option Task → List StateTransitionEvent → Prop
  | kept (task : Option Task) (log : List StateTransitionEvent) :
      TaskEffect sys call id task log task log
  | created (request : CreateTaskRequest) (log : List StateTransitionEvent) :
      call.op = .createTask request → (newTask call.env request).taskId = id →
      TaskEffect sys call id none log (some (newTask call.env request))
        (log ++ [createdEvent call.env (newTask call.env request)])
  | recorded (task : Task) (log : List StateTransitionEvent) (event : StateTransitionEvent) :
      call.op = .recordTransition id event → event.taskId = id → event.fromState = task.state →
      canTransition task.state event.toState = true →
      TaskEffect sys call id (some task) log (some (recorded call.env task event.toState))
        (log ++ [event])
  | moved (task task' : Task) (log : List StateTransitionEvent) (event : StateTransitionEvent) :
      Moved call id task task' event →
      TaskEffect sys call id (some task) log (some task') (log ++ [event])
  | patched (task task' : Task) (log : List StateTransitionEvent) : Patched call id task task' →
      TaskEffect sys call id (some task) log (some task') log
  | answered (task : Task) (log : List StateTransitionEvent) (result : WorkerResult)
      (job : WorkerJob) (a : ResultAnswer) : appliedBy call sys.store = some (id, result) →
      Known sys job → job.jobId = result.jobId → task.activeJobId = some result.jobId →
      a.Sound result task job → a.allowed task = true →
      TaskEffect sys call id (some task) log (some (a.resultTask call.env task))
        (log ++ a.events call.env task)
  | dispatched (task : Option Task) (log : List StateTransitionEvent) (d : PendingDispatch)
      (backend : Option ExecutionBackend) (reason : Option String) :
      call.op = .settleDispatch d (.success backend reason) → d ∈ sys.dispatching →
      d.task.taskId = id → canTransition d.task.state d.nextState.toTaskState = true →
      TaskEffect sys call id task log
        (some (transitioned call.env (dispatchedTask d) d.nextState.toTaskState))
        (log ++ [transitionEvent call.env 0 (dispatchedTask d) d.nextState.toTaskState
          (dispatchedInput d.request.targetStage d.job)])
  | refused (task : Option Task) (log : List StateTransitionEvent) (d : PendingDispatch)
      (error : Option String) (failure : String) :
      call.op = .settleDispatch d (.failure error) →
      failure = error.getD "unknown worker submission failure" →
      isBackendRefusal failure = true → d ∈ sys.dispatching → d.task.taskId = id →
      canTransition d.task.state .blocked = true →
      TaskEffect sys call id task log (some (transitioned call.env (refusedTask d failure) .blocked))
        (log ++ [transitionEvent call.env 0 (refusedTask d failure) .blocked
          (refusedInput d.job failure)])

/-- The effect of a call on every task, when the store ends as `s'`. -/
def Effect (sys : System) (call : Call) (s' : ControlPlane) : Prop :=
  ∀ id, TaskEffect sys call id (sys.store.task? id) (sys.store.log id) (s'.task? id) (s'.log id)

section effects

variable {sys : System} {call : Call} {s' : ControlPlane}

theorem Effect.same (htasks : s'.tasks = sys.store.tasks) (hevents : s'.events = sys.store.events) :
    Effect sys call s' := fun id => by
  rw [task?, task?, htasks, log, log, hevents]
  exact .kept _ _

theorem Effect.refl : Effect sys call sys.store := .same rfl rfl

variable {s₀ : ControlPlane}

theorem Effect.commit {task' : Task} {event : StateTransitionEvent}
    (htasks : s₀.tasks = sys.store.tasks) (hevents : s₀.events = sys.store.events)
    (hid : event.taskId = task'.taskId)
    (heffect : TaskEffect sys call task'.taskId (sys.store.task? task'.taskId)
      (sys.store.log task'.taskId) (some task') (sys.store.log task'.taskId ++ [event])) :
    Effect sys call (s₀.commit task' event) := fun id => by
  have htask₀ : s₀.task? id = sys.store.task? id := by
    rw [task?, htasks, task?]
  have hlog₀ : s₀.log id = sys.store.log id := by
    rw [log, hevents, log]
  rw [commit_task?, commit_log, hid, htask₀, hlog₀]
  by_cases h : id = task'.taskId
  · subst h
    simpa using heffect
  · simpa [h] using TaskEffect.kept (sys.store.task? id) (sys.store.log id)

variable {taskId : String}

theorem Effect.move {task task' : Task}
    {event : StateTransitionEvent} (htasks : s₀.tasks = sys.store.tasks)
    (hevents : s₀.events = sys.store.events) (hstored : sys.store.task? taskId = some task)
    (hevent : event.taskId = task.taskId) (htask' : task'.taskId = task.taskId)
    (hmove : Moved call taskId task task' event) : Effect sys call (s₀.commit task' event) := by
  have hid := sys.store.task?_taskId hstored
  refine .commit htasks hevents (hevent.trans htask'.symm) ?_
  rw [htask', hid, hstored]
  exact .moved task task' _ event hmove

theorem Effect.patch {task task' : Task}
    (htasks : s₀.tasks = sys.store.tasks) (hevents : s₀.events = sys.store.events)
    (hstored : sys.store.task? taskId = some task) (htask' : task'.taskId = task.taskId)
    (hpatch : Patched call taskId task task') : Effect sys call (s₀.setTask task') := fun id => by
  have hid := sys.store.task?_taskId hstored
  have htask₀ : s₀.task? id = sys.store.task? id := by
    rw [task?, htasks, task?]
  have hlog₀ : s₀.log id = sys.store.log id := by
    rw [log, hevents, log]
  rw [setTask_task?, setTask_log, htask', hid, htask₀, hlog₀]
  by_cases h : id = taskId
  · subst h
    rw [if_pos rfl, hstored]
    exact .patched task task' _ hpatch
  · simpa [h] using TaskEffect.kept (sys.store.task? id) (sys.store.log id)

theorem Effect.references {u : ReferenceUpdate} (hupdate : referenceUpdate? call = some u) :
    Effect sys call (sys.store.updateReferences call.env u) := by
  unfold updateReferences
  cases hstored : sys.store.task? u.taskId with
  | none => exact .refl
  | some task => exact .patch rfl rfl hstored rfl (.references u hupdate rfl)

theorem Effect.answer {result : WorkerResult} {task : Task}
    {job : WorkerJob} (htasks : s₀.tasks = sys.store.tasks)
    (hevents : s₀.events = sys.store.events)
    (happlied : appliedBy call sys.store = some (taskId, result))
    (hdelivery : Delivery s₀ taskId result task job) (hknown : Known sys job)
    (hallowed : (deliveryAnswer call.env s₀ result task job).allowed task = true)
    (htasks' : s'.tasks = (afterDelivery call.env s₀ result task job).tasks)
    (hevents' : s'.events = (afterDelivery call.env s₀ result task job).events) :
    Effect sys call s' := fun id => by
  have hid := s₀.task?_taskId hdelivery.stored
  have htask : s'.task? id = (afterDelivery call.env s₀ result task job).task? id := by
    rw [task?, htasks', task?]
  have hlog : s'.log id = (afterDelivery call.env s₀ result task job).log id := by
    rw [log, hevents', log]
  have htask₀ : s₀.task? id = sys.store.task? id := by
    rw [task?, htasks, task?]
  have hlog₀ : s₀.log id = sys.store.log id := by
    rw [log, hevents, log]
  rw [htask, hlog, afterDelivery_task? id hallowed, afterDelivery_log id hallowed, hid, htask₀, hlog₀]
  by_cases h : id = taskId
  · subst h
    rw [if_pos rfl, if_pos rfl, ← htask₀, hdelivery.stored]
    exact .answered task _ result job _ happlied hknown (s₀.jobs.key_of_get? hdelivery.job)
      hdelivery.active resultAnswer_sound hallowed
  · simpa [h] using TaskEffect.kept (sys.store.task? id) (sys.store.log id)

theorem effect_createTask {env : Env} {request : CreateTaskRequest}
    (hfresh : sys.store.task? (createId env 0 "task") = none) :
    Effect sys ⟨env, .createTask request⟩ (finalState (createTask env request) sys.store) := by
  rcases finalState_createTask env request (s := sys.store) with h | h
  · rw [h]
    exact .refl
  · rw [h]
    refine .commit rfl rfl rfl ?_
    rw [show sys.store.task? (newTask env request).taskId = none from hfresh]
    exact .created request _ rfl rfl

theorem effect_recordTransition {env : Env} {event : StateTransitionEvent} :
    Effect sys ⟨env, .recordTransition taskId event⟩
      (finalState (recordTransition env taskId event) sys.store) := by
  rcases finalState_recordTransition env taskId event (s := sys.store) with
    h | ⟨task, hstored, hid, hfrom, hcan, h⟩
  · rw [h]
    exact .refl
  · have htask := sys.store.task?_taskId hstored
    rw [h]
    refine .commit rfl rfl (hid.trans htask.symm) ?_
    rw [show (recorded env task event.toState).taskId = taskId from htask, hstored]
    exact .recorded task _ event rfl hid hfrom hcan

theorem effect_beginDispatch {env : Env} {request : DispatchRequest} :
    Effect sys ⟨env, .beginDispatch taskId request⟩
      (sys.beginDispatch env taskId request).store := by
  rw [beginDispatch_store]
  refine finalState_rec (beginDispatch env taskId request) sys.store ?_
  refine wp_beginDispatch (fun _ => .refl) ?_ fun _ _ _ _ _ _ _ => .same rfl rfl
  exact fun message task missing hstored hstage _ =>
    .move rfl rfl hstored rfl rfl (.incapable request missing rfl hstage)

theorem effect_settleDispatch {env : Env} {d : PendingDispatch} {submission : SubmissionResult}
    (hpending : d ∈ sys.dispatching) :
    Effect sys ⟨env, .settleDispatch d submission⟩ (sys.settleDispatch env d submission).store := by
  rw [settleDispatch_store]
  refine finalState_rec (settleDispatch env d submission) sys.store ?_
  refine wp_settleDispatch (fun _ _ => .refl) ?_ (fun _ _ _ _ _ => .same rfl rfl) ?_
  · rintro message error rfl hrefusal hcan
    exact .commit rfl rfl rfl (.refused _ _ d error _ rfl rfl hrefusal hpending rfl hcan)
  · rintro backend reason rfl hcan
    exact .commit rfl rfl rfl (.dispatched _ _ d backend reason rfl hpending rfl hcan)

theorem effect_applyResult {env : Env} {result : WorkerResult} :
    Effect sys ⟨env, .applyResult taskId result⟩
      (finalState (applyResult env taskId result) sys.store) := by
  cases haccepts : accepts env sys.store taskId result with
  | false =>
    obtain ⟨htasks, hevents, _⟩ := deliver_of_not_accepts haccepts
    exact .same htasks hevents
  | true =>
    obtain ⟨task, job, hdelivery, hallowed, hafter⟩ := deliver_of_accepts haccepts
    have hid := sys.store.jobs.key_of_get? hdelivery.job
    have hknown : Known sys job := ⟨job, Or.inl (by rw [hid]; exact hdelivery.job), rfl⟩
    rw [show finalState (applyResult env taskId result) sys.store = _ from hafter]
    exact .answer rfl rfl (by simp [appliedBy, haccepts]) hdelivery hknown hallowed rfl rfl

theorem effect_settlePoll {env : Env} {job : WorkerJob} {outcome : Except String WorkerResult}
    (hpolling : job ∈ sys.polling) :
    Effect sys ⟨env, .settlePoll job outcome⟩
      (finalState (settlePoll env job outcome) sys.store) := by
  have houtcome := finalState_settlePoll env job outcome (s := sys.store)
  have htasks := houtcome.tasks
  cases happlied : appliedByPoll env sys.store job outcome with
  | none =>
    rw [happlied] at htasks
    exact .same htasks.1 htasks.2
  | some result =>
    rw [happlied] at htasks
    obtain ⟨s₀, task, job', status, htasks₀, hevents₀, hjobs₀, hdelivery, hallowed, htasks', hevents'⟩ :=
      htasks
    have hid := s₀.jobs.key_of_get? hdelivery.job
    have hknown : Known sys job' := by
      have hjob := hdelivery.job
      rw [hjobs₀, KeyedMap.get?_put] at hjob
      split_ifs at hjob with hsame
      · obtain rfl := Option.some.inj hjob
        exact ⟨job, Or.inr ⟨hpolling, rfl⟩, rfl⟩
      · exact ⟨job', Or.inl (by rw [hid]; exact hjob), rfl⟩
    exact .answer htasks₀ hevents₀ (by simp [appliedBy, happlied]) hdelivery hknown hallowed htasks'
      hevents'

theorem effect_completeAcceptance {env : Env} {request : CompleteAcceptanceRequest} :
    Effect sys ⟨env, .completeAcceptance taskId request⟩
      (finalState (completeAcceptance env taskId request) sys.store) := by
  rcases finalState_completeAcceptance (s := sys.store) env taskId request with
    h | ⟨task, hstored, hstate, ⟨hwrites, h⟩ | ⟨hgates, h⟩⟩
  · rw [h]
    exact .refl
  · rw [h]
    exact .patch rfl rfl hstored rfl (.checklist request rfl hstate hwrites)
  · rw [h]
    exact .move rfl rfl hstored rfl rfl (.accepted request rfl hgates)

theorem effect_completeIntegrate {env : Env} {request : CompleteIntegrateRequest} :
    Effect sys ⟨env, .completeIntegrate taskId request⟩
      (finalState (completeIntegrate env taskId request) sys.store) := by
  rcases finalState_completeIntegrate (s := sys.store) env taskId request with
    h | ⟨task, moved, toState, reason, hstored, hstate, hmove, _, h⟩
  · rw [h]
    exact .refl
  · have hid : moved.taskId = task.taskId := by cases hmove <;> rfl
    rw [h]
    exact .move rfl rfl hstored hid hid
      (.integrationEnded request moved toState reason rfl hstate hmove)

theorem effect_publish {env : Env} {request : PublishRequest} :
    Effect sys ⟨env, .publish taskId request⟩
      (finalState (publish env taskId request) sys.store) := by
  rcases finalState_publish (s := sys.store) env taskId request with
    h | ⟨task, hstored, hstate, _, h | ⟨n, moved, toState, input, hmove, _, h⟩⟩
  · rw [h]
    exact .refl
  · rw [h]
    exact .same rfl rfl
  · rw [h]
    exact .move rfl rfl hstored hmove.taskId hmove.taskId
      (.publish request n moved toState input rfl hstate hmove)

theorem effect_checkTimeouts {env : Env} :
    Effect sys ⟨env, .checkTimeouts⟩ (finalState (checkTimeouts env) sys.store) := fun id => by
  have hchange := (finalState_checkTimeouts env sys.store).2 id
  dsimp only at hchange
  cases htimed : (sys.store.task? id).bind (timedOut env.now) with
  | none =>
    rw [htimed] at hchange
    rw [hchange.1, hchange.2]
    exact .kept _ _
  | some updated =>
    rw [htimed] at hchange
    obtain ⟨n, htask, hlog⟩ := hchange
    obtain ⟨task, hstored, hupdated⟩ := Option.bind_eq_some_iff.mp htimed
    rw [htask, hlog, hstored]
    exact .moved task _ _ _ (.timedOut updated.1 updated.2 n rfl hupdated)

theorem effect_scanForOrphans {env : Env} :
    Effect sys ⟨env, .scanForOrphans⟩ (finalState (scanForOrphans env) sys.store) := fun id => by
  have hchange := (finalState_scanForOrphans env sys.store).2 id
  dsimp only at hchange
  cases hblock : (sys.store.task? id).bind (orphanBlock env sys.store) with
  | none =>
    rw [hblock] at hchange
    rw [hchange.1, hchange.2]
    exact .kept _ _
  | some block =>
    rw [hblock] at hchange
    obtain ⟨task, n, hstored, hresume, hcan, htask, hlog⟩ := hchange
    rw [htask, hlog, hstored]
    exact .moved task _ _ _ (.orphaned block.1 block.2 n rfl hresume hcan)

theorem effect_cancel {env : Env} :
    Effect sys ⟨env, .cancel taskId⟩ (finalState (cancel env taskId) sys.store) := by
  rcases finalState_cancel env taskId (s := sys.store) with h | ⟨task, hstored, hlive, h⟩
  · rw [h]
    exact .refl
  · rw [h]
    exact .move rfl rfl hstored rfl rfl (.cancelled rfl hlive)

theorem effect_heartbeat {env : Env} {jobId workerId : String} :
    Effect sys ⟨env, .heartbeat jobId workerId⟩
      (finalState (heartbeat env jobId workerId) sys.store) := by
  obtain ⟨leases, h, _⟩ := finalState_heartbeat env jobId workerId (s := sys.store)
  rw [h]
  exact .same rfl rfl

theorem effect_integrate {env : Env} {baseSha : String} : Effect sys ⟨env, .integrate taskId baseSha⟩
      (finalState (integrate env taskId baseSha) sys.store) := by
  rcases finalState_integrate (s := sys.store) env taskId baseSha with
    h | ⟨task, hstored, hstate, h⟩
  · rw [h]
    exact .refl
  · rw [h]
    exact .move rfl rfl hstored rfl rfl (.integrating baseSha rfl hstate)

theorem effect_approvePublish {env : Env} {approvalToken : String} :
    Effect sys ⟨env, .approvePublish taskId approvalToken⟩
      (finalState (approvePublish env taskId approvalToken) sys.store) := by
  rcases finalState_approvePublish (s := sys.store) env taskId approvalToken with
    h | ⟨task, hstored, hstate, hvalid, h⟩
  · rw [h]
    exact .refl
  · rw [h]
    exact .move rfl rfl hstored rfl rfl (.approved approvalToken rfl hstate hvalid)

theorem effect_completePublish {env : Env} {request : CompletePublishRequest} :
    Effect sys ⟨env, .completePublish taskId request⟩
      (finalState (completePublish env taskId request) sys.store) := by
  rcases finalState_completePublish (s := sys.store) env taskId request with
    ⟨h, _⟩ | ⟨task, hstored, hstate, h⟩
  · rw [h]
    exact .refl
  · rw [h]
    exact .move rfl rfl hstored rfl rfl (.published request rfl hstate)

theorem effect_updateIntegrationProgress {env : Env} {progress : Int} :
    Effect sys ⟨env, .updateIntegrationProgress taskId progress⟩
      (finalState (updateIntegrationProgress env taskId progress) sys.store) := by
  rcases finalState_updateIntegrationProgress env taskId progress (s := sys.store) with
    h | ⟨task, run, hstored, hstate, hrun, h⟩
  · rw [h]
    exact .refl
  · rw [h]
    exact .patch rfl rfl hstored rfl (.integrationProgress progress run rfl hstate hrun)

theorem effect_updatePublishProgress {env : Env} {progress : Int} :
    Effect sys ⟨env, .updatePublishProgress taskId progress⟩
      (finalState (updatePublishProgress env taskId progress) sys.store) := by
  rcases finalState_updatePublishProgress env taskId progress (s := sys.store) with
    h | ⟨task, run, hstored, hstate, hrun, h⟩
  · rw [h]
    exact .refl
  · rw [h]
    exact .patch rfl rfl hstored rfl (.publishProgress progress run rfl hstate hrun)

theorem effect_settleStaleCheck {env : Env} {check : PendingStaleCheck}
    {currentVersions : List DocVersionInfo} :
    Effect sys ⟨env, .settleStaleCheck check currentVersions⟩
      (finalState (settleStaleCheck env check currentVersions) sys.store) := by
  rw [finalState_settleStaleCheck]
  split_ifs with hstale
  · exact .refl
  · exact .references (if_neg hstale)

theorem effect_perform (henabled : sys.enabled call = true) :
    Effect sys call (sys.perform call).store := by
  obtain ⟨env, op⟩ := call
  cases op with
  | createTask request => exact effect_createTask (by simpa [enabled] using henabled)
  | recordTransition taskId event => exact effect_recordTransition
  | cancel taskId => exact effect_cancel
  | beginDispatch taskId request => exact effect_beginDispatch
  | settleDispatch d submission =>
    exact effect_settleDispatch (by simpa [enabled] using henabled)
  | applyResult taskId result => exact effect_applyResult
  | settlePoll job outcome => exact effect_settlePoll (by simpa [enabled] using henabled)
  | heartbeat jobId workerId => exact effect_heartbeat
  | completeAcceptance taskId request => exact effect_completeAcceptance
  | integrate taskId baseSha => exact effect_integrate
  | completeIntegrate taskId request => exact effect_completeIntegrate
  | publish taskId request => exact effect_publish
  | approvePublish taskId approvalToken => exact effect_approvePublish
  | completePublish taskId request => exact effect_completePublish
  | checkTimeouts => exact effect_checkTimeouts
  | updateIntegrationProgress taskId progress => exact effect_updateIntegrationProgress
  | updatePublishProgress taskId progress => exact effect_updatePublishProgress
  | scanForOrphans => exact effect_scanForOrphans
  | resolveDocs taskId request =>
    change Effect sys _ (finalState (resolveDocs env taskId request) sys.store)
    rw [finalState_resolveDocs]
    exact .references rfl
  | ackDocs taskId request =>
    change Effect sys _ (finalState (ackDocs env taskId request) sys.store)
    rw [finalState_ackDocs]
    exact .references rfl
  | beginStaleCheck taskId docIds =>
    have hstore := sys.beginStaleCheck_store taskId docIds
    exact .same (congrArg _ hstore) (congrArg _ hstore)
  | settleStaleCheck check currentVersions => exact effect_settleStaleCheck
  | beginLinkTracker taskId request =>
    have hstore := sys.beginLinkTracker_store taskId request
    exact .same (congrArg _ hstore) (congrArg _ hstore)
  | settleLinkTracker link succeeded =>
    cases succeeded with
    | false => exact .refl
    | true =>
      change Effect sys _ (finalState (settleLinkTracker env link) sys.store)
      rw [finalState_settleLinkTracker]
      exact .references rfl

theorem taskEffect_of_step {sys' : System} (hstep : controlPlane.step sys call sys') (id : String) :
    TaskEffect sys call id (sys.store.task? id) (sys.store.log id) (sys'.store.task? id)
      (sys'.store.log id) := by
  obtain ⟨henabled, rfl⟩ := step_iff.mp hstep
  exact effect_perform henabled id

end effects

section frames

variable {call : Call} {id : String} {task task' : Task} {event : StateTransitionEvent}

theorem withPolicyWarnings_frame (warnings : List String) :
    (withPolicyWarnings task warnings).activeJobId = task.activeJobId ∧
      (withPolicyWarnings task warnings).typedRef = task.typedRef ∧
      (withPolicyWarnings task warnings).state = task.state := by
  unfold withPolicyWarnings
  split_ifs <;> exact ⟨rfl, rfl, rfl⟩

theorem Moved.frame (h : Moved call id task task' event) :
    task'.activeJobId = task.activeJobId ∧ task'.typedRef = task.typedRef := by
  cases h with
  | cancelled _ _ => exact ⟨rfl, rfl⟩
  | incapable request missing _ _ => exact ⟨rfl, rfl⟩
  | accepted request _ _ => exact ⟨rfl, rfl⟩
  | integrating baseSha _ _ => exact ⟨rfl, rfl⟩
  | integrationEnded request moved toState reason _ _ hmove => cases hmove <;> exact ⟨rfl, rfl⟩
  | publish request n moved toState input _ _ hmove =>
    cases hmove with
    | denied reason => exact ⟨rfl, rfl⟩
    | pending warnings _ _ =>
      exact ⟨(withPolicyWarnings_frame warnings).1, (withPolicyWarnings_frame warnings).2.1⟩
    | started warnings _ _ =>
      exact ⟨(withPolicyWarnings_frame warnings).1, (withPolicyWarnings_frame warnings).2.1⟩
  | approved approvalToken _ _ _ => exact ⟨rfl, rfl⟩
  | published request _ _ => exact ⟨rfl, rfl⟩
  | timedOut updatedTask reason n _ htimed =>
    obtain ⟨_, _, _, _, _, _, _, rfl⟩ := timedOut_eq_some htimed
    exact ⟨rfl, rfl⟩
  | orphaned resumeState reason n _ _ _ => exact ⟨rfl, rfl⟩

theorem Moved.transition (h : Moved call id task task' event) :
    canTransition task.state task'.state = true ∧ event.fromState = task.state ∧
      event.toState = task'.state := by
  cases h with
  | cancelled _ hlive =>
    refine ⟨?_, rfl, rfl⟩
    cases hstate : task.state <;> simp_all [isTerminal, canTransition, allowedTransitions]
  | incapable request missing _ hstage =>
    exact ⟨canTransition_blocked_iff.mpr (not_isTerminal_of_dispatchStage hstage), rfl, rfl⟩
  | accepted request _ hgates =>
    exact ⟨by rw [hgates.accepting]; rfl, rfl, rfl⟩
  | integrating baseSha _ hstate => exact ⟨by rw [hstate]; rfl, rfl, rfl⟩
  | integrationEnded request moved toState reason _ hstate hmove =>
    cases hmove <;> exact ⟨by rw [hstate]; rfl, rfl, rfl⟩
  | publish request n moved toState input _ hstate hmove =>
    cases hmove with
    | denied reason => exact ⟨by rw [hstate]; rfl, rfl, rfl⟩
    | pending warnings _ _ =>
      exact ⟨by rw [hstate]; rfl, (withPolicyWarnings_frame warnings).2.2, rfl⟩
    | started warnings _ _ =>
      exact ⟨by rw [hstate]; rfl, (withPolicyWarnings_frame warnings).2.2, rfl⟩
  | approved approvalToken _ hstate _ => exact ⟨by rw [hstate]; rfl, rfl, rfl⟩
  | published request _ hstate => exact ⟨by rw [hstate]; rfl, rfl, rfl⟩
  | timedOut updatedTask reason n _ htimed =>
    obtain ⟨_, _, _, _, _, _, hcan, rfl⟩ := timedOut_eq_some htimed
    exact ⟨hcan, rfl, rfl⟩
  | orphaned resumeState reason n _ _ hcan => exact ⟨hcan, rfl, rfl⟩

theorem Patched.frame (h : Patched call id task task') :
    task'.activeJobId = task.activeJobId ∧ task'.typedRef = task.typedRef ∧
      task'.state = task.state := by
  cases h <;> exact ⟨rfl, rfl, rfl⟩

section answers

variable {result : WorkerResult} {job : WorkerJob} {a : ResultAnswer} (env : Env)

theorem ResultAnswer.Sound.activeJobId (h : a.Sound result task job) :
    (a.resultTask env task).activeJobId = task.activeJobId := by
  have hpatched : (a.patched env task).activeJobId = task.activeJobId := by
    simp [patched, h.update.activeJobId]
  unfold resultTask
  split <;> exact hpatched

theorem ResultAnswer.resultTask_typedRef : (a.resultTask env task).typedRef = task.typedRef := by
  unfold resultTask
  split <;> rfl

theorem ResultAnswer.allowed_state (h : a.allowed task = true) :
    (a.resultTask env task).state = task.state ∨
      canTransition task.state (a.resultTask env task).state = true := by
  unfold allowed at h
  unfold resultTask
  split
  · exact Or.inl rfl
  · next toState input hmove =>
    rw [hmove] at h
    exact Or.inr h

def isWorkState : TaskState → Bool
  | .planning | .planned | .developing | .devCompleted | .accepting | .reworkRequired | .blocked =>
    true
  | _ => false

theorem ResultMove.isWorkState {u : TaskUpdate} {s : TaskState} (h : ResultMove job u s) :
    isWorkState s = true := by
  cases h with
  | active => cases job.stage <;> rfl
  | _ => rfl

theorem ResultAnswer.Sound.resultTask_eq_patched (h : a.Sound result task job)
    (hstate : Store.isWorkState (a.resultTask env task).state = false) :
    a.resultTask env task = a.patched env task := by
  unfold resultTask at hstate ⊢
  split at hstate
  · rfl
  · next toState input hmove =>
    rw [transitioned_state, (h.move toState input hmove).isWorkState] at hstate
    cases hstate

end answers

end frames

section summaries

variable {sys : System} {call : Call} {id : String} {task task' : Task}
  {log log' : List StateTransitionEvent}

/-- A stored task is written by a call that starts from what is stored, or by the end of a dispatch,
which starts from its snapshot. -/
inductive Written (sys : System) (call : Call) (task task' : Task) : Prop
  | stored : task'.activeJobId = task.activeJobId → task'.typedRef = task.typedRef →
      (task'.state = task.state ∨ canTransition task.state task'.state = true) →
      Written sys call task task'
  | dispatched (d : PendingDispatch) (backend : Option ExecutionBackend) (reason : Option String) :
      call.op = .settleDispatch d (.success backend reason) → d ∈ sys.dispatching →
      d.task.taskId = task.taskId →
      task' = transitioned call.env (dispatchedTask d) d.nextState.toTaskState →
      Written sys call task task'
  | refused (d : PendingDispatch) (error : Option String) (failure : String) :
      call.op = .settleDispatch d (.failure error) →
      failure = error.getD "unknown worker submission failure" →
      isBackendRefusal failure = true → d ∈ sys.dispatching → d.task.taskId = task.taskId →
      task' = transitioned call.env (refusedTask d failure) .blocked →
      Written sys call task task'

theorem TaskEffect.written (hid : task.taskId = id)
    (h : TaskEffect sys call id (some task) log (some task') log') :
    Written sys call task task' := by
  cases h with
  | kept => exact .stored rfl rfl (Or.inl rfl)
  | recorded _ _ event _ _ hfrom hcan => exact .stored rfl rfl (Or.inr hcan)
  | moved _ _ _ event hmove =>
    exact .stored hmove.frame.1 hmove.frame.2 (Or.inr hmove.transition.1)
  | patched _ _ _ hpatch =>
    exact .stored hpatch.frame.1 hpatch.frame.2.1 (Or.inl hpatch.frame.2.2)
  | answered _ _ result job a _ _ _ _ hsound hallowed =>
    exact .stored (hsound.activeJobId _) (resultTask_typedRef _) (allowed_state _ hallowed)
  | dispatched _ _ d backend reason hop hmem htask _ =>
    exact .dispatched d backend reason hop hmem (htask.trans hid.symm) rfl
  | refused _ _ d error failure hop hfail hrefusal hmem htask _ =>
    exact .refused d error failure hop hfail hrefusal hmem (htask.trans hid.symm) rfl

theorem TaskEffect.isSome {task? : Option Task}
    (h : TaskEffect sys call id (some task) log task? log') : ∃ task', task? = some task' := by
  cases h <;> exact ⟨_, rfl⟩

theorem TaskEffect.log_extends {task? task?' : Option Task}
    (h : TaskEffect sys call id task? log task?' log') : log <+: log' := by
  cases h with
  | kept => exact List.prefix_rfl
  | patched => exact List.prefix_rfl
  | _ => exact List.prefix_append _ _

end summaries

end ShipyardCp.Store
