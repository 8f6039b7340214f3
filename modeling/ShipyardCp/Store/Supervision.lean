import ShipyardCp.Store.JobService

/-! Supervision of running work: timeouts and progress of integration and publish runs, and the scan
for orphaned jobs. -/

namespace ShipyardCp.Store

open Types Domain Lib ControlPlane

/-- The task of an integration that ran out of time. -/
def integrationTimedOut (now : Timestamp) (task : Task) : Option Task :=
  match task.integrationRun with
  | none => none
  | some run =>
    if task.state = .integrating ∧ run.timeoutAt < now ∧ run.status = .running then
      some { task with
        integrationRun := some { run with
          status := .timeout, error := some "integration timeout", completedAt := some now }
        blockedContext := some
          { resumeState := .integrating, reason := "integration timed out"
            waitingOn := some .github } }
    else none

/-- The task of a publish that ran out of time. -/
def publishTimedOut (now : Timestamp) (task : Task) : Option Task :=
  match task.publishRun with
  | none => none
  | some run =>
    if task.state = .publishing ∧ run.timeoutAt < now ∧ run.status = .running then
      some { task with
        publishRun := some { run with
          status := .timeout, error := some "publish timeout", completedAt := some now }
        blockedContext := some
          { resumeState := .publishing, reason := "publish timed out"
            waitingOn := some .environment } }
    else none

/-- The task a timeout leaves behind and the reason of its transition. A task is in one state, so at
most one of the two checks applies. -/
def timedOut (now : Timestamp) (task : Task) : Option (Task × String) :=
  match integrationTimedOut now task with
  | some task => some (task, "integration timeout")
  | none => (publishTimedOut now task).map fun task => (task, "publish timeout")

def timeoutInput (reason : String) : TransitionInput :=
  { actorType := .controlPlane, actorId := "shipyard-cp", reason := reason }

/-- Blocks the tasks whose run timed out; `n` counts the ids drawn. -/
def checkTimeoutsOf (env : Env) (n : Nat) : List Task → StoreM (List Task)
  | [] => pure []
  | task :: tasks =>
    match timedOut env.now task with
    | none => checkTimeoutsOf env n tasks
    | some (updatedTask, reason) => do
      let _ ← transitionTask env n updatedTask .blocked (timeoutInput reason)
      let rest ← checkTimeoutsOf env (n + 1) tasks
      pure (task :: rest)

def checkTimeouts (env : Env) : StoreM (List Task) := do
  checkTimeoutsOf env 0 (← get).tasks.values

def clampProgress (progress : Int) : Int := min 100 (max 0 progress)

/-- Progress is written into the stored task in place; the version stays. -/
def updateIntegrationProgress (env : Env) (taskId : String) (progress : Int) : StoreM Task := do
  let task ← requireTask taskId
  if task.state ≠ .integrating then throw (.taskInvalidState .integrating task.state)
  else
    let updated := match task.integrationRun with
      | none => task
      | some run => { task with
          integrationRun := some { run with progress := some (clampProgress progress) }
          updatedAt := env.now }
    modify fun s => s.setTask updated
    pure updated

def updatePublishProgress (env : Env) (taskId : String) (progress : Int) : StoreM Task := do
  let task ← requireTask taskId
  if task.state ≠ .publishing then throw (.taskInvalidState .publishing task.state)
  else
    let updated := match task.publishRun with
      | none => task
      | some run => { task with
          publishRun := some { run with progress := some (clampProgress progress) }
          updatedAt := env.now }
    modify fun s => s.setTask updated
    pure updated

inductive OrphanReason where
  | leaseExpired | heartbeatTimeout

def OrphanReason.text : OrphanReason → String
  | leaseExpired => "lease_expired"
  | heartbeatTimeout => "heartbeat_timeout"

def heartbeatThresholdMs : Nat := 30 * 5 * 1000

def maxRecoveryAttempts : Nat := 3

def detectOrphan (now : Timestamp) (lease : Lease) : Option OrphanReason :=
  if lease.leaseExpiresAt < now then some .leaseExpired
  else match lease.lastHeartbeatAt with
    | none => none
    | some lastHeartbeat =>
      if heartbeatThresholdMs + lastHeartbeat < now then some .heartbeatTimeout else none

inductive RecoveryAction where
  | retry (targetStage : WorkerStage)
  | block (resumeState : ResumeState)
  deriving DecidableEq

def recoverWorkerStage (stage : WorkerStage) (retryCount : Int) : RecoveryAction :=
  if retryCount < min (getDefaultMaxRetries stage) maxRecoveryAttempts then .retry stage
  else .block (stageToActiveResumeState stage)

/-- What becomes of an orphaned job, by the active state of its task; other states are not
scanned. -/
def determineRecoveryAction (state : TaskState) (retryCount : Int) : Option RecoveryAction :=
  match state with
  | .planning => some (recoverWorkerStage .plan retryCount)
  | .developing => some (recoverWorkerStage .dev retryCount)
  | .accepting => some (.block .accepting)
  | .integrating => some (.block .integrating)
  | .publishing => some (.block .publishing)
  | _ => none

structure JobInfo where
  taskId : String
  lease : Lease
  action : RecoveryAction

def activeJobForOrphanScan (s : ControlPlane) (task : Task) : Option JobInfo := do
  let jobId ← task.activeJobId
  let job ← s.jobs.get? jobId
  let _ ← job.leaseExpiresAt
  let lease ← s.leaseManager.getLease jobId
  let retryCount := ((task.retryCounts.getD .empty).get job.stage).getD 0
  let action ← determineRecoveryAction task.state retryCount
  if jobId = "" then none else pure ⟨task.taskId, lease, action⟩

def orphanInput (reason : String) : TransitionInput :=
  { actorType := .controlPlane, actorId := "orphan_scanner", reason := reason }

def orphanContext (resumeState : ResumeState) (reason : String) : BlockedContext :=
  { resumeState := resumeState, reason := reason, orphanedRun := some true }

def blockOrphanedTask (env : Env) (n : Nat) (taskId reason : String) (resumeState : ResumeState) :
    StoreM Unit := do
  match (← get).task? taskId with
  | none => pure ()
  | some task =>
    let _ ← transitionTask env n task .blocked (orphanInput reason)
    let _ ← updateTask env taskId { blockedContext := some (orphanContext resumeState reason) }

/-- Recovers one orphaned job. A retry asks for a new dispatch; since the task of a scanned job is in
an active state, that dispatch is refused and only logged. -/
def recoverOrphan (env : Env) (n : Nat) (info : JobInfo) : StoreM Unit := do
  match detectOrphan env.now info.lease with
  | none => pure ()
  | some reason =>
    match info.action with
    | .retry stage =>
      tryCatch (do
        let _ ← beginDispatch env info.taskId ⟨stage, none, none⟩)
        fun _ => pure ()
    | .block resumeState =>
      blockOrphanedTask env n info.taskId ("job_orphaned:" ++ reason.text) resumeState

def recoverOrphans (env : Env) (n : Nat) : List JobInfo → StoreM Unit
  | [] => pure ()
  | info :: infos => do
    recoverOrphan env n info
    recoverOrphans env (n + 1) infos

def scanForOrphans (env : Env) : StoreM Unit := do
  let s ← get
  recoverOrphans env 0 (s.tasks.values.filterMap (activeJobForOrphanScan s))

section pointwise

def SameBeside (s s' : ControlPlane) : Prop := s' = { s with tasks := s'.tasks, events := s'.events }

theorem SameBeside.trans {s₁ s₂ s₃ : ControlPlane} (h₁ : SameBeside s₁ s₂) (h₂ : SameBeside s₂ s₃) :
    SameBeside s₁ s₃ := by
  unfold SameBeside at h₁ h₂ ⊢
  rw [h₂, h₁]

theorem SameBeside.jobs {s s' : ControlPlane} (h : SameBeside s s') : s'.jobs = s.jobs := by
  rw [show s' = { s with tasks := s'.tasks, events := s'.events } from h]

theorem SameBeside.results {s s' : ControlPlane} (h : SameBeside s s') : s'.results = s.results := by
  rw [show s' = { s with tasks := s'.tasks, events := s'.events } from h]

theorem SameBeside.leaseManager {s s' : ControlPlane} (h : SameBeside s s') :
    s'.leaseManager = s.leaseManager := by
  rw [show s' = { s with tasks := s'.tasks, events := s'.events } from h]

theorem SameBeside.publishIdempotencyKeys {s s' : ControlPlane} (h : SameBeside s s') :
    s'.publishIdempotencyKeys = s.publishIdempotencyKeys := by
  rw [show s' = { s with tasks := s'.tasks, events := s'.events } from h]

theorem SameBeside.concurrencyManager {s s' : ControlPlane} (h : SameBeside s s') :
    s'.concurrencyManager = s.concurrencyManager := by
  rw [show s' = { s with tasks := s'.tasks, events := s'.events } from h]

/-- Each task that is to change, and its log, is changed in its way; all others are kept. -/
def Pointwise {β : Type} (Change : β → ControlPlane → ControlPlane → String → Prop)
    (change : String → Option β) (s s' : ControlPlane) : Prop :=
  SameBeside s s' ∧ ∀ id, match change id with
    | none => s'.task? id = s.task? id ∧ s'.log id = s.log id
    | some b => Change b s s' id

variable {β : Type} {Change : β → ControlPlane → ControlPlane → String → Prop}

variable (Change) in
theorem Pointwise.refl (s : ControlPlane) : Pointwise Change (fun _ => none) s s :=
  ⟨rfl, fun _ => ⟨rfl, rfl⟩⟩

def Local (Change : β → ControlPlane → ControlPlane → String → Prop) : Prop :=
  ∀ b s₁ s₂ s₁' s₂' id, s₁.task? id = s₂.task? id → s₁.log id = s₂.log id →
    s₁'.task? id = s₂'.task? id → s₁'.log id = s₂'.log id → Change b s₁ s₁' id → Change b s₂ s₂' id

theorem Pointwise.cons (hlocal : Local Change) {id : String} {b : β} {change : String → Option β}
    {s s₁ s' : ControlPlane} (hnot : change id = none) (hbeside : SameBeside s s₁)
    (hothers : ∀ i, i ≠ id → s₁.task? i = s.task? i ∧ s₁.log i = s.log i)
    (hchange : Change b s s₁ id) (hrest : Pointwise Change change s₁ s') :
    Pointwise Change (fun i => if i = id then some b else change i) s s' := by
  refine ⟨hbeside.trans hrest.1, fun i => ?_⟩
  have htail := hrest.2 i
  dsimp only
  by_cases hi : i = id
  · subst hi
    rw [hnot] at htail
    rw [if_pos rfl]
    exact hlocal b s s s₁ s' i rfl rfl htail.1.symm htail.2.symm hchange
  · obtain ⟨htask, hlog⟩ := hothers i hi
    rw [if_neg hi]
    cases hb : change i with
    | none =>
      rw [hb] at htail
      exact ⟨htail.1.trans htask, htail.2.trans hlog⟩
    | some b' =>
      rw [hb] at htail
      exact hlocal b' s₁ s s' s' i htask hlog rfl rfl htail

end pointwise

section timeouts

variable {env : Env}

def TimeoutChange (env : Env) (updated : Task × String) (s s' : ControlPlane) (id : String) : Prop :=
  ∃ n, s'.task? id = some (transitioned env updated.1 .blocked) ∧
    s'.log id = s.log id ++ [transitionEvent env n updated.1 .blocked (timeoutInput updated.2)]

theorem timeoutChange_local : Local (TimeoutChange env) := by
  rintro updated s₁ s₂ s₁' s₂' id _ hlog htask' hlog' ⟨n, h₁, h₂⟩
  exact ⟨n, htask' ▸ h₁, by rw [← hlog', h₂, hlog]⟩

theorem timedOut_eq_some {now : Timestamp} {task updatedTask : Task} {reason : String}
    (h : timedOut now task = some (updatedTask, reason)) :
    ∃ integrationRun publishRun context resumeState,
      context.resumeState = resumeState ∧ resumeState.toTaskState = task.state ∧
      canTransition task.state .blocked = true ∧
      updatedTask = { task with
        integrationRun := integrationRun, publishRun := publishRun
        blockedContext := some context } := by
  unfold timedOut at h
  cases hint : integrationTimedOut now task with
  | some t =>
    rw [hint] at h
    obtain ⟨rfl, rfl⟩ : t = updatedTask ∧ "integration timeout" = reason := by simpa using h
    unfold integrationTimedOut at hint
    cases hrun : task.integrationRun with
    | none => simp [hrun] at hint
    | some run =>
      rw [hrun] at hint
      dsimp only at hint
      split_ifs at hint with hguard
      obtain rfl := Option.some.inj hint
      exact ⟨_, task.publishRun, _, .integrating, rfl, hguard.1.symm, by rw [hguard.1]; rfl, rfl⟩
  | none =>
    rw [hint] at h
    obtain ⟨t, hpub, heq⟩ := Option.map_eq_some_iff.mp h
    obtain ⟨rfl, rfl⟩ : t = updatedTask ∧ "publish timeout" = reason := by simpa using heq
    unfold publishTimedOut at hpub
    cases hrun : task.publishRun with
    | none => simp [hrun] at hpub
    | some run =>
      rw [hrun] at hpub
      dsimp only at hpub
      split_ifs at hpub with hguard
      obtain rfl := Option.some.inj hpub
      exact ⟨task.integrationRun, _, _, .publishing, rfl, hguard.1.symm, by rw [hguard.1]; rfl, rfl⟩

def timedOutOf (now : Timestamp) (tasks : List Task) (id : String) : Option (Task × String) :=
  (tasks.find? (fun task => task.taskId = id)).bind (timedOut now)

theorem timedOutOf_cons (now : Timestamp) (task : Task) (tasks : List Task) (id : String) :
    timedOutOf now (task :: tasks) id =
      if id = task.taskId then timedOut now task else timedOutOf now tasks id := by
  unfold timedOutOf
  by_cases hid : task.taskId = id
  · rw [List.find?_cons_of_pos (by simpa using hid), if_pos hid.symm, Option.bind_some]
  · rw [List.find?_cons_of_neg (by simpa using hid), if_neg (Ne.symm hid)]

theorem timedOutOf_eq_none {now : Timestamp} {tasks : List Task} {id : String}
    (h : id ∉ tasks.map Task.taskId) : timedOutOf now tasks id = none := by
  unfold timedOutOf
  rw [List.find?_eq_none.mpr, Option.bind_none]
  intro task htask
  have hne : task.taskId ≠ id := fun heq => h (heq ▸ List.mem_map_of_mem htask)
  simpa using hne

theorem wp_checkTimeoutsOf : ∀ (tasks : List Task) (n : Nat) (s : ControlPlane),
    (tasks.map Task.taskId).Nodup → (∀ task ∈ tasks, s.task? task.taskId = some task) →
    wp (checkTimeoutsOf env n tasks)
      (returns (Pointwise (TimeoutChange env) (timedOutOf env.now tasks) s)) s := by
  intro tasks
  induction tasks with
  | nil => exact fun n s _ _ => Pointwise.refl (TimeoutChange env) s
  | cons task tasks ih =>
    intro n s hnodup hstored
    obtain ⟨hnot, hrest⟩ := List.nodup_cons.mp hnodup
    have htail : ∀ t ∈ tasks, s.task? t.taskId = some t :=
      fun t ht => hstored t (List.mem_cons_of_mem _ ht)
    have hchanges : timedOutOf env.now (task :: tasks) =
        fun i => if i = task.taskId then timedOut env.now task else timedOutOf env.now tasks i :=
      funext fun i => timedOutOf_cons ..
    rw [hchanges]
    unfold checkTimeoutsOf
    cases htimed : timedOut env.now task with
    | none =>
      refine wp_mono (ih n s hrest htail) fun r hr => returns_mono (fun s' h => ?_) hr
      refine ⟨h.1, fun i => ?_⟩
      dsimp only
      by_cases hi : i = task.taskId
      · have hkept := h.2 i
        rw [hi, timedOutOf_eq_none hnot] at hkept
        rw [hi, if_pos rfl]
        exact hkept
      · rw [if_neg hi]
        exact h.2 i
    | some p =>
      obtain ⟨updatedTask, reason⟩ := p
      obtain ⟨integrationRun, publishRun, context, resumeState, _, _, hcan, hupdated⟩ :=
        timedOut_eq_some htimed
      have hid : updatedTask.taskId = task.taskId := by rw [hupdated]
      have hstate : canTransition updatedTask.state .blocked = true := by rw [hupdated]; exact hcan
      simp only [wp_bind, wp_transitionTask, hstate, if_true, andThen_ok, andThen_pure_returns]
      have hothers : ∀ i, i ≠ task.taskId → (s.commit (transitioned env updatedTask .blocked)
            (transitionEvent env n updatedTask .blocked (timeoutInput reason))).task? i = s.task? i ∧
          (s.commit (transitioned env updatedTask .blocked)
            (transitionEvent env n updatedTask .blocked (timeoutInput reason))).log i = s.log i :=
        fun i hi => by simp [commit_task?, commit_log, hid, hi]
      have htail₁ : ∀ t ∈ tasks, (s.commit (transitioned env updatedTask .blocked)
          (transitionEvent env n updatedTask .blocked (timeoutInput reason))).task? t.taskId =
            some t := by
        intro t ht
        have hne : t.taskId ≠ task.taskId := fun heq => hnot (heq ▸ List.mem_map_of_mem ht)
        rw [(hothers _ hne).1]
        exact htail t ht
      have hbeside : SameBeside s (s.commit (transitioned env updatedTask .blocked)
          (transitionEvent env n updatedTask .blocked (timeoutInput reason))) := rfl
      have hchange : TimeoutChange env (updatedTask, reason) s
          (s.commit (transitioned env updatedTask .blocked)
            (transitionEvent env n updatedTask .blocked (timeoutInput reason))) task.taskId :=
        ⟨n, by simp [commit_task?, hid], by simp [commit_log, hid]⟩
      exact wp_mono (ih (n + 1) _ hrest htail₁) fun r hr => returns_mono (fun _ =>
        Pointwise.cons timeoutChange_local (timedOutOf_eq_none hnot) hbeside hothers hchange) hr

theorem wp_checkTimeouts (s : ControlPlane) : wp (checkTimeouts env)
    (returns (Pointwise (TimeoutChange env) (fun id => (s.task? id).bind (timedOut env.now)) s))
      s := by
  have hchanges : (fun id => (s.task? id).bind (timedOut env.now)) =
      timedOutOf env.now s.tasks.values :=
    funext fun id => by rw [timedOutOf, s.tasks.find?_values]; rfl
  rw [hchanges]
  exact wp_checkTimeoutsOf s.tasks.values 0 s s.tasks.nodup_map_key_values
    fun task htask => s.tasks.mem_values_iff.mp htask

theorem finalState_checkTimeouts (env : Env) (s : ControlPlane) :
    Pointwise (TimeoutChange env) (fun id => (s.task? id).bind (timedOut env.now)) s
      (finalState (checkTimeouts env) s) :=
  wp_onState_iff.mp (wp_mono (wp_checkTimeouts s) fun _ => onState_of_returns)

end timeouts

section progress

variable (env : Env) {s : ControlPlane}

def integrationProgressed (env : Env) (task : Task) (run : IntegrationRun) (progress : Int) : Task :=
  { task with
    integrationRun := some { run with progress := some (clampProgress progress) }
    updatedAt := env.now }

def publishProgressed (env : Env) (task : Task) (run : PublishRun) (progress : Int) : Task :=
  { task with
    publishRun := some { run with progress := some (clampProgress progress) }
    updatedAt := env.now }

theorem finalState_updateIntegrationProgress (taskId : String) (progress : Int) :
    finalState (updateIntegrationProgress env taskId progress) s = s ∨
      ∃ task run, s.task? taskId = some task ∧ task.state = .integrating ∧
        task.integrationRun = some run ∧
        finalState (updateIntegrationProgress env taskId progress) s =
          s.setTask (integrationProgressed env task run progress) := by
  refine finalState_rec (updateIntegrationProgress env taskId progress) s ?_
  simp only [updateIntegrationProgress, wp_bind, wp_requireTask]
  cases htask : s.task? taskId with
  | none => exact Or.inl rfl
  | some task =>
    simp only [andThen_ok, wp_ite]
    split_ifs with hstate
    · exact Or.inl rfl
    · cases hrun : task.integrationRun with
      | none => exact Or.inl (s.setTask_stored task htask)
      | some run => exact Or.inr ⟨task, run, rfl, by simpa using hstate, hrun, rfl⟩

theorem finalState_updatePublishProgress (taskId : String) (progress : Int) :
    finalState (updatePublishProgress env taskId progress) s = s ∨
      ∃ task run, s.task? taskId = some task ∧ task.state = .publishing ∧ task.publishRun = some run ∧
        finalState (updatePublishProgress env taskId progress) s =
          s.setTask (publishProgressed env task run progress) := by
  refine finalState_rec (updatePublishProgress env taskId progress) s ?_
  simp only [updatePublishProgress, wp_bind, wp_requireTask]
  cases htask : s.task? taskId with
  | none => exact Or.inl rfl
  | some task =>
    simp only [andThen_ok, wp_ite]
    split_ifs with hstate
    · exact Or.inl rfl
    · cases hrun : task.publishRun with
      | none => exact Or.inl (s.setTask_stored task htask)
      | some run => exact Or.inr ⟨task, run, rfl, by simpa using hstate, hrun, rfl⟩

end progress

section orphans

variable {env : Env}

def blockOf (env : Env) (info : JobInfo) : Option (ResumeState × String) :=
  match detectOrphan env.now info.lease, info.action with
  | some reason, .block resumeState => some (resumeState, "job_orphaned:" ++ reason.text)
  | _, _ => none

def orphanBlock (env : Env) (s : ControlPlane) (task : Task) : Option (ResumeState × String) :=
  (activeJobForOrphanScan s task).bind (blockOf env)

def orphanedTask (env : Env) (task : Task) (block : ResumeState × String) : Task :=
  applyTaskUpdate env (transitioned env task .blocked)
    { blockedContext := some (orphanContext block.1 block.2) }

def OrphanChange (env : Env) (block : ResumeState × String) (s s' : ControlPlane) (id : String) :
    Prop :=
  ∃ task n, s.task? id = some task ∧ block.1.toTaskState = task.state ∧
    canTransition task.state .blocked = true ∧
    s'.task? id = some (orphanedTask env task block) ∧
    s'.log id = s.log id ++ [transitionEvent env n task .blocked (orphanInput block.2)]

theorem orphanChange_local : Local (OrphanChange env) := by
  rintro block s₁ s₂ s₁' s₂' id htask hlog htask' hlog' ⟨task, n, h₁, h₂, h₃, h₄, h₅⟩
  exact ⟨task, n, htask ▸ h₁, h₂, h₃, htask' ▸ h₄, by rw [← hlog', h₅, hlog]⟩

theorem determineRecoveryAction_eq_some {state : TaskState} {retryCount : Int}
    {action : RecoveryAction} (h : determineRecoveryAction state retryCount = some action) :
    getAllowedDispatchStage state = none ∧ canTransition state .blocked = true ∧
      ∀ resumeState, action = .block resumeState → resumeState.toTaskState = state := by
  have hworker : ∀ stage, recoverWorkerStage stage retryCount = action →
      ∀ resumeState, action = .block resumeState →
        resumeState.toTaskState = stageToActiveState stage := by
    rintro stage rfl resumeState hblock
    unfold recoverWorkerStage at hblock
    split_ifs at hblock
    obtain rfl := RecoveryAction.block.inj hblock
    rfl
  have hblock : ∀ blockState : ResumeState, RecoveryAction.block blockState = action →
      ∀ resumeState, action = .block resumeState →
        resumeState.toTaskState = blockState.toTaskState := by
    rintro blockState rfl resumeState heq
    rw [RecoveryAction.block.inj heq]
  unfold determineRecoveryAction at h
  cases state with
  | planning => exact ⟨rfl, rfl, hworker .plan (Option.some.inj h)⟩
  | developing => exact ⟨rfl, rfl, hworker .dev (Option.some.inj h)⟩
  | accepting => exact ⟨rfl, rfl, hblock .accepting (Option.some.inj h)⟩
  | integrating => exact ⟨rfl, rfl, hblock .integrating (Option.some.inj h)⟩
  | publishing => exact ⟨rfl, rfl, hblock .publishing (Option.some.inj h)⟩
  | _ => cases h

def Listed (s : ControlPlane) (info : JobInfo) : Prop :=
  ∃ task retryCount, s.task? info.taskId = some task ∧
    determineRecoveryAction task.state retryCount = some info.action

theorem activeJobForOrphanScan_eq_some {s : ControlPlane} {task : Task} {info : JobInfo}
    (h : activeJobForOrphanScan s task = some info) : info.taskId = task.taskId ∧
      ∃ retryCount, determineRecoveryAction task.state retryCount = some info.action := by
  simp only [activeJobForOrphanScan, Option.bind_eq_bind, Option.bind_eq_some_iff] at h
  obtain ⟨jobId, _, job, _, _, _, lease, _, action, haction, hinfo⟩ := h
  split_ifs at hinfo
  obtain rfl := Option.some.inj hinfo
  exact ⟨rfl, _, haction⟩

theorem leased_of_activeJobForOrphanScan {s : ControlPlane} {task : Task} {info : JobInfo}
    (h : activeJobForOrphanScan s task = some info) : ∃ jobId job, task.activeJobId = some jobId ∧
      s.jobs.get? jobId = some job ∧ s.leaseManager.getLease jobId = some info.lease := by
  simp only [activeJobForOrphanScan, Option.bind_eq_bind, Option.bind_eq_some_iff] at h
  obtain ⟨jobId, hactive, job, hjob, _, _, lease, hlease, action, _, hinfo⟩ := h
  split_ifs at hinfo
  obtain rfl := Option.some.inj hinfo
  exact ⟨jobId, job, hactive, hjob, hlease⟩

theorem beginDispatch_refused {s : ControlPlane} {taskId : String} {request : DispatchRequest}
    {task : Task} (hstored : s.task? taskId = some task)
    (hstage : getAllowedDispatchStage task.state = none) :
    (beginDispatch env taskId request).run s = .error (.cannotDispatchWorker task.state) s := by
  suffices wp (beginDispatch env taskId request)
      (· = .error (.cannotDispatchWorker task.state) s) s from this
  simp [beginDispatch, hstored, hstage]

theorem wp_recoverOrphan {s : ControlPlane} {n : Nat} {info : JobInfo} {P : ControlPlane → Prop}
    (hlisted : Listed s info) (hkept : blockOf env info = none → P s)
    (hblocked : ∀ task block, blockOf env info = some block → s.task? info.taskId = some task →
      block.1.toTaskState = task.state → canTransition task.state .blocked = true →
      P ((s.commit (transitioned env task .blocked)
        (transitionEvent env n task .blocked (orphanInput block.2))).setTask
          (orphanedTask env task block))) :
    wp (recoverOrphan env n info) (returns P) s := by
  obtain ⟨task, retryCount, hstored, haction⟩ := hlisted
  obtain ⟨hstage, hcan, hresume⟩ := determineRecoveryAction_eq_some haction
  unfold recoverOrphan
  cases hdetect : detectOrphan env.now info.lease with
  | none => exact hkept (by simp [blockOf, hdetect])
  | some reason =>
    dsimp only
    cases hact : info.action with
    | retry stage =>
      simp only [wp_tryCatch, wp_bind]
      rw [wp, beginDispatch_refused hstored hstage]
      exact hkept (by simp [blockOf, hact])
    | block resumeState =>
      have hid := s.task?_taskId hstored
      simp only [blockOrphanedTask, wp_bind, wp_get, andThen_ok, hstored, wp_transitionTask, hcan,
        if_true, wp_updateTask, commit_task?, transitioned_taskId, hid, wp_pure,
        returns_ok]
      exact hblocked task (resumeState, "job_orphaned:" ++ reason.text) (by simp [blockOf, hdetect, hact])
        hstored (hresume resumeState hact) hcan

def blockedOf (env : Env) (infos : List JobInfo) (id : String) : Option (ResumeState × String) :=
  (infos.find? (fun info => info.taskId = id)).bind (blockOf env)

theorem blockedOf_cons (info : JobInfo) (infos : List JobInfo) (id : String) :
    blockedOf env (info :: infos) id =
      if id = info.taskId then blockOf env info else blockedOf env infos id := by
  unfold blockedOf
  by_cases hid : info.taskId = id
  · rw [List.find?_cons_of_pos (by simpa using hid), if_pos hid.symm, Option.bind_some]
  · rw [List.find?_cons_of_neg (by simpa using hid), if_neg (Ne.symm hid)]

theorem blockedOf_eq_none {infos : List JobInfo} {id : String}
    (h : id ∉ infos.map JobInfo.taskId) : blockedOf env infos id = none := by
  unfold blockedOf
  rw [List.find?_eq_none.mpr, Option.bind_none]
  intro info hinfo
  have hne : info.taskId ≠ id := fun heq => h (heq ▸ List.mem_map_of_mem hinfo)
  simpa using hne

theorem wp_recoverOrphans : ∀ (infos : List JobInfo) (n : Nat) (s : ControlPlane),
    (infos.map JobInfo.taskId).Nodup → (∀ info ∈ infos, Listed s info) →
    wp (recoverOrphans env n infos)
      (returns (Pointwise (OrphanChange env) (blockedOf env infos) s)) s := by
  intro infos
  induction infos with
  | nil => exact fun n s _ _ => Pointwise.refl (OrphanChange env) s
  | cons info infos ih =>
    intro n s hnodup hlisted
    obtain ⟨hnot, hrest⟩ := List.nodup_cons.mp hnodup
    have htail : ∀ i ∈ infos, Listed s i := fun i hi => hlisted i (List.mem_cons_of_mem _ hi)
    have hchanges : blockedOf env (info :: infos) =
        fun i => if i = info.taskId then blockOf env info else blockedOf env infos i :=
      funext fun i => blockedOf_cons ..
    rw [hchanges]
    simp only [recoverOrphans, wp_bind]
    have hstep : wp (recoverOrphan env n info) (returns fun s₁ =>
        wp (recoverOrphans env (n + 1) infos) (returns (Pointwise (OrphanChange env) (fun i =>
          if i = info.taskId then blockOf env info else blockedOf env infos i) s)) s₁) s := by
      refine wp_recoverOrphan (hlisted info List.mem_cons_self) ?_ ?_
      · intro hnone
        refine wp_mono (ih (n + 1) s hrest htail) fun r hr => returns_mono (fun s' h => ?_) hr
        refine ⟨h.1, fun i => ?_⟩
        dsimp only
        by_cases hi : i = info.taskId
        · have hkept := h.2 i
          rw [hi, blockedOf_eq_none hnot] at hkept
          rw [hi, if_pos rfl, hnone]
          exact hkept
        · rw [if_neg hi]
          exact h.2 i
      · intro task block hblock hstored hresume hcan
        have hid := s.task?_taskId hstored
        have hothers : ∀ i, i ≠ info.taskId →
            ((s.commit (transitioned env task .blocked) (transitionEvent env n task .blocked
              (orphanInput block.2))).setTask (orphanedTask env task block)).task? i = s.task? i ∧
            ((s.commit (transitioned env task .blocked) (transitionEvent env n task .blocked
              (orphanInput block.2))).setTask (orphanedTask env task block)).log i = s.log i := by
          intro i hi
          simp [setTask_task?, commit_task?, commit_log, orphanedTask, hid, hi]
        have hbeside : SameBeside s ((s.commit (transitioned env task .blocked) (transitionEvent env n
            task .blocked (orphanInput block.2))).setTask (orphanedTask env task block)) := rfl
        have hchange : OrphanChange env block s ((s.commit (transitioned env task .blocked)
            (transitionEvent env n task .blocked (orphanInput block.2))).setTask
              (orphanedTask env task block)) info.taskId := by
          refine ⟨task, n, hstored, hresume, hcan, ?_, ?_⟩
          · simp [setTask_task?, orphanedTask, hid]
          · simp [commit_log, hid]
        have htail₁ : ∀ i ∈ infos, Listed ((s.commit (transitioned env task .blocked)
            (transitionEvent env n task .blocked (orphanInput block.2))).setTask
              (orphanedTask env task block)) i := by
          intro i hi
          have hne : i.taskId ≠ info.taskId := fun heq => hnot (heq ▸ List.mem_map_of_mem hi)
          obtain ⟨task', retryCount, hstored', haction⟩ := htail i hi
          exact ⟨task', retryCount, (hothers _ hne).1.trans hstored', haction⟩
        rw [hblock]
        exact wp_mono (ih (n + 1) _ hrest htail₁) fun r hr => returns_mono (fun _ =>
          Pointwise.cons orphanChange_local (blockedOf_eq_none hnot) hbeside hothers hchange) hr
    refine wp_mono hstep fun r hr => ?_
    cases r with
    | ok a s₁ => exact hr
    | error e s₁ => exact hr.elim

theorem wp_scanForOrphans (s : ControlPlane) : wp (scanForOrphans env)
    (returns (Pointwise (OrphanChange env) (fun id => (s.task? id).bind (orphanBlock env s)) s))
      s := by
  have hkey : ∀ task info, activeJobForOrphanScan s task = some info →
      info.taskId = task.taskId := fun _ _ h => (activeJobForOrphanScan_eq_some h).1
  have hchanges : (fun id => (s.task? id).bind (orphanBlock env s)) =
      blockedOf env (s.tasks.values.filterMap (activeJobForOrphanScan s)) := by
    funext id
    rw [blockedOf, s.tasks.find?_filterMap_values hkey, Option.bind_assoc]
    rfl
  rw [hchanges]
  refine wp_recoverOrphans (s.tasks.values.filterMap (activeJobForOrphanScan s)) 0 s ?_ ?_
  · exact s.tasks.nodup_map_filterMap_values hkey
  · intro info hinfo
    obtain ⟨task, htask, heq⟩ := List.mem_filterMap.mp hinfo
    obtain ⟨hid, retryCount, haction⟩ := activeJobForOrphanScan_eq_some heq
    refine ⟨task, retryCount, ?_, haction⟩
    rw [hid]
    exact s.tasks.mem_values_iff.mp htask

theorem finalState_scanForOrphans (env : Env) (s : ControlPlane) :
    Pointwise (OrphanChange env) (fun id => (s.task? id).bind (orphanBlock env s)) s
      (finalState (scanForOrphans env) s) :=
  wp_onState_iff.mp (wp_mono (wp_scanForOrphans s) fun _ => onState_of_returns)

end orphans

end ShipyardCp.Store
