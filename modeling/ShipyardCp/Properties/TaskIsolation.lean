import ShipyardCp.Store.References

/-! What no interleaving of calls changes of a task. -/

namespace ShipyardCp.Properties

open Types Domain Lib Store ControlPlane Machine ResultAnswer

/-- What a task was created to do, where, and under which rules. -/
def commission (task : Task) :=
  (task.taskId, task.title, task.objective, task.typedRef, task.description, task.riskLevel,
    { task.repoRef with baseSha := none }, task.repoPolicy.getD defaultRepoPolicy,
    task.publishPlan.bind (·.approvalRequired), task.labels, task.createdAt)

/-- The calls that may write a task: those that name it, and the two scans of all tasks. -/
def mayWrite (id : String) : Op → Bool
  | .recordTransition taskId _ | .cancel taskId | .beginDispatch taskId _ | .applyResult taskId _
  | .completeAcceptance taskId _ | .integrate taskId _ | .completeIntegrate taskId _
  | .publish taskId _ | .approvePublish taskId _ | .completePublish taskId _
  | .updateIntegrationProgress taskId _ | .updatePublishProgress taskId _ | .resolveDocs taskId _
  | .ackDocs taskId _ => taskId = id
  | .settleDispatch d _ => d.task.taskId = id
  | .settlePoll job _ => job.taskId = id
  | .settleStaleCheck check _ => check.taskId = id
  | .settleLinkTracker link _ => link.taskId = id
  | .checkTimeouts | .scanForOrphans => true
  | _ => false

variable {h h₁ h₂ : History System Call} {sys sys' : System} {call : Call} {id : String}
  {task task' : Task} {event : StateTransitionEvent}

theorem commission_withPublishRequest (warnings : List String) (request : PublishRequest) :
    commission (withPublishRequest (withPolicyWarnings task warnings) request) = commission task := by
  unfold withPublishRequest withPolicyWarnings
  cases hplan : task.publishPlan <;> split_ifs <;> simp [commission, hplan, PublishPlan.empty]

theorem commission_moved (hmoved : Moved call id task task' event) :
    commission task' = commission task := by
  cases hmoved with
  | integrationEnded request moved toState reason _ _ hmove => cases hmove <;> rfl
  | publish request n moved toState input _ _ hmove =>
    cases hmove with
    | denied reason => rfl
    | pending warnings _ _ => exact commission_withPublishRequest warnings request
    | started warnings _ _ => exact commission_withPublishRequest warnings request
  | timedOut updatedTask reason n _ htimed =>
    obtain ⟨_, _, _, _, _, _, _, rfl⟩ := timedOut_eq_some htimed
    rfl
  | _ => rfl

/-- A dispatch that waits holds the commission of the task it will write. -/
def SnapshotsCommissioned (sys : System) : Prop := ∀ d ∈ sys.dispatching,
  (sys.store.task? d.task.taskId).map commission = some (commission d.task)

theorem commission_step (hsnapshots : SnapshotsCommissioned sys)
    (hstep : controlPlane.step sys call sys') (hstored : sys.store.task? id = some task) :
    (sys'.store.task? id).map commission = some (commission task) := by
  have hwaiting : ∀ d ∈ sys.dispatching, d.task.taskId = id → commission d.task = commission task := by
    rintro d hd rfl
    have hsnapshot := hsnapshots d hd
    rw [hstored] at hsnapshot
    exact (Option.some.inj hsnapshot).symm
  have heffect := taskEffect_of_step hstep id
  rw [hstored] at heffect
  generalize sys'.store.task? id = task?', sys.store.log id = log, sys'.store.log id = log' at heffect ⊢
  cases heffect with
  | moved _ task' _ event hmoved => exact congrArg some (commission_moved hmoved)
  | patched _ task' _ hpatched => cases hpatched <;> rfl
  | answered _ _ result job a _ _ _ _ _ _ =>
    unfold resultTask
    split <;> rfl
  | dispatched _ _ d backend reason _ hmem hid _ => exact congrArg some (hwaiting d hmem hid)
  | refused _ _ d error failure _ _ _ hmem hid _ => exact congrArg some (hwaiting d hmem hid)
  | _ => rfl

theorem SnapshotsCommissioned.step (hwired : Wired sys) (hsnapshots : SnapshotsCommissioned sys)
    (hstep : controlPlane.step sys call sys') : SnapshotsCommissioned sys' := by
  intro d hd
  rcases (jobEffect_of_step hstep).waiting hwired hd with ⟨hmem, _⟩ | ⟨taskId, request, hbegun, _⟩
  · obtain ⟨task, hstored, hsame⟩ := Option.map_eq_some_iff.mp (hsnapshots d hmem)
    exact (commission_step hsnapshots hstep hstored).trans (congrArg some hsame)
  · have hstored := hbegun.stored
    rw [← sys.store.task?_taskId hstored] at hstored
    exact commission_step hsnapshots hstep hstored

theorem snapshotsCommissioned_of_run (hrun : controlPlane.Run h sys) :
    SnapshotsCommissioned sys := by
  induction hrun with
  | start hinit =>
    obtain ⟨_, _, _, rfl⟩ := hinit
    exact fun d hd => by cases hd
  | snoc hbefore hstep ih => exact ih.step (wired_of_run hbefore) hstep

def created : System := (System.initial ⟨20, 200, .empty, .empty⟩ "executor").perform
  ⟨sampleEnv "0", .createTask sampleRequest⟩

theorem run_created : ∃ h, controlPlane.Run h created :=
  have hfresh : IsFresh _ := ⟨20, 200, "executor", rfl⟩
  ⟨_, (Run.start hfresh).snoc (step_iff.mpr ⟨rfl, rfl⟩)⟩

/-- Whatever is called and in which order, a task once created stays stored with its commission, and
its log only grows. -/
theorem commission_kept (hrun : controlPlane.Run h₁ sys) (hpath : controlPlane.Path sys h₂ sys')
    (hstored : sys.store.task? id = some task) :
    (sys'.store.task? id).map commission = some (commission task) ∧
      sys.store.log id <+: sys'.store.log id := by
  induction hpath generalizing h₁ task with
  | nil => exact ⟨congrArg _ hstored, List.prefix_rfl⟩
  | cons hstep _ ih =>
    have hkept := commission_step (snapshotsCommissioned_of_run hrun) hstep hstored
    obtain ⟨task', hstored', hsame⟩ := Option.map_eq_some_iff.mp hkept
    obtain ⟨hkept', hlog⟩ := ih (hrun.snoc hstep) hstored'
    exact ⟨hsame ▸ hkept', (taskEffect_of_step hstep id).log_extends.trans hlog⟩

theorem cancelled_commission_kept : ∃ (sys sys' : System) (task : Task),
    sys.store.task? "task_0" = some task ∧
      (sys'.store.task? "task_0").map commission = some (commission task) ∧
      sys.store.log "task_0" <+: sys'.store.log "task_0" := by
  obtain ⟨h, hrun⟩ := run_created
  have hcancelled : controlPlane.step created ⟨sampleEnv "1", .cancel "task_0"⟩ _ :=
    step_iff.mpr ⟨rfl, rfl⟩
  exact ⟨_, _, newTask (sampleEnv "0") sampleRequest, rfl,
    commission_kept hrun (.cons hcancelled .nil) rfl⟩

theorem mayWrite_of_references {u : ReferenceUpdate} (hupdate : referenceUpdate? call = some u) :
    mayWrite u.taskId call.op = true := by
  unfold referenceUpdate? at hupdate
  split at hupdate <;> grind [mayWrite]

/-- A task changes only by a call that names it or by a scan of all tasks. -/
theorem task_isolated (hpath : controlPlane.Path sys h sys')
    (hother : Steps (fun _ call => mayWrite id call.op = false) h)
    (hstored : sys.store.task? id = some task) :
    sys'.store.task? id = some task ∧ sys'.store.log id = sys.store.log id := by
  refine hpath.stable (P := fun s => s.store.task? id = some task ∧ s.store.log id =
    sys.store.log id) ?_ hother ⟨hstored, rfl⟩
  rintro s call s' ⟨htask, hlog⟩ hcall hstep
  have heffect := taskEffect_of_step hstep id
  rw [htask, hlog] at heffect
  generalize s'.store.task? id = task?', s'.store.log id = log' at heffect ⊢
  cases heffect with
  | kept => exact ⟨rfl, rfl⟩
  | recorded _ _ _ hop => simp [hop, mayWrite] at hcall
  | moved _ _ _ _ hmoved => cases hmoved <;> simp_all [mayWrite]
  | patched _ _ _ hpatched =>
    cases hpatched with
    | references u hupdate hid => simp [← hid, mayWrite_of_references hupdate] at hcall
    | _ => simp_all [mayWrite]
  | answered _ _ _ _ _ happlied =>
    unfold appliedBy at happlied
    split at happlied <;> simp_all [mayWrite]
  | dispatched _ _ d _ _ hop _ hid => simp [hop, mayWrite, hid] at hcall
  | refused _ _ d _ _ hop _ _ _ hid => simp [hop, mayWrite, hid] at hcall

theorem creation_isolated : ∃ (sys sys' : System) (task : Task), sys.store.task? "task_0" = some task ∧
    sys'.store.task? "task_0" = some task ∧
      sys'.store.log "task_0" = sys.store.log "task_0" := by
  have hcreated : controlPlane.step created ⟨sampleEnv "1", .createTask sampleRequest⟩ _ :=
    step_iff.mpr ⟨rfl, rfl⟩
  exact ⟨_, _, newTask (sampleEnv "0") sampleRequest, rfl,
    task_isolated (.cons hcreated .nil) (by simp [mayWrite]) rfl⟩

end ShipyardCp.Properties
