import ShipyardCp.Store.Wiring

/-! Whether a publish that requires approval can start without one. -/

namespace ShipyardCp.Properties

open Types Domain Lib Store ControlPlane

def appliesWithApproval (task : Task) : Bool :=
  task.publishPlan.any fun plan => plan.mode = some .apply && plan.approvalRequired = some true

/-- The token of a pending task is the one drawn for the request that made it pending, and the task
has been pending since. -/
def TokenDrawn (h : History System Call) (id : String) (task : Task) : Prop :=
  ∃ h₁ step h₂ request, h = h₁ ++ step :: h₂ ∧ step.2.op = .publish id request ∧
    request.mode = some .apply ∧ task.pendingApprovalToken = some step.2.env.randomHex ∧
    task.pendingApprovalExpiresAt = some (step.2.env.now + approvalTokenTtlMs) ∧
    ∀ later ∈ h₂, ∃ old, later.1.store.task? id = some old ∧ old.state = .publishPendingApproval

/-- Every task that starts to apply, and whose plan requires approval, is approved by this call with
the token drawn for its request, in time. -/
def ApprovedApply (h : History System Call) (sys : System) (call : Call) (sys' : System) : Prop :=
  ∀ id task', sys'.store.task? id = some task' → task'.state = .publishing →
    appliesWithApproval task' = true →
    (∀ task, sys.store.task? id = some task → task.state ≠ .publishing) →
    ∃ task token, sys.store.task? id = some task ∧ call.op = .approvePublish id token ∧
      task.pendingApprovalToken = some token ∧
      (∀ expiresAt, task.pendingApprovalExpiresAt = some expiresAt → call.env.now ≤ expiresAt) ∧
      TokenDrawn h id task

def recordsTransition (call : Call) : Bool :=
  match call.op with
  | .recordTransition _ _ => true
  | _ => false

/-- A publish request that carries a token of its own, and that neither the idempotency key nor the
policy stops, for an integrated task that requires approval. -/
def bypassesApproval (sys : System) (call : Call) : Bool :=
  match call.op with
  | .publish taskId request =>
    (sys.store.task? taskId).any fun task =>
      task.state = .integrated && request.mode = some .apply &&
      (task.publishPlan.any fun plan => plan.approvalRequired = some true) &&
      isTruthy request.approvalToken && (publishedBefore sys.store request).isNone &&
      match publishPolicy call.env task with
      | some (.allowed _) => true
      | _ => false
  | _ => false

section step

variable {h : History System Call} {sys sys' : System} {call : Call}

theorem withPublishRequest_plan (task : Task) (warnings : List String) (request : PublishRequest) :
    ∃ plan, (withPublishRequest (withPolicyWarnings task warnings) request).publishPlan = some plan ∧
      plan.mode = request.mode ∧
      plan.approvalRequired = task.publishPlan.bind (·.approvalRequired) := by
  refine ⟨_, rfl, rfl, ?_⟩
  unfold withPolicyWarnings
  split_ifs <;> cases task.publishPlan <;> rfl

theorem bypassesApproval_publish {taskId : String} {request : PublishRequest} {env : Env}
    (hbypass : bypassesApproval sys ⟨env, .publish taskId request⟩ = true) :
    ∃ task warnings, sys.store.task? taskId = some task ∧ task.state = .integrated ∧
      request.mode = some .apply ∧ task.publishPlan.bind (·.approvalRequired) = some true ∧
      isTruthy request.approvalToken = true ∧ publishedBefore sys.store request = none ∧
      publishPolicy env task = some (.allowed warnings) := by
  simp only [bypassesApproval, Option.any_eq_true, Bool.and_eq_true, decide_eq_true_eq,
    Option.isNone_iff_eq_none] at hbypass
  obtain ⟨task, htask, ⟨⟨⟨⟨hstate, hmode⟩, plan, hplan, hrequired⟩, htoken⟩, hbefore⟩, hpolicy⟩ :=
    hbypass
  split at hpolicy
  · next warnings hallowed =>
    exact ⟨task, warnings, htask, hstate, hmode, by rw [hplan]; exact hrequired, htoken, hbefore,
      hallowed⟩
  · cases hpolicy

theorem not_bypassesApproval (hstep : controlPlane.step sys call sys')
    (happroved : ApprovedApply h sys call sys') : bypassesApproval sys call = false := by
  by_contra hbypass
  obtain ⟨env, op⟩ := call
  cases op with
  | publish taskId request =>
    obtain ⟨task, warnings, htask, hstate, hmode, hrequired, htoken, hbefore, hpolicy⟩ :=
      bypassesApproval_publish (by simpa using hbypass)
    have hnext : sys.next ⟨env, .publish taskId request⟩ = some sys' := hstep
    simp only [System.next, System.enabled, if_true, Option.some.injEq] at hnext
    obtain rfl := hnext
    have hneeds : needsApproval task request = false := by
      simp [needsApproval, htoken]
    obtain ⟨task', htask', hpublishing, hplan⟩ :=
      finalState_publish_started env htask hstate hbefore hmode hpolicy hneeds
    obtain ⟨plan, hsome, hplanMode, hplanRequired⟩ := withPublishRequest_plan task warnings request
    have happlies : appliesWithApproval task' = true := by
      simp [appliesWithApproval, hplan, hsome, hplanMode, hplanRequired, hmode, hrequired]
    obtain ⟨_, token, _, hop, _⟩ := happroved taskId task' htask' hpublishing happlies
      fun old hold => by
        rw [htask] at hold
        rw [← Option.some.inj hold, hstate]
        decide
    cases hop
  | _ => simp [bypassesApproval] at hbypass

theorem TokenDrawn.snoc {id : String} {task task' : Task} (hdrawn : TokenDrawn h id task)
    (hold : sys.store.task? id = some task) (hpending : task.state = .publishPendingApproval)
    (htoken : task'.pendingApprovalToken = task.pendingApprovalToken)
    (hexpires : task'.pendingApprovalExpiresAt = task.pendingApprovalExpiresAt) :
    TokenDrawn (h ++ [(sys, call)]) id task' := by
  obtain ⟨h₁, step, h₂, request, rfl, hop, hmode, hdraw, hexpire, hlater⟩ := hdrawn
  refine ⟨h₁, step, h₂ ++ [(sys, call)], request, by simp, hop, hmode, htoken.trans hdraw,
    hexpires.trans hexpire, fun later hmem => ?_⟩
  rw [List.mem_append, List.mem_singleton] at hmem
  rcases hmem with hmem | rfl
  · exact hlater later hmem
  · exact ⟨task, hold, hpending⟩

theorem patched_pending {id : String} {task task' : Task} (hpatch : Patched call id task task') :
    task'.pendingApprovalToken = task.pendingApprovalToken ∧
      task'.pendingApprovalExpiresAt = task.pendingApprovalExpiresAt := by
  cases hpatch <;> exact ⟨rfl, rfl⟩

theorem tokenDrawn_of_moved {id : String} {task task' : Task} {event : StateTransitionEvent}
    (hmove : Moved call id task task' event) (hpending : task'.state = .publishPendingApproval) :
    TokenDrawn (h ++ [(sys, call)]) id task' := by
  cases hmove with
  | integrationEnded request moved toState reason _ _ hended =>
    cases hended with
    | _ => cases hpending
  | publish request n moved toState input hop _ hpublish =>
    cases hpublish with
    | denied _ => cases hpending
    | pending warnings _ hneeds =>
      have hmode : request.mode = some .apply := by
        simp only [needsApproval, Bool.and_eq_true, decide_eq_true_eq] at hneeds
        exact hneeds.1.1
      exact ⟨h, (sys, call), [], request, rfl, hop, hmode, rfl, rfl, by simp⟩
    | started _ _ _ => cases hpending
  | _ => cases hpending

theorem tokenDrawn_of_taskEffect {id : String} {old : Option Task} {task' : Task}
    {log log' : List StateTransitionEvent}
    (heffect : TaskEffect sys call id old log (some task') log') (hold : sys.store.task? id = old)
    (hnot : recordsTransition call = false) (hpending : task'.state = .publishPendingApproval)
    (hdrawn : ∀ task, old = some task → task.state = .publishPendingApproval → TokenDrawn h id task) :
    TokenDrawn (h ++ [(sys, call)]) id task' := by
  cases heffect with
  | kept => exact (hdrawn task' rfl hpending).snoc hold hpending rfl rfl
  | created request _ _ _ => cases hpending
  | recorded task _ event hop _ _ _ => simp [recordsTransition, hop] at hnot
  | moved task _ _ event hmove => exact tokenDrawn_of_moved hmove hpending
  | patched task _ _ hpatch =>
    have hbefore := hpatch.frame.2.2.symm.trans hpending
    exact (hdrawn task rfl hbefore).snoc hold hbefore (patched_pending hpatch).1
      (patched_pending hpatch).2
  | answered task _ result job a _ _ _ _ hsound _ =>
    have hpatched := hsound.resultTask_eq_patched call.env (by rw [hpending]; rfl)
    rw [hpatched] at hpending ⊢
    exact (hdrawn task rfl hpending).snoc hold hpending rfl rfl
  | dispatched _ _ d backend reason _ _ _ _ =>
    exact absurd hpending (by cases hnext : d.nextState <;> simp [ResumeState.toTaskState])
  | refused _ _ d error failure _ _ _ _ _ _ => cases hpending

end step

variable {h : History System Call} {sys : System}

theorem tokenDrawn_of_run (hrun : controlPlane.Run h sys)
    (hnot : Machine.Steps (fun _ call => recordsTransition call = false) h) :
    ∀ id task, sys.store.task? id = some task → task.state = .publishPendingApproval →
      TokenDrawn h id task := by
  refine hrun.invariant (I := fun h sys => ∀ id task, sys.store.task? id = some task →
    task.state = .publishPendingApproval → TokenDrawn h id task) ?_ ?_ hnot
  · rintro sys ⟨_, _, _, rfl⟩ id task htask
    simp [System.initial, initial, task?] at htask
  · intro h sys call sys' _ _ ih hnot hstep id task' htask' hpending
    have heffect := taskEffect_of_step hstep id
    rw [htask'] at heffect
    exact tokenDrawn_of_taskEffect heffect rfl hnot hpending (ih id)

section entry

variable {sys' : System} {call : Call}

theorem bypassesApproval_of_started {taskId : String} {request : PublishRequest} {env : Env}
    {task task' : Task} (htask : sys.store.task? taskId = some task)
    (htask' : (finalState (publish env taskId request) sys.store).task? taskId = some task')
    (hpublishing : task'.state = .publishing) (hne : task.state ≠ .publishing)
    (happlies : appliesWithApproval task' = true) :
    bypassesApproval sys ⟨env, .publish taskId request⟩ = true := by
  have hid := sys.store.task?_taskId htask
  have hkept : sys.store.task? taskId ≠ some task' := by
    intro hsame
    rw [htask] at hsame
    rw [← Option.some.inj hsame] at hpublishing
    exact hne hpublishing
  rcases finalState_publish (s := sys.store) env taskId request with
    h | ⟨old, hold, hstate, hbefore, h | ⟨n, moved, toState, input, hmove, _, h⟩⟩
  · rw [h] at htask'
    exact absurd htask' hkept
  · rw [h] at htask'
    exact absurd htask' hkept
  · rw [htask] at hold
    obtain rfl := Option.some.inj hold
    have hmoved : taskId = (transitioned env moved toState).taskId := hid.symm.trans hmove.taskId.symm
    rw [h, commit_task?, if_pos hmoved] at htask'
    obtain rfl := Option.some.inj htask'
    have hto : toState = .publishing := hpublishing
    subst hto
    cases hmove with
    | started warnings hpolicy hneeds =>
      obtain ⟨plan, hsome, hplanMode, hplanRequired⟩ := withPublishRequest_plan task warnings request
      have happlies' : (plan.mode = some .apply ∧ plan.approvalRequired = some true) := by
        simpa [appliesWithApproval, publishingTask, hsome] using happlies
      have hmode : request.mode = some .apply := hplanMode.symm.trans happlies'.1
      have hrequired := hplanRequired.symm.trans happlies'.2
      obtain ⟨oldPlan, hold, hoption⟩ := Option.bind_eq_some_iff.mp hrequired
      have htoken : isTruthy request.approvalToken = true := by
        simpa [needsApproval, hmode, hold, hoption] using hneeds
      simp [bypassesApproval, htask, hstate, hmode, hold, hoption, htoken, hbefore, hpolicy hmode]

theorem approved_of_moved {id : String} {task task' : Task} {event : StateTransitionEvent}
    (hmove : Moved call id task task' event) (hpublishing : task'.state = .publishing) :
    (∃ request, call.op = .publish id request) ∨
      ∃ token, call.op = .approvePublish id token ∧ task.state = .publishPendingApproval ∧
        validateApprovalToken call.env.now task token = none := by
  cases hmove with
  | integrationEnded request moved toState reason _ _ hended =>
    cases hended with
    | _ => cases hpublishing
  | publish request _ _ _ _ hop _ _ => exact Or.inl ⟨request, hop⟩
  | approved token hop hstate hvalid => exact Or.inr ⟨token, hop, hstate, hvalid⟩
  | _ => cases hpublishing

theorem approved_of_taskEffect {id : String} {old : Option Task} {task' : Task}
    {log log' : List StateTransitionEvent}
    (heffect : TaskEffect sys call id old log (some task') log') (hwired : Wired sys)
    (hnot : recordsTransition call = false) (hpublishing : task'.state = .publishing)
    (hne : ∀ task, old = some task → task.state ≠ .publishing) :
    ∃ task, old = some task ∧ ((∃ request, call.op = .publish id request) ∨
      ∃ token, call.op = .approvePublish id token ∧ task.state = .publishPendingApproval ∧
        validateApprovalToken call.env.now task token = none) := by
  cases heffect with
  | kept => exact absurd hpublishing (hne task' rfl)
  | created request _ _ _ => cases hpublishing
  | recorded task _ event hop _ _ _ => simp [recordsTransition, hop] at hnot
  | moved task _ _ event hmove => exact ⟨task, rfl, approved_of_moved hmove hpublishing⟩
  | patched task _ _ hpatch =>
    exact absurd (hpatch.frame.2.2.symm.trans hpublishing) (hne task rfl)
  | answered task _ result job a _ _ _ _ hsound _ =>
    rw [hsound.resultTask_eq_patched call.env (by rw [hpublishing]; rfl)] at hpublishing
    exact absurd hpublishing (hne task rfl)
  | dispatched _ _ d backend reason _ hmem _ _ =>
    have hnext : d.nextState.toTaskState = .publishing := hpublishing
    rw [(hwired.waiting d hmem).nextState] at hnext
    cases hstage : d.request.targetStage <;> rw [hstage] at hnext <;> cases hnext
  | refused _ _ d error failure _ _ _ _ _ _ => cases hpublishing

theorem approvedApply_of_step (hrun : controlPlane.Run h sys)
    (hnot : Machine.Steps (fun _ call => recordsTransition call = false) h)
    (hnotNow : recordsTransition call = false) (hbypass : bypassesApproval sys call = false)
    (hstep : controlPlane.step sys call sys') : ApprovedApply h sys call sys' := by
  intro id task' htask' hpublishing happlies hne
  have heffect := taskEffect_of_step hstep id
  rw [htask'] at heffect
  obtain ⟨task, htask, ⟨request, hop⟩ | ⟨token, hop, hstate, hvalid⟩⟩ :=
    approved_of_taskEffect heffect (wired_of_run hrun) hnotNow hpublishing hne
  · obtain ⟨env, op⟩ := call
    obtain rfl : op = _ := hop
    have hnext : sys.next ⟨env, .publish id request⟩ = some sys' := hstep
    simp only [System.next, System.enabled, if_true, Option.some.injEq] at hnext
    obtain rfl := hnext
    rw [bypassesApproval_of_started htask htask' hpublishing (hne task htask) happlies] at hbypass
    cases hbypass
  · obtain ⟨_, htoken, hexpired⟩ := validateApprovalToken_eq_none_iff.mp hvalid
    refine ⟨task, token, htask, hop, htoken, fun expiresAt hexpires => ?_,
      tokenDrawn_of_run hrun hnot id task htask hstate⟩
    simpa [isExpired, hexpires] using hexpired

end entry

/-- In a run without recorded transitions, every apply run that requires approval starts with one,
exactly when no publish request bypasses it. -/
theorem publish_approved_iff (hrun : controlPlane.Run h sys)
    (hnot : Machine.Steps (fun _ call => recordsTransition call = false) h) :
    controlPlane.EveryStep ApprovedApply h ↔
      Machine.Steps (fun sys call => bypassesApproval sys call = false) h := by
  constructor
  · exact hrun.steps_of_everyStep fun _ _ _ _ _ hstep happroved =>
      not_bypassesApproval hstep happroved
  · intro hbypass
    have hboth : Machine.Steps (fun sys call =>
        recordsTransition call = false ∧ bypassesApproval sys call = false) h :=
      fun p hp => ⟨hnot p hp, hbypass p hp⟩
    refine hrun.everyStep ?_ hboth
    intro h sys call sys' hbefore hsteps hnow hstep
    exact approvedApply_of_step hbefore (hsteps.mono fun _ _ hC => hC.1) hnow.1 hnow.2 hstep

def integratedScript : Script :=
  acceptingScript { sampleRequest with publishPlan := some ⟨none, none, some true, none⟩ } ++
    [line "3" (.completeAcceptance "task_0" checkAll), line "4" (.integrate "task_0" "sha"),
      line "5" (.completeIntegrate "task_0" ⟨true, some "head", none, none, none⟩)]

def publishLine (approvalToken : Option String) : System → Option Call :=
  line "6" (.publish "task_0" ⟨some .apply, some "key", approvalToken⟩)

def approvedScript : Script :=
  integratedScript ++ [publishLine none, line "7" (.approvePublish "task_0" "pending-6")]

def bypassingScript : Script := integratedScript ++ [publishLine (some "anything")]

def startsApply (p : History System Call × System) : Bool :=
  (p.2.store.task? "task_0").any fun task =>
    task.state = .publishing && appliesWithApproval task

theorem publish_approved : ∃ h sys, controlPlane.Run h sys ∧ startsApply (h, sys) = true ∧
      controlPlane.EveryStep ApprovedApply h := by
  obtain ⟨h, sys, hrun, htest⟩ := exists_run_of_play approvedScript
    (fun p => startsApply p && (p.1.all fun step => !recordsTransition step.2) &&
      p.1.all fun step => !bypassesApproval step.1 step.2) (by decide +kernel)
  simp only [Bool.and_eq_true, List.all_eq_true, Bool.not_eq_true'] at htest
  exact ⟨h, sys, hrun, htest.1.1, (publish_approved_iff hrun htest.1.2).mpr htest.2⟩

theorem publish_not_approved : ¬∀ h sys, controlPlane.Run h sys →
      Machine.Steps (fun _ call => recordsTransition call = false) h →
      controlPlane.EveryStep ApprovedApply h := by
  intro hall
  obtain ⟨h, sys, hrun, htest⟩ := exists_run_of_play bypassingScript
    (fun p => (p.1.all fun step => !recordsTransition step.2) &&
      p.1.any fun step => bypassesApproval step.1 step.2) (by decide +kernel)
  simp only [Bool.and_eq_true, List.all_eq_true, Bool.not_eq_true'] at htest
  obtain ⟨step, hmem, hbypass⟩ := List.any_eq_true.mp htest.2
  obtain ⟨h₁, h₂, rfl⟩ := List.append_of_mem hmem
  obtain ⟨s', _, hstep, _⟩ := hrun.split
  rw [not_bypassesApproval hstep (hall _ sys hrun htest.1 h₁ _ _ h₂ s' rfl hstep)] at hbypass
  cases hbypass

end ShipyardCp.Properties
