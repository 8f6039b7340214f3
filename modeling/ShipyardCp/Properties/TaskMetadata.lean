import ShipyardCp.Store.Application
import ShipyardCp.Store.Wiring

/-! Whether the metadata of a task agrees with its state: its blocked context, its time of completion,
its runs and its approval token. -/

namespace ShipyardCp.Properties

open Types Domain Lib Store Machine ResultAnswer ControlPlane

/-- A task has the metadata of its state and of no other. -/
structure MetadataAgrees (task : Task) : Prop where
  blockedContext : task.blockedContext.isSome = true ↔ task.state = .blocked
  completedAt : task.completedAt.isSome = true ↔ isTerminal task.state = true
  integrationRun : (∃ run, task.integrationRun = some run ∧ run.status = .running) ↔
    task.state = .integrating
  publishRun : (∃ run, task.publishRun = some run ∧ run.status = .running) ↔ task.state = .publishing
  pendingApprovalToken : task.pendingApprovalToken.isSome = true ↔
    task.state = .publishPendingApproval

/-- Which metadata there is. -/
structure MetadataFlags where
  blocked : Bool
  completed : Bool
  integrating : Bool
  publishing : Bool
  pendingApproval : Bool
  deriving DecidableEq

def flagsOf (task : Task) : MetadataFlags where
  blocked := task.blockedContext.isSome
  completed := task.completedAt.isSome
  integrating := task.integrationRun.any fun run => run.status = .running
  publishing := task.publishRun.any fun run => run.status = .running
  pendingApproval := task.pendingApprovalToken.isSome

def flagsFor (state : TaskState) : MetadataFlags where
  blocked := state = .blocked
  completed := isTerminal state
  integrating := state = .integrating
  publishing := state = .publishing
  pendingApproval := state = .publishPendingApproval

def MetadataFlags.enter (flags : MetadataFlags) (toState : TaskState) : MetadataFlags :=
  { flags with
    blocked := toState = .blocked && flags.blocked
    completed := isTerminal toState || flags.completed }

def holdsRun (state : TaskState) : Bool :=
  state = .integrating || state = .publishing || state = .publishPendingApproval

/-- The call keeps metadata in step with the state: a recorded transition changes to a state with the
same metadata, no cancel and no denied integration meets running work, and neither a scan nor a result
blocks it. -/
def keepsMetadata (sys : System) (call : Call) : Bool :=
  match call.op with
  | .recordTransition taskId event => (sys.store.task? taskId).all fun task =>
    !(event.taskId = taskId && event.fromState = task.state &&
      canTransition task.state event.toState) ||
      flagsFor event.toState = flagsFor task.state
  | .cancel taskId => (sys.store.task? taskId).all fun task => !holdsRun task.state
  | .completeIntegrate taskId request => (sys.store.task? taskId).all fun task =>
    task.state ≠ .integrating || (integrationDenial task request).isNone
  | .scanForOrphans => sys.store.tasks.values.all fun task =>
    !holdsRun task.state || (orphanBlock call.env sys.store task).isNone
  | .applyResult _ _ | .settlePoll _ _ => (appliedResult? call sys.store).all fun r =>
    !(holdsRun r.task.state && r.blocksTask)
  | _ => true

def AllAgree (sys : System) : Prop := ∀ id task, sys.store.task? id = some task → MetadataAgrees task

theorem holdsRun_of_dispatchStage {state : TaskState} {stage : WorkerStage}
    (h : getAllowedDispatchStage state = some stage) : holdsRun state = false := by
  cases state <;> first | rfl | cases h

theorem enter_of_dispatchStage {state : TaskState} {stage : WorkerStage}
    (h : getAllowedDispatchStage state = some stage) :
    (flagsFor state).enter (stageToActiveState stage) = flagsFor (stageToActiveState stage) := by
  cases state <;> cases stage <;> first | rfl | cases h

theorem enter_of_isWorkState (s : TaskState) : ∀ t ∈ allowedTransitions s, isWorkState t = true →
    t ≠ .blocked → holdsRun s = false ∧ (flagsFor s).enter t = flagsFor t := by
  cases s <;> decide

theorem enter_blocked_iff {s : TaskState} (h : canTransition s .blocked = true) :
    { flagsFor s with blocked := true }.enter .blocked = flagsFor .blocked ↔ holdsRun s = false := by
  revert h
  cases s <;> decide

section flags

variable {task : Task} (env : Env)

theorem metadataAgrees_iff : MetadataAgrees task ↔ flagsOf task = flagsFor task.state := by
  have hrun : ∀ {α : Type} (run : Option α) (p : α → Prop) [DecidablePred p],
      (∃ a, run = some a ∧ p a) ↔ (run.any fun a => p a) = true := by
    simp [Option.any_eq_true]
  have hflags : flagsOf task = flagsFor task.state ↔
      task.blockedContext.isSome = decide (task.state = .blocked) ∧
      task.completedAt.isSome = isTerminal task.state ∧
      (task.integrationRun.any fun run => run.status = .running) =
        decide (task.state = .integrating) ∧
      (task.publishRun.any fun run => run.status = .running) = decide (task.state = .publishing) ∧
      task.pendingApprovalToken.isSome = decide (task.state = .publishPendingApproval) :=
    Iff.of_eq (MetadataFlags.mk.injEq ..)
  rw [hflags]
  constructor
  · rintro ⟨h₁, h₂, h₃, h₄, h₅⟩
    rw [hrun] at h₃ h₄
    have hdecide : ∀ {b : Bool} {p : Prop} [Decidable p], (b = true ↔ p) → b = decide p :=
      fun h => Bool.eq_iff_iff.mpr (h.trans decide_eq_true_iff.symm)
    exact ⟨hdecide h₁, Bool.eq_iff_iff.mpr h₂, hdecide h₃, hdecide h₄, hdecide h₅⟩
  · rintro ⟨h₁, h₂, h₃, h₄, h₅⟩
    refine ⟨by simp [h₁], by simp [h₂], ?_, ?_, by simp [h₅]⟩
    · rw [hrun, h₃, decide_eq_true_eq]
    · rw [hrun, h₄, decide_eq_true_eq]

theorem flagsOf_transitioned (toState : TaskState) :
    flagsOf (transitioned env task toState) = (flagsOf task).enter toState := by
  unfold flagsOf MetadataFlags.enter transitioned
  cases toState <;> rfl

theorem flagsOf_applyTaskUpdate (update : TaskUpdate) : flagsOf (applyTaskUpdate env task update) =
    { flagsOf task with
      blocked := update.blockedContext.isSome || task.blockedContext.isSome } := by
  unfold flagsOf
  rw [applyTaskUpdate_blockedContext]
  cases update.blockedContext <;> rfl

theorem agrees_transitioned_iff (flags : MetadataFlags) {toState : TaskState}
    (hflags : flagsOf task = flags) :
    MetadataAgrees (transitioned env task toState) ↔ flags.enter toState = flagsFor toState := by
  rw [metadataAgrees_iff, flagsOf_transitioned, hflags, transitioned_state]

theorem agrees_recorded_iff (hagrees : MetadataAgrees task) (toState : TaskState) :
    MetadataAgrees (recorded env task toState) ↔ flagsFor toState = flagsFor task.state := by
  rw [metadataAgrees_iff, show flagsOf (recorded env task toState) = flagsOf task from rfl,
    metadataAgrees_iff.mp hagrees]
  exact eq_comm

theorem agrees_cancelled_iff (hagrees : MetadataAgrees task) :
    MetadataAgrees (transitioned env task .cancelled) ↔ holdsRun task.state = false := by
  rw [agrees_transitioned_iff env _ (metadataAgrees_iff.mp hagrees)]
  cases task.state <;> decide

theorem agrees_blocked_iff (hagrees : MetadataAgrees task) (hlive : isTerminal task.state = false)
    {task' : Task} (hstate : task'.state = .blocked)
    (hflags : flagsOf task' = { flagsOf task with blocked := true }) :
    MetadataAgrees task' ↔ holdsRun task.state = false := by
  rw [metadataAgrees_iff, hflags, hstate, metadataAgrees_iff.mp hagrees]
  revert hlive
  cases task.state <;> decide

theorem flagsOf_withPolicyWarnings (warnings : List String) :
    flagsOf (withPolicyWarnings task warnings) = flagsOf task := by
  unfold withPolicyWarnings
  split_ifs <;> rfl

theorem flagsOf_integrationResults (integration : IntegrationState)
    (request : CompleteIntegrateRequest) :
    flagsOf (integrationResults env task integration request) =
      { flagsOf task with integrating := false } := by
  have hrun : ((task.integrationRun.map (finishedIntegrationRun env request.checksPassed)).any
      fun run => run.status = .running) = false := by
    cases task.integrationRun <;> cases request.checksPassed <;> rfl
  unfold flagsOf integrationResults
  rw [← hrun]

theorem flagsOf_publishedTask (request : CompletePublishRequest) :
    flagsOf (publishedTask env task request) = { flagsOf task with publishing := false } := by
  have hrun : ((task.publishRun.map (finishedPublishRun env request)).any
      fun run => run.status = .running) = false := by
    cases task.publishRun <;> rfl
  unfold flagsOf publishedTask
  rw [← hrun]

theorem agrees_timedOut {now : Timestamp} {updatedTask : Task} {reason : String}
    (htimed : timedOut now task = some (updatedTask, reason)) (hagrees : MetadataAgrees task) :
    MetadataAgrees (transitioned env updatedTask .blocked) := by
  have hflags := metadataAgrees_iff.mp hagrees
  unfold timedOut at htimed
  cases hint : integrationTimedOut now task with
  | some t =>
    rw [hint] at htimed
    obtain ⟨rfl, _⟩ : t = updatedTask ∧ "integration timeout" = reason := by simpa using htimed
    unfold integrationTimedOut at hint
    split at hint
    · cases hint
    · split_ifs at hint with hguard
      obtain rfl := Option.some.inj hint
      rw [hguard.1] at hflags
      refine (agrees_transitioned_iff env
        { flagsOf task with blocked := true, integrating := false } rfl).mpr ?_
      rw [hflags]
      decide
  | none =>
    rw [hint] at htimed
    obtain ⟨t, hpub, heq⟩ := Option.map_eq_some_iff.mp htimed
    obtain ⟨rfl, _⟩ : t = updatedTask ∧ "publish timeout" = reason := by simpa using heq
    unfold publishTimedOut at hpub
    split at hpub
    · cases hpub
    · split_ifs at hpub with hguard
      obtain rfl := Option.some.inj hpub
      rw [hguard.1] at hflags
      refine (agrees_transitioned_iff env
        { flagsOf task with blocked := true, publishing := false } rfl).mpr ?_
      rw [hflags]
      decide

end flags

section step

variable {sys sys' : System} {call : Call} {id : String} {task task' : Task}

theorem agrees_created (env : Env) (request : CreateTaskRequest) :
    MetadataAgrees (newTask env request) := by
  constructor <;> simp [newTask, isTerminal]

theorem agrees_of_moved {event : StateTransitionEvent} (hmove : Moved call id task task' event)
    (hscan : call.op ≠ .scanForOrphans) (hstored : sys.store.task? id = some task)
    (hkeeps : keepsMetadata sys call = true) (hagrees : MetadataAgrees task) :
    MetadataAgrees task' := by
  have hflags := metadataAgrees_iff.mp hagrees
  cases hmove with
  | cancelled hop hlive =>
    refine (agrees_cancelled_iff call.env hagrees).mpr ?_
    simpa [keepsMetadata, hop, hstored] using hkeeps
  | incapable request missing hop hstage =>
    refine (agrees_blocked_iff hagrees (not_isTerminal_of_dispatchStage hstage) rfl ?_).mpr
      (holdsRun_of_dispatchStage hstage)
    exact (flagsOf_transitioned ..).trans rfl
  | accepted request hop hgates =>
    rw [hgates.accepting] at hflags
    have hcandidate : flagsOf (acceptedCandidate call.env.now task request) =
        flagsFor .accepting := hflags
    rw [agrees_transitioned_iff call.env _ hcandidate]
    decide
  | integrating baseSha hop hstate =>
    refine (agrees_transitioned_iff call.env { flagsOf task with integrating := true } rfl).mpr ?_
    rw [hflags, hstate]
    decide
  | integrationEnded request moved toState reason hop hstate hended =>
    cases hended with
    | integrated integration _ _ =>
      rw [agrees_transitioned_iff call.env _ (flagsOf_integrationResults ..), hflags, hstate]
      decide
    | denied reason hdenial => simp [keepsMetadata, hop, hstored, hstate, hdenial] at hkeeps
    | failed integration _ _ =>
      refine (agrees_transitioned_iff call.env { flagsOf (integrationResults call.env task
        integration request) with blocked := true } rfl).mpr ?_
      rw [flagsOf_integrationResults, hflags, hstate]
      decide
  | publish request n moved toState input hop hstate hpublish =>
    cases hpublish with
    | denied reason =>
      refine (agrees_transitioned_iff call.env { flagsOf task with blocked := true } rfl).mpr ?_
      rw [hflags, hstate]
      decide
    | pending warnings _ _ =>
      refine (agrees_transitioned_iff call.env { flagsOf (withPolicyWarnings task
        warnings) with pendingApproval := true } rfl).mpr ?_
      rw [flagsOf_withPolicyWarnings, hflags, hstate]
      decide
    | started warnings _ _ =>
      refine (agrees_transitioned_iff call.env { flagsOf (withPolicyWarnings task
        warnings) with publishing := true } rfl).mpr ?_
      rw [flagsOf_withPolicyWarnings, hflags, hstate]
      decide
  | approved approvalToken hop hstate hvalid =>
    refine (agrees_transitioned_iff call.env
      { flagsOf task with pendingApproval := false, publishing := true } rfl).mpr ?_
    rw [hflags, hstate]
    decide
  | published request hop hstate =>
    rw [agrees_transitioned_iff call.env _ (flagsOf_publishedTask ..), hflags, hstate]
    decide
  | timedOut updatedTask reason n hop htimed => exact agrees_timedOut call.env htimed hagrees
  | orphaned resumeState reason n hop _ _ => exact absurd hop hscan

theorem agrees_of_patched (hpatch : Patched call id task task') (hagrees : MetadataAgrees task) :
    MetadataAgrees task' := by
  have hflags := metadataAgrees_iff.mp hagrees
  cases hpatch with
  | checklist request _ _ _ => exact metadataAgrees_iff.mpr hflags
  | integrationProgress progress run _ _ hrun =>
    rw [metadataAgrees_iff]
    refine Eq.trans ?_ hflags
    simp [flagsOf, integrationProgressed, hrun]
  | publishProgress progress run _ _ hrun =>
    rw [metadataAgrees_iff]
    refine Eq.trans ?_ hflags
    simp [flagsOf, publishProgressed, hrun]
  | references u _ _ =>
    rw [metadataAgrees_iff, ReferenceUpdate.applied, flagsOf_applyTaskUpdate]
    exact hflags

theorem agrees_resultTask_iff {env : Env} {r : AppliedResult}
    (hallowed : (r.answer env).allowed r.task = true) (hagrees : MetadataAgrees r.task) :
    MetadataAgrees ((r.answer env).resultTask env r.task) ↔
      (holdsRun r.task.state && r.blocksTask) = false := by
  have heffect : AnswerEffect r.store r.task r.job r.result (r.answer env) := answerEffect_delivery
  have hflags := metadataAgrees_iff.mp hagrees
  have hblocks : ((r.answer env).move.any fun move => move.1 = .blocked) = r.blocksTask :=
    heffect.blocks
  have hcontext : (r.answer env).update.blockedContext.isSome = r.blocksTask := heffect.context
  have hpatched : flagsOf ((r.answer env).patched env r.task) = { flagsFor r.task.state with
      blocked := r.blocksTask || (flagsFor r.task.state).blocked } := by
    rw [patched, flagsOf_applyTaskUpdate, hcontext, ← hflags]
    rfl
  unfold allowed at hallowed
  unfold resultTask
  cases hmove : (r.answer env).move with
  | none =>
    rw [hmove, Option.any_none] at hblocks
    rw [← hblocks, Bool.false_or] at hpatched
    exact iff_of_true (metadataAgrees_iff.mpr hpatched) (by rw [← hblocks, Bool.and_false])
  | some move =>
    obtain ⟨toState, input⟩ := move
    rw [hmove] at hallowed hblocks
    have hwork : isWorkState toState = true :=
      (resultAnswer_sound.move toState input hmove).isWorkState
    simp only [Option.any_some] at hblocks
    rw [← hblocks] at hpatched ⊢
    by_cases hblocked : toState = .blocked
    · subst hblocked
      rw [agrees_transitioned_iff env _ hpatched]
      simpa using enter_blocked_iff hallowed
    · obtain ⟨hrun, henter⟩ := enter_of_isWorkState r.task.state toState
        (by simpa [canTransition] using hallowed) hwork hblocked
      rw [agrees_transitioned_iff env _ hpatched, hrun]
      simpa [hblocked] using henter

theorem agrees_orphaned_iff {env : Env} {block : ResumeState × String}
    (hcan : canTransition task.state .blocked = true) (hagrees : MetadataAgrees task) :
    MetadataAgrees (orphanedTask env task block) ↔ holdsRun task.state = false := by
  refine agrees_blocked_iff hagrees (canTransition_blocked_iff.mp hcan) rfl ?_
  rw [orphanedTask, flagsOf_applyTaskUpdate, flagsOf_transitioned]
  rfl

theorem agrees_of_scan {env : Env} (hkeeps : keepsMetadata sys ⟨env, .scanForOrphans⟩ = true)
    (hall : AllAgree sys) : AllAgree (sys.run (scanForOrphans env)) := by
  intro id task' htask'
  have hchange := (finalState_scanForOrphans env sys.store).2 id
  dsimp only at hchange
  cases hblock : (sys.store.task? id).bind (orphanBlock env sys.store) with
  | none =>
    rw [hblock] at hchange
    exact hall id task' (hchange.1.symm.trans htask')
  | some block =>
    rw [hblock] at hchange
    obtain ⟨task, n, hstored, _, hcan, htask, _⟩ := hchange
    obtain rfl : orphanedTask env task block = task' := Option.some.inj (htask.symm.trans htask')
    rw [hstored, Option.bind_some] at hblock
    rw [agrees_orphaned_iff hcan (hall id task hstored)]
    have hmem : task ∈ sys.store.tasks.values := by
      rw [sys.store.tasks.mem_values_iff, sys.store.task?_taskId hstored]
      exact hstored
    simpa [hblock] using List.all_eq_true.mp hkeeps task hmem

theorem agrees_of_application (hop : appliesResult call.op = true)
    (hkeeps : keepsMetadata sys call = true) (hstep : controlPlane.step sys call sys')
    (hall : AllAgree sys) : AllAgree sys' := by
  have hchecked : ((appliedResult? call sys.store).all fun r =>
      !(holdsRun r.task.state && r.blocksTask)) = true := by
    unfold keepsMetadata at hkeeps
    unfold appliesResult at hop
    split at hop
    · next heq => rwa [heq] at hkeeps
    · next heq => rwa [heq] at hkeeps
    · cases hop
  have happlication := application_of_step hop hstep
  unfold Application at happlication
  intro id task' htask'
  cases happlied : appliedResult? call sys.store with
  | none =>
    rw [happlied] at happlication
    rw [task?, happlication.1] at htask'
    exact hall id task' htask'
  | some r =>
    rw [happlied] at happlication hchecked
    rw [happlication.task?] at htask'
    split_ifs at htask' with hid
    · obtain rfl := Option.some.inj htask'
      rw [agrees_resultTask_iff happlication.allowed (hall _ _ happlication.stored)]
      simpa only [Option.all_some, Bool.not_eq_true'] using hchecked
    · exact hall id task' htask'

theorem agrees_of_step (hwaiting : ∀ d ∈ sys.dispatching, Waiting d ∧ MetadataAgrees d.task)
    (hkeeps : keepsMetadata sys call = true) (hstep : controlPlane.step sys call sys')
    (hall : AllAgree sys) : AllAgree sys' := by
  by_cases hscan : call.op = .scanForOrphans
  · obtain ⟨env, op⟩ := call
    obtain rfl : op = .scanForOrphans := hscan
    rw [(step_iff.mp hstep).2]
    exact agrees_of_scan hkeeps hall
  by_cases hop : appliesResult call.op = true
  · exact agrees_of_application hop hkeeps hstep hall
  intro id task' htask'
  have heffect := taskEffect_of_step hstep id
  rw [htask'] at heffect
  generalize hstored : sys.store.task? id = stored at heffect
  generalize sys.store.log id = log, sys'.store.log id = log' at heffect
  cases heffect with
  | kept => exact hall id task' hstored
  | created request _ _ _ => exact agrees_created call.env request
  | recorded task _ event hrecord hid hfrom hcan =>
    rw [agrees_recorded_iff call.env (hall id task hstored)]
    simpa [keepsMetadata, hrecord, hstored, hid, hfrom, hcan] using hkeeps
  | moved task _ _ event hmove => exact agrees_of_moved hmove hscan hstored hkeeps (hall id task hstored)
  | patched task _ _ hpatch => exact agrees_of_patched hpatch (hall id task hstored)
  | answered task _ result job a happlied _ _ _ _ _ =>
    unfold appliedBy at happlied
    split at happlied
    · next heq => exact absurd (by rw [heq]; rfl) hop
    · next heq => exact absurd (by rw [heq]; rfl) hop
    · cases happlied
  | dispatched _ _ d backend reason _ hmem _ _ =>
    obtain ⟨hwaits, hagrees⟩ := hwaiting d hmem
    have hflags := metadataAgrees_iff.mp hagrees
    have hsnapshot : flagsOf (dispatchedTask d) = flagsFor d.task.state := hflags
    rw [agrees_transitioned_iff call.env _ hsnapshot, hwaits.nextState]
    exact enter_of_dispatchStage hwaits.stage
  | refused _ _ d error failure _ _ _ hmem _ _ =>
    obtain ⟨hwaits, hagrees⟩ := hwaiting d hmem
    refine (agrees_blocked_iff hagrees (not_isTerminal_of_dispatchStage hwaits.stage) rfl ?_).mpr
      (holdsRun_of_dispatchStage hwaits.stage)
    exact (flagsOf_transitioned ..).trans rfl

theorem stored_of_commit {s s₁ : ControlPlane} {event : StateTransitionEvent}
    (hfinal : s₁ = s.commit task' event) (hstored : s.task? id = some task)
    (hid : task'.taskId = task.taskId) : s₁.task? id = some task' := by
  rw [hfinal, commit_task?, if_pos (hid.trans (s.task?_taskId hstored)).symm]

theorem keepsMetadata_of_agrees (hstep : controlPlane.step sys call sys') (hall : AllAgree sys)
    (hall' : AllAgree sys') : keepsMetadata sys call = true := by
  have hstored' : ∀ {id task}, (sys.perform call).store.task? id = some task → MetadataAgrees task :=
    fun {id task} htask => hall' id task (by rw [(step_iff.mp hstep).2]; exact htask)
  have happlied : appliesResult call.op = true → ((appliedResult? call sys.store).all fun r =>
      !(holdsRun r.task.state && r.blocksTask)) = true := by
    intro hop
    have happlication := application_of_step hop hstep
    unfold Application at happlication
    cases hresult : appliedResult? call sys.store with
    | none => rfl
    | some r =>
      rw [hresult] at happlication
      have htask' := (happlication.task? r.task.taskId).trans (if_pos rfl)
      rw [Option.all_some, Bool.not_eq_true', ← agrees_resultTask_iff happlication.allowed
        (hall _ _ happlication.stored)]
      exact hall' _ _ htask'
  obtain ⟨env, op⟩ := call
  cases op with
  | recordTransition taskId event =>
    refine Option.all_eq_true .. |>.mpr fun task hstored => ?_
    by_cases hvalid : event.taskId = taskId ∧ event.fromState = task.state ∧
        canTransition task.state event.toState = true
    · obtain ⟨hid, hfrom, hcan⟩ := hvalid
      have hfinal := finalState_recordTransition_of_valid env hstored hid hfrom hcan
      have hrecorded := (agrees_recorded_iff env (hall taskId task hstored) event.toState).mp
        (hstored' (stored_of_commit hfinal hstored rfl))
      simp [hrecorded]
    · have hinvalid : (decide (event.taskId = taskId) && decide (event.fromState = task.state) &&
          canTransition task.state event.toState) = false := by
        simpa [Bool.and_eq_true, and_assoc] using hvalid
      simp [hinvalid]
  | cancel taskId =>
    refine Option.all_eq_true .. |>.mpr fun task hstored => ?_
    cases hlive : isTerminal task.state with
    | true => cases hstate : task.state <;> simp_all [isTerminal, holdsRun]
    | false =>
      have hfinal := finalState_cancel_of_live env hstored hlive
      rw [Bool.not_eq_true', ← agrees_cancelled_iff env (hall taskId task hstored)]
      exact hstored' (stored_of_commit hfinal hstored rfl)
  | completeIntegrate taskId request =>
    refine Option.all_eq_true .. |>.mpr fun task hstored => ?_
    by_cases hstate : task.state = .integrating
    swap
    · simp [hstate]
    cases hdenial : integrationDenial task request with
    | none => simp
    | some reason =>
      obtain ⟨input, hfinal⟩ := finalState_completeIntegrate_of_denied env hstored hstate hdenial
      have hagrees := hstored' (stored_of_commit hfinal hstored rfl)
      have hflags := metadataAgrees_iff.mp (hall taskId task hstored)
      rw [agrees_transitioned_iff env { flagsOf task with blocked := true } rfl, hflags, hstate]
        at hagrees
      exact absurd hagrees (by decide)
  | scanForOrphans =>
    refine List.all_eq_true.mpr fun task hmem => ?_
    have hstored := sys.store.tasks.mem_values_iff.mp hmem
    cases hblock : orphanBlock env sys.store task with
    | none => simp
    | some block =>
      have hchange := (finalState_scanForOrphans env sys.store).2 task.taskId
      dsimp only at hchange
      rw [show (sys.store.task? task.taskId).bind (orphanBlock env sys.store) = some block by
        rw [task?, hstored, Option.bind_some, hblock]] at hchange
      obtain ⟨task₀, n, hstored₀, _, hcan, htask', _⟩ := hchange
      obtain rfl : task₀ = task := Option.some.inj (hstored₀.symm.trans hstored)
      have hrun := (agrees_orphaned_iff hcan (hall _ _ hstored)).mp (hstored' htask')
      simp [hrun]
  | applyResult taskId result => exact happlied rfl
  | settlePoll job outcome => exact happlied rfl
  | _ => rfl

theorem waiting_agrees_of_step (hstep : controlPlane.step sys call sys') (hall : AllAgree sys)
    (hwaiting : ∀ d ∈ sys.dispatching, MetadataAgrees d.task) :
    ∀ d ∈ sys'.dispatching, MetadataAgrees d.task := by
  cases jobEffect_of_step hstep with
  | kept _ _ hdispatching _ => rwa [hdispatching]
  | begun taskId request d _ hbegun _ _ hdispatching _ =>
    intro e he
    rw [hdispatching, List.mem_append, List.mem_singleton] at he
    rcases he with he | rfl
    · exact hwaiting e he
    · exact hall taskId e.task hbegun.stored
  | ended d _ _ _ _ _ hdispatching _ =>
    rw [hdispatching]
    exact fun e he => hwaiting e (List.mem_of_mem_erase he)
  | submitted d _ _ _ _ _ hdispatching _ =>
    rw [hdispatching]
    exact fun e he => hwaiting e (List.mem_of_mem_erase he)
  | polled _ _ _ _ _ _ _ _ hdispatching _ => rwa [hdispatching]

end step

section runs

variable {h : History System Call} {sys : System}

/-- In a run, state and metadata agree in every state exactly when every call keeps them so. -/
theorem metadata_agrees_iff (hrun : controlPlane.Run h sys) : (∀ s ∈ states h sys, AllAgree s) ↔
      Machine.Steps (fun sys call => keepsMetadata sys call = true) h := by
  refine Machine.Run.forall_states_iff
    (I := fun s => AllAgree s ∧ ∀ d ∈ s.dispatching, MetadataAgrees d.task) ?_ ?_ ?_ ?_ hrun
  · rintro s ⟨_, _, _, rfl⟩
    constructor
    · intro id task htask
      cases htask
    · intro d hd
      cases hd
  · exact fun s hs => hs.1
  · intro h s call s' hbefore hs hkeeps hstep
    have hwired := wired_of_run hbefore
    exact ⟨agrees_of_step (fun d hd => ⟨hwired.waiting d hd, hs.2 d hd⟩) hkeeps hstep hs.1,
      waiting_agrees_of_step hstep hs.1 hs.2⟩
  · exact fun h s call s' _ hs hstep hall' => keepsMetadata_of_agrees hstep hs.1 hall'

def approvalScript : Script :=
  acceptingScript { sampleRequest with publishPlan := some ⟨none, none, some true, none⟩ } ++
    [line "3" (.completeAcceptance "task_0" checkAll), line "4" (.integrate "task_0" "sha"),
      line "5" (.completeIntegrate "task_0" ⟨true, some "head", none, none, none⟩)]

def approvedPublishScript : Script :=
  approvalScript ++ [line "6" (.publish "task_0" ⟨some .apply, some "key", none⟩),
    line "7" (.approvePublish "task_0" "pending-6"), line "8" (.completePublish "task_0" ⟨none, none⟩)]

def endsIn (state : TaskState) (sys : System) : Bool :=
  (sys.store.task? "task_0").any fun task => task.state = state

theorem approved_publish_agrees : ∃ h sys, controlPlane.Run h sys ∧ endsIn .published sys = true ∧
    ∀ s ∈ states h sys, AllAgree s := by
  obtain ⟨h, sys, hrun, htest⟩ := exists_run_of_play approvedPublishScript
    (fun p => endsIn .published p.2 && p.1.all fun step => keepsMetadata step.1 step.2)
    (by decide +kernel)
  rw [Bool.and_eq_true, List.all_eq_true] at htest
  exact ⟨h, sys, hrun, htest.1, (metadata_agrees_iff hrun).mpr htest.2⟩

def cancelledIntegrationScript : Script :=
  acceptingScript sampleRequest ++ [recordLine .accepting .accepted,
    line "3" (.integrate "task_0" "sha"), line "4" (.cancel "task_0")]

def keepsRunning (task : Task) : Bool :=
  task.state ≠ .integrating && task.integrationRun.any fun run => run.status = .running

/-- The run of a cancelled integration goes on. -/
theorem metadata_not_agrees : ¬∀ h sys, controlPlane.Run h sys → ∀ s ∈ states h sys, AllAgree s := by
  intro hall
  obtain ⟨h, sys, hrun, htest⟩ := exists_run_of_play cancelledIntegrationScript
    (fun p => (p.2.store.task? "task_0").any keepsRunning) (by decide +kernel)
  obtain ⟨task, htask, hrunning⟩ := Option.any_eq_true _ _ |>.mp htest
  simp only [keepsRunning, Bool.and_eq_true, decide_eq_true_eq, Option.any_eq_true] at hrunning
  obtain ⟨hstate, hrunning⟩ := hrunning
  have hlast : sys ∈ states h sys := by simp [states]
  exact hstate ((hall h sys hrun sys hlast "task_0" task htask).integrationRun.mp hrunning)

end runs

end ShipyardCp.Properties
