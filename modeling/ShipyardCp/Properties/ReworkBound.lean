import ShipyardCp.Properties.RetryBound

/-! How often a task is sent to rework. Only one of the exits into rework looks at the attempts made
so far, and only at those of its own stage. -/

namespace ShipyardCp.Properties

open Types Domain Lib Store ResultAnswer

def entersRework (event : StateTransitionEvent) : Bool := event.toState = .reworkRequired

def reworks (s : ControlPlane) (taskId : String) : Nat := (s.log taskId).countP entersRework

/-- The failure ends its attempts: it is left to the failure handling, which finds no other worker and
no retry for it. -/
def endsAttempts (r : AppliedResult) : Bool :=
  (validateResult r.result r.task r.job).valid && r.result.status = .failed && !r.resumesStage

/-- No task is sent to rework more often than is allowed, and a failure that ends its attempts after
that blocks its task. -/
def ReworkLimited (sys : System) (call : Call) (sys' : System) : Prop :=
  (∀ taskId, reworks sys'.store taskId ≤ maxReworkAttempts) ∧
  ∀ r, appliedResult? call sys.store = some r → endsAttempts r = true →
    reworks sys.store r.task.taskId = maxReworkAttempts →
    ∃ task', sys'.store.task? r.task.taskId = some task' ∧ task'.state = .blocked

/-- Results go to rework by the guarded exit alone, for the stage of the attempts made before: those
that fail validation are repaired or stopped at a gate, no acceptance is rejected, and a failure is one
of the stage that failed before. -/
structure GuardedRework (r : AppliedResult) : Prop where
  validated : (validateResult r.result r.task r.job).valid = false →
    retriesValidation r.store r.task r.job (validateResult r.result r.task r.job).errors = true ∨
      needsManualGate r.job (validateResult r.result r.task r.job).errors = true
  accepted : r.result.status = .succeeded → r.job.stage = .acceptance → isRejection r.result = false
  sameStage : endsAttempts r = true →
    ∀ context, r.task.reworkContext = some context → context.stage = r.job.stage

/-- No operator sends a task to rework, results are guarded, and a dispatch that waited writes back the
attempts that are stored. -/
structure ReworkGuarded (sys : System) (call : Call) : Prop where
  operator : ∀ taskId event, call.op = .recordTransition taskId event →
    event.toState ≠ .reworkRequired
  result : ∀ r, appliedResult? call sys.store = some r → GuardedRework r
  writeBack : ∀ d submission, call.op = .settleDispatch d submission →
    ∀ task, sys.store.task? d.task.taskId = some task → task.reworkContext = d.task.reworkContext

def reworkAttempts (task : Task) : Nat :=
  match task.reworkContext with
  | some context => context.attempt
  | none => 0

section answers

variable {env : Env} {s : ControlPlane} {task : Task} {job : WorkerJob} {result : WorkerResult}

theorem computeTaskUpdates_reworkContext :
    (computeTaskUpdatesFromResult env result job).reworkContext = none := by
  cases hfield : (computeTaskUpdatesFromResult env result job).reworkContext with
  | none => rfl
  | some context =>
    obtain ⟨u, hu, hset⟩ := mem_of_mergeTaskUpdates (·.reworkContext) rfl (fun _ _ => rfl) hfield
    simp only [resultUpdates, List.mem_append] at hu
    rcases hu with (((((((((hu | hu) | hu) | hu) | hu) | hu) | hu) | hu) | hu) | hu) | hu
    all_goals
      split at hu
      all_goals simp_all

/-- What an answer does about rework: it stays away from it and keeps the attempts, or it ends the
attempts at a stage and records one more of them. -/
inductive ReworkEffect (task : Task) (job : WorkerJob) (result : WorkerResult) (a : ResultAnswer) :
    Prop
  | away : (∀ input, a.move ≠ some (.reworkRequired, input)) → a.update.reworkContext = none →
      ReworkEffect task job result a
  | sent (input : TransitionInput) (context : ReworkContext) :
      (validateResult result task job).valid = true → result.status = .failed →
      a.move = some (.reworkRequired, input) → a.update.reworkContext = some context →
      context.attempt = previousReworkAttempt task job + 1 →
      previousReworkAttempt task job < maxReworkAttempts → ReworkEffect task job result a

theorem merged_reworkContext {u v : TaskUpdate} (hu : u.reworkContext = none) :
    (mergeTaskUpdates [u, v]).reworkContext = v.reworkContext := by
  cases hv : v.reworkContext <;> simp [mergeTaskUpdates, mergeTaskUpdate, hu, hv]

theorem stageToActiveState_ne_reworkRequired (stage : WorkerStage) :
    stageToActiveState stage ≠ .reworkRequired := by
  cases stage <;> decide

theorem reworkEffect_validation {errors : List ValidationError}
    (hguarded : retriesValidation s task job errors = true ∨ needsManualGate job errors = true) :
    ReworkEffect task job result (validationAnswer s task job result errors) := by
  unfold validationAnswer
  dsimp only
  by_cases hretries : retriesValidation s task job errors = true
  · rw [if_pos hretries]
    exact .away (fun _ => by simp [stageToActiveState_ne_reworkRequired]) rfl
  · rw [if_neg hretries, if_pos (hguarded.resolve_left hretries)]
    exact .away (fun _ => by simp) rfl

theorem reworkEffect_failed {taskUpdates : TaskUpdate} (hupdates : taskUpdates.reworkContext = none)
    (hvalid : (validateResult result task job).valid = true) (hstatus : result.status = .failed) :
    ReworkEffect task job result (failedAnswer env s task job result taskUpdates) := by
  unfold failedAnswer
  cases s.doomLoopDetector.detectLoop job.jobId with
  | some loopType =>
    exact .away (fun _ => by simp [doomLoopAnswer]) (merged_reworkContext hupdates)
  | none =>
    cases getFailoverWorker job.stage job.workerType with
    | some nextWorker =>
      exact .away (fun _ => by simp [failoverAnswer, stageToActiveState_ne_reworkRequired])
        (merged_reworkContext hupdates)
    | none =>
      dsimp only
      split_ifs
      · exact .away (fun _ => by simp [retryAnswer, stageToActiveState_ne_reworkRequired])
          (merged_reworkContext hupdates)
      · unfold finalFailureAnswer
        dsimp only
        split_ifs with hattempt
        · exact .away (fun _ => by simp) (merged_reworkContext hupdates)
        · exact .sent _ _ hvalid hstatus rfl (merged_reworkContext hupdates) rfl
            (Nat.lt_of_not_le hattempt)

theorem reworkEffect_succeeded {taskUpdates : TaskUpdate}
    (hupdates : taskUpdates.reworkContext = none)
    (haccepted : job.stage = .acceptance → isRejection result = false) :
    ReworkEffect task job result (succeededAnswer task job result taskUpdates) := by
  unfold succeededAnswer
  cases hstage : job.stage with
  | plan => exact .away (fun _ => by simp [completedAnswer]) hupdates
  | dev => exact .away (fun _ => by simp [completedAnswer]) hupdates
  | acceptance =>
    dsimp only
    rw [if_neg (by simp [haccepted hstage])]
    refine .away (fun _ => by simp [evidenceAnswer]) ?_
    unfold evidenceAnswer
    split_ifs <;> simp [mergeTaskUpdates, mergeTaskUpdate, hupdates]

theorem reworkEffect_result (hvalidated : (validateResult result task job).valid = false →
      retriesValidation s task job (validateResult result task job).errors = true ∨
        needsManualGate job (validateResult result task job).errors = true)
    (haccepted : result.status = .succeeded → job.stage = .acceptance → isRejection result = false) :
    ReworkEffect task job result (resultAnswer env s result task job) := by
  unfold resultAnswer
  dsimp only
  cases hvalid : (validateResult result task job).valid with
  | false =>
    simp only [Bool.not_false, if_true]
    exact reworkEffect_validation (hvalidated hvalid)
  | true =>
    simp only [Bool.not_true, Bool.false_eq_true, if_false]
    cases hstatus : result.status with
    | blocked =>
      exact .away (fun _ => by simp [blockedAnswer])
        (merged_reworkContext computeTaskUpdates_reworkContext)
    | failed => exact reworkEffect_failed computeTaskUpdates_reworkContext hvalid hstatus
    | succeeded =>
      exact reworkEffect_succeeded computeTaskUpdates_reworkContext (haccepted hstatus)

theorem resultTask_reworkContext (a : ResultAnswer) :
    (a.resultTask env task).reworkContext = overwrite a.update.reworkContext task.reworkContext := by
  unfold resultTask
  split <;> rfl

variable {r : AppliedResult}

theorem endsAttempts_of_sent {input : TransitionInput}
    (hvalid : (validateResult r.result r.task r.job).valid = true)
    (hstatus : r.result.status = .failed)
    (hmove : (r.answer env).move = some (.reworkRequired, input)) : endsAttempts r = true := by
  have hmoves : AnswerMove r.store r.task r.job r.result (r.answer env) := answerMove_delivery
  have hends : r.resumesStage = false := by
    cases hmoves with
    | keeps _ hresumes _ _ => exact hresumes
    | resumes _ _ _ hmove' _ =>
      rw [hmove] at hmove'
      cases hstage : r.job.stage <;> rw [hstage] at hmove' <;> cases hmove'
    | ends _ _ _ hresumes _ _ _ _ => exact hresumes
  simp [endsAttempts, hvalid, hstatus, hends]

theorem previousReworkAttempt_eq (hguarded : GuardedRework r) (hends : endsAttempts r = true) :
    previousReworkAttempt r.task r.job = reworkAttempts r.task := by
  unfold previousReworkAttempt reworkAttempts
  cases hcontext : r.task.reworkContext with
  | none => rfl
  | some context =>
    dsimp only
    rw [if_pos (hguarded.sameStage hends context hcontext)]

theorem reworkAttempts_answered (hguarded : GuardedRework r) :
    reworkAttempts ((r.answer env).resultTask env r.task) =
        reworkAttempts r.task + ((r.answer env).events env r.task).countP entersRework ∧
      (reworkAttempts r.task ≤ maxReworkAttempts →
        reworkAttempts ((r.answer env).resultTask env r.task) ≤ maxReworkAttempts) := by
  have heffect : ReworkEffect r.task r.job r.result (r.answer env) :=
    reworkEffect_result hguarded.validated hguarded.accepted
  have hcontext : ((r.answer env).resultTask env r.task).reworkContext =
      overwrite (r.answer env).update.reworkContext r.task.reworkContext :=
    resultTask_reworkContext (r.answer env)
  cases heffect with
  | away haway hkept =>
    have hsame : reworkAttempts ((r.answer env).resultTask env r.task) = reworkAttempts r.task := by
      rw [reworkAttempts, hcontext, hkept, overwrite_none, reworkAttempts]
    have hnone : ((r.answer env).events env r.task).countP entersRework = 0 := by
      unfold events
      split
      · rfl
      · next toState input hmove =>
        have hne : toState ≠ .reworkRequired := by
          rintro rfl
          exact haway input hmove
        simp [entersRework, hne]
    rw [hsame, hnone]
    exact ⟨rfl, id⟩
  | sent input context hvalid hstatus hmove hset hattempt hless =>
    have hprevious := previousReworkAttempt_eq hguarded (endsAttempts_of_sent hvalid hstatus hmove)
    have hnext : reworkAttempts ((r.answer env).resultTask env r.task) =
        reworkAttempts r.task + 1 := by
      rw [reworkAttempts, hcontext, hset, overwrite_some]
      exact hattempt.trans (congrArg (· + 1) hprevious)
    have hone : ((r.answer env).events env r.task).countP entersRework = 1 := by
      rw [events, hmove]
      rfl
    rw [hnext, hone]
    refine ⟨rfl, fun _ => ?_⟩
    omega

theorem blocked_of_exhausted (hguarded : GuardedRework r)
    (hends : endsAttempts r = true) (hattempts : reworkAttempts r.task = maxReworkAttempts) :
    ((r.answer env).resultTask env r.task).state = .blocked := by
  have hprevious := previousReworkAttempt_eq hguarded hends
  simp only [endsAttempts, Bool.and_eq_true, decide_eq_true_eq, Bool.not_eq_true',
    AppliedResult.resumesStage] at hends
  obtain ⟨⟨hvalid, hstatus⟩, hresumes⟩ := hends
  have hblocks : blocksTask r.store r.task r.job r.result = true := by
    cases hloop : r.store.doomLoopDetector.detectLoop r.job.jobId with
    | some loopType => simp [blocksTask, keepsState, hvalid, hstatus, hloop]
    | none =>
      simp only [resumesStage, hvalid, hstatus, hloop, Bool.not_true, Bool.false_eq_true, if_false,
        decide_true, Option.isNone_none, Bool.and_self, Bool.true_and, Bool.or_eq_false_iff] at hresumes
      simp [blocksTask, keepsState, hvalid, hstatus, hresumes.2, hprevious, hattempts,
        Option.not_isSome_iff_eq_none.mp (Bool.eq_false_iff.mp hresumes.1)]
  have heffect : AnswerEffect r.store r.task r.job r.result (r.answer env) := answerEffect_delivery
  have hmove := heffect.blocks.trans hblocks
  obtain ⟨⟨toState, input⟩, hmove, hblocked⟩ := (Option.any_eq_true _ _).mp hmove
  rw [resultTask, hmove]
  exact of_decide_eq_true hblocked

end answers

section step

variable {sys sys' : System} {call : Call}

theorem Moved.rework {id : String} {task task' : Task} {event : StateTransitionEvent}
    (h : Moved call id task task' event) :
    task'.reworkContext = task.reworkContext ∧ entersRework event = false := by
  cases h with
  | integrationEnded request moved toState reason _ _ hmove => cases hmove <;> exact ⟨rfl, rfl⟩
  | publish request n moved toState input _ _ hmove =>
    have hwarned : ∀ warnings, (withPolicyWarnings task warnings).reworkContext =
        task.reworkContext := fun warnings => by
      unfold withPolicyWarnings
      split_ifs <;> rfl
    cases hmove with
    | denied reason => exact ⟨rfl, rfl⟩
    | pending warnings _ _ => exact ⟨hwarned warnings, rfl⟩
    | started warnings _ _ => exact ⟨hwarned warnings, rfl⟩
  | timedOut updatedTask reason n _ htimed =>
    obtain ⟨_, _, _, _, _, _, _, rfl⟩ := timedOut_eq_some htimed
    exact ⟨rfl, rfl⟩
  | _ => exact ⟨rfl, rfl⟩

def storedAttempts (s : ControlPlane) (taskId : String) : Nat :=
  ((s.task? taskId).map reworkAttempts).getD 0

theorem rework_kept (hwired : Wired sys) (hguarded : ReworkGuarded sys call)
    (hop : appliesResult call.op = false) (hstep : controlPlane.step sys call sys') (id : String) :
    storedAttempts sys'.store id = storedAttempts sys.store id ∧
      reworks sys'.store id = reworks sys.store id := by
  have heffect := taskEffect_of_step hstep id
  unfold storedAttempts reworks
  generalize hold : sys.store.task? id = old at heffect ⊢
  generalize sys.store.log id = log at heffect ⊢
  generalize sys'.store.task? id = new at heffect ⊢
  generalize sys'.store.log id = log' at heffect ⊢
  have hsnapshot : ∀ d submission, call.op = .settleDispatch d submission → d ∈ sys.dispatching →
      d.task.taskId = id → (old.map reworkAttempts).getD 0 = reworkAttempts d.task := by
    rintro d submission hsettle hmem rfl
    obtain ⟨task, htask, _⟩ := hwired.waitingTask d hmem
    have hsame := hguarded.writeBack d submission hsettle task htask
    obtain rfl := hold.symm.trans htask
    rw [Option.map_some, Option.getD_some, reworkAttempts, hsame, reworkAttempts]
  cases heffect with
  | kept => exact ⟨rfl, rfl⟩
  | created request _ _ _ => exact ⟨rfl, by simp [entersRework, createdEvent]⟩
  | recorded task _ event hrecord _ _ _ =>
    refine ⟨rfl, ?_⟩
    have hne := hguarded.operator id event hrecord
    simp [entersRework, hne]
  | moved task task' _ event hmove =>
    obtain ⟨hcontext, hevent⟩ := Moved.rework hmove
    refine ⟨?_, by simp [hevent]⟩
    simp [reworkAttempts, hcontext]
  | patched task task' _ hpatch =>
    refine ⟨?_, rfl⟩
    cases hpatch <;> rfl
  | answered _ _ result job a happlied _ _ _ _ _ =>
    exfalso
    obtain ⟨env, op⟩ := call
    cases op with
    | applyResult _ _ | settlePoll _ _ => cases hop
    | _ => cases happlied
  | dispatched _ _ d backend reason hsettle hmem hid _ =>
    rw [hsnapshot d _ hsettle hmem hid]
    refine ⟨rfl, ?_⟩
    cases hnext : d.nextState <;> simp [entersRework, ResumeState.toTaskState]
  | refused _ _ d error failure hsettle _ _ hmem hid _ =>
    rw [hsnapshot d _ hsettle hmem hid]
    exact ⟨rfl, by simp [entersRework]⟩

def ReworkCounted (s : ControlPlane) : Prop := ∀ taskId, storedAttempts s taskId = reworks s taskId ∧
    storedAttempts s taskId ≤ maxReworkAttempts

theorem reworkCounted_of_fresh (h : IsFresh sys) : ReworkCounted sys.store := by
  obtain ⟨_, _, _, rfl⟩ := h
  exact fun taskId => ⟨rfl, Nat.zero_le _⟩

theorem ReworkCounted.step (hcounted : ReworkCounted sys.store) (hwired : Wired sys)
    (hguarded : ReworkGuarded sys call) (hstep : controlPlane.step sys call sys') :
    ReworkCounted sys'.store := by
  intro id
  obtain ⟨hequal, hbounded⟩ := hcounted id
  cases hop : appliesResult call.op with
  | false =>
    obtain ⟨hattempts, hreworks⟩ := rework_kept hwired hguarded hop hstep id
    exact ⟨hattempts.trans (hequal.trans hreworks.symm), hattempts ▸ hbounded⟩
  | true =>
    have happlication := application_of_step hop hstep
    have hlog := log_of_application hop hstep id
    unfold Application at happlication
    cases happlied : appliedResult? call sys.store with
    | none =>
      rw [happlied] at happlication hlog
      have htask : sys'.store.task? id = sys.store.task? id := by
        rw [ControlPlane.task?, happlication.1, ControlPlane.task?]
      unfold storedAttempts reworks at *
      rw [htask, hlog]
      exact ⟨hequal, hbounded⟩
    | some r =>
      rw [happlied] at happlication hlog
      have htask := happlication.task? id
      dsimp only at hlog
      obtain ⟨hmore, hlimit⟩ :
          reworkAttempts ((r.answer call.env).resultTask call.env r.task) = reworkAttempts r.task +
              ((r.answer call.env).events call.env r.task).countP entersRework ∧
            (reworkAttempts r.task ≤ maxReworkAttempts →
              reworkAttempts ((r.answer call.env).resultTask call.env r.task) ≤ maxReworkAttempts) :=
        reworkAttempts_answered (hguarded.result r happlied)
      by_cases hid : id = r.task.taskId
      · rw [if_pos hid] at htask hlog
        have hbefore : storedAttempts sys.store id = reworkAttempts r.task := by
          rw [storedAttempts, hid, happlication.stored]
          rfl
        have hafter : storedAttempts sys'.store id =
            reworkAttempts ((r.answer call.env).resultTask call.env r.task) := by
          rw [storedAttempts, htask]
          rfl
        have hmoves : reworks sys'.store id = reworks sys.store id +
            ((r.answer call.env).events call.env r.task).countP entersRework := by
          rw [reworks, hlog, List.countP_append, reworks]
        rw [hbefore] at hequal hbounded
        rw [hafter, hmoves, ← hequal]
        exact ⟨hmore, hlimit hbounded⟩
      · rw [if_neg hid] at htask hlog
        unfold storedAttempts reworks at *
        rw [htask, hlog]
        exact ⟨hequal, hbounded⟩

theorem reworkLimited_of_step (hcounted : ReworkCounted sys.store) (hwired : Wired sys)
    (hguarded : ReworkGuarded sys call) (hstep : controlPlane.step sys call sys') :
    ReworkLimited sys call sys' := by
  refine ⟨fun taskId => ?_, fun r happlied hends hmax => ?_⟩
  · obtain ⟨hequal, hbounded⟩ := hcounted.step hwired hguarded hstep taskId
    exact hequal ▸ hbounded
  · have hop : appliesResult call.op = true := by
      by_contra hop
      obtain ⟨_, _, _, hhanded, _⟩ := appliedResult?_delivery happlied
      rw [handedOver?_eq_none (by simpa using hop)] at hhanded
      cases hhanded
    have happlication := application_of_step hop hstep
    rw [Application, happlied] at happlication
    have hattempts : reworkAttempts r.task = maxReworkAttempts := by
      have hequal := (hcounted r.task.taskId).1
      rw [storedAttempts, happlication.stored, hmax] at hequal
      exact hequal
    refine ⟨_, (happlication.task? r.task.taskId).trans (if_pos rfl), ?_⟩
    exact blocked_of_exhausted (hguarded.result r happlied) hends hattempts

end step

theorem reworkCounted_of_run {h : History System Call} {sys : System}
    (hrun : controlPlane.Run h sys) (hguarded : Machine.Steps ReworkGuarded h) :
    ReworkCounted sys.store := by
  refine Machine.Run.invariant (I := fun _ sys => ReworkCounted sys.store)
    (fun _ hfresh => reworkCounted_of_fresh hfresh) ?_ hrun hguarded
  exact fun _ _ _ _ hrun _ hcounted hguarded hstep =>
    hcounted.step (wired_of_run hrun) hguarded hstep

/-- In every run whose steps are guarded, rework is limited at every step. -/
theorem rework_limited {h : History System Call} {sys : System} (hrun : controlPlane.Run h sys)
    (hguarded : Machine.Steps ReworkGuarded h) :
    controlPlane.EveryStep (fun _ => ReworkLimited) h := by
  refine Machine.Run.everyStep ?_ hrun hguarded
  exact fun _ _ _ _ hrun hbefore hguarded hstep => reworkLimited_of_step
    (reworkCounted_of_run hrun hbefore) (wired_of_run hrun) hguarded hstep

section samples

/-- Checks that a step is guarded. -/
def guardsRework (sys : System) (call : Call) : Bool := (match call.op with
  | .recordTransition _ event => event.toState ≠ .reworkRequired
  | .settleDispatch d _ =>
    (sys.store.task? d.task.taskId).all fun task => task.reworkContext = d.task.reworkContext
  | _ => true) &&
  (appliedResult? call sys.store).all fun r =>
    (validateResult r.result r.task r.job).valid && !isRejection r.result &&
      r.task.reworkContext.all fun context => context.stage = r.job.stage

theorem reworkGuarded_of_check {sys : System} {call : Call} (h : guardsRework sys call = true) :
    ReworkGuarded sys call := by
  rw [guardsRework, Bool.and_eq_true, Option.all_eq_true] at h
  obtain ⟨hop, hresult⟩ := h
  refine ⟨fun taskId event hrecord => ?_, fun r happlied => ?_, fun d submission hsettle task htask =>
    ?_⟩
  · rw [hrecord] at hop
    exact of_decide_eq_true hop
  · have hchecks := hresult r happlied
    simp only [Bool.and_eq_true, Bool.not_eq_true', Option.all_eq_true, decide_eq_true_eq] at hchecks
    obtain ⟨⟨hvalid, hrejected⟩, hstage⟩ := hchecks
    refine ⟨fun hinvalid => ?_, fun _ _ => hrejected, fun _ => hstage⟩
    rw [hvalid] at hinvalid
    cases hinvalid
  · simp only [hsettle, htask, Option.all_some, decide_eq_true_eq] at hop
    exact hop

def hopelessResult (jobId : String) : WorkerResult :=
  { sampleResult jobId .failed with failureClass := some .nonRetryableLogic }

/-- A task whose development fails for good three times. -/
def hopelessScript : Script := [line "0" (.createTask sampleRequest)] ++
    stageScript "0" .plan (sampleResult "job_0" .succeeded) ++
    stageScript "1" .dev (hopelessResult "job_1") ++
    stageScript "2" .dev (hopelessResult "job_2") ++
    stageScript "3" .dev (hopelessResult "job_3")

/-- Its third failure blocks it. -/
theorem hopeless_task_limited : ∃ h sys, controlPlane.Run h sys ∧
    reworks sys.store "task_0" = maxReworkAttempts ∧
    ((sys.store.task? "task_0").any fun task => task.state = .blocked) = true ∧
    controlPlane.EveryStep (fun _ => ReworkLimited) h := by
  obtain ⟨h, sys, hrun, htest⟩ := exists_run_of_play hopelessScript
    (fun p => (reworks p.2.store "task_0" = maxReworkAttempts &&
      (p.2.store.task? "task_0").any fun task => task.state = .blocked) &&
      p.1.all fun q => guardsRework q.1 q.2) (by decide +kernel)
  rw [Bool.and_eq_true, Bool.and_eq_true, List.all_eq_true] at htest
  obtain ⟨⟨hreworks, hblocked⟩, hguards⟩ := htest
  exact ⟨h, sys, hrun, of_decide_eq_true hreworks, hblocked,
    rework_limited hrun fun p hp => reworkGuarded_of_check (hguards p hp)⟩

def isAutomatic : Op → Bool
  | .createTask _ | .beginDispatch _ _ | .settleDispatch _ _ | .applyResult _ _ => true
  | _ => false

def rejectedResult : WorkerResult := acceptanceResult "job_2" .rework

def rejectingCall : Call := ⟨sampleEnv "3", .applyResult "task_0" rejectedResult⟩

/-- The acceptance of the task is running or was rejected. -/
structure Rejecting (sys : System) (task : Task) (job : WorkerJob) : Prop where
  delivery : Delivery sys.store "task_0" rejectedResult task job
  stage : job.stage = .acceptance
  refs : task.resolverRefs = none
  state : task.state = .accepting ∨ task.state = .reworkRequired

theorem rejectedResult_valid {task : Task} {job : WorkerJob} (hstage : job.stage = .acceptance)
    (hrefs : task.resolverRefs = none) : (validateResult rejectedResult task job).valid = true := by
  have hquiet : isOverrideText "done" = false := by decide +kernel
  have hauthority : detectAuthorityConflict rejectedResult task = none := by
    simp [detectAuthorityConflict, rejectedResult, acceptanceResult, sampleResult, hquiet, hrefs]
  have hschema : schemaErrors rejectedResult = [] := by decide +kernel
  have hsemantic : semanticErrors rejectedResult job.stage task.riskLevel = [] := by
    rw [hstage]
    cases task.riskLevel <;> decide
  simp [validateResult, hauthority, hschema, hsemantic]

theorem rejectedResult_updates {env : Env} {job : WorkerJob} (hstage : job.stage = .acceptance) :
    (computeTaskUpdatesFromResult env rejectedResult job).resolverRefs = none ∧
      (computeTaskUpdatesFromResult env rejectedResult job).mergeResolverRefs = none ∧
      (computeTaskUpdatesFromResult env rejectedResult job).activeJobId = none := by
  simp [computeTaskUpdatesFromResult, resultUpdates, rejectedResult, acceptanceResult, sampleResult,
    hstage, mergeTaskUpdates, mergeTaskUpdate, applyResolverRefs]

def rejectedAnswer (env : Env) (job : WorkerJob) : ResultAnswer :=
  completedAnswer job rejectedResult .reworkRequired "acceptance rejected by worker" .dispatchDev
    (computeTaskUpdatesFromResult env rejectedResult job)

theorem rejectedAnswer_eq {env : Env} {s : ControlPlane} {task : Task} {job : WorkerJob}
    (hstage : job.stage = .acceptance) (hrefs : task.resolverRefs = none) :
    deliveryAnswer env s rejectedResult task job = rejectedAnswer env job := by
  unfold deliveryAnswer resultAnswer
  dsimp only
  rw [rejectedResult_valid hstage hrefs]
  change succeededAnswer task job rejectedResult _ = _
  rw [succeededAnswer, hstage]
  rfl

theorem Rejecting.again {sys : System} {task : Task} {job : WorkerJob} (h : Rejecting sys task job) :
    ∃ sys' task', controlPlane.step sys rejectingCall sys' ∧ Rejecting sys' task' job ∧
      reworks sys'.store "task_0" = reworks sys.store "task_0" + 1 := by
  have hanswer : deliveryAnswer (sampleEnv "3") sys.store rejectedResult task job =
      rejectedAnswer (sampleEnv "3") job := rejectedAnswer_eq h.stage h.refs
  have hallowed : (deliveryAnswer (sampleEnv "3") sys.store rejectedResult task job).allowed task =
      true := by
    rw [hanswer]
    change canTransition task.state .reworkRequired = true
    rcases h.state with hstate | hstate <;> rw [hstate] <;> rfl
  have hid : task.taskId = "task_0" := sys.store.task?_taskId h.delivery.stored
  have hfinal : (sys.perform rejectingCall).store =
      afterDelivery (sampleEnv "3") sys.store rejectedResult task job :=
    applyResult_delivered h.delivery
  have htask := afterDelivery_task? "task_0" hallowed
  have hlog := afterDelivery_log "task_0" hallowed
  rw [if_pos hid.symm, hanswer] at htask hlog
  obtain ⟨hrefs, hmerged, hactive⟩ :
      (computeTaskUpdatesFromResult (sampleEnv "3") rejectedResult job).resolverRefs = none ∧
        (computeTaskUpdatesFromResult (sampleEnv "3") rejectedResult job).mergeResolverRefs = none ∧
        (computeTaskUpdatesFromResult (sampleEnv "3") rejectedResult job).activeJobId = none :=
    rejectedResult_updates h.stage
  have hsame : ((rejectedAnswer (sampleEnv "3") job).resultTask (sampleEnv "3") task).activeJobId =
      task.activeJobId := by
    change overwrite _ task.activeJobId = _
    rw [rejectedAnswer, completedAnswer, hactive, overwrite_none]
  refine ⟨sys.perform rejectingCall, (rejectedAnswer (sampleEnv "3") job).resultTask (sampleEnv "3") task,
    step_iff.mpr ⟨rfl, rfl⟩, ⟨?_, h.stage, ?_, Or.inr rfl⟩, ?_⟩
  · rw [hfinal]
    exact ⟨htask, hsame.trans h.delivery.active, h.delivery.named, h.delivery.typedRef, by
      rw [afterDelivery_jobs]
      exact h.delivery.job⟩
  · change applyResolverRefs (applyResolverRefs task.resolverRefs _) _ = none
    rw [rejectedAnswer, completedAnswer, hrefs, hmerged, h.refs]
    rfl
  · rw [reworks, hfinal, hlog, List.countP_append]
    rfl

theorem exists_reworks (n : Nat) : ∃ h sys task job, controlPlane.Run h sys ∧
    (∀ p ∈ h, isAutomatic p.2.op = true) ∧ Rejecting sys task job ∧
    n ≤ reworks sys.store "task_0" := by
  induction n with
  | zero =>
    obtain ⟨h, sys, hrun, htest⟩ := exists_run_of_play acceptingJobScript
      (fun p => (p.1.all fun q => isAutomatic q.2.op) &&
        (delivery? p.2.store "task_0" rejectedResult).any fun q =>
          q.2.stage = .acceptance && q.1.resolverRefs = none && q.1.state = .accepting)
      (by decide +kernel)
    rw [Bool.and_eq_true, List.all_eq_true] at htest
    obtain ⟨hautomatic, htest⟩ := htest
    obtain ⟨⟨task, job⟩, hdelivery, hchecks⟩ := (Option.any_eq_true _ _).mp htest
    simp only [Bool.and_eq_true, decide_eq_true_eq] at hchecks
    obtain ⟨⟨hstage, hrefs⟩, hstate⟩ := hchecks
    exact ⟨h, sys, task, job, hrun, hautomatic,
      ⟨delivery?_eq_some_iff.mp hdelivery, hstage, hrefs, Or.inl hstate⟩, Nat.zero_le _⟩
  | succ n ih =>
    obtain ⟨h, sys, task, job, hrun, hautomatic, hrejecting, hreworks⟩ := ih
    obtain ⟨sys', task', hstep, hrejecting', hmore⟩ := hrejecting.again
    refine ⟨_, sys', task', job, hrun.snoc hstep, fun p hp => ?_, hrejecting', by omega⟩
    rcases List.mem_append.mp hp with hp | hp
    · exact hautomatic p hp
    · rw [List.mem_singleton.mp hp]
      rfl

/-- No number bounds how often a task is sent to rework in the runs without an operator. -/
theorem rework_unbounded :
    ¬∃ bound, ∀ h sys, controlPlane.Run h sys → (∀ p ∈ h, isAutomatic p.2.op = true) →
      ∀ taskId, reworks sys.store taskId ≤ bound := by
  rintro ⟨bound, hbound⟩
  obtain ⟨h, sys, task, job, hrun, hautomatic, _, hreworks⟩ := exists_reworks (bound + 1)
  exact absurd (hbound h sys hrun hautomatic "task_0") (by omega)

end samples

end ShipyardCp.Properties
