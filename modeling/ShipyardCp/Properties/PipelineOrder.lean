import ShipyardCp.Lib.Interleaving
import ShipyardCp.Store.Wiring

/-! How a task can leave the blocked state, and in which order a published task passed the stages. -/

namespace ShipyardCp.Properties

open Types Domain Lib Store ResultAnswer

def milestones : List (TaskState → Bool) :=
  [fun s => s = .planned || s = .reworkRequired, fun s => s = .devCompleted,
    fun s => s = .accepted, fun s => s = .integrated, fun s => s = .published]

/-- How many milestones a state stands behind. -/
def level : TaskState → Nat
  | .planned | .reworkRequired | .developing => 1
  | .devCompleted | .accepting => 2
  | .accepted | .integrating => 3
  | .integrated | .publishPendingApproval | .publishing => 4
  | .published => 5
  | _ => 0

def reached (s : TaskState) (log : List StateTransitionEvent) : Bool :=
  passes (milestones.take (level s)) (log.map (·.toState))

theorem level_of_transition (s : TaskState) : ∀ t ∈ allowedTransitions s, s ≠ .blocked →
    level t ≤ level s ∨ (level t = level s + 1 ∧ (milestones[level s]?.any fun m => m t) = true) := by
  cases s <;> decide

theorem level_of_dispatchStage {s : TaskState} {stage : WorkerStage}
    (h : getAllowedDispatchStage s = some stage) : level (stageToActiveState stage) = level s := by
  cases s <;> cases stage <;> first | rfl | cases h

theorem reached_of_level_le {s t : TaskState} {log : List StateTransitionEvent}
    (hle : level t ≤ level s) (h : reached s log = true) : reached t log = true :=
  passes_take_of_le hle h

theorem reached_append {s : TaskState} {log : List StateTransitionEvent}
    (h : reached s log = true) (events : List StateTransitionEvent) :
    reached s (log ++ events) = true := by
  rw [reached, List.map_append]
  exact passes_append h _

variable {event : StateTransitionEvent}

theorem reached_of_transition {s t : TaskState} {log : List StateTransitionEvent} (h : reached s log = true) (hcan : canTransition s t = true)
    (hne : s ≠ .blocked) (hevent : event.toState = t) : reached t (log ++ [event]) = true := by
  have hmem : t ∈ allowedTransitions s := by simpa [canTransition] using hcan
  rcases level_of_transition s t hmem hne with hle | ⟨hnext, hmilestone⟩
  · exact reached_append (reached_of_level_le hle h) _
  · obtain ⟨m, hm, hmeets⟩ := Option.any_eq_true _ _ |>.mp hmilestone
    rw [reached, hnext, List.take_add_one, hm, List.map_append]
    exact passes_snoc h (by rw [← hevent] at hmeets; exact hmeets)

/-- A transition recorded out of blocked goes to the recorded resume state or ends the task. -/
def resumesRecorded (sys : System) (call : Call) : Bool :=
  match call.op with
  | .recordTransition taskId event =>
    (sys.store.task? taskId).all fun task =>
      task.state ≠ .blocked || event.toState = .blocked || event.toState = .cancelled ||
        event.toState = .failed ||
        task.blockedContext.any fun c => c.resumeState.toTaskState = event.toState
  | _ => true

/-- What the log of a task says about the task. -/
structure InStep (task : Task) (log : List StateTransitionEvent) : Prop where
  state : reached task.state log = true
  resume : ∀ c, task.blockedContext = some c → reached c.resumeState.toTaskState log = true

section step

variable {sys sys' : System} {call : Call} {id : String}

theorem level_of_moved {task task' : Task}
    (hmove : Moved call id task task' event) {c : BlockedContext}
    (hc : task'.blockedContext = some c) :
    level c.resumeState.toTaskState = level task.state := by
  cases hmove with
  | incapable request missing _ hstage =>
    obtain rfl := Option.some.inj hc
    exact level_of_dispatchStage hstage
  | integrationEnded request moved toState reason _ hstate hended =>
    cases hended with
    | integrated _ _ _ => cases hc
    | denied _ _ =>
      obtain rfl := Option.some.inj hc
      rw [hstate]
      rfl
    | failed _ _ _ =>
      obtain rfl := Option.some.inj hc
      rw [hstate]
      rfl
  | publish request n moved toState input _ hstate hpublish =>
    cases hpublish with
    | denied reason =>
      obtain rfl := Option.some.inj hc
      rw [hstate]
      rfl
    | pending warnings _ _ => cases hc
    | started warnings _ _ => cases hc
  | timedOut updatedTask reason n _ htimed =>
    obtain ⟨_, _, context, _, rfl, hresume, _, rfl⟩ := timedOut_eq_some htimed
    obtain rfl := Option.some.inj hc
    rw [hresume]
  | orphaned resumeState reason n _ hresume _ =>
    obtain rfl := Option.some.inj hc
    rw [← hresume]
    rfl
  | _ => cases hc

theorem cancelled_of_moved {task task' : Task}
    (hmove : Moved call id task task' event) (hblocked : task.state = .blocked) :
    call.op = .cancel id ∧ task'.state = .cancelled := by
  cases hmove with
  | cancelled hop _ => exact ⟨hop, rfl⟩
  | incapable request missing _ hstage =>
    rw [hblocked] at hstage
    cases hstage
  | accepted request _ hgates =>
    have haccepting := hgates.accepting
    rw [hblocked] at haccepting
    cases haccepting
  | timedOut updatedTask reason n _ htimed =>
    obtain ⟨_, _, context, resumeState, _, hresume, _, _⟩ := timedOut_eq_some htimed
    rw [hblocked] at hresume
    cases resumeState <;> cases hresume
  | orphaned resumeState reason n _ hresume _ =>
    rw [hblocked] at hresume
    cases resumeState <;> cases hresume
  | integrating _ _ hstate | integrationEnded _ _ _ _ _ hstate _ | publish _ _ _ _ _ _ hstate _
  | approved _ _ hstate _ | published _ _ hstate =>
    rw [hblocked] at hstate
    cases hstate

theorem inStep_of_moved {task task' : Task}
    {log : List StateTransitionEvent} (hmove : Moved call id task task' event)
    (hstep : InStep task log) : InStep task' (log ++ [event]) := by
  obtain ⟨hcan, _, hto⟩ := hmove.transition
  refine ⟨?_, fun c hc => ?_⟩
  · by_cases hblocked : task.state = .blocked
    · rw [(cancelled_of_moved hmove hblocked).2]
      exact passes_nil _
    · exact reached_of_transition hstep.state hcan hblocked hto
  · exact reached_append (reached_of_level_le (level_of_moved hmove hc).le hstep.state) _

theorem blockedContext_of_patched {task task' : Task} (hpatch : Patched call id task task') :
    task'.blockedContext = task.blockedContext := by
  cases hpatch <;> rfl

section answered

variable {result : WorkerResult} {task : Task} {job : WorkerJob} {a : ResultAnswer}
  {log : List StateTransitionEvent} (env : Env)

theorem resume_of_patched (hsound : a.Sound result task job)
    (hjob : reached (stageToActiveState job.stage) log = true) (hstep : InStep task log)
    {c : BlockedContext} (hc : (a.patched env task).blockedContext = some c) :
    reached c.resumeState.toTaskState log = true := by
  have hfield : overwrite a.update.blockedContext task.blockedContext = some c := hc
  cases hupdate : a.update.blockedContext with
  | none =>
    rw [hupdate, overwrite_none] at hfield
    exact hstep.resume c hfield
  | some c' =>
    rw [hupdate, overwrite_some] at hfield
    obtain rfl := Option.some.inj hfield
    rw [hsound.update.resumeState c' hupdate]
    exact hjob

theorem reached_of_blocked {toState : TaskState} {u : TaskUpdate}
    (hmove : ResultMove job u toState) (hcan : canTransition .blocked toState = true)
    (hjob : reached (stageToActiveState job.stage) log = true) : reached toState log = true := by
  cases hmove with
  | active => exact hjob
  | planned => cases hcan
  | devCompleted => cases hcan
  | rework => cases hcan
  | blocked c _ => exact passes_nil _

theorem inStep_of_answered (hsound : a.Sound result task job) (hallowed : a.allowed task = true)
    (hjob : reached (stageToActiveState job.stage) log = true) (hstep : InStep task log) :
    InStep (a.resultTask env task) (log ++ a.events env task) := by
  have hresume := fun c => resume_of_patched env hsound hjob hstep (c := c)
  unfold resultTask events
  unfold allowed at hallowed
  split
  · exact ⟨reached_append hstep.state _, fun c hc => reached_append (hresume c hc) _⟩
  · next toState input hmove =>
    simp only [hmove] at hallowed ⊢
    constructor
    · by_cases hblocked : task.state = .blocked
      · rw [hblocked] at hallowed
        exact reached_append (reached_of_blocked (hsound.move _ _ hmove) hallowed hjob) _
      · exact reached_of_transition hstep.state hallowed hblocked rfl
    · intro c hc
      rw [transitioned_blockedContext] at hc
      split_ifs at hc
      exact reached_append (hresume c hc) _

end answered

theorem inStep_of_taskEffect {old : Option Task} {task' : Task} {log log' : List StateTransitionEvent}
    (heffect : TaskEffect sys call id old log (some task') log') (hold : sys.store.task? id = old)
    (hrecorded : resumesRecorded sys call = true) (hin : ∀ task, old = some task → InStep task log)
    (hjob : ∀ task job, old = some task → Known sys job → task.activeJobId = some job.jobId →
      reached (stageToActiveState job.stage) log = true)
    (hwaiting : ∀ d ∈ sys.dispatching, d.task.taskId = id →
      reached d.nextState.toTaskState log = true) : InStep task' log' := by
  cases heffect with
  | kept => exact hin task' rfl
  | created request _ _ _ => exact ⟨passes_nil _, nofun⟩
  | recorded task _ event hop hid hfrom hcan =>
    have hstep := hin task rfl
    refine ⟨?_, fun c hc => reached_append (hstep.resume c hc) _⟩
    by_cases hblocked : task.state = .blocked
    · simp only [resumesRecorded, hop, hold, Option.all_some, hblocked, ne_eq, not_true_eq_false,
        decide_false, Bool.false_or, Bool.or_eq_true, decide_eq_true_eq] at hrecorded
      rcases hrecorded with ((hto | hto) | hto) | hresume
      · rw [recorded_state, hto]
        exact passes_nil _
      · rw [recorded_state, hto]
        exact passes_nil _
      · rw [recorded_state, hto]
        exact passes_nil _
      · obtain ⟨c, hc, hto⟩ := Option.any_eq_true _ _ |>.mp hresume
        rw [recorded_state, ← of_decide_eq_true hto]
        exact reached_append (hstep.resume c hc) _
    · exact reached_of_transition hstep.state hcan hblocked rfl
  | moved task _ _ event hmove => exact inStep_of_moved hmove (hin task rfl)
  | patched task _ _ hpatch =>
    have hstep := hin task rfl
    refine ⟨by rw [hpatch.frame.2.2]; exact hstep.state, fun c hc => hstep.resume c ?_⟩
    rw [← blockedContext_of_patched hpatch]
    exact hc
  | answered task _ result job a _ hknown hjobId hactive hsound hallowed =>
    have hreached := hjob task job rfl hknown (by rw [hjobId]; exact hactive)
    exact inStep_of_answered call.env hsound hallowed hreached (hin task rfl)
  | dispatched _ _ d backend reason _ hmem hid _ =>
    refine ⟨reached_append (hwaiting d hmem hid) _, fun c hc => ?_⟩
    rw [transitioned_blockedContext, if_pos] at hc
    · cases hc
    · cases hnext : d.nextState <;> simp [ResumeState.toTaskState]
  | refused _ _ d error failure _ _ _ hmem hid _ =>
    refine ⟨passes_nil _, fun c hc => ?_⟩
    obtain rfl := Option.some.inj hc
    exact reached_append (hwaiting d hmem hid) _

/-- Tasks, jobs and waiting dispatches stand no farther than the logs of their tasks say. -/
structure Ordered (sys : System) : Prop where
  task : ∀ id task, sys.store.task? id = some task → InStep task (sys.store.log id)
  job : ∀ jobId job, sys.store.jobs.get? jobId = some job →
    reached (stageToActiveState job.stage) (sys.store.log job.taskId) = true
  waiting : ∀ d ∈ sys.dispatching,
    reached d.nextState.toTaskState (sys.store.log d.task.taskId) = true

theorem ordered_of_fresh (hfresh : IsFresh sys) : Ordered sys := by
  obtain ⟨_, _, _, rfl⟩ := hfresh
  constructor <;> simp [System.initial, ControlPlane.initial, ControlPlane.task?]

theorem reached_of_step (hstep : controlPlane.step sys call sys') {s : TaskState} {id : String}
    (h : reached s (sys.store.log id) = true) : reached s (sys'.store.log id) = true := by
  obtain ⟨events, hlog⟩ := (taskEffect_of_step hstep id).log_extends
  rw [← hlog]
  exact reached_append h events

theorem Ordered.known (hordered : Ordered sys) (hwired : Wired sys) {task : Task} {job : WorkerJob}
    (htask : sys.store.task? id = some task) (hknown : Known sys job)
    (hactive : task.activeJobId = some job.jobId) :
    reached (stageToActiveState job.stage) (sys.store.log id) = true := by
  obtain ⟨stored, hstored, hjobTask, _⟩ := hwired.active id task job.jobId htask hactive
  have hreached := hordered.job job.jobId stored hstored
  rw [hjobTask] at hreached
  obtain ⟨job₀, hwhere, hjob⟩ := hknown
  have hstage : job.stage = job₀.stage := by rw [hjob]
  rcases hwhere with hsame | ⟨hmem, hid⟩
  · rw [hsame] at hstored
    rw [hstage, Option.some.inj hstored]
    exact hreached
  · obtain ⟨_, status, hpolled⟩ := hwired.polled job₀ hmem
    rw [hid, hstored] at hpolled
    have hsame : stored.stage = job₀.stage := by rw [Option.some.inj hpolled]
    rw [hstage, ← hsame]
    exact hreached

theorem Ordered.begun (hordered : Ordered sys) {env : Env} {taskId : String}
    {request : DispatchRequest} {d : PendingDispatch}
    (hbegun : Begun env sys.store taskId request d) :
    reached (stageToActiveState request.targetStage) (sys.store.log taskId) = true :=
  reached_of_level_le (level_of_dispatchStage hbegun.stage).le
    (hordered.task taskId d.task hbegun.stored).state

theorem Ordered.step (hordered : Ordered sys) (hwired : Wired sys)
    (hrecorded : resumesRecorded sys call = true) (hstep : controlPlane.step sys call sys') :
    Ordered sys' := by
  have hjobs := jobEffect_of_step hstep
  refine ⟨fun id task' htask' => ?_, fun jobId job hjob => ?_, fun d hd => ?_⟩
  · have heffect := taskEffect_of_step hstep id
    rw [htask'] at heffect
    refine inStep_of_taskEffect heffect rfl hrecorded (hordered.task id) ?_ ?_
    · exact fun task job htask hknown hactive => hordered.known hwired htask hknown hactive
    · intro d hmem hid
      rw [← hid]
      exact hordered.waiting d hmem
  · rcases hjobs.stored hwired hjob with ⟨old, hold, htask, hstage⟩ | ⟨taskId, request, d, hbegun, rfl⟩
    · rw [htask, hstage]
      exact reached_of_step hstep (hordered.job jobId old hold)
    · rw [hbegun.jobTask, sys.store.task?_taskId hbegun.stored, hbegun.jobStage]
      exact reached_of_step hstep (hordered.begun hbegun)
  · rcases hjobs.waiting hwired hd with ⟨hold, _⟩ | ⟨taskId, request, hbegun, _, _⟩
    · exact reached_of_step hstep (hordered.waiting d hold)
    · rw [sys.store.task?_taskId hbegun.stored, hbegun.nextState]
      exact reached_of_step hstep (hordered.begun hbegun)

/-- The ways out of blocked: an end by the operator, a transition the operator records, the result of
the active job, and a dispatch that was begun before. -/
inductive Leaving (sys : System) (call : Call) (id : String) (task : Task) : TaskState → Prop
  | cancelled : call.op = .cancel id → Leaving sys call id task .cancelled
  | recorded (event : StateTransitionEvent) : call.op = .recordTransition id event →
      Leaving sys call id task event.toState
  | answered (result : WorkerResult) (job : WorkerJob) :
      appliedBy call sys.store = some (id, result) → Known sys job → job.jobId = result.jobId →
      task.activeJobId = some result.jobId →
      Leaving sys call id task (stageToActiveState job.stage)
  | dispatched (d : PendingDispatch) (backend : Option ExecutionBackend) (reason : Option String) :
      call.op = .settleDispatch d (.success backend reason) → d ∈ sys.dispatching →
      d.task.taskId = id → Leaving sys call id task d.nextState.toTaskState

def LeavesBlocked (sys : System) (call : Call) (sys' : System) : Prop :=
  ∀ id task task', sys.store.task? id = some task → sys'.store.task? id = some task' →
    task.state = .blocked → task'.state ≠ .blocked →
    Leaving sys call id task task'.state ∧ canTransition .blocked task'.state = true

theorem leaving_of_answered {result : WorkerResult} {task : Task} {job : WorkerJob}
    {a : ResultAnswer} (env : Env) (hsound : a.Sound result task job)
    (hallowed : a.allowed task = true) (hblocked : task.state = .blocked)
    (hne : (a.resultTask env task).state ≠ .blocked) :
    (a.resultTask env task).state = stageToActiveState job.stage := by
  unfold resultTask at hne ⊢
  unfold allowed at hallowed
  split at hne
  · exact absurd hblocked hne
  · next toState input hmove =>
    simp only [hmove, hblocked] at hallowed ⊢
    cases hsound.move _ _ hmove with
    | active => rfl
    | planned | devCompleted | rework => cases hallowed
    | blocked c _ => exact absurd rfl hne

theorem leaving_of_taskEffect {task task' : Task} {log log' : List StateTransitionEvent}
    (heffect : TaskEffect sys call id (some task) log (some task') log')
    (hblocked : task.state = .blocked) (hne : task'.state ≠ .blocked) :
    Leaving sys call id task task'.state ∧ canTransition .blocked task'.state = true := by
  cases heffect with
  | kept => exact absurd hblocked hne
  | recorded _ _ event hop _ _ hcan => exact ⟨.recorded event hop, by rw [← hblocked]; exact hcan⟩
  | moved _ _ _ event hmove =>
    obtain ⟨hop, hcancelled⟩ := cancelled_of_moved hmove hblocked
    rw [hcancelled]
    exact ⟨.cancelled hop, rfl⟩
  | patched _ _ _ hpatch =>
    rw [hpatch.frame.2.2] at hne
    exact absurd hblocked hne
  | answered _ _ result job a happlied hknown hjobId hactive hsound hallowed =>
    have hactiveState := leaving_of_answered call.env hsound hallowed hblocked hne
    rw [hactiveState]
    refine ⟨.answered result job happlied hknown hjobId hactive, ?_⟩
    cases job.stage <;> rfl
  | dispatched _ _ d backend reason hop hmem hid _ =>
    refine ⟨.dispatched d backend reason hop hmem hid, ?_⟩
    rw [transitioned_state]
    cases d.nextState <;> rfl
  | refused _ _ d error failure _ _ _ _ _ _ => exact absurd rfl hne

theorem leavesBlocked_of_step (hstep : controlPlane.step sys call sys') :
    LeavesBlocked sys call sys' := by
  intro id task task' htask htask' hblocked hne
  have heffect := taskEffect_of_step hstep id
  rw [htask, htask'] at heffect
  exact leaving_of_taskEffect heffect hblocked hne

end step

variable {h : History System Call} {sys : System}

theorem ordered_of_run (hrun : controlPlane.Run h sys)
    (hrecorded : Machine.Steps (fun sys call => resumesRecorded sys call = true) h) :
    Ordered sys := by
  refine hrun.invariant (I := fun _ sys => Ordered sys)
    (fun _ hfresh => ordered_of_fresh hfresh) ?_ hrecorded
  intro h sys call sys' hbefore _ hordered hnow hstep
  exact hordered.step (wired_of_run hbefore) hnow hstep

/-- The log passed planned or rework, then completed development, acceptance and integration, and
last the publish. -/
def PassedPipeline (log : List StateTransitionEvent) : Prop :=
  ∃ states, states.Sublist (log.map (·.toState)) ∧
    (states = [.planned, .devCompleted, .accepted, .integrated, .published] ∨
      states = [.reworkRequired, .devCompleted, .accepted, .integrated, .published])

theorem passedPipeline_of_reached {log : List StateTransitionEvent}
    (h : reached .published log = true) : PassedPipeline log := by
  obtain ⟨states, hsub, hall⟩ := passes_iff.mp h
  refine ⟨states, hsub, ?_⟩
  simp only [milestones, level, List.take, List.forall₂_cons_left_iff, List.forall₂_nil_left_iff,
    decide_eq_true_eq, Bool.or_eq_true] at hall
  obtain ⟨_, _, hplanned, ⟨_, _, rfl, ⟨_, _, rfl, ⟨_, _, rfl, ⟨_, _, rfl, rfl, rfl⟩, rfl⟩, rfl⟩, rfl⟩,
    rfl⟩ := hall
  rcases hplanned with rfl | rfl
  · exact Or.inl rfl
  · exact Or.inr rfl

/-- In every run a task leaves blocked only in these ways; and where recorded transitions resume as
recorded, every published task passed the pipeline in order. -/
theorem pipeline_order (hrun : controlPlane.Run h sys) :
    controlPlane.EveryStep (fun _ => LeavesBlocked) h ∧
      (Machine.Steps (fun sys call => resumesRecorded sys call = true) h →
        ∀ id task, sys.store.task? id = some task → task.state = .published →
          PassedPipeline (sys.store.log id)) := by
  refine ⟨fun _ _ _ _ _ _ hstep => leavesBlocked_of_step hstep, ?_⟩
  intro hrecorded id task htask hpublished
  have hreached := ((ordered_of_run hrun hrecorded).task id task htask).state
  rw [hpublished] at hreached
  exact passedPipeline_of_reached hreached

/-- A task from its creation to its publish, every stage in its turn. -/
def publishedScript : Script := acceptingScript sampleRequest ++
    [line "3" (.completeAcceptance "task_0" checkAll), line "4" (.integrate "task_0" "sha"),
      line "5" (.completeIntegrate "task_0" ⟨true, some "head", none, none, none⟩),
      line "6" (.publish "task_0" ⟨some .dryRun, some "key", none⟩),
      line "7" (.completePublish "task_0" ⟨none, none⟩)]

def isPublished (sys : System) : Bool :=
  (sys.store.task? "task_0").any fun task => task.state = .published

theorem published_passed_pipeline :
    ∃ h sys, controlPlane.Run h sys ∧ controlPlane.EveryStep (fun _ => LeavesBlocked) h ∧
      isPublished sys = true ∧ PassedPipeline (sys.store.log "task_0") := by
  obtain ⟨h, sys, hrun, htest⟩ := exists_run_of_play publishedScript
    (fun p => isPublished p.2 && p.1.all fun step => resumesRecorded step.1 step.2)
    (by decide +kernel)
  simp only [Bool.and_eq_true, List.all_eq_true] at htest
  obtain ⟨task, htask, hpublished⟩ := Option.any_eq_true _ _ |>.mp htest.1
  have horder := pipeline_order hrun
  exact ⟨h, sys, hrun, horder.1, htest.1,
    horder.2 htest.2 "task_0" task htask (of_decide_eq_true hpublished)⟩

/-- A task leaves blocked only to its recorded resume state, cancelled or failed. -/
def ResumesAsRecorded (sys sys' : System) : Prop :=
  ∀ id task task', sys.store.task? id = some task → sys'.store.task? id = some task' →
    task.state = .blocked → task'.state ≠ .blocked →
    (∃ c, task.blockedContext = some c ∧ task'.state = c.resumeState.toTaskState) ∨
      task'.state = .cancelled ∨ task'.state = .failed

def EnteredStages (log : List StateTransitionEvent) : Prop :=
  [TaskState.planned, .devCompleted, .accepted, .integrated].Sublist (log.map (·.toState))

instance (log : List StateTransitionEvent) : Decidable (EnteredStages log) :=
  inferInstanceAs (Decidable (List.Sublist _ _))

def resumedScript : Script := [line "0" (.createTask sampleRequest), recordLine .queued .blocked,
    recordLine .blocked .publishing]

def isBlockedWithoutContext (sys : System) : Bool :=
  (sys.store.task? "task_0").any fun task => task.state = .blocked && task.blockedContext.isNone

def isPublishing (sys : System) : Bool :=
  (sys.store.task? "task_0").any fun task => task.state = .publishing

/-- Recorded transitions leave blocked for another state than the recorded one, and skip the stages
in between. -/
theorem pipeline_skipped : (¬∀ h sys, controlPlane.Run h sys →
      controlPlane.EveryStep (fun _ sys _ sys' => ResumesAsRecorded sys sys') h) ∧
    ¬∀ h sys, controlPlane.Run h sys → ∀ id task, sys.store.task? id = some task →
      task.state = .published → EnteredStages (sys.store.log id) := by
  constructor
  · intro hall
    obtain ⟨h, sys, hrun, htest⟩ := exists_run_of_play resumedScript (fun p => isPublishing p.2 &&
        p.1.getLast?.any fun step => isBlockedWithoutContext step.1) (by decide +kernel)
    rw [Bool.and_eq_true] at htest
    obtain ⟨htask', hlast⟩ := htest
    obtain ⟨⟨before, call⟩, hlast, hbefore⟩ := Option.any_eq_true _ _ |>.mp hlast
    obtain ⟨h₁, rfl⟩ := List.getLast?_eq_some_iff.mp hlast
    obtain ⟨_, _, hstep, hpath⟩ := hrun.split
    cases hpath
    obtain ⟨task, htask, hblocked⟩ := Option.any_eq_true _ _ |>.mp hbefore
    obtain ⟨task', htask', hpublishing⟩ := Option.any_eq_true _ _ |>.mp htask'
    simp only [Bool.and_eq_true, decide_eq_true_eq, Option.isNone_iff_eq_none] at hblocked
    rw [decide_eq_true_eq] at hpublishing
    have hresumes := hall _ sys hrun h₁ before call [] sys rfl hstep "task_0" task task' htask htask'
      hblocked.1 (by simp [hpublishing])
    rw [hblocked.2, hpublishing] at hresumes
    simp at hresumes
  · intro hall
    obtain ⟨h, sys, hrun, htest⟩ := exists_run_of_play
      (resumedScript ++ [line "1" (.completePublish "task_0" ⟨none, none⟩)])
      (fun p => isPublished p.2 && !decide (EnteredStages (p.2.store.log "task_0")))
      (by decide +kernel)
    simp only [Bool.and_eq_true, Bool.not_eq_true', decide_eq_false_iff_not] at htest
    obtain ⟨task, htask, hpublished⟩ := Option.any_eq_true _ _ |>.mp htest.1
    exact htest.2 (hall h sys hrun "task_0" task htask (of_decide_eq_true hpublished))

end ShipyardCp.Properties
