import ShipyardCp.Properties.ReworkBound

/-! How often a job can be dispatched again for a task. The loop detector of the control plane sees
one transition of each job, and finds no loop in it. -/

namespace ShipyardCp.Properties

open Types Domain Lib Store

/-- The job that a call dispatches. -/
def dispatchedJob? (sys : System) (call : Call) : Option WorkerJob :=
  match call.op with
  | .beginDispatch taskId request =>
    (returned? (beginDispatch call.env taskId request) sys.store).map (·.job)
  | _ => none

def dispatchedJobs (h : History System Call) (stage : WorkerStage) : List WorkerJob :=
  (h.filterMap fun p => dispatchedJob? p.1 p.2).filter fun job => job.stage = stage

def repeatsJob (host : FingerprintHost) (taskId fingerprint : String) (job : WorkerJob) : Bool :=
  job.taskId = taskId && host.generateFingerprint job = fingerprint

def selectedWorker (request : DispatchRequest) : WorkerType :=
  request.workerSelection.getD (getDefaultWorker request.targetStage)

def requestedFingerprint (host : FingerprintHost) (task : Task) (request : DispatchRequest) :
    String :=
  host.generateFingerprintFromComponents request.targetStage (selectedWorker request)
    (buildPrompt task request.targetStage) task.repoRef task.typedRef none

/-- As many of the last jobs dispatched for the stage repeat the job that is asked for as are
allowed. -/
def ThresholdReached (host : FingerprintHost) (h : History System Call) (task : Task)
    (request : DispatchRequest) : Prop :=
  loopBlockThreshold ≤ ((dispatchedJobs h request.targetStage).rtake (loopWindowSize - 1)).countP
    (repeatsJob host task.taskId (requestedFingerprint host task request))

def AsksFor (sys : System) (call : Call) (task : Task) (request : DispatchRequest) : Prop :=
  call.op = .beginDispatch task.taskId request ∧ sys.store.task? task.taskId = some task ∧
    getAllowedDispatchStage task.state = some request.targetStage

/-- No window of the dispatches of a stage has more jobs of one fingerprint for a task than are
allowed. -/
def RepeatsBounded (host : FingerprintHost) (h : History System Call) : Prop :=
  ∀ stage taskId fingerprint window, window <:+: dispatchedJobs h stage →
    window.length ≤ loopWindowSize →
    window.countP (repeatsJob host taskId fingerprint) ≤ loopBlockThreshold

/-- When the threshold is reached the dispatch is refused, and the task is blocked with the stage to
resume. -/
def RefusesLoop (host : FingerprintHost) (h : History System Call) (sys : System) (call : Call)
    (sys' : System) : Prop :=
  ∀ task request, AsksFor sys call task request → ThresholdReached host h task request →
    dispatchedJob? sys call = none ∧
      ∃ task' context, sys'.store.task? task.taskId = some task' ∧ task'.state = .blocked ∧
        task'.blockedContext = some context ∧
        context.resumeState = stageToActiveResumeState request.targetStage

/-- Loops are stopped. -/
structure DoomLoopsStopped (host : FingerprintHost) (h : History System Call) : Prop where
  bounded : RepeatsBounded host h
  refused : controlPlane.EveryStep (RefusesLoop host) h

/-- A call asks for no job for which the threshold is reached, unless from a worker that lacks the
capabilities for it. -/
def BreaksLoops (host : FingerprintHost) (h : History System Call) (sys : System) (call : Call) :
    Prop :=
  ∀ task request, AsksFor sys call task request → ThresholdReached host h task request →
    (checkWorkerCapabilities (selectedWorker request) request.targetStage).passed = false

section windows

variable {α : Type*} {l : List α} {a : α} {p : α → Bool} {size bound : Nat}

theorem countP_window_snoc
    (h : ∀ window, window <:+: l → window.length ≤ size → window.countP p ≤ bound)
    (hlast : p a = true → (l.rtake (size - 1)).countP p < bound) {window : List α}
    (hwindow : window <:+: l ++ [a]) (hsize : window.length ≤ size) : window.countP p ≤ bound := by
  rcases List.infix_concat_iff.mp hwindow with hsuffix | hinfix
  · rcases List.suffix_concat_iff.mp hsuffix with rfl | ⟨t, rfl, ht⟩
    · exact Nat.zero_le _
    · rw [List.length_append, List.length_singleton] at hsize
      rw [List.countP_append, List.countP_singleton]
      split_ifs with hp
      · have hrecent : t <:+ l.rtake (size - 1) := by
          refine List.suffix_of_suffix_length_le ht (List.drop_suffix _ _) ?_
          have hlength := ht.length_le
          rw [List.rtake, List.length_drop]
          omega
        have hcount := hrecent.countP_le (p := p)
        have hbound := hlast hp
        omega
      · exact h t ht.isInfix (by omega)
  · exact h window hinfix hsize

end windows

section dispatches

variable {env : Env} {s : ControlPlane} {task : Task} {request : DispatchRequest}

theorem wp_beginDispatch_of_allowed
    {Q : EStateM.Result StoreError ControlPlane PendingDispatch → Prop}
    (hstored : s.task? task.taskId = some task)
    (hallowed : getAllowedDispatchStage task.state = some request.targetStage)
    (hrefused : (checkWorkerCapabilities (selectedWorker request) request.targetStage).passed = true →
      ∀ e, Q (.error e s))
    (hincapable : (checkWorkerCapabilities (selectedWorker request) request.targetStage).passed =
      false → ∀ e missing event, Q (.error e (s.commit
        (transitioned env (incapableTask task request.targetStage missing) .blocked) event)))
    (hbegun : (checkWorkerCapabilities (selectedWorker request) request.targetStage).passed = true →
      ∀ d lease s', d.job = buildJob env s task request (selectedWorker request) lease →
        Q (.ok d s')) :
    wp (beginDispatch env task.taskId request) Q s := by
  have hcan : ∀ missing, canTransition
      (incapableTask task request.targetStage missing).state .blocked = true :=
    fun missing => canTransition_blocked_iff.mpr (not_isTerminal_of_dispatchStage hallowed)
  simp only [beginDispatch, wp_bind, wp_requireTask, hstored, andThen_ok, hallowed, wp_ite]
  rw [if_neg (by simp)]
  split_ifs with hpassed
  · rw [Bool.not_eq_true'] at hpassed
    simp only [wp_transitionTask, hcan, if_true, andThen_ok, wp_throw]
    exact hincapable hpassed _ _ _
  · rw [Bool.not_eq_true', Bool.not_eq_false] at hpassed
    simp only [wp_get, andThen_ok]
    split
    · exact hrefused hpassed _
    · exact hrefused hpassed _
    · split
      · exact hrefused hpassed _
      · simp only [wp_bind, wp_modify, andThen_ok, wp_pure]
        exact hbegun hpassed _ _ _ rfl

variable {sys sys' : System} {call : Call} {job : WorkerJob} {host : FingerprintHost}
  {h : History System Call}

theorem dispatchedJob?_eq_some (hjob : dispatchedJob? sys call = some job) :
    ∃ task request lease, AsksFor sys call task request ∧
      (checkWorkerCapabilities (selectedWorker request) request.targetStage).passed = true ∧
      job = buildJob call.env sys.store task request (selectedWorker request) lease := by
  obtain ⟨env, op⟩ := call
  cases op with
  | beginDispatch taskId request =>
    obtain ⟨d, hreturned, rfl⟩ := Option.map_eq_some_iff.mp hjob
    have hbegun : Begun env sys.store taskId request d :=
      of_wp_returnsWith (R := fun d _ => Begun env sys.store taskId request d)
        (wp_beginDispatch (fun _ => trivial) (fun _ _ _ _ _ _ => trivial)
          fun _ _ _ _ _ hbegun _ => hbegun) hreturned
    obtain rfl : d.task.taskId = taskId := sys.store.task?_taskId hbegun.stored
    have hbuilt : (checkWorkerCapabilities (selectedWorker request) request.targetStage).passed =
        true ∧ ∃ lease, d.job = buildJob env sys.store d.task request (selectedWorker request) lease :=
      of_wp_returnsWith (R := fun d' _ =>
          (checkWorkerCapabilities (selectedWorker request) request.targetStage).passed = true ∧
            ∃ lease, d'.job = buildJob env sys.store d.task request (selectedWorker request) lease)
        (wp_beginDispatch_of_allowed hbegun.stored hbegun.stage (fun _ _ => trivial)
          (fun _ _ _ _ => trivial) fun hpassed _ lease _ hbuilt => ⟨hpassed, lease, hbuilt⟩)
        hreturned
    obtain ⟨hpassed, lease, hjob⟩ := hbuilt
    exact ⟨d.task, request, lease, ⟨rfl, hbegun.stored, hbegun.stage⟩, hpassed, hjob⟩
  | _ => cases hjob

theorem repeatsJob_buildJob {lease : Lease} {taskId fingerprint : String} {workerType : WorkerType}
    (hworker : workerType = selectedWorker request) :
    repeatsJob host taskId fingerprint (buildJob env s task request workerType lease) =
      (task.taskId = taskId && requestedFingerprint host task request = fingerprint : Bool) := by
  subst hworker
  unfold repeatsJob
  rw [FingerprintHost.generateFingerprint_eq]
  rfl

theorem dispatchedJobs_snoc (stage : WorkerStage) :
    dispatchedJobs (h ++ [(sys, call)]) stage = dispatchedJobs h stage ++
      (dispatchedJob? sys call).toList.filter fun job => job.stage = stage := by
  unfold dispatchedJobs
  rw [List.filterMap_append, List.filter_append]
  cases hjob : dispatchedJob? sys call <;> simp [hjob]

theorem RepeatsBounded.snoc (hbounded : RepeatsBounded host h)
    (hbreaks : BreaksLoops host h sys call) : RepeatsBounded host (h ++ [(sys, call)]) := by
  intro stage taskId fingerprint window hwindow hsize
  rw [dispatchedJobs_snoc] at hwindow
  cases hjob : dispatchedJob? sys call with
  | none =>
    rw [hjob] at hwindow
    simp only [Option.toList_none, List.filter_nil, List.append_nil] at hwindow
    exact hbounded stage taskId fingerprint window hwindow hsize
  | some job =>
    rw [hjob] at hwindow
    by_cases hstage : job.stage = stage
    · simp only [Option.toList_some, List.filter_cons, hstage, decide_true, if_true,
        List.filter_nil] at hwindow
      refine countP_window_snoc (hbounded stage taskId fingerprint) ?_ hwindow hsize
      intro hrepeats
      obtain ⟨task, request, lease, hasks, hpassed, rfl⟩ := dispatchedJob?_eq_some hjob
      rw [repeatsJob_buildJob rfl, Bool.and_eq_true, decide_eq_true_eq, decide_eq_true_eq] at hrepeats
      obtain ⟨rfl, rfl⟩ := hrepeats
      obtain rfl : request.targetStage = stage := hstage
      by_contra hreached
      have hlacks := hbreaks task request hasks (Nat.le_of_not_lt hreached)
      exact absurd (hlacks.symm.trans hpassed) Bool.false_ne_true
    · simp only [Option.toList_some, List.filter_cons, hstage, decide_false, Bool.false_eq_true,
        if_false, List.filter_nil, List.append_nil] at hwindow
      exact hbounded stage taskId fingerprint window hwindow hsize

theorem refusesLoop_iff (hstep : controlPlane.step sys call sys') :
    RefusesLoop host h sys call sys' ↔ BreaksLoops host h sys call := by
  obtain ⟨_, rfl⟩ := step_iff.mp hstep
  obtain ⟨env, op⟩ := call
  constructor
  · intro hrefuses task request hasks hreached
    obtain ⟨hnone, task', context, htask', hblocked, _, _⟩ := hrefuses task request hasks hreached
    obtain ⟨hop, hstored, hallowed⟩ := hasks
    obtain rfl : op = .beginDispatch task.taskId request := hop
    rw [Bool.eq_false_iff]
    intro hpassed
    have hends : wp (beginDispatch env task.taskId request)
        (fun r => (∃ e, r = .error e sys.store) ∨ ∃ d s', r = .ok d s') sys.store := by
      refine wp_beginDispatch_of_allowed hstored hallowed (fun _ e => Or.inl ⟨e, rfl⟩) ?_
        fun _ d _ s' _ => Or.inr ⟨d, s', rfl⟩
      intro hlacks
      exact absurd (hlacks.symm.trans hpassed) Bool.false_ne_true
    rcases hends with ⟨e, hrun⟩ | ⟨d, s', hrun⟩
    · have hstore : (sys.beginDispatch env task.taskId request).store = sys.store := by
        rw [System.beginDispatch_store, finalState, hrun]
      have htask : some task = some task' := by
        rw [← hstored, ← htask']
        exact congrArg (fun store => store.task? task.taskId) hstore.symm
      obtain rfl := Option.some.inj htask
      rw [hblocked] at hallowed
      cases hallowed
    · simp [dispatchedJob?, returned?, hrun] at hnone
  · intro hbreaks task request hasks hreached
    have hlacks := hbreaks task request hasks hreached
    obtain ⟨hop, hstored, hallowed⟩ := hasks
    obtain rfl : op = .beginDispatch task.taskId request := hop
    have hends : wp (beginDispatch env task.taskId request)
        (fun r => ∃ e missing event, r = .error e (sys.store.commit
          (transitioned env (incapableTask task request.targetStage missing) .blocked) event))
        sys.store := by
      refine wp_beginDispatch_of_allowed hstored hallowed ?_
        (fun _ e missing event => ⟨e, missing, event, rfl⟩) ?_
      · intro hpassed
        exact absurd (hlacks.symm.trans hpassed) Bool.false_ne_true
      · intro hpassed
        exact absurd (hlacks.symm.trans hpassed) Bool.false_ne_true
    obtain ⟨e, missing, event, hrun⟩ := hends
    have hstore : (sys.beginDispatch env task.taskId request).store = sys.store.commit
        (transitioned env (incapableTask task request.targetStage missing) .blocked) event := by
      rw [System.beginDispatch_store, finalState, hrun]
    have hblocked : (sys.beginDispatch env task.taskId request).store.task? task.taskId =
        some (transitioned env (incapableTask task request.targetStage missing) .blocked) := by
      rw [hstore, ControlPlane.commit_task?]
      exact if_pos rfl
    exact ⟨by simp [dispatchedJob?, returned?, hrun], _, _, hblocked, rfl, rfl, rfl⟩

end dispatches

/-- Loops are stopped exactly in the runs in which nothing asks for a job when as many as are allowed
of those last dispatched for its stage are for the same task with the same fingerprint, unless from a
worker that lacks the capabilities. -/
theorem doom_loops_stopped_iff {host : FingerprintHost} {h : History System Call} {sys : System}
    (hrun : controlPlane.Run h sys) :
    DoomLoopsStopped host h ↔ Machine.Guarded (BreaksLoops host) h := by
  constructor
  · intro hstopped h₁ s call h₂ hsplit
    obtain ⟨s', _, hstep, _⟩ := (hsplit ▸ hrun).split
    exact (refusesLoop_iff hstep).mp (hstopped.refused h₁ s call h₂ s' hsplit hstep)
  · intro hguarded
    refine ⟨?_, fun h₁ s call h₂ s' hsplit hstep =>
      (refusesLoop_iff hstep).mpr (hguarded h₁ s call h₂ hsplit)⟩
    refine hrun.guardedInvariant (I := fun h _ => RepeatsBounded host h) ?_ ?_ hguarded
    · intro s _ stage taskId fingerprint window hwindow _
      rw [List.infix_nil.mp hwindow]
      exact Nat.zero_le _
    · exact fun h s call s' _ _ hbounded hbreaks _ => hbounded.snoc hbreaks

section samples

def reworkedRound (dev acceptance : String) : Script :=
  stageScript dev .dev (devResult ("job_" ++ dev)) ++
    stageScript acceptance .acceptance (acceptanceResult ("job_" ++ acceptance) .rework)

def onlyPlannedScript : Script := [line "0" (.createTask sampleRequest)] ++
    stageScript "0" .plan (sampleResult "job_0" .succeeded)

/-- Checks that a call asks for no job while the threshold is reached. -/
def breaksLoops (host : FingerprintHost) (h : History System Call) (sys : System) (call : Call) :
    Bool :=
  match call.op with
  | .beginDispatch taskId request => (sys.store.task? taskId).all fun task =>
      ((dispatchedJobs h request.targetStage).rtake (loopWindowSize - 1)).countP
        (repeatsJob host task.taskId (requestedFingerprint host task request)) < loopBlockThreshold
  | _ => true

theorem breaksLoops_of_check {host : FingerprintHost} {h : History System Call} {sys : System}
    {call : Call} (hcheck : breaksLoops host h sys call = true) : BreaksLoops host h sys call := by
  rintro task request ⟨hop, hstored, _⟩ hreached
  rw [breaksLoops, hop] at hcheck
  simp only [hstored, Option.all_some, decide_eq_true_eq] at hcheck
  exact absurd hreached (Nat.not_le_of_lt hcheck)

/-- A task that goes to rework once has its development dispatched twice. -/
theorem reworked_once_stopped : ∃ h sys, controlPlane.Run h sys ∧
    (dispatchedJobs h .dev).length = 2 ∧ DoomLoopsStopped ⟨id, id⟩ h := by
  obtain ⟨h, sys, hrun, htest⟩ := exists_run_of_play
    (onlyPlannedScript ++ reworkedRound "1" "2" ++ [dispatchLine "3" .dev])
    (fun p => decide ((dispatchedJobs p.1 .dev).length = 2) &&
      Machine.guardedAfter (breaksLoops ⟨id, id⟩) [] p.1) (by decide +kernel)
  rw [Bool.and_eq_true, decide_eq_true_eq] at htest
  have hguarded : Machine.Guarded (BreaksLoops ⟨id, id⟩) h := fun h₁ s call h₂ hsplit =>
    breaksLoops_of_check (Machine.guarded_of_check htest.2 h₁ s call h₂ hsplit)
  exact ⟨h, sys, hrun, htest.1, (doom_loops_stopped_iff hrun).mpr hguarded⟩

def loopingScript : Script :=
  onlyPlannedScript ++ reworkedRound "1" "2" ++ reworkedRound "3" "4" ++ reworkedRound "5" "6" ++
    reworkedRound "7" "8" ++ [dispatchLine "9" .dev]

/-- Whatever the digests, five developments with one fingerprint are dispatched in a row. -/
theorem fifth_development_dispatched :
    ¬∃ host, ∀ h sys, controlPlane.Run h sys → (∀ p ∈ h, isAutomatic p.2.op = true) →
      DoomLoopsStopped host h := by
  rintro ⟨host, hall⟩
  obtain ⟨h, sys, hrun, htest⟩ := exists_run_of_play loopingScript
    (fun p => (p.1.all fun q => isAutomatic q.2.op) &&
      decide ((dispatchedJobs p.1 .dev).length = 5) &&
      (dispatchedJobs p.1 .dev).all fun job => job.taskId = "task_0" && job.stage = .dev &&
        job.workerType = .codex && job.inputPrompt = "DEV task: title

Objective: objective" &&
        job.repoRef = ⟨"owner", "name", "main", none⟩ && job.typedRef = "memx:task:local:1")
    (by decide +kernel)
  rw [Bool.and_eq_true, Bool.and_eq_true, List.all_eq_true, List.all_eq_true, decide_eq_true_eq]
    at htest
  obtain ⟨⟨hautomatic, hfive⟩, hsame⟩ := htest
  let fingerprint := host.generateFingerprintFromComponents .dev .codex
    "DEV task: title

Objective: objective" ⟨"owner", "name", "main", none⟩ "memx:task:local:1" none
  have hrepeats : ∀ job ∈ dispatchedJobs h .dev, repeatsJob host "task_0" fingerprint job = true := by
    intro job hjob
    have hparts := hsame job hjob
    simp only [Bool.and_eq_true, decide_eq_true_eq] at hparts
    obtain ⟨⟨⟨⟨⟨htask, hstage⟩, hworker⟩, hprompt⟩, hrepo⟩, htyped⟩ := hparts
    rw [repeatsJob, FingerprintHost.generateFingerprint_eq, hstage, hworker, hprompt, hrepo, htyped,
      htask]
    simp [fingerprint]
  have hbounded := (hall h sys hrun hautomatic).bounded .dev "task_0" fingerprint
    (dispatchedJobs h .dev) List.infix_rfl (by rw [hfive]; decide)
  rw [List.countP_eq_length.mpr hrepeats, hfive] at hbounded
  exact absurd hbounded (by decide)

end samples

end ShipyardCp.Properties
