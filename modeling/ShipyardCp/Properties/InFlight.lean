import ShipyardCp.Store.Wiring

/-! Whether a task has at most one job in flight. The stage check and the active job are read before
a dispatch waits for its worker and written after. -/

namespace ShipyardCp.Properties

open Types Domain Lib Store

def hasApplied (h : History System Call) (taskId jobId : String) : Bool := h.any fun step =>
    (appliedBy step.2 step.1.store).any fun p => p.1 = taskId && p.2.jobId = jobId

def InFlight (h : History System Call) (sys : System) (taskId jobId : String) : Prop :=
  Store.Submitted sys.store taskId jobId ∧ hasApplied h taskId jobId = false

def Submits (call : Call) (d : PendingDispatch) : Prop :=
  ∃ backend reason, call.op = .settleDispatch d (.success backend reason)

/-- At most one job of a task is in flight, it is the active one, and of two dispatches of a task
that overlap at most one submits a job. -/
structure SingleFlight (h : History System Call) (sys : System) : Prop where
  unique : ∀ taskId j₁ j₂, InFlight h sys taskId j₁ → InFlight h sys taskId j₂ → j₁ = j₂
  active : ∀ taskId jobId, InFlight h sys taskId jobId →
    ∃ task, sys.store.task? taskId = some task ∧ task.activeJobId = some jobId
  overlapping : ∀ h₁ step₁ h₂, h = h₁ ++ step₁ :: h₂ → ∀ step₂ ∈ h₂, ∀ d₁ d₂,
    Submits step₁.2 d₁ → Submits step₂.2 d₂ → d₁.task.taskId = d₂.task.taskId →
    d₂ ∉ step₁.1.dispatching

/-- A dispatch that writes back finds the active job it read, and submits a job only when a result
of that one was applied. -/
def settlesCurrent (h : History System Call) (sys : System) (call : Call) : Bool :=
  match call.op with
  | .settleDispatch d submission =>
    !writesBack submission || (sys.store.task? d.task.taskId).all fun task =>
      task.activeJobId = d.task.activeJobId &&
        match submission with
        | .success _ _ => task.activeJobId.all (hasApplied h d.task.taskId)
        | _ => true
  | _ => true

section step

variable {h : History System Call} {sys sys' : System} {call : Call}

theorem settlesCurrent_active {d : PendingDispatch} {submission : SubmissionResult} {task : Task}
    (hcurrent : settlesCurrent h sys call = true) (hop : call.op = .settleDispatch d submission)
    (hwrites : writesBack submission = true)
    (htask : sys.store.task? d.task.taskId = some task) :
    task.activeJobId = d.task.activeJobId := by
  simp only [settlesCurrent, hop, hwrites, htask, Bool.not_true, Bool.false_or, Option.all_some,
    Bool.and_eq_true, decide_eq_true_eq] at hcurrent
  exact hcurrent.1

theorem settlesCurrent_applied {d : PendingDispatch} {task : Task} {jobId : String}
    (hcurrent : settlesCurrent h sys call = true) (hsubmits : Submits call d)
    (htask : sys.store.task? d.task.taskId = some task) (hactive : task.activeJobId = some jobId) :
    hasApplied h d.task.taskId jobId = true := by
  obtain ⟨backend, reason, hop⟩ := hsubmits
  simp only [settlesCurrent, hop, writesBack, htask, Bool.not_true, Bool.false_or, Option.all_some,
    Bool.and_eq_true, hactive] at hcurrent
  exact hcurrent.2

theorem hasApplied_snoc {step : System × Call} {taskId jobId : String}
    (hnot : hasApplied (h ++ [step]) taskId jobId = false) :
    hasApplied h taskId jobId = false := by
  rw [hasApplied, List.any_append, Bool.or_eq_false_iff] at hnot
  exact hnot.1

theorem activeJobId_of_step (hwired : Wired sys) (hcurrent : settlesCurrent h sys call = true)
    (hstep : controlPlane.step sys call sys') {id : String} {task : Task}
    (htask : sys.store.task? id = some task) :
    ∃ task', sys'.store.task? id = some task' ∧
      ((∀ d, Submits call d → d.task.taskId ≠ id) ∧ task'.activeJobId = task.activeJobId ∨
        ∃ d, Submits call d ∧ d ∈ sys.dispatching ∧ d.task.taskId = id ∧
          task'.activeJobId = some d.job.jobId) := by
  by_cases hsubmits : ∃ d, Submits call d ∧ d.task.taskId = id
  · obtain ⟨d, ⟨backend, reason, hop⟩, rfl⟩ := hsubmits
    obtain ⟨env, op⟩ := call
    obtain rfl : op = _ := hop
    have hnext : sys.next ⟨env, .settleDispatch d (.success backend reason)⟩ = some sys' := hstep
    simp only [System.next, System.enabled, decide_eq_true_eq] at hnext
    split_ifs at hnext with hpending
    obtain rfl := Option.some.inj hnext
    refine ⟨transitioned env (dispatchedTask d) d.nextState.toTaskState, ?_,
      Or.inr ⟨d, ⟨backend, reason, rfl⟩, hpending, rfl, rfl⟩⟩
    have hstore := (hwired.waiting d hpending).settle_success env sys backend reason
    rw [show (sys.perform ⟨env, .settleDispatch d (.success backend reason)⟩).store = _ from hstore,
      ControlPlane.commit_task?]
    exact if_pos rfl
  · have hnone : ∀ d, Submits call d → d.task.taskId ≠ id :=
      fun d hsub hid => hsubmits ⟨d, hsub, hid⟩
    have heffect := taskEffect_of_step hstep id
    rw [htask] at heffect
    obtain ⟨task', htask'⟩ := heffect.isSome
    rw [htask'] at heffect
    refine ⟨task', htask', Or.inl ⟨hnone, ?_⟩⟩
    rcases heffect.activeJobId with ⟨old, hold, hsame⟩ | ⟨hcreated, _⟩ |
      ⟨d, backend, reason, hop, _, hid, _⟩ | ⟨d, error, hop, hrefusal, _, hid, hsame⟩
    · rw [hsame, Option.some.inj hold]
    · cases hcreated
    · exact absurd hid (hnone d ⟨backend, reason, hop⟩)
    · rw [← hid] at htask
      rw [hsame, settlesCurrent_active hcurrent hop hrefusal htask]

theorem submitted_of_step (hwired : Wired sys) (hstep : controlPlane.step sys call sys')
    {taskId jobId : String} (hsub : Store.Submitted sys'.store taskId jobId) :
    Store.Submitted sys.store taskId jobId ∨ ∃ d, Submits call d ∧ d ∈ sys.dispatching ∧
      d.task.taskId = taskId ∧ d.job.jobId = jobId := by
  obtain ⟨job, hjob, htask, hexecutor⟩ := hsub
  cases jobEffect_of_step hstep with
  | kept _ hjobs _ _ => rw [hjobs] at hjob; exact Or.inl ⟨job, hjob, htask, hexecutor⟩
  | begun _ _ d _ hbegun _ hjobs _ _ =>
    rw [hjobs, KeyedMap.get?_put] at hjob
    split_ifs at hjob
    · rw [← Option.some.inj hjob, hbegun.unsubmitted] at hexecutor
      cases hexecutor
    · exact Or.inl ⟨job, hjob, htask, hexecutor⟩
  | ended d _ _ _ _ hjobs _ _ => rw [hjobs] at hjob; exact Or.inl ⟨job, hjob, htask, hexecutor⟩
  | submitted d backend reason hop hmem hjobs _ _ =>
    rw [hjobs, KeyedMap.get?_put] at hjob
    split_ifs at hjob with hkey
    · have hjobTask := (hwired.waiting d hmem).jobTask
      rw [← Option.some.inj hjob] at htask
      exact Or.inr ⟨d, ⟨backend, reason, hop⟩, hmem, hjobTask.symm.trans htask, hkey.symm⟩
    · exact Or.inl ⟨job, hjob, htask, hexecutor⟩
  | polled polledJob _ _ _ hmem _ _ hjobs _ _ =>
    rw [hjobs, KeyedMap.get?_put] at hjob
    split_ifs at hjob with hkey
    · obtain ⟨hpolled, status, hstored⟩ := hwired.polled polledJob hmem
      rw [← Option.some.inj hjob] at htask
      refine Or.inl ⟨{ polledJob with status := status }, ?_, htask, hpolled⟩
      rw [hkey]
      exact hstored
    · exact Or.inl ⟨job, hjob, htask, hexecutor⟩

/-- What holds along a run whose dispatches settle on what they read. -/
structure Flight (h : History System Call) (sys : System) : Prop where
  active : ∀ taskId jobId, InFlight h sys taskId jobId →
    ∃ task, sys.store.task? taskId = some task ∧ task.activeJobId = some jobId
  known : ∀ step ∈ h, ∀ d ∈ step.1.dispatching, ∃ job, sys.store.jobs.get? d.job.jobId = some job
  superseded : ∀ d ∈ sys.dispatching, ∀ step ∈ h, ∀ d₁, Submits step.2 d₁ →
    d₁.task.taskId = d.task.taskId → d ∈ step.1.dispatching →
    ∃ task, sys.store.task? d.task.taskId = some task ∧ task.activeJobId ≠ d.task.activeJobId

theorem flight_of_fresh (hfresh : IsFresh sys) : Flight [] sys := by
  obtain ⟨_, _, _, rfl⟩ := hfresh
  refine ⟨?_, by simp, by simp⟩
  rintro taskId jobId ⟨⟨job, hjob, _⟩, _⟩
  simp [System.initial, ControlPlane.initial] at hjob

theorem snapshot_ne (hwired : Wired sys) {d e : PendingDispatch} (hd : d ∈ sys.dispatching)
    (he : e ∈ sys.dispatching) : d.task.activeJobId ≠ some e.job.jobId := by
  intro hactive
  obtain ⟨job, hjob, _, hexecutor⟩ := hwired.snapshotActive d hd _ hactive
  rw [hwired.waitingJob e he] at hjob
  rw [← Option.some.inj hjob, (hwired.waiting e he).unsubmitted] at hexecutor
  cases hexecutor

theorem Flight.step_active (hflight : Flight h sys) (hwired : Wired sys)
    (hcurrent : settlesCurrent h sys call = true) (hstep : controlPlane.step sys call sys')
    {taskId jobId : String} (hin : InFlight (h ++ [(sys, call)]) sys' taskId jobId) :
    ∃ task, sys'.store.task? taskId = some task ∧ task.activeJobId = some jobId := by
  have hnot := hasApplied_snoc hin.2
  rcases submitted_of_step hwired hstep hin.1 with hsub | ⟨d, hsubmits, hmem, hid, hjob⟩
  · obtain ⟨task, htask, hactive⟩ := hflight.active taskId jobId ⟨hsub, hnot⟩
    obtain ⟨task', htask', ⟨_, hsame⟩ | ⟨d, hsubmits, hmem, hid, _⟩⟩ :=
      activeJobId_of_step hwired hcurrent hstep htask
    · exact ⟨task', htask', hsame.trans hactive⟩
    · rw [← hid] at htask hnot
      rw [settlesCurrent_applied hcurrent hsubmits htask hactive] at hnot
      cases hnot
  · obtain ⟨task, htask, _⟩ := hwired.waitingTask d hmem
    rw [hid] at htask
    obtain ⟨task', htask', ⟨hno, _⟩ | ⟨e, ⟨b, r, hop⟩, _, _, hactive⟩⟩ :=
      activeJobId_of_step hwired hcurrent hstep htask
    · exact absurd hid (hno d hsubmits)
    · obtain ⟨b', r', hop'⟩ := hsubmits
      rw [hop] at hop'
      cases hop'
      exact ⟨task', htask', by rw [hactive, hjob]⟩

theorem Flight.step_superseded (hflight : Flight h sys) (hwired : Wired sys)
    (hcurrent : settlesCurrent h sys call = true) (hstep : controlPlane.step sys call sys')
    {d d₁ : PendingDispatch} (hd : d ∈ sys'.dispatching) {step : System × Call}
    (hmem : step ∈ h ++ [(sys, call)]) (hsubmits : Submits step.2 d₁)
    (hid : d₁.task.taskId = d.task.taskId) (hwaits : d ∈ step.1.dispatching) :
    ∃ task, sys'.store.task? d.task.taskId = some task ∧ task.activeJobId ≠ d.task.activeJobId := by
  have hold : d ∈ sys.dispatching := by
    rcases (jobEffect_of_step hstep).waiting hwired hd with ⟨hold, _⟩ | ⟨_, _, _, hfresh, _⟩
    · exact hold
    · rw [List.mem_append, List.mem_singleton] at hmem
      rcases hmem with hmem | rfl
      · obtain ⟨job, hjob⟩ := hflight.known step hmem d hwaits
        rw [hfresh] at hjob
        cases hjob
      · exact hwaits
  obtain ⟨task, htask, _⟩ := hwired.waitingTask d hold
  obtain ⟨task', htask', hcases⟩ := activeJobId_of_step hwired hcurrent hstep htask
  refine ⟨task', htask', ?_⟩
  rcases hcases with ⟨hno, hsame⟩ | ⟨e, _, he, _, hactive⟩
  · rw [List.mem_append, List.mem_singleton] at hmem
    rcases hmem with hmem | rfl
    · obtain ⟨t, ht, hne⟩ := hflight.superseded d hold step hmem d₁ hsubmits hid hwaits
      rw [htask] at ht
      rw [hsame, Option.some.inj ht]
      exact hne
    · exact absurd hid (hno d₁ hsubmits)
  · rw [hactive]
    exact (snapshot_ne hwired hold he).symm

theorem Flight.step_known (hflight : Flight h sys) (hwired : Wired sys)
    (hstep : controlPlane.step sys call sys') {step : System × Call}
    (hmem : step ∈ h ++ [(sys, call)]) {d : PendingDispatch} (hd : d ∈ step.1.dispatching) :
    ∃ job, sys'.store.jobs.get? d.job.jobId = some job := by
  rw [List.mem_append, List.mem_singleton] at hmem
  rcases hmem with hmem | rfl
  · obtain ⟨job, hjob⟩ := hflight.known step hmem d hd
    exact (jobEffect_of_step hstep).persists hjob
  · exact (jobEffect_of_step hstep).persists (hwired.waitingJob d hd)

end step

variable {h : History System Call} {sys : System}

theorem flight_of_run (hrun : controlPlane.Run h sys)
    (hcurrent : Machine.Guarded (fun h sys call => settlesCurrent h sys call = true) h) :
    Flight h sys := by
  refine hrun.guardedInvariant (fun _ hfresh => flight_of_fresh hfresh) ?_ hcurrent
  intro h sys call sys' hbefore _ hflight hstays hstep
  have hwired := wired_of_run hbefore
  exact ⟨fun _ _ hin => hflight.step_active hwired hstays hstep hin,
    fun _ hmem _ hd => hflight.step_known hwired hstep hmem hd,
    fun _ hd _ hmem _ hsubmits hid hwaits =>
      hflight.step_superseded hwired hstays hstep hd hmem hsubmits hid hwaits⟩

/-- In a run whose dispatches settle on what they read, at most one job of a task is in flight. -/
theorem single_flight (hrun : controlPlane.Run h sys)
    (hcurrent : Machine.Guarded (fun h sys call => settlesCurrent h sys call = true) h) :
    SingleFlight h sys := by
  have hflight := flight_of_run hrun hcurrent
  refine ⟨fun taskId j₁ j₂ h₁ h₂ => ?_, hflight.active, ?_⟩
  · obtain ⟨task, htask, hactive⟩ := hflight.active taskId j₁ h₁
    obtain ⟨task', htask', hactive'⟩ := hflight.active taskId j₂ h₂
    rw [htask] at htask'
    obtain rfl := Option.some.inj htask'
    exact Option.some.inj (hactive.symm.trans hactive')
  · rintro h₁ step₁ h₂ rfl step₂ hmem d₁ d₂ hsub₁ hsub₂ hid hwaits
    obtain ⟨l, r, rfl⟩ := List.append_of_mem hmem
    have hsplit : h₁ ++ step₁ :: (l ++ step₂ :: r) =
        (h₁ ++ step₁ :: l) ++ (step₂.1, step₂.2) :: r := by simp
    have hstays := hcurrent _ _ _ _ hsplit
    rw [hsplit] at hrun
    obtain ⟨s', hbefore, hstep, _⟩ := hrun.split
    have hprefix : Machine.Guarded (fun h sys call => settlesCurrent h sys call = true)
        (h₁ ++ step₁ :: l) := by
      intro h' s a h'' heq
      exact hcurrent h' s a (h'' ++ step₂ :: r) (by rw [hsplit, heq]; simp)
    obtain ⟨backend, reason, hop⟩ := hsub₂
    have hpending : d₂ ∈ step₂.1.dispatching := by
      cases jobEffect_of_step hstep with
      | kept hno _ _ _ => exact absurd hop (hno d₂ _)
      | begun _ _ _ hop' _ _ _ _ _ => rw [hop] at hop'; cases hop'
      | ended _ _ hop' hmem' _ _ _ _ => rw [hop] at hop'; cases hop'; exact hmem'
      | submitted _ _ _ hop' hmem' _ _ _ => rw [hop] at hop'; cases hop'; exact hmem'
      | polled _ _ _ hop' _ _ _ _ _ _ => rw [hop] at hop'; cases hop'
    obtain ⟨task, htask, hne⟩ := (flight_of_run hbefore hprefix).superseded d₂ hpending step₁
      (by simp) d₁ hsub₁ hid hwaits
    exact hne (settlesCurrent_active hstays hop rfl htask)

def stagesScript : Script :=
  [line "0" (.createTask sampleRequest), dispatchLine "0" .plan, settleLine submitted,
    line "0" (.applyResult "task_0" (sampleResult "job_0" .succeeded)), dispatchLine "1" .dev,
    settleLine submitted]

theorem stages_single_flight :
    ∃ h sys, controlPlane.Run h sys ∧ (sys.store.jobs.get? "job_1").isSome = true ∧
      SingleFlight h sys := by
  obtain ⟨h, sys, hrun, htest⟩ := exists_run_of_play stagesScript
    (fun p => (p.2.store.jobs.get? "job_1").isSome &&
      Machine.guardedAfter settlesCurrent [] p.1) (by decide +kernel)
  rw [Bool.and_eq_true] at htest
  exact ⟨h, sys, hrun, htest.1, single_flight hrun (Machine.guarded_of_check htest.2)⟩

def overlappingScript : Script :=
  [line "0" (.createTask sampleRequest), dispatchLine "0" .plan, dispatchLine "1" .plan,
    settleLine submitted, settleLine submitted]

def isSubmitted (sys : System) (taskId jobId : String) : Bool :=
  (sys.store.jobs.get? jobId).any fun job =>
    job.taskId = taskId && job.executorInstanceId.isSome

theorem not_single_flight : ¬∀ h sys, controlPlane.Run h sys → SingleFlight h sys := by
  intro hall
  obtain ⟨h, sys, hrun, htest⟩ := exists_run_of_play overlappingScript
    (fun p => isSubmitted p.2 "task_0" "job_0" && isSubmitted p.2 "task_0" "job_1" &&
      !hasApplied p.1 "task_0" "job_0" && !hasApplied p.1 "task_0" "job_1") (by decide +kernel)
  simp only [Bool.and_eq_true, Bool.not_eq_true', isSubmitted, Option.any_eq_true,
    decide_eq_true_eq] at htest
  obtain ⟨⟨⟨⟨job₀, hjob₀, htask₀, hsub₀⟩, job₁, hjob₁, htask₁, hsub₁⟩, hnot₀⟩, hnot₁⟩ := htest
  have hsame := (hall h sys hrun).unique "task_0" "job_0" "job_1"
    ⟨⟨job₀, hjob₀, htask₀, hsub₀⟩, hnot₀⟩ ⟨⟨job₁, hjob₁, htask₁, hsub₁⟩, hnot₁⟩
  exact absurd hsame (by decide)

end ShipyardCp.Properties
