import ShipyardCp.Store.Wiring

/-! Timeouts of integration and publish runs: which tasks a check blocks, and that no run is timed out
twice. -/

namespace ShipyardCp.Properties

open Types Domain Lib Store

inductive RunKind where
  | integration | publish
  deriving DecidableEq

/-- The run a check at an instant is to end: the running one of the stage the task is in, when its time
is over. -/
def expiredRun (now : Timestamp) (task : Task) : Option (RunKind × String) :=
  match task.state with
  | .integrating => (task.integrationRun.filter fun run =>
      run.status = .running && run.timeoutAt < now).map fun run => (.integration, run.runId)
  | .publishing => (task.publishRun.filter fun run =>
      run.status = .running && run.timeoutAt < now).map fun run => (.publish, run.runId)
  | _ => none

/-- The blocked task with its run ended, to be resumed in the stage it was in. -/
def afterTimeout (now : Timestamp) (task : Task) : RunKind → Task
  | .integration => { task with
      state := .blocked
      version := task.version + 1
      updatedAt := now
      integrationRun := task.integrationRun.map fun run => { run with
        status := .timeout, error := some "integration timeout", completedAt := some now }
      blockedContext := some
        { resumeState := .integrating, reason := "integration timed out"
          waitingOn := some .github } }
  | .publish => { task with
      state := .blocked
      version := task.version + 1
      updatedAt := now
      publishRun := task.publishRun.map fun run => { run with
        status := .timeout, error := some "publish timeout", completedAt := some now }
      blockedContext := some
        { resumeState := .publishing, reason := "publish timed out"
          waitingOn := some .environment } }

/-- A check blocks the tasks whose run is expired, logs that, and leaves all else as it is. -/
structure EndsExpiredRuns (env : Env) (s s' : ControlPlane) : Prop where
  beside : SameBeside s s'
  ended : ∀ id task run, s.task? id = some task → expiredRun env.now task = some run →
    s'.task? id = some (afterTimeout env.now task run.1) ∧
      ∃ event, s'.log id = s.log id ++ [event] ∧ event.fromState = task.state ∧
        event.toState = .blocked
  kept : ∀ id, (s.task? id).bind (expiredRun env.now) = none →
    s'.task? id = s.task? id ∧ s'.log id = s.log id

section check

variable {env : Env} {s : ControlPlane}

theorem timedOut_of_expired {task : Task} {run : RunKind × String}
    (h : expiredRun env.now task = some run) : ∃ updatedTask reason,
      timedOut env.now task = some (updatedTask, reason) ∧ updatedTask.state = task.state ∧
        transitioned env updatedTask .blocked = afterTimeout env.now task run.1 := by
  unfold expiredRun at h
  unfold timedOut integrationTimedOut publishTimedOut
  split at h
  · next hstate =>
    obtain ⟨integrationRun, hrun, rfl⟩ := Option.map_eq_some_iff.mp h
    obtain ⟨hstored, hexpired⟩ := Option.filter_eq_some_iff.mp hrun
    rw [Bool.and_eq_true, decide_eq_true_eq, decide_eq_true_eq] at hexpired
    simp only [hstored, hstate, hexpired, and_self, if_true]
    exact ⟨_, _, rfl, rfl, by simp [transitioned, afterTimeout, hstored, isTerminal]⟩
  · next hstate =>
    obtain ⟨publishRun, hrun, rfl⟩ := Option.map_eq_some_iff.mp h
    obtain ⟨hstored, hexpired⟩ := Option.filter_eq_some_iff.mp hrun
    rw [Bool.and_eq_true, decide_eq_true_eq, decide_eq_true_eq] at hexpired
    cases hintegration : task.integrationRun <;>
      simp only [hstored, hstate, hexpired, and_self, if_true, reduceCtorEq, false_and, if_false] <;>
      exact ⟨_, _, rfl, rfl, by simp [transitioned, afterTimeout, hstored, hintegration, isTerminal]⟩
  · cases h

theorem timedOut_of_not_expired {now : Timestamp} {task : Task} (h : expiredRun now task = none) :
    timedOut now task = none := by
  unfold expiredRun at h
  unfold timedOut integrationTimedOut publishTimedOut
  cases hintegration : task.integrationRun <;> cases hpublish : task.publishRun <;> grind

theorem endsExpiredRuns_checkTimeouts (env : Env) (s : ControlPlane) :
    EndsExpiredRuns env s (finalState (checkTimeouts env) s) := by
  obtain ⟨hbeside, hchanges⟩ := finalState_checkTimeouts env s
  refine ⟨hbeside, fun id task run htask hrun => ?_, fun id hnone => ?_⟩
  · obtain ⟨updatedTask, reason, htimed, hstate, hafter⟩ := timedOut_of_expired hrun
    have hchange := hchanges id
    dsimp only at hchange
    rw [htask, Option.bind_some, htimed] at hchange
    obtain ⟨n, htask', hlog⟩ := hchange
    exact ⟨htask'.trans (congrArg some hafter), _, hlog, hstate, rfl⟩
  · have hchange := hchanges id
    dsimp only at hchange
    cases htask : s.task? id with
    | none => rwa [htask] at hchange
    | some task =>
      rw [htask, Option.bind_some] at hnone
      rw [htask, Option.bind_some, timedOut_of_not_expired hnone] at hchange
      exact hchange

theorem checkTimeoutsOf_of_not_expired (env : Env) (tasks : List Task)
    (h : ∀ task ∈ tasks, expiredRun env.now task = none) (n : Nat) :
    checkTimeoutsOf env n tasks = pure [] := by
  induction tasks with
  | nil => rfl
  | cons task tasks ih =>
    rw [checkTimeoutsOf, timedOut_of_not_expired (h task List.mem_cons_self)]
    exact ih fun t ht => h t (List.mem_cons_of_mem _ ht)

theorem expiredRun_afterTimeout (now now' : Timestamp) (task : Task) (kind : RunKind) :
    expiredRun now (afterTimeout now' task kind) = none := by
  cases kind <;> rfl

theorem checkTimeouts_again {env env' : Env} (hnow : env'.now = env.now) (s : ControlPlane) :
    (checkTimeouts env').run (finalState (checkTimeouts env) s) =
      .ok [] (finalState (checkTimeouts env) s) := by
  have hends := endsExpiredRuns_checkTimeouts env s
  generalize finalState (checkTimeouts env) s = s' at hends ⊢
  have hnone : ∀ task ∈ s'.tasks.values, expiredRun env'.now task = none := by
    intro task' hmem
    have htask' : s'.task? task'.taskId = some task' := s'.tasks.mem_values_iff.mp hmem
    rw [hnow]
    cases hexpired : (s.task? task'.taskId).bind (expiredRun env.now) with
    | none =>
      rwa [← (hends.kept _ hexpired).1, htask', Option.bind_some] at hexpired
    | some run =>
      obtain ⟨task, htask, hrun⟩ := Option.bind_eq_some_iff.mp hexpired
      obtain rfl := Option.some.inj (htask'.symm.trans (hends.ended _ task run htask hrun).1)
      exact expiredRun_afterTimeout ..
  change (checkTimeoutsOf env' 0 s'.tasks.values).run s' = _
  rw [checkTimeoutsOf_of_not_expired env' _ hnone]
  rfl

end check

/-- The ids of the running runs that a task carries. -/
def runningRuns (task : Task) : List (RunKind × String) :=
  (task.integrationRun.filter fun run => run.status = .running).toList.map
      (fun run => (.integration, run.runId)) ++
    (task.publishRun.filter fun run => run.status = .running).toList.map
      fun run => (.publish, run.runId)

/-- The runs a call times out, each with its task. -/
def timedOutBy (sys : System) (call : Call) : List (String × RunKind × String) :=
  match call.op with
  | .checkTimeouts => sys.store.tasks.values.filterMap fun task =>
    (expiredRun call.env.now task).map fun run => (task.taskId, run)
  | _ => []

def timedOutRuns (h : History System Call) : List (String × RunKind × String) :=
  Machine.written timedOutBy h

/-- The id a call draws for the run it starts. -/
def drawnRun (call : Call) : Option (RunKind × String) :=
  match call.op with
  | .integrate _ _ => some (.integration, createId call.env 0 "int-run")
  | .publish _ _ | .approvePublish _ _ => some (.publish, createId call.env 0 "pub-run")
  | _ => none

def drawnRuns (h : History System Call) : List (RunKind × String) := h.filterMap fun p => drawnRun p.2

/-- A dispatch that writes its snapshot back finds what runs in the snapshot still running. -/
def findsRuns (sys : System) (call : Call) : Bool :=
  match call.op with
  | .settleDispatch d submission => !writesBack submission ||
    (runningRuns d.task).all fun run =>
      (sys.store.task? d.task.taskId).any fun task => run ∈ runningRuns task
  | _ => true

section runs

variable {sys sys' : System} {call : Call} {id : String} {task task' : Task}

theorem mem_runningRuns {run : RunKind × String} : run ∈ runningRuns task ↔
    (∃ r, task.integrationRun = some r ∧ r.status = .running ∧ run = (.integration, r.runId)) ∨
      ∃ r, task.publishRun = some r ∧ r.status = .running ∧ run = (.publish, r.runId) := by
  simp only [runningRuns, List.mem_append, List.mem_map, Option.mem_toList,
    Option.filter_eq_some_iff, decide_eq_true_eq, and_assoc, @eq_comm _ run]

theorem mem_runningRuns_of_expired {now : Timestamp} {run : RunKind × String}
    (h : expiredRun now task = some run) : run ∈ runningRuns task := by
  rw [mem_runningRuns]
  unfold expiredRun at h
  split at h
  · obtain ⟨r, hr, rfl⟩ := Option.map_eq_some_iff.mp h
    obtain ⟨hstored, hrunning⟩ := Option.filter_eq_some_iff.mp hr
    rw [Bool.and_eq_true, decide_eq_true_eq] at hrunning
    exact Or.inl ⟨r, hstored, hrunning.1, rfl⟩
  · obtain ⟨r, hr, rfl⟩ := Option.map_eq_some_iff.mp h
    obtain ⟨hstored, hrunning⟩ := Option.filter_eq_some_iff.mp hr
    rw [Bool.and_eq_true, decide_eq_true_eq] at hrunning
    exact Or.inr ⟨r, hstored, hrunning.1, rfl⟩
  · cases h

theorem mem_runningRuns_afterTimeout {now : Timestamp} {run ended : RunKind × String}
    (hended : expiredRun now task = some ended)
    (hrun : run ∈ runningRuns (afterTimeout now task ended.1)) :
    run ∈ runningRuns task ∧ run ≠ ended := by
  unfold expiredRun at hended
  split at hended
  · obtain ⟨r, _, rfl⟩ := Option.map_eq_some_iff.mp hended
    rw [mem_runningRuns] at hrun ⊢
    rcases hrun with ⟨r', hr', hrunning, _⟩ | ⟨r', hr', hrunning, rfl⟩
    · obtain ⟨before, _, rfl⟩ := Option.map_eq_some_iff.mp hr'
      cases hrunning
    · exact ⟨Or.inr ⟨r', hr', hrunning, rfl⟩, by simp⟩
  · obtain ⟨r, _, rfl⟩ := Option.map_eq_some_iff.mp hended
    rw [mem_runningRuns] at hrun ⊢
    rcases hrun with ⟨r', hr', hrunning, rfl⟩ | ⟨r', hr', hrunning, _⟩
    · exact ⟨Or.inl ⟨r', hr', hrunning, rfl⟩, by simp⟩
    · obtain ⟨before, _, rfl⟩ := Option.map_eq_some_iff.mp hr'
      cases hrunning
  · cases hended

theorem mem_timedOutBy {run : RunKind × String} : (id, run) ∈ timedOutBy sys call ↔
    call.op = .checkTimeouts ∧ (sys.store.task? id).bind (expiredRun call.env.now) = some run := by
  unfold timedOutBy
  split
  · next hop =>
    rw [List.mem_filterMap, hop, eq_self, true_and, Option.bind_eq_some_iff]
    constructor
    · rintro ⟨task, hmem, hpair⟩
      obtain ⟨run', hrun, heq⟩ := Option.map_eq_some_iff.mp hpair
      obtain ⟨rfl, rfl⟩ := Prod.mk.inj heq
      exact ⟨task, sys.store.tasks.mem_values_iff.mp hmem, hrun⟩
    · rintro ⟨task, htask, hrun⟩
      have hid := sys.store.task?_taskId htask
      exact ⟨task, sys.store.tasks.mem_values_iff.mpr (hid ▸ htask), by rw [hrun, hid]; rfl⟩
  · next hop => exact iff_of_false List.not_mem_nil fun h => hop h.1

theorem nodup_timedOutBy : (timedOutBy sys call).Nodup := by
  unfold timedOutBy
  split
  · refine List.Nodup.of_map Prod.fst (sys.store.tasks.nodup_map_filterMap_values ?_)
    intro task p hp
    obtain ⟨run, _, rfl⟩ := Option.map_eq_some_iff.mp hp
    rfl
  · exact List.nodup_nil

theorem mem_runningRuns_publishing {env : Env} {run : RunKind × String}
    (hrun : run ∈ runningRuns task') (hintegration : task'.integrationRun = task.integrationRun)
    (hpublish : task'.publishRun = some (startPublishRun env)) :
    run ∈ runningRuns task ∨ some (.publish, createId env 0 "pub-run") = some run := by
  rw [mem_runningRuns, hintegration, hpublish] at hrun
  rcases hrun with hold | ⟨r, hr, _, rfl⟩
  · exact Or.inl (mem_runningRuns.mpr (Or.inl hold))
  · obtain rfl := Option.some.inj hr
    exact Or.inr rfl

theorem mem_runningRuns_of_moved {event : StateTransitionEvent} {run : RunKind × String}
    (hmove : Moved call id task task' event) (hcheck : call.op ≠ .checkTimeouts)
    (hrun : run ∈ runningRuns task') : run ∈ runningRuns task ∨ drawnRun call = some run := by
  cases hmove with
  | cancelled => exact Or.inl hrun
  | incapable => exact Or.inl hrun
  | accepted => exact Or.inl hrun
  | integrating baseSha hop =>
    rw [mem_runningRuns] at hrun ⊢
    rcases hrun with ⟨r, hr, _, rfl⟩ | hpublish
    · obtain rfl := Option.some.inj hr
      exact Or.inr (by rw [drawnRun, hop])
    · exact Or.inl (Or.inr hpublish)
  | integrationEnded request moved toState reason hop hstate hended =>
    have hresults : ∀ integration,
        run ∈ runningRuns (integrationResults call.env task integration request) →
        run ∈ runningRuns task := by
      intro integration hafter
      rw [mem_runningRuns] at hafter ⊢
      refine hafter.imp_left fun ⟨r, hr, hrunning, _⟩ => ?_
      obtain ⟨before, _, rfl⟩ := Option.map_eq_some_iff.mp hr
      simp only [finishedIntegrationRun] at hrunning
      split_ifs at hrunning
    refine Or.inl ?_
    cases hended with
    | integrated integration => exact hresults integration hrun
    | denied => exact hrun
    | failed integration => exact hresults integration hrun
  | publish request n moved toState input hop hstate hpublish =>
    have hwarned : ∀ warnings, runningRuns
        (withPublishRequest (withPolicyWarnings task warnings) request) = runningRuns task := by
      intro warnings
      unfold withPolicyWarnings
      split_ifs <;> rfl
    cases hpublish with
    | denied => exact Or.inl hrun
    | pending warnings => exact Or.inl (hwarned warnings ▸ hrun)
    | started warnings =>
      rw [drawnRun, hop, ← hwarned warnings]
      exact mem_runningRuns_publishing hrun rfl rfl
  | approved approvalToken hop =>
    rw [drawnRun, hop]
    exact mem_runningRuns_publishing hrun rfl rfl
  | published request hop =>
    rw [mem_runningRuns] at hrun
    rcases hrun with hintegration | ⟨r, hr, hrunning, _⟩
    · exact Or.inl (mem_runningRuns.mpr (Or.inl hintegration))
    · obtain ⟨before, _, rfl⟩ := Option.map_eq_some_iff.mp hr
      cases hrunning
  | timedOut _ _ _ hop => exact absurd hop hcheck
  | orphaned => exact Or.inl hrun

theorem runningRuns_of_patched (hpatch : Patched call id task task') :
    runningRuns task' = runningRuns task := by
  cases hpatch with
  | checklist => rfl
  | integrationProgress progress run hop hstate hrun =>
    unfold runningRuns integrationProgressed
    rw [hrun]
    by_cases hstatus : run.status = .running <;> simp [Option.filter, hstatus]
  | publishProgress progress run hop hstate hrun =>
    unfold runningRuns publishProgressed
    rw [hrun]
    by_cases hstatus : run.status = .running <;> simp [Option.filter, hstatus]
  | references => rfl

theorem mem_runningRuns_of_snapshot {d : PendingDispatch} {submission : SubmissionResult}
    {run : RunKind × String} (hfinds : findsRuns sys call = true)
    (hop : call.op = .settleDispatch d submission) (hwrites : writesBack submission = true)
    (hrun : run ∈ runningRuns d.task) :
    ∃ task, sys.store.task? d.task.taskId = some task ∧ run ∈ runningRuns task := by
  simp only [findsRuns, hop, hwrites, Bool.not_true, Bool.false_or, List.all_eq_true] at hfinds
  simpa only [Option.any_eq_true, decide_eq_true_eq] using hfinds run hrun

theorem mem_runningRuns_of_step {run : RunKind × String} (hfinds : findsRuns sys call = true)
    (hstep : controlPlane.step sys call sys') (htask' : sys'.store.task? id = some task')
    (hrun : run ∈ runningRuns task') :
    (∃ task, sys.store.task? id = some task ∧ run ∈ runningRuns task ∧
      (id, run) ∉ timedOutBy sys call) ∨ drawnRun call = some run := by
  by_cases hcheck : call.op = .checkTimeouts
  · obtain ⟨env, op⟩ := call
    obtain rfl : op = .checkTimeouts := hcheck
    have hends := endsExpiredRuns_checkTimeouts env sys.store
    rw [(step_iff.mp hstep).2] at htask'
    change (finalState (checkTimeouts env) sys.store).task? id = some task' at htask'
    refine Or.inl ?_
    cases hexpired : (sys.store.task? id).bind (expiredRun env.now) with
    | none =>
      rw [(hends.kept id hexpired).1] at htask'
      refine ⟨task', htask', hrun, fun htimed => ?_⟩
      cases hexpired.symm.trans (mem_timedOutBy.mp htimed).2
    | some ended =>
      obtain ⟨task, htask, hended⟩ := Option.bind_eq_some_iff.mp hexpired
      obtain rfl := Option.some.inj ((hends.ended id task ended htask hended).1.symm.trans htask')
      obtain ⟨hold, hother⟩ := mem_runningRuns_afterTimeout hended hrun
      refine ⟨task, htask, hold, fun htimed => hother ?_⟩
      exact Option.some.inj ((mem_timedOutBy.mp htimed).2.symm.trans hexpired)
  have hnone : ∀ task, sys.store.task? id = some task → run ∈ runningRuns task →
      (∃ task, sys.store.task? id = some task ∧ run ∈ runningRuns task ∧
        (id, run) ∉ timedOutBy sys call) ∨ drawnRun call = some run := fun task htask hold =>
    Or.inl ⟨task, htask, hold, fun htimed => hcheck (mem_timedOutBy.mp htimed).1⟩
  have heffect := taskEffect_of_step hstep id
  rw [htask'] at heffect
  generalize hstored : sys.store.task? id = stored at heffect hnone ⊢
  generalize sys.store.log id = log, sys'.store.log id = log' at heffect
  cases heffect with
  | kept => exact hnone task' rfl hrun
  | created request => simp [mem_runningRuns, newTask] at hrun
  | recorded task => exact hnone task rfl hrun
  | moved task _ _ event hmove =>
    rcases mem_runningRuns_of_moved hmove hcheck hrun with hold | hnew
    · exact hnone task rfl hold
    · exact Or.inr hnew
  | patched task _ _ hpatch => exact hnone task rfl (runningRuns_of_patched hpatch ▸ hrun)
  | answered task _ result job a =>
    have hsame : runningRuns (a.resultTask call.env task) = runningRuns task := by
      unfold ResultAnswer.resultTask
      split <;> rfl
    exact hnone task rfl (hsame ▸ hrun)
  | dispatched _ _ d backend reason hop hmem hid =>
    obtain ⟨task, htask, hold⟩ := mem_runningRuns_of_snapshot hfinds hop rfl hrun
    rw [hid, hstored] at htask
    exact hnone task htask hold
  | refused _ _ d error failure hop hfailure hrefusal hmem hid =>
    obtain ⟨task, htask, hold⟩ := mem_runningRuns_of_snapshot hfinds hop
      (by rw [writesBack, ← hfailure]; exact hrefusal) hrun
    rw [hid, hstored] at htask
    exact hnone task htask hold

/-- The runs that run in stored tasks were drawn and are not timed out. -/
structure RunBooks (h : History System Call) (sys : System) : Prop where
  running : ∀ id task run, sys.store.task? id = some task → run ∈ runningRuns task →
    run ∈ drawnRuns h ∧ (id, run) ∉ timedOutRuns h
  timedOut : ∀ id run, (id, run) ∈ timedOutRuns h → run ∈ drawnRuns h
  once : (timedOutRuns h).Nodup

theorem timedOutRuns_snoc (h : History System Call) (sys : System) (call : Call) :
    timedOutRuns (h ++ [(sys, call)]) = timedOutRuns h ++ timedOutBy sys call :=
  Machine.written_snoc h sys call

theorem drawnRuns_snoc (h : History System Call) (sys : System) (call : Call) :
    drawnRuns (h ++ [(sys, call)]) = drawnRuns h ++ (drawnRun call).toList := by
  cases hdrawn : drawnRun call <;> simp [drawnRuns, hdrawn]

theorem RunBooks.step {h : History System Call} (hbooks : RunBooks h sys)
    (hfinds : findsRuns sys call = true) (hnew : ∀ run, drawnRun call = some run → run ∉ drawnRuns h)
    (hstep : controlPlane.step sys call sys') : RunBooks (h ++ [(sys, call)]) sys' := by
  have htimed : ∀ id run, (id, run) ∈ timedOutBy sys call →
      run ∈ drawnRuns h ∧ (id, run) ∉ timedOutRuns h := by
    intro id run hmem
    obtain ⟨_, hexpired⟩ := mem_timedOutBy.mp hmem
    obtain ⟨task, htask, hrun⟩ := Option.bind_eq_some_iff.mp hexpired
    exact hbooks.running id task run htask (mem_runningRuns_of_expired hrun)
  refine ⟨fun id task' run htask' hrun => ?_, fun id run hmem => ?_, ?_⟩
  · rw [timedOutRuns_snoc, drawnRuns_snoc, List.mem_append, List.mem_append, not_or]
    rcases mem_runningRuns_of_step hfinds hstep htask' hrun with ⟨task, htask, hold, hkept⟩ | hdrawn
    · obtain ⟨hbefore, hnot⟩ := hbooks.running id task run htask hold
      exact ⟨Or.inl hbefore, hnot, hkept⟩
    · refine ⟨Or.inr (by simp [hdrawn]), fun hmem => ?_, fun hmem => ?_⟩
      · exact hnew run hdrawn (hbooks.timedOut id run hmem)
      · exact hnew run hdrawn (htimed id run hmem).1
  · rw [timedOutRuns_snoc, List.mem_append] at hmem
    rw [drawnRuns_snoc, List.mem_append]
    exact Or.inl (hmem.elim (hbooks.timedOut id run) fun hmem => (htimed id run hmem).1)
  · rw [timedOutRuns_snoc, List.nodup_append]
    refine ⟨hbooks.once, nodup_timedOutBy, fun p hp q hq heq => ?_⟩
    subst heq
    exact (htimed p.1 p.2 hq).2 hp

theorem runBooks_of_run {h : History System Call} (hrun : controlPlane.Run h sys)
    (hfinds : Machine.Steps (fun sys call => findsRuns sys call = true) h)
    (hdistinct : (drawnRuns h).Nodup) : RunBooks h sys := by
  induction hrun with
  | start hinit =>
    obtain ⟨_, _, _, rfl⟩ := hinit
    refine ⟨fun id task run htask => ?_, fun id run hmem => ?_, List.nodup_nil⟩
    · cases htask
    · cases hmem
  | @snoc h sys call sys' _ hstep ih =>
    rw [Machine.steps_append, Machine.steps_cons] at hfinds
    rw [drawnRuns_snoc, List.nodup_append] at hdistinct
    refine (ih hfinds.1 hdistinct.1).step hfinds.2.1 (fun run hdrawn hmem => ?_) hstep
    exact hdistinct.2.2 run hmem run (by simp [hdrawn]) rfl

/-- A check ends exactly the expired runs, a second one at its instant none, and in a run of the control
plane whose dispatches find the runs of their snapshots running no run is timed out twice. -/
theorem timeouts_fire_once {h : History System Call} (hrun : controlPlane.Run h sys)
    (hfinds : Machine.Steps (fun sys call => findsRuns sys call = true) h)
    (hdistinct : (drawnRuns h).Nodup) :
    (∀ env s, EndsExpiredRuns env s (finalState (checkTimeouts env) s)) ∧
    (∀ env env' : Env, env'.now = env.now → ∀ s,
      (checkTimeouts env').run (finalState (checkTimeouts env) s) =
        .ok [] (finalState (checkTimeouts env) s)) ∧
    (timedOutRuns h).Nodup :=
  ⟨endsExpiredRuns_checkTimeouts, fun _ _ hnow s => checkTimeouts_again hnow s,
    (runBooks_of_run hrun hfinds hdistinct).once⟩

def lateCheck : System → Option Call := fun _ =>
  some ⟨{ sampleEnv "9" with now := integrationTimeoutMs + 1 }, .checkTimeouts⟩

def begunIntegration : Script := acceptingScript sampleRequest ++
    [recordLine .accepting .accepted, line "3" (.integrate "task_0" "sha")]

theorem late_integration_ends_once : ∃ h sys, controlPlane.Run h sys ∧
    timedOutRuns h = [("task_0", .integration, "int-run_3")] ∧ (timedOutRuns h).Nodup := by
  obtain ⟨h, sys, hrun, htest⟩ := exists_run_of_play (begunIntegration ++ [lateCheck, lateCheck])
    (fun p => decide (timedOutRuns p.1 = [("task_0", .integration, "int-run_3")]) &&
      (p.1.all fun step => findsRuns step.1 step.2) && decide (drawnRuns p.1).Nodup)
    (by decide +kernel)
  simp only [Bool.and_eq_true, decide_eq_true_eq, List.all_eq_true] at htest
  exact ⟨h, sys, hrun, htest.1.1, (timeouts_fire_once hrun htest.1.2 htest.2).2.2⟩

/-- The task is recorded back to planned and dispatched; while the dispatch waits for its worker the
integration is resumed and times out, and resumed once more after the dispatch has settled. -/
def resumedIntegration : Script := begunIntegration ++
    [recordLine .integrating .blocked, recordLine .blocked .planning, recordLine .planning .planned,
      dispatchLine "4" .dev, recordLine .planned .blocked, recordLine .blocked .integrating, lateCheck,
      settleLine submitted, recordLine .developing .blocked, recordLine .blocked .integrating,
      lateCheck]

/-- A dispatch brings back a run that timed out while it waited. -/
theorem run_timed_out_twice : ¬∀ h sys, controlPlane.Run h sys → (drawnRuns h).Nodup →
    (timedOutRuns h).Nodup := by
  intro hall
  obtain ⟨h, sys, hrun, htest⟩ := exists_run_of_play resumedIntegration
    (fun p => decide (drawnRuns p.1).Nodup && decide (timedOutRuns p.1 =
      [("task_0", .integration, "int-run_3"), ("task_0", .integration, "int-run_3")]))
    (by decide +kernel)
  simp only [Bool.and_eq_true, decide_eq_true_eq] at htest
  have honce := hall h sys hrun htest.1
  rw [htest.2] at honce
  simp at honce

end runs

end ShipyardCp.Properties
