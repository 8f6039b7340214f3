import Mathlib.Data.List.Find
import ShipyardCp.Properties.InFlight
import ShipyardCp.Properties.PersistenceConvergence
import ShipyardCp.Store.Restore

/-! Whether a restart blocks exactly the tasks whose active job was in flight. -/

namespace ShipyardCp.Properties

open Types Domain Lib Store KeyedMap

def MovedToBlocked (s' : ControlPlane) (task : Task) : Prop :=
  task.state ≠ .blocked ∧ ∃ task', s'.task? task.taskId = some task' ∧ task'.state = .blocked

def Interrupted (h : History System Call) (sys : System) (task : Task) : Prop :=
  isTerminal task.state = false ∧ task.state ≠ .blocked ∧
    ∃ jobId, task.activeJobId = some jobId ∧ InFlight h sys task.taskId jobId

/-- The restart blocks the interrupted tasks, to resume in the state they were in, and restores all
others as they were. -/
structure RecoversExactly (h : History System Call) (sys : System) (s' : ControlPlane) : Prop where
  blocked : ∀ id task, sys.store.task? id = some task →
    (MovedToBlocked s' task ↔ Interrupted h sys task)
  resumes : ∀ id task, sys.store.task? id = some task → MovedToBlocked s' task →
    ∃ task' context, s'.task? id = some task' ∧ task'.blockedContext = some context ∧
      context.resumeState.toTaskState = task.state
  kept : ∀ id task, sys.store.task? id = some task → ¬MovedToBlocked s' task → s'.task? id = some task
  nothingElse : ∀ id, sys.store.task? id = none → s'.task? id = none

/-- What the backend holds of the jobs of a task tells whether its active job is in flight, and in
which state of the task. -/
structure TellsInFlight (h : History System Call) (sys : System) (r : Redis) (task : Task) :
    Prop where
  openJob : (∃ job ∈ sys.store.getJobsForTask task.taskId, isOpen job = true) ↔
    ∃ jobId, task.activeJobId = some jobId ∧ InFlight h sys task.taskId jobId
  stage : ∀ job, (r.listJobsByTask task.taskId).find? isOpen = some job →
    stageToActiveState job.stage = task.state

section restored

variable {codec : TaskCodec} {parse : String → Option Task} {s s₀ : ControlPlane} {r : Redis}
  {env : Env} {id : String}

def ParsesBack (codec : TaskCodec) (parse : String → Option Task) (s : ControlPlane) : Prop :=
  ∀ id task, s.task? id = some task → parse (codec.stringify task) = some task

def NewExecutor (s : ControlPlane) (executorInstanceId : String) : Prop :=
  ∀ id job, s.jobs.get? id = some job → job.executorInstanceId ≠ some executorInstanceId

theorem mem_listJobsByTask (hstored : Stored codec s r) {job : WorkerJob} :
    job ∈ r.listJobsByTask id ↔ job ∈ s.getJobsForTask id := by
  rw [mem_getJobsForTask, Redis.listJobsByTask, List.mem_filterMap]
  simp only [hstored.jobIds, hstored.jobs]
  constructor
  · rintro ⟨jobId, ⟨job', hjob', htask⟩, hjob⟩
    rw [hjob'] at hjob
    rw [Option.some.inj hjob] at hjob' htask
    rw [s.jobs.key_of_get? hjob']
    exact ⟨hjob', htask⟩
  · rintro ⟨hjob, htask⟩
    exact ⟨job.jobId, ⟨job, hjob, htask⟩, hjob⟩

theorem mem_listTasks (hstored : Stored codec s r) (hparse : ParsesBack codec parse s)
    {limit : Nat} {task : Task} : task ∈ r.listTasks parse limit ↔
      task.taskId ∈ r.taskIds.take limit ∧ s.task? task.taskId = some task := by
  simp only [Redis.listTasks, List.mem_filterMap, hstored.tasks, Option.map_eq_some_iff]
  constructor
  · rintro ⟨text, ⟨taskId, hlisted, task', htask', rfl⟩, htext⟩
    rw [hparse taskId task' htask'] at htext
    rw [Option.some.inj htext] at htask'
    rw [s.task?_taskId htask']
    exact ⟨hlisted, htask'⟩
  · rintro ⟨hlisted, htask⟩
    exact ⟨_, ⟨task.taskId, hlisted, task, htask, rfl⟩, hparse _ _ htask⟩

theorem task?_restoreRecords (hstored : Stored codec s r) (hparse : ParsesBack codec parse s) :
    (restoreRecords r parse s₀).task? id =
      if id ∈ r.taskIds.take 10000 then s.task? id else none := by
  have htasks : ∀ task ∈ r.listTasks parse 10000, s.tasks.get? task.taskId = some task :=
    fun task h => ((mem_listTasks hstored hparse).mp h).2
  unfold ControlPlane.task? restoreRecords
  rw [foldl_restoreTask_tasks, get?_putAll_of_agree htasks]
  have hlisted : id ∈ (r.listTasks parse 10000).map Task.taskId ↔
      id ∈ r.taskIds.take 10000 ∧ ∃ task, s.task? id = some task := by
    simp only [List.mem_map, mem_listTasks hstored hparse]
    constructor
    · rintro ⟨task, ⟨hmem, htask⟩, rfl⟩
      exact ⟨hmem, task, htask⟩
    · rintro ⟨hmem, task, htask⟩
      have hid := s.task?_taskId htask
      subst hid
      exact ⟨task, ⟨hmem, htask⟩, rfl⟩
  by_cases hmem : id ∈ r.taskIds.take 10000
  · rw [if_pos hmem]
    cases htask : s.task? id with
    | some task =>
      rw [if_pos (hlisted.mpr ⟨hmem, task, htask⟩)]
    | none =>
      have hnot : id ∉ (r.listTasks parse 10000).map Task.taskId := by
        intro hid
        obtain ⟨_, task, htask'⟩ := hlisted.mp hid
        rw [htask] at htask'
        cases htask'
      rw [if_neg hnot]
      exact htask.symm
  · rw [if_neg hmem, if_neg fun h => hmem (hlisted.mp h).1]
    rfl

theorem find?_flatMap_listJobs {taskId : String} {tasks : List Task}
    (hjobs : ∀ id, ∀ job ∈ r.listJobsByTask id, job.taskId = id) :
    (tasks.flatMap fun task => r.listJobsByTask task.taskId).find?
        (fun job => isOpen job && decide (job.taskId = taskId)) =
      if taskId ∈ tasks.map Task.taskId then (r.listJobsByTask taskId).find? isOpen else none := by
  induction tasks with
  | nil => rfl
  | cons first tasks ih =>
    rw [List.flatMap_cons, List.find?_append, ih]
    by_cases hid : first.taskId = taskId
    · have hown : (r.listJobsByTask first.taskId).find?
          (fun job => isOpen job && decide (job.taskId = taskId)) =
          (r.listJobsByTask taskId).find? isOpen := by
        rw [hid]
        apply List.find?_congr
        intro job hjob
        simp [hjobs _ job hjob]
      rw [hown, List.map_cons, if_pos (List.mem_cons.mpr (Or.inl hid.symm))]
      split_ifs
      · exact Option.or_self
      · exact Option.or_none
    · have hnone : (r.listJobsByTask first.taskId).find?
          (fun job => isOpen job && decide (job.taskId = taskId)) = none := by
        apply List.find?_eq_none.mpr
        intro job hjob
        simp [hjobs _ job hjob, hid]
      rw [hnone, Option.none_or]
      simp [Ne.symm hid]

theorem mem_listedJobs (hstored : Stored codec s r) {tasks : List Task} :
    ∀ job ∈ tasks.flatMap fun task => r.listJobsByTask task.taskId,
      s.jobs.get? job.jobId = some job := by
  intro job hjob
  obtain ⟨_, _, hmem⟩ := List.mem_flatMap.mp hjob
  exact (mem_getJobsForTask.mp ((mem_listJobsByTask hstored).mp hmem)).1

theorem mem_restoredJobs (hstored : Stored codec s r) {job : WorkerJob}
    (hjob : job ∈ (restoreRecords r parse s₀).jobs.values) : s.jobs.get? job.jobId = some job := by
  rw [mem_values_iff, restoreRecords, foldl_restoreTask_jobs,
    get?_putAll_of_agree (mem_listedJobs hstored)] at hjob
  split_ifs at hjob
  · exact hjob
  · cases hjob

theorem find?_restoredJobs (hstored : Stored codec s r) (hparse : ParsesBack codec parse s)
    {task : Task} (htask : s.task? task.taskId = some task)
    (hlisted : task.taskId ∈ r.taskIds.take 10000) :
    (restoreRecords r parse s₀).jobs.values.find?
      (fun job => isOpen job && decide (job.taskId = task.taskId)) =
      (r.listJobsByTask task.taskId).find? isOpen := by
  have hown : ∀ id, ∀ job ∈ r.listJobsByTask id, job.taskId = id := fun id job h =>
    (mem_getJobsForTask.mp ((mem_listJobsByTask hstored).mp h)).2
  have hmem := List.mem_map_of_mem (f := Task.taskId)
    ((mem_listTasks hstored hparse).mpr ⟨hlisted, htask⟩)
  rw [restoreRecords, foldl_restoreTask_jobs, find?_values_putAll
    (mem_listedJobs hstored) _ _ (by simp), values_empty, List.nil_append, find?_flatMap_listJobs hown, if_pos hmem]

theorem find?_executorOrphans (hstored : Stored codec s r) (hparse : ParsesBack codec parse s)
    (hnew : NewExecutor s s₀.executorInstanceId) {task : Task}
    (htask : s.task? task.taskId = some task) (hlisted : task.taskId ∈ r.taskIds.take 10000) :
    (((restoreRecords r parse s₀).jobs.values.filter (isExecutorOrphan s₀.executorInstanceId)).map
        (recoveredJob s₀.executorInstanceId)).find? (fun job => job.taskId = task.taskId) =
      ((r.listJobsByTask task.taskId).find? isOpen).map (recoveredJob s₀.executorInstanceId) := by
  rw [← @find?_restoredJobs codec parse s s₀ r hstored hparse task htask hlisted, List.find?_map,
    List.find?_filter]
  congr 1
  apply List.find?_congr
  intro job hjob
  have hexecutor := hnew job.jobId job (mem_restoredJobs hstored hjob)
  simp [isExecutorOrphan, recoveredJob, hexecutor]
  rfl

theorem task?_restored (hstored : Stored codec s r) (hparse : ParsesBack codec parse s)
    (hnew : NewExecutor s s₀.executorInstanceId) {task : Task} (htask : s.task? id = some task) :
    (finalState (restoreCoreState env parse r) s₀).task? id =
      if id ∈ r.taskIds.take 10000 then
        some (if task.state = .blocked || isTerminal task.state then task
          else match (r.listJobsByTask id).find? isOpen with
            | none => task
            | some job => transitioned env
              (executorOrphanedTask task (recoveredJob s₀.executorInstanceId job)) .blocked)
      else none := by
  have hid := s.task?_taskId htask
  rw [task?_restoreCoreState, task?_restoreRecords hstored hparse, htask]
  by_cases hlisted : id ∈ r.taskIds.take 10000
  · rw [if_pos hlisted, if_pos hlisted, Option.map_some, afterRestart]
    rw [← hid] at htask hlisted ⊢
    rw [find?_executorOrphans hstored hparse hnew htask hlisted]
    cases (r.listJobsByTask task.taskId).find? isOpen <;> rfl
  · rw [if_neg hlisted, if_neg hlisted]
    rfl

end restored

section exactness

variable {codec : TaskCodec} {parse : String → Option Task} {h : History System Call} {sys : System}
  {s₀ s' : ControlPlane} {r : Redis} {env : Env} {id : String} {task : Task}

/-- One stored task is restored as it has to be. -/
structure TaskRecovers (h : History System Call) (sys : System) (s' : ControlPlane) (id : String)
    (task : Task) : Prop where
  blocked : MovedToBlocked s' task ↔ Interrupted h sys task
  resumes : MovedToBlocked s' task → ∃ task' context, s'.task? id = some task' ∧
    task'.blockedContext = some context ∧ context.resumeState.toTaskState = task.state
  kept : ¬MovedToBlocked s' task → s'.task? id = some task

theorem recoversExactly_iff : RecoversExactly h sys s' ↔
    (∀ id task, sys.store.task? id = some task → TaskRecovers h sys s' id task) ∧
      ∀ id, sys.store.task? id = none → s'.task? id = none := by
  constructor
  · intro hexact
    exact ⟨fun id task htask => ⟨hexact.blocked id task htask, hexact.resumes id task htask,
      hexact.kept id task htask⟩, hexact.nothingElse⟩
  · intro hall
    exact ⟨fun id task htask => (hall.1 id task htask).blocked,
      fun id task htask => (hall.1 id task htask).resumes,
      fun id task htask => (hall.1 id task htask).kept, hall.2⟩

theorem not_movedToBlocked_of_same (h : s'.task? task.taskId = some task) :
    ¬MovedToBlocked s' task := by
  rintro ⟨hfree, task', htask', hstate⟩
  rw [h] at htask'
  rw [← Option.some.inj htask'] at hstate
  exact hfree hstate

theorem taskRecovers_of_same (hsame : s'.task? task.taskId = some task) :
    TaskRecovers h sys s' task.taskId task ↔ ¬Interrupted h sys task := by
  have hstays := not_movedToBlocked_of_same hsame
  constructor
  · exact fun hrecovers hinterrupted => hstays (hrecovers.blocked.mpr hinterrupted)
  · exact fun hnot => ⟨iff_of_false hstays hnot, fun hmoved => absurd hmoved hstays, fun _ => hsame⟩

theorem taskRecovers_of_blocked {task' : Task} {context : BlockedContext}
    (hblocked : s'.task? task.taskId = some task') (hstate : task'.state = .blocked)
    (hfree : task.state ≠ .blocked) (hcontext : task'.blockedContext = some context) :
    TaskRecovers h sys s' task.taskId task ↔
      Interrupted h sys task ∧ context.resumeState.toTaskState = task.state := by
  have hmoved : MovedToBlocked s' task := ⟨hfree, task', hblocked, hstate⟩
  constructor
  · intro hrecovers
    obtain ⟨task'', context', htask'', hcontext', hresume⟩ := hrecovers.resumes hmoved
    rw [hblocked] at htask''
    obtain rfl := Option.some.inj htask''
    rw [hcontext] at hcontext'
    obtain rfl := Option.some.inj hcontext'
    exact ⟨hrecovers.blocked.mp hmoved, hresume⟩
  · rintro ⟨hinterrupted, hresume⟩
    exact ⟨iff_of_true hmoved hinterrupted, fun _ => ⟨task', context, hblocked, hcontext, hresume⟩,
      fun hstays => absurd hmoved hstays⟩

theorem exists_openJob_iff (hstored : Stored codec sys.store r) :
    (∃ job ∈ sys.store.getJobsForTask id, isOpen job = true) ↔
      ∃ job, (r.listJobsByTask id).find? isOpen = some job := by
  rw [← Option.isSome_iff_exists, List.find?_isSome]
  simp only [mem_listJobsByTask hstored]

theorem taskRecovers_iff (hstored : Stored codec sys.store r)
    (hparse : ParsesBack codec parse sys.store) (hnew : NewExecutor sys.store s₀.executorInstanceId)
    (htask : sys.store.task? id = some task) :
    TaskRecovers h sys (finalState (restoreCoreState env parse r) s₀) id task ↔
      id ∈ r.taskIds.take 10000 ∧
        (isTerminal task.state = false → task.state ≠ .blocked → TellsInFlight h sys r task) := by
  have hid := sys.store.task?_taskId htask
  subst hid
  have hrestored := @task?_restored codec parse sys.store s₀ r env _ hstored hparse hnew task htask
  by_cases hlisted : task.taskId ∈ r.taskIds.take 10000
  · rw [if_pos hlisted] at hrestored
    by_cases hdone : (decide (task.state = .blocked) || isTerminal task.state) = true
    · rw [if_pos hdone] at hrestored
      have hnot : ¬(isTerminal task.state = false ∧ task.state ≠ .blocked) := by
        rintro ⟨hlive, hfree⟩
        simp [hlive, hfree] at hdone
      rw [taskRecovers_of_same hrestored]
      exact iff_of_true (fun hinterrupted => hnot ⟨hinterrupted.1, hinterrupted.2.1⟩)
        ⟨hlisted, fun hlive hfree => absurd ⟨hlive, hfree⟩ hnot⟩
    · rw [if_neg hdone] at hrestored
      rw [Bool.or_eq_true, decide_eq_true_eq, not_or, Bool.not_eq_true] at hdone
      obtain ⟨hfree, hlive⟩ := hdone
      have hopen := @exists_openJob_iff codec sys r task.taskId hstored
      cases hfirst : (r.listJobsByTask task.taskId).find? isOpen with
      | none =>
        rw [hfirst] at hrestored hopen
        have hnoJob : ¬∃ job ∈ sys.store.getJobsForTask task.taskId, isOpen job = true := by
          rw [hopen]
          rintro ⟨_, hjob⟩
          cases hjob
        rw [taskRecovers_of_same hrestored]
        constructor
        · intro hnot
          refine ⟨hlisted, fun _ _ => ⟨iff_of_false hnoJob fun hflight => ?_, fun job hjob => ?_⟩⟩
          · exact hnot ⟨hlive, hfree, hflight⟩
          · rw [hfirst] at hjob
            cases hjob
        · exact fun htells hinterrupted =>
            hnoJob ((htells.2 hlive hfree).openJob.mpr hinterrupted.2.2)
      | some job =>
        rw [hfirst] at hrestored hopen
        have hjob := hopen.mpr ⟨job, rfl⟩
        rw [taskRecovers_of_blocked hrestored rfl hfree rfl]
        constructor
        · rintro ⟨hinterrupted, hresume⟩
          refine ⟨hlisted, fun _ _ => ⟨iff_of_true hjob hinterrupted.2.2, fun job' hjob' => ?_⟩⟩
          rw [hfirst] at hjob'
          rw [← Option.some.inj hjob']
          exact hresume
        · intro htells
          have htells' := htells.2 hlive hfree
          exact ⟨⟨hlive, hfree, htells'.openJob.mp hjob⟩, htells'.stage job hfirst⟩
  · rw [if_neg hlisted] at hrestored
    refine iff_of_false (fun hrecovers => ?_) fun htells => hlisted htells.1
    have hstays : ¬MovedToBlocked (finalState (restoreCoreState env parse r) s₀) task := by
      rintro ⟨_, task', htask', _⟩
      rw [hrestored] at htask'
      cases htask'
    rw [hrecovers.kept hstays] at hrestored
    cases hrestored

/-- Over a completely stored state, whatever calls led to it, a restart recovers exactly when all
tasks are among those listed, and the records of the jobs of every task that may be blocked tell
whether its active job is in flight. -/
theorem restart_recovers_iff (hstored : Stored codec sys.store r)
    (hparse : ParsesBack codec parse sys.store) (hnew : NewExecutor sys.store s₀.executorInstanceId) :
    RecoversExactly h sys (finalState (restoreCoreState env parse r) s₀) ↔
      ∀ id task, sys.store.task? id = some task → id ∈ r.taskIds.take 10000 ∧
        (isTerminal task.state = false → task.state ≠ .blocked → TellsInFlight h sys r task) := by
  have hnothing : ∀ id, sys.store.task? id = none →
      (finalState (restoreCoreState env parse r) s₀).task? id = none := by
    intro id hnone
    rw [task?_restoreCoreState, task?_restoreRecords hstored hparse, hnone, ite_self]
    rfl
  rw [recoversExactly_iff]
  constructor
  · intro hall id task htask
    exact (taskRecovers_iff hstored hparse hnew htask).mp (hall.1 id task htask)
  · intro hall
    exact ⟨fun id task htask => (taskRecovers_iff hstored hparse hnew htask).mpr
      (hall id task htask), hnothing⟩

end exactness

section samples

def endsInPersistRun (h : History Persisting PersistAction) : Bool :=
  (h.reverse.dropWhile fun q => match q.2 with | .persist => true | _ => false).head?.any fun q =>
    match q.2 with | .start => true | _ => false

theorem split_of_endsInPersistRun {h : History Persisting PersistAction}
    (hends : endsInPersistRun h = true) :
    ∃ h₁ p₁ h₂, h = h₁ ++ (p₁, .start) :: h₂ ∧ ∀ q ∈ h₂, q.2 = PersistAction.persist := by
  unfold endsInPersistRun at hends
  generalize hlast : (fun q : Persisting × PersistAction =>
    match q.2 with | .persist => true | _ => false) = isPersist at hends
  have hsplit := List.takeWhile_append_dropWhile (p := isPersist) (l := h.reverse)
  cases hrest : h.reverse.dropWhile isPersist with
  | nil => simp [hrest] at hends
  | cons first before =>
    obtain ⟨p₁, a⟩ := first
    rw [hrest] at hsplit hends
    cases a with
    | start =>
      refine ⟨before.reverse, p₁, (h.reverse.takeWhile isPersist).reverse, ?_, fun q hq => ?_⟩
      · have hreverse := congrArg List.reverse hsplit
        rw [List.reverse_reverse, List.reverse_append, List.reverse_cons, List.append_assoc] at hreverse
        exact hreverse.symm
      · have hpersist := List.mem_takeWhile_imp (List.mem_reverse.mp hq)
        rw [← hlast] at hpersist
        dsimp only at hpersist
        split at hpersist
        · assumption
        · cases hpersist
    | _ => simp at hends

def parseOf (s : ControlPlane) (text : String) : Option Task :=
  s.tasks.values.find? fun task => sampleCodec.stringify task = text

/-- The first task is stored with its job, and the run that stored them has ended. -/
def storesTask (p : Persisting) : Bool :=
  decide (p.system.store.tasks.keys = ["task_0"]) && decide (p.redis.taskIds = ["task_0"]) &&
    p.run.isNone && p.errors.isEmpty &&
    p.system.store.jobs.values.all (fun job => job.executorInstanceId ≠ some "successor") &&
    (p.system.store.getJobsForTask "task_0").any fun job => isOpen job && job.stage = .plan

def successor : ControlPlane := .initial ⟨20, 200, .empty, .empty⟩ "successor"

theorem stored_of_script {h : History Persisting PersistAction} {p : Persisting}
    (hrun : (persisting sampleCodec).Run h p) (hends : endsInPersistRun h = true)
    (htest : storesTask p = true) :
    Stored sampleCodec p.system.store p.redis ∧ ParsesBack sampleCodec (parseOf p.system.store)
      p.system.store ∧ NewExecutor p.system.store successor.executorInstanceId := by
  simp only [storesTask, Bool.and_eq_true, decide_eq_true_eq, Option.isNone_iff_eq_none,
    List.isEmpty_iff, List.all_eq_true] at htest
  obtain ⟨⟨⟨⟨⟨hkeys, _⟩, hidle⟩, herrors⟩, hexecutors⟩, _⟩ := htest
  refine ⟨?_, fun id task htask => ?_, fun id job hjob => ?_⟩
  · obtain ⟨h₁, p₁, h₂, rfl, hpersist⟩ := split_of_endsInPersistRun hends
    exact stored_of_uninterrupted hrun hpersist hidle herrors
  · have honly : ∀ t ∈ p.system.store.tasks.values, t.taskId = "task_0" := by
      intro t ht
      have hmem := List.mem_map_of_mem (f := Task.taskId) ht
      rw [map_key_values, hkeys, List.mem_singleton] at hmem
      exact hmem
    have hmem : task ∈ p.system.store.tasks.values := by
      rw [← p.system.store.task?_taskId htask] at htask
      exact p.system.store.tasks.mem_values_iff.mpr htask
    unfold parseOf
    cases hfound : p.system.store.tasks.values.find? fun t => sampleCodec.stringify t =
        sampleCodec.stringify task with
    | none => exact absurd (List.find?_eq_none.mp hfound task hmem) (by simp)
    | some found =>
      have hstored := List.mem_of_find?_eq_some hfound
      have hget := p.system.store.tasks.mem_values_iff.mp hstored
      rw [honly found hstored, ← honly task hmem, p.system.store.tasks.mem_values_iff.mp hmem] at hget
      exact hget.symm
  · have hkey := p.system.store.jobs.key_of_get? hjob
    rw [← hkey] at hjob
    exact hexecutors job (p.system.store.jobs.mem_values_iff.mpr hjob)

def workingScript : PersistScript :=
  callsOf [line "0" (.createTask sampleRequest), dispatchLine "0" .plan, settleLine submitted] ++
    runOf 7

def isWorking (q : History Persisting PersistAction × Persisting) : Bool :=
  endsInPersistRun q.1 && storesTask q.2 && isSubmitted q.2.system "task_0" "job_0" &&
    !hasApplied (systemHistory q.1) "task_0" "job_0" &&
    ((q.2.system.store.task? "task_0").any fun task =>
      task.state = .planning && task.activeJobId = some "job_0") &&
    (q.2.redis.listJobsByTask "task_0").all fun job => job.stage = .plan

theorem working_task_recovers : ∃ h p, (persisting sampleCodec).Run h p ∧
    Stored sampleCodec p.system.store p.redis ∧
    isWorking (h, p) = true ∧ RecoversExactly (systemHistory h) p.system (finalState
      (restoreCoreState (sampleEnv "1") (parseOf p.system.store) p.redis) successor) := by
  obtain ⟨h, p, hrun, htest⟩ := exists_persisting_of_play workingScript isWorking (by decide +kernel)
  have htest' := htest
  simp only [isWorking, Bool.and_eq_true, Bool.not_eq_true', List.all_eq_true,
    decide_eq_true_eq] at htest'
  obtain ⟨⟨⟨⟨⟨hends, hstores⟩, hsubmitted⟩, hnot⟩, hworking⟩, hstages⟩ := htest'
  obtain ⟨hstored, hparse, hnew⟩ := stored_of_script hrun hends hstores
  simp only [Option.any_eq_true, isSubmitted, Bool.and_eq_true, decide_eq_true_eq] at hworking hsubmitted
  obtain ⟨task₀, htask₀, hstate, hactive⟩ := hworking
  obtain ⟨job₀, hjob₀, hjobTask, hexecutor⟩ := hsubmitted
  simp only [storesTask, Bool.and_eq_true, decide_eq_true_eq, List.any_eq_true] at hstores
  obtain ⟨⟨⟨⟨⟨hkeys, hlisted⟩, _⟩, _⟩, _⟩, openJob, hopenJob, hopen, _⟩ := hstores
  refine ⟨h, p, hrun, hstored, htest, (restart_recovers_iff hstored hparse hnew).mpr ?_⟩
  intro id task htask
  have hid : id = "task_0" := by
    have hmem := p.system.store.tasks.mem_keys_iff.mpr ⟨task, htask⟩
    rwa [hkeys, List.mem_singleton] at hmem
  subst hid
  obtain rfl : task₀ = task := Option.some.inj (htask₀.symm.trans htask)
  have htaskId := p.system.store.task?_taskId htask
  refine ⟨by rw [hlisted]; decide, fun _ _ => ⟨?_, fun job hjob => ?_⟩⟩
  · rw [htaskId]
    exact iff_of_true ⟨openJob, hopenJob, hopen⟩
      ⟨"job_0", hactive, ⟨job₀, hjob₀, hjobTask, hexecutor⟩, hnot⟩
  · rw [htaskId] at hjob
    rw [hstages job (List.mem_of_find?_eq_some hjob), hstate]
    rfl

def reportedScript : PersistScript :=
  callsOf [line "0" (.createTask sampleRequest), dispatchLine "0" .plan, settleLine submitted,
    line "0" (.applyResult "task_0" (sampleResult "job_0" .succeeded))] ++ runOf 8

def isReported (q : History Persisting PersistAction × Persisting) : Bool :=
  endsInPersistRun q.1 && storesTask q.2 && hasApplied (systemHistory q.1) "task_0" "job_0" &&
    ((q.2.system.store.task? "task_0").any fun task =>
      task.state = .planned && task.activeJobId = some "job_0") &&
    ((finalState (restoreCoreState (sampleEnv "1") (parseOf q.2.system.store) q.2.redis)
      successor).task? "task_0").any fun task => task.state = .blocked

theorem reported_task_blocked : ∃ h p parse s₀, (persisting sampleCodec).Run h p ∧
    Stored sampleCodec p.system.store p.redis ∧ ParsesBack sampleCodec parse p.system.store ∧
    NewExecutor p.system.store s₀.executorInstanceId ∧
    ¬RecoversExactly (systemHistory h) p.system (finalState
      (restoreCoreState (sampleEnv "1") parse p.redis) s₀) := by
  obtain ⟨h, p, hrun, htest⟩ := exists_persisting_of_play reportedScript isReported
    (by decide +kernel)
  simp only [isReported, Bool.and_eq_true] at htest
  obtain ⟨⟨⟨⟨hends, hstores⟩, happlied⟩, hplanned⟩, hblocked⟩ := htest
  obtain ⟨hstored, hparse, hnew⟩ := stored_of_script hrun hends hstores
  refine ⟨h, p, parseOf p.system.store, successor, hrun, hstored, hparse, hnew, fun hexact => ?_⟩
  simp only [Option.any_eq_true, Bool.and_eq_true, decide_eq_true_eq] at hplanned hblocked
  obtain ⟨task, htask, hstate, hactive⟩ := hplanned
  obtain ⟨task', htask', hstate'⟩ := hblocked
  have hid := p.system.store.task?_taskId htask
  have hmoved : MovedToBlocked (finalState (restoreCoreState (sampleEnv "1")
      (parseOf p.system.store) p.redis) successor) task :=
    ⟨by rw [hstate]; decide, task', by rw [hid]; exact htask', hstate'⟩
  obtain ⟨_, _, jobId, hjobId, _, hnot⟩ := (hexact.blocked _ task htask).mp hmoved
  rw [hactive] at hjobId
  rw [hid, ← Option.some.inj hjobId, happlied] at hnot
  cases hnot

end samples

end ShipyardCp.Properties
