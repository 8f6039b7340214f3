import ShipyardCp.Store.Growth
import ShipyardCp.Store.RedisBackend

/-! The background runs that persist the store: one backend command at a time, with calls between any
two of them. -/

namespace ShipyardCp.Store

open Types Domain Lib Redis

/-- The texts of tasks: what `JSON.stringify` makes of a task and what `cjson.decode` reads of it. -/
structure TaskCodec where
  stringify : Task → String
  decode : String → TaskHead
  decode_stringify : ∀ task, decode (stringify task) = ⟨task.version, task.state⟩

def ControlPlane.getJobsForTask (s : ControlPlane) (taskId : String) : List WorkerJob :=
  s.jobs.values.filter fun job => job.taskId = taskId

/-- Where a run of `persistCoreState` goes on. The loops over tasks and results iterate the live
maps, the loop over jobs an array. -/
inductive PersistRun where
  | task (i : Nat)
  | events (i : Nat) (taskId : String)
  | jobsOf (i : Nat) (taskId : String)
  | jobs (i : Nat) (jobs : List WorkerJob)
  | result (i : Nat)

section persistStep

variable (codec : TaskCodec)

/-- A run from one await to the next: at most one command, with what the store holds by then. A run
that returns goes on nowhere. -/
def persistStep (s : ControlPlane) (r : Redis) :
    PersistRun → Except String (Option PersistRun) × Redis
  | .task i =>
    match s.tasks.values[i]? with
    | none => (.ok (some (.result 0)), r)
    | some task =>
      let (stored, r) := r.setTask codec.decode task.taskId (codec.stringify task)
      if stored then (.ok (some (.events i task.taskId)), r)
      else (.error ("VERSION_CONFLICT: task " ++ task.taskId), r)
  | .events i taskId => (.ok (some (.jobsOf i taskId)), r.replaceEvents taskId (s.log taskId))
  | .jobsOf i taskId => (.ok (some (.jobs i (s.getJobsForTask taskId))), r)
  | .jobs i [] => (.ok (some (.task (i + 1))), r)
  | .jobs i (job :: jobs) => (.ok (some (.jobs i jobs)), r.setJob job)
  | .result i =>
    match s.results.values[i]? with
    | none => (.ok none, r)
    | some result => (.ok (some (.result (i + 1))), r.setResult result)

/-- The system with its backend, the run in progress and what earlier runs failed with. -/
structure Persisting where
  system : System
  redis : Redis
  run : Option PersistRun
  errors : List String

inductive PersistAction where
  | call (c : Call)
  | start
  | persist

def Persisting.next (p : Persisting) : PersistAction → Option Persisting
  | .call c => (p.system.next c).map fun system => { p with system }
  | .start => if p.run.isNone then some { p with run := some (.task 0) } else none
  | .persist => p.run.map fun run =>
    match persistStep codec p.system.store p.redis run with
    | (.ok run, redis) => { p with redis, run }
    | (.error message, redis) => { p with redis, run := none, errors := p.errors ++ [message] }

def IsEmpty (p : Persisting) : Prop :=
  IsFresh p.system ∧ p.redis = .empty ∧ p.run = none ∧ p.errors = []

def persisting : Machine Persisting PersistAction := .ofNext IsEmpty (Persisting.next codec)

end persistStep

section steps

variable {codec : TaskCodec} {p p' : Persisting}

theorem next_call_iff {c : Call} : p.next codec (.call c) = some p' ↔
    ∃ system, p.system.next c = some system ∧ p' = { p with system } := by
  simp only [Persisting.next, Option.map_eq_some_iff]
  constructor <;> exact fun ⟨system, hsystem, hp'⟩ => ⟨system, hsystem, hp'.symm⟩

theorem next_start_iff : p.next codec .start = some p' ↔
    p.run = none ∧ p' = { p with run := some (.task 0) } := by
  cases hrun : p.run <;> simp [Persisting.next, hrun, eq_comm]

theorem next_persist_iff : p.next codec .persist = some p' ↔ ∃ run, p.run = some run ∧
      ((∃ run' redis, persistStep codec p.system.store p.redis run = (.ok run', redis) ∧
          p' = { p with redis, run := run' }) ∨
        ∃ message redis, persistStep codec p.system.store p.redis run = (.error message, redis) ∧
          p' = { p with redis, run := none, errors := p.errors ++ [message] }) := by
  cases hrun : p.run with
  | none => simp [Persisting.next, hrun]
  | some run =>
    cases hstep : persistStep codec p.system.store p.redis run with
    | mk outcome redis => cases outcome <;> simp [Persisting.next, hrun, hstep, eq_comm]

/-- What a run writes, in terms of the store. -/
inductive PersistEffect (codec : TaskCodec) (s : ControlPlane) (r : Redis) :
    PersistRun → Except String (Option PersistRun) → Redis → Prop
  | tasksEnd (i : Nat) : s.tasks.values[i]? = none →
      PersistEffect codec s r (.task i) (.ok (some (.result 0))) r
  | stored (i : Nat) (task : Task) : s.tasks.values[i]? = some task →
      VersionedRegister.Accepts (fun t => (codec.decode t).version) (r.task? task.taskId)
        (codec.stringify task) →
      PersistEffect codec s r (.task i) (.ok (some (.events i task.taskId)))
        (r.setTask codec.decode task.taskId (codec.stringify task)).2
  | conflict (i : Nat) (task : Task) : s.tasks.values[i]? = some task →
      ¬VersionedRegister.Accepts (fun t => (codec.decode t).version) (r.task? task.taskId)
        (codec.stringify task) →
      PersistEffect codec s r (.task i) (.error ("VERSION_CONFLICT: task " ++ task.taskId))
        (r.setTask codec.decode task.taskId (codec.stringify task)).2
  | events (i : Nat) (taskId : String) :
      PersistEffect codec s r (.events i taskId) (.ok (some (.jobsOf i taskId)))
        (r.replaceEvents taskId (s.log taskId))
  | jobsOf (i : Nat) (taskId : String) :
      PersistEffect codec s r (.jobsOf i taskId) (.ok (some (.jobs i (s.getJobsForTask taskId)))) r
  | jobsEnd (i : Nat) : PersistEffect codec s r (.jobs i []) (.ok (some (.task (i + 1)))) r
  | job (i : Nat) (job : WorkerJob) (jobs : List WorkerJob) :
      PersistEffect codec s r (.jobs i (job :: jobs)) (.ok (some (.jobs i jobs))) (r.setJob job)
  | resultsEnd (i : Nat) : s.results.values[i]? = none →
      PersistEffect codec s r (.result i) (.ok none) r
  | result (i : Nat) (result : WorkerResult) : s.results.values[i]? = some result →
      PersistEffect codec s r (.result i) (.ok (some (.result (i + 1)))) (r.setResult result)

theorem persistEffect (s : ControlPlane) (r : Redis) (run : PersistRun) :
    PersistEffect codec s r run (persistStep codec s r run).1 (persistStep codec s r run).2 := by
  cases run with
  | task i =>
    unfold persistStep
    dsimp only
    cases htask : s.tasks.values[i]? with
    | none => exact .tasksEnd i htask
    | some task =>
      have haccepts := (@Redis.setTask_spec codec.decode r task.taskId (codec.stringify task)
        task.taskId).1
      dsimp only
      by_cases hstored : (r.setTask codec.decode task.taskId (codec.stringify task)).1 = true
      · rw [if_pos hstored]
        exact .stored i task htask (haccepts.mp hstored)
      · rw [if_neg hstored]
        exact .conflict i task htask (mt haccepts.mpr hstored)
  | events i taskId => exact .events i taskId
  | jobsOf i taskId => exact .jobsOf i taskId
  | jobs i jobs =>
    cases jobs with
    | nil => exact .jobsEnd i
    | cons job jobs => exact .job i job jobs
  | result i =>
    unfold persistStep
    dsimp only
    cases hresult : s.results.values[i]? with
    | none => exact .resultsEnd i hresult
    | some result => exact .result i result hresult

end steps

section backed

variable {codec : TaskCodec} {s s' : ControlPlane} {r r' : Redis}

/-- The backend holds nothing that the store does not, and its sets list what it holds. -/
structure Backed (s : ControlPlane) (r : Redis) : Prop where
  listed : r.Listed
  tasks : ∀ id text, r.task? id = some text → ∃ task, s.task? id = some task
  events : ∀ id, r.getEvents id ≠ [] → ∃ task, s.task? id = some task
  jobs : ∀ id job, r.jobs.get? id = some job →
    ∃ job', s.jobs.get? id = some job' ∧ job'.taskId = job.taskId
  jobIds : ∀ taskId jobId, jobId ∈ r.jobIdsOf taskId ↔
    ∃ job, r.jobs.get? jobId = some job ∧ job.taskId = taskId
  results : ∀ id result, r.results.get? id = some result → ∃ result', s.results.get? id = some result'

def Carried (s : ControlPlane) : PersistRun → Prop
  | .events _ taskId => ∃ task, s.task? taskId = some task
  | .jobs _ jobs => ∀ job ∈ jobs, ∃ job', s.jobs.get? job.jobId = some job' ∧ job'.taskId = job.taskId
  | _ => True

theorem Backed.grow (h : Backed s r) (hgrown : Grown s s') : Backed s' r where
  listed := h.listed
  tasks id text htext := by
    obtain ⟨task, htask⟩ := h.tasks id text htext
    exact hgrown.tasks id task htask
  events id hevents := by
    obtain ⟨task, htask⟩ := h.events id hevents
    exact hgrown.tasks id task htask
  jobs id job hjob := by
    obtain ⟨job₁, hjob₁, htask₁⟩ := h.jobs id job hjob
    obtain ⟨job₂, hjob₂, htask₂⟩ := hgrown.jobs id job₁ hjob₁
    exact ⟨job₂, hjob₂, htask₂.trans htask₁⟩
  jobIds := h.jobIds
  results id result hresult := by
    obtain ⟨result₁, hresult₁⟩ := h.results id result hresult
    exact hgrown.results id result₁ hresult₁

theorem Carried.grow {run : PersistRun} (h : Carried s run) (hgrown : Grown s s') :
    Carried s' run := by
  cases run with
  | events i taskId =>
    obtain ⟨task, htask⟩ := h
    exact hgrown.tasks taskId task htask
  | jobs i jobs =>
    intro job hjob
    obtain ⟨job₁, hjob₁, htask₁⟩ := h job hjob
    obtain ⟨job₂, hjob₂, htask₂⟩ := hgrown.jobs job.jobId job₁ hjob₁
    exact ⟨job₂, hjob₂, htask₂.trans htask₁⟩
  | _ => trivial

theorem getElem?_tasks {i : Nat} {task : Task} (h : s.tasks.values[i]? = some task) :
    s.task? task.taskId = some task :=
  s.tasks.mem_values_iff.mp (List.mem_of_getElem? h)

theorem mem_getJobsForTask {taskId : String} {job : WorkerJob} : job ∈ s.getJobsForTask taskId ↔
      s.jobs.get? job.jobId = some job ∧ job.taskId = taskId := by
  simp only [ControlPlane.getJobsForTask, List.mem_filter, s.jobs.mem_values_iff, decide_eq_true_eq]

theorem Backed.setTask {task : Task} (h : Backed s r) (htask : s.task? task.taskId = some task) :
    Backed s (r.setTask codec.decode task.taskId (codec.stringify task)).2 := by
  obtain ⟨hevents, hjobs, hjobIds, hresults⟩ := @Redis.setTask_beside codec.decode r task.taskId
    (codec.stringify task)
  refine ⟨h.listed.setTask, fun id text htext => ?_, fun id hlog => ?_, ?_, ?_, ?_⟩
  · rw [(setTask_spec id).2] at htext
    split_ifs at htext with hid
    · rw [hid]
      exact ⟨task, htask⟩
    · exact h.tasks id text htext
  · apply h.events id
    unfold getEvents at hlog
    rw [hevents] at hlog
    exact hlog
  · rw [hjobs]
    exact h.jobs
  · unfold jobIdsOf
    rw [hjobs, hjobIds]
    exact h.jobIds
  · rw [hresults]
    exact h.results

theorem Backed.replaceEvents {taskId : String} {events : List StateTransitionEvent}
    (h : Backed s r) (htask : ∃ task, s.task? taskId = some task) :
    Backed s (r.replaceEvents taskId events) := by
  obtain ⟨hjobs, hjobIds, hresults⟩ := r.replaceEvents_beside taskId events
  refine ⟨fun id => ?_, fun id text htext => ?_, fun id hlog => ?_, ?_, ?_, ?_⟩
  · rw [r.replaceEvents_taskIds, r.replaceEvents_task?]
    exact h.listed id
  · rw [r.replaceEvents_task?] at htext
    exact h.tasks id text htext
  · rw [r.replaceEvents_getEvents] at hlog
    split_ifs at hlog with hid
    · rw [hid]
      exact htask
    · exact h.events id hlog
  · rw [hjobs]
    exact h.jobs
  · unfold jobIdsOf
    rw [hjobs, hjobIds]
    exact h.jobIds
  · rw [hresults]
    exact h.results

theorem Backed.setJob {job : WorkerJob} (h : Backed s r)
    (hjob : ∃ job', s.jobs.get? job.jobId = some job' ∧ job'.taskId = job.taskId) :
    Backed s (r.setJob job) := by
  refine ⟨h.listed, h.tasks, h.events, fun id job₁ hget => ?_, fun taskId jobId => ?_, h.results⟩
  · rw [r.setJob_get?] at hget
    split_ifs at hget with hid
    · rw [← Option.some.inj hget, hid]
      exact hjob
    · exact h.jobs id job₁ hget
  · rw [r.mem_setJob_jobIdsOf, r.setJob_get?, h.jobIds]
    by_cases hid : jobId = job.jobId
    · subst hid
      simp only [if_true, Option.some.injEq, and_true, exists_eq_left']
      constructor
      · intro hmem
        rcases hmem with htask | ⟨job₁, hget, htask⟩
        · exact htask.symm
        · obtain ⟨job', hget', htask'⟩ := hjob
          obtain ⟨job'', hget'', htask''⟩ := h.jobs _ _ hget
          rw [hget'] at hget''
          rw [← htask', Option.some.inj hget'', htask'', htask]
      · exact fun htask => Or.inl htask.symm
    · simp [hid]

theorem Backed.setResult {result : WorkerResult} (h : Backed s r)
    (hresult : ∃ result', s.results.get? result.jobId = some result') :
    Backed s (r.setResult result) := by
  refine ⟨h.listed, h.tasks, h.events, h.jobs, h.jobIds, fun id result₁ hget => ?_⟩
  rw [r.setResult_get?] at hget
  split_ifs at hget with hid
  · rw [hid]
    exact hresult
  · exact h.results id result₁ hget

theorem PersistEffect.backed {run : PersistRun} {outcome : Except String (Option PersistRun)}
    (heffect : PersistEffect codec s r run outcome r') (h : Backed s r) (hrun : Carried s run) :
    Backed s r' := by
  cases heffect with
  | tasksEnd => exact h
  | stored i task htask _ => exact h.setTask (getElem?_tasks htask)
  | conflict i task htask _ => exact h.setTask (getElem?_tasks htask)
  | events i taskId => exact h.replaceEvents hrun
  | jobsOf => exact h
  | jobsEnd => exact h
  | job i job jobs => exact h.setJob (hrun job List.mem_cons_self)
  | resultsEnd => exact h
  | result i result hresult =>
    exact h.setResult ⟨result, s.results.mem_values_iff.mp (List.mem_of_getElem? hresult)⟩

theorem PersistEffect.carried {run run' : PersistRun}
    (heffect : PersistEffect codec s r run (.ok (some run')) r') (hrun : Carried s run) :
    Carried s run' := by
  cases heffect with
  | stored i task htask _ => exact ⟨task, getElem?_tasks htask⟩
  | jobsOf i taskId =>
    intro job hjob
    exact ⟨job, (mem_getJobsForTask.mp hjob).1, rfl⟩
  | job i job jobs => exact fun job' hjob' => hrun job' (List.mem_cons_of_mem _ hjob')
  | _ => trivial

def systemHistory (h : History Persisting PersistAction) : History System Call :=
  h.filterMap fun step => match step.2 with
    | .call c => some (step.1.system, c)
    | _ => none

theorem systemHistory_snoc (h : History Persisting PersistAction) (p : Persisting)
    (a : PersistAction) : systemHistory (h ++ [(p, a)]) = systemHistory h ++ systemHistory [(p, a)] :=
  List.filterMap_append ..

theorem run_systemHistory {h : History Persisting PersistAction} {p : Persisting}
    (hrun : (persisting codec).Run h p) : controlPlane.Run (systemHistory h) p.system := by
  induction hrun with
  | start hinit => exact .start hinit.1
  | @snoc h p a p' _ hstep ih =>
    rw [systemHistory_snoc]
    cases a with
    | call c =>
      obtain ⟨system, hnext, rfl⟩ := next_call_iff.mp hstep
      exact ih.snoc hnext
    | start =>
      obtain ⟨_, rfl⟩ := next_start_iff.mp hstep
      rw [show systemHistory [(p, PersistAction.start)] = [] from rfl, List.append_nil]
      exact ih
    | persist =>
      rw [show systemHistory [(p, PersistAction.persist)] = [] from rfl, List.append_nil]
      obtain ⟨_, _, ⟨_, _, _, rfl⟩ | ⟨_, _, _, rfl⟩⟩ := next_persist_iff.mp hstep
      · exact ih
      · exact ih

theorem backed_of_run {h : History Persisting PersistAction} {p : Persisting}
    (hrun : (persisting codec).Run h p) : Backed p.system.store p.redis ∧
      ∀ run, p.run = some run → Carried p.system.store run := by
  induction hrun with
  | @start p hinit =>
    obtain ⟨_, hredis, hidle, _⟩ := hinit
    refine ⟨?_, fun run hsome => by rw [hidle] at hsome; cases hsome⟩
    rw [hredis]
    constructor <;> simp [Redis.Listed, empty, task?, getEvents, jobIdsOf]
  | @snoc h p a p' hbefore hstep ih =>
    obtain ⟨hbacked, hcarried⟩ := ih
    cases a with
    | call c =>
      obtain ⟨system, hnext, rfl⟩ := next_call_iff.mp hstep
      have hgrown := grown_of_step (wired_of_run (run_systemHistory hbefore)) hnext
      exact ⟨hbacked.grow hgrown, fun run hrun => (hcarried run hrun).grow hgrown⟩
    | start =>
      obtain ⟨_, rfl⟩ := next_start_iff.mp hstep
      refine ⟨hbacked, fun run hrun => ?_⟩
      rw [← Option.some.inj hrun]
      trivial
    | persist =>
      obtain ⟨run, hrun, houtcome⟩ := next_persist_iff.mp hstep
      have heffect := @persistEffect codec p.system.store p.redis run
      rcases houtcome with ⟨run', redis, houtcome, rfl⟩ | ⟨message, redis, houtcome, rfl⟩
      · rw [houtcome] at heffect
        refine ⟨heffect.backed hbacked (hcarried run hrun), fun run₁ hrun₁ => ?_⟩
        dsimp only at hrun₁ heffect
        rw [hrun₁] at heffect
        exact heffect.carried (hcarried run hrun)
      · rw [houtcome] at heffect
        exact ⟨heffect.backed hbacked (hcarried run hrun), fun _ hnone => by cases hnone⟩

end backed

end ShipyardCp.Store
