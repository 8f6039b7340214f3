import ShipyardCp.Store.Persistence

/-! Whether the background runs store what the store holds. -/

namespace ShipyardCp.Properties

open Types Domain Lib Store Machine PersistAction VersionedRegister

/-- The backend holds the tasks, logs, jobs and results of the store, and its sets list them. -/
structure Stored (codec : TaskCodec) (s : ControlPlane) (r : Redis) : Prop where
  tasks : ∀ id, r.task? id = (s.task? id).map codec.stringify
  listed : r.Listed
  events : ∀ id, r.getEvents id = s.log id
  jobs : ∀ id, r.jobs.get? id = s.jobs.get? id
  jobIds : ∀ taskId jobId, jobId ∈ r.jobIdsOf taskId ↔
    ∃ job, s.jobs.get? jobId = some job ∧ job.taskId = taskId
  results : ∀ id, r.results.get? id = s.results.get? id

section uninterrupted

variable {codec : TaskCodec} {s : ControlPlane} {r r' : Redis}

/-- What agrees with the store goes on doing so. -/
structure Keeps (codec : TaskCodec) (s : ControlPlane) (r r' : Redis) : Prop where
  tasks : ∀ id task, s.task? id = some task → r.task? id = some (codec.stringify task) →
    r'.task? id = some (codec.stringify task)
  events : ∀ id, r.getEvents id = s.log id → r'.getEvents id = s.log id
  jobs : ∀ id job, s.jobs.get? id = some job → r.jobs.get? id = some job → r'.jobs.get? id = some job
  results : ∀ id result, s.results.get? id = some result → r.results.get? id = some result →
    r'.results.get? id = some result

/-- The task at a place of the task loop is stored with its log and jobs. -/
def TaskDone (codec : TaskCodec) (s : ControlPlane) (r : Redis) (i : Nat) : Prop :=
  ∀ task, s.tasks.values[i]? = some task → r.task? task.taskId = some (codec.stringify task) ∧
    r.getEvents task.taskId = s.log task.taskId ∧
    ∀ job, s.jobs.get? job.jobId = some job → job.taskId = task.taskId →
      r.jobs.get? job.jobId = some job

def ResultDone (s : ControlPlane) (r : Redis) (i : Nat) : Prop :=
  ∀ result, s.results.values[i]? = some result → r.results.get? result.jobId = some result

/-- How far a run has come that started from this very store. -/
def Progress (codec : TaskCodec) (s : ControlPlane) (r : Redis) : Option PersistRun → Prop
  | some (.task i) => ∀ k < i, TaskDone codec s r k
  | some (.events i taskId) => (∀ k < i, TaskDone codec s r k) ∧
    ∃ task, s.tasks.values[i]? = some task ∧ task.taskId = taskId ∧
      r.task? taskId = some (codec.stringify task)
  | some (.jobsOf i taskId) => (∀ k < i, TaskDone codec s r k) ∧
    ∃ task, s.tasks.values[i]? = some task ∧ task.taskId = taskId ∧
      r.task? taskId = some (codec.stringify task) ∧ r.getEvents taskId = s.log taskId
  | some (.jobs i jobs) => (∀ k < i, TaskDone codec s r k) ∧
    (∀ job ∈ jobs, s.jobs.get? job.jobId = some job) ∧
    ∃ task, s.tasks.values[i]? = some task ∧ r.task? task.taskId = some (codec.stringify task) ∧
      r.getEvents task.taskId = s.log task.taskId ∧
      ∀ job, s.jobs.get? job.jobId = some job → job.taskId = task.taskId →
        job ∈ jobs ∨ r.jobs.get? job.jobId = some job
  | some (.result i) => (∀ k, TaskDone codec s r k) ∧ ∀ k < i, ResultDone s r k
  | none => (∀ k, TaskDone codec s r k) ∧ ∀ k, ResultDone s r k

theorem TaskDone.keep {i : Nat} (h : TaskDone codec s r i) (hkeeps : Keeps codec s r r') :
    TaskDone codec s r' i := by
  intro task htask
  obtain ⟨hstored, hlog, hjobs⟩ := h task htask
  refine ⟨hkeeps.tasks _ _ (getElem?_tasks htask) hstored, hkeeps.events _ hlog, ?_⟩
  exact fun job hjob hid => hkeeps.jobs _ _ hjob (hjobs job hjob hid)

theorem ResultDone.keep {i : Nat} (h : ResultDone s r i) (hkeeps : Keeps codec s r r') :
    ResultDone s r' i := by
  intro result hresult
  have hmem := s.results.mem_values_iff.mp (List.mem_of_getElem? hresult)
  exact hkeeps.results _ _ hmem (h result hresult)

variable (codec r)

theorem keeps_setTask {task : Task} (htask : s.task? task.taskId = some task) :
    Keeps codec s r (r.setTask codec.decode task.taskId (codec.stringify task)).2 := by
  obtain ⟨hevents, hjobs, _, hresults⟩ := @Redis.setTask_beside codec.decode r task.taskId
    (codec.stringify task)
  refine ⟨fun id task' htask' hstored => ?_, fun id hlog => ?_, ?_, ?_⟩
  · rw [(Redis.setTask_spec id).2]
    split_ifs with hid
    · subst hid
      rw [htask] at htask'
      obtain rfl := Option.some.inj htask'
      rw [hstored]
      exact if_pos (Or.inr (Or.inl rfl))
    · exact hstored
  · unfold Redis.getEvents at hlog ⊢
    rw [hevents]
    exact hlog
  · rw [hjobs]
    exact fun _ _ _ h => h
  · rw [hresults]
    exact fun _ _ _ h => h

theorem keeps_replaceEvents (taskId : String) :
    Keeps codec s r (r.replaceEvents taskId (s.log taskId)) := by
  obtain ⟨hjobs, _, hresults⟩ := r.replaceEvents_beside taskId (s.log taskId)
  refine ⟨fun id task _ hstored => ?_, fun id hlog => ?_, ?_, ?_⟩
  · rw [r.replaceEvents_task?]
    exact hstored
  · rw [r.replaceEvents_getEvents]
    split_ifs with hid
    · rw [hid]
    · exact hlog
  · rw [hjobs]
    exact fun _ _ _ h => h
  · rw [hresults]
    exact fun _ _ _ h => h

theorem keeps_setJob {job : WorkerJob} (hjob : s.jobs.get? job.jobId = some job) :
    Keeps codec s r (r.setJob job) := by
  refine ⟨fun _ _ _ h => h, fun _ h => h, fun id job' hget hstored => ?_, fun _ _ _ h => h⟩
  rw [r.setJob_get?]
  split_ifs with hid
  · rw [← hget, hid, hjob]
  · exact hstored

theorem keeps_setResult {result : WorkerResult}
    (hresult : s.results.get? result.jobId = some result) :
    Keeps codec s r (r.setResult result) := by
  refine ⟨fun _ _ _ h => h, fun _ h => h, fun _ _ _ h => h, fun id result' hget hstored => ?_⟩
  rw [r.setResult_get?]
  split_ifs with hid
  · rw [← hget, hid, hresult]
  · exact hstored

variable {codec r}

theorem lt_succ_cases {P : Nat → Prop} {i : Nat} (h : ∀ k < i, P k) (hi : P i) :
    ∀ k < i + 1, P k := by
  intro k hk
  rcases Nat.lt_succ_iff_lt_or_eq.mp hk with hlt | rfl
  · exact h k hlt
  · exact hi

theorem progress_of_persistEffect {run : PersistRun} {run' : Option PersistRun}
    (heffect : PersistEffect codec s r run (.ok run') r') (h : Progress codec s r (some run)) :
    Progress codec s r' run' := by
  cases heffect with
  | tasksEnd i hend =>
    refine ⟨fun k => ?_, fun k hk => absurd hk (Nat.not_lt_zero k)⟩
    by_cases hk : k < i
    · exact h k hk
    · intro task htask
      have hlen := List.getElem?_eq_none_iff.mp hend
      have hlt := (List.getElem?_eq_some_iff.mp htask).1
      omega
  | stored i task htask haccepts =>
    have hkeeps := keeps_setTask codec r (getElem?_tasks htask)
    refine ⟨fun k hk => (h k hk).keep hkeeps, task, htask, rfl, ?_⟩
    rw [(Redis.setTask_spec task.taskId).2, if_pos rfl]
    exact if_pos haccepts
  | events i taskId =>
    obtain ⟨hdone, task, htask, rfl, hstored⟩ := h
    have hkeeps := keeps_replaceEvents codec r (s := s) task.taskId
    refine ⟨fun k hk => (hdone k hk).keep hkeeps, task, htask, rfl, ?_, ?_⟩
    · exact hkeeps.tasks _ _ (getElem?_tasks htask) hstored
    · rw [r.replaceEvents_getEvents, if_pos rfl]
  | jobsOf i taskId =>
    obtain ⟨hdone, task, htask, rfl, hstored, hlog⟩ := h
    refine ⟨hdone, fun job hjob => (mem_getJobsForTask.mp hjob).1, task, htask, hstored, hlog, ?_⟩
    exact fun job hjob hid => Or.inl (mem_getJobsForTask.mpr ⟨hjob, hid⟩)
  | jobsEnd i =>
    obtain ⟨hdone, _, task, htask, hstored, hlog, hjobs⟩ := h
    refine lt_succ_cases hdone fun task' htask' => ?_
    rw [htask] at htask'
    obtain rfl := Option.some.inj htask'
    refine ⟨hstored, hlog, fun job hjob hid => ?_⟩
    rcases hjobs job hjob hid with hnil | hdone
    · cases hnil
    · exact hdone
  | job i job jobs =>
    obtain ⟨hdone, hknown, task, htask, hstored, hlog, hjobs⟩ := h
    have hjob := hknown job List.mem_cons_self
    have hkeeps := keeps_setJob codec r hjob
    refine ⟨fun k hk => (hdone k hk).keep hkeeps,
      fun job' hjob' => hknown job' (List.mem_cons_of_mem _ hjob'), task, htask, hstored, hlog, ?_⟩
    intro job' hjob' hid
    rcases hjobs job' hjob' hid with hmem | hdone
    · rcases List.mem_cons.mp hmem with rfl | hmem
      · rw [r.setJob_get?, if_pos rfl]
        exact Or.inr rfl
      · exact Or.inl hmem
    · exact Or.inr (hkeeps.jobs _ _ hjob' hdone)
  | resultsEnd i hend =>
    refine ⟨h.1, fun k => ?_⟩
    by_cases hk : k < i
    · exact h.2 k hk
    · intro result hresult
      have hlen := List.getElem?_eq_none_iff.mp hend
      have hlt := (List.getElem?_eq_some_iff.mp hresult).1
      omega
  | result i result hresult =>
    have hmem := s.results.mem_values_iff.mp (List.mem_of_getElem? hresult)
    have hkeeps := keeps_setResult codec r hmem
    refine ⟨fun k => (h.1 k).keep hkeeps,
      lt_succ_cases (fun k hk => (h.2 k hk).keep hkeeps) fun result' hresult' => ?_⟩
    rw [hresult] at hresult'
    obtain rfl := Option.some.inj hresult'
    rw [r.setResult_get?, if_pos rfl]

theorem stored_of_progress (hbacked : Backed s r) (hlogs : ∀ id, s.task? id = none → s.log id = [])
    (htasks : ∀ id job, s.jobs.get? id = some job → ∃ task, s.task? job.taskId = some task)
    (h : Progress codec s r none) : Stored codec s r := by
  have hdone : ∀ id task, s.task? id = some task → r.task? id = some (codec.stringify task) ∧
      r.getEvents id = s.log id ∧ ∀ job, s.jobs.get? job.jobId = some job → job.taskId = id →
        r.jobs.get? job.jobId = some job := by
    intro id task htask
    obtain rfl := s.task?_taskId htask
    obtain ⟨i, hi⟩ := List.mem_iff_getElem?.mp (s.tasks.mem_values_iff.mpr htask)
    exact h.1 i task hi
  have hjobs : ∀ id job, s.jobs.get? id = some job → r.jobs.get? id = some job := by
    intro id job hjob
    obtain rfl := s.jobs.key_of_get? hjob
    obtain ⟨task, htask⟩ := htasks _ _ hjob
    exact (hdone _ _ htask).2.2 job hjob rfl
  have hresults : ∀ id result, s.results.get? id = some result → r.results.get? id = some result := by
    intro id result hresult
    obtain rfl := s.results.key_of_get? hresult
    obtain ⟨i, hi⟩ := List.mem_iff_getElem?.mp (s.results.mem_values_iff.mpr hresult)
    exact h.2 i result hi
  have hsame : ∀ id, r.jobs.get? id = s.jobs.get? id := by
    intro id
    cases hjob : s.jobs.get? id with
    | some job => exact hjobs id job hjob
    | none =>
      apply Option.eq_none_iff_forall_ne_some.mpr
      intro job hstored
      obtain ⟨job', hjob', _⟩ := hbacked.jobs id job hstored
      rw [hjob] at hjob'
      cases hjob'
  refine ⟨fun id => ?_, hbacked.listed, fun id => ?_, hsame, fun taskId jobId => ?_, fun id => ?_⟩
  · cases htask : s.task? id with
    | some task => exact (hdone id task htask).1
    | none =>
      apply Option.eq_none_iff_forall_ne_some.mpr
      intro text hstored
      obtain ⟨task, htask'⟩ := hbacked.tasks id text hstored
      rw [htask] at htask'
      cases htask'
  · cases htask : s.task? id with
    | some task => exact (hdone id task htask).2.1
    | none =>
      rw [hlogs id htask]
      by_contra hevents
      obtain ⟨task, htask'⟩ := hbacked.events id hevents
      rw [htask] at htask'
      cases htask'
  · rw [hbacked.jobIds]
    simp only [hsame]
  · cases hresult : s.results.get? id with
    | some result => exact hresults id result hresult
    | none =>
      apply Option.eq_none_iff_forall_ne_some.mpr
      intro result hstored
      obtain ⟨result', hresult'⟩ := hbacked.results id result hstored
      rw [hresult] at hresult'
      cases hresult'

/-- What is left of a run over an unchanged store. -/
def remaining (s : ControlPlane) : PersistRun → Nat
  | .task i =>
    (s.tasks.values.length - i) * (s.jobs.values.length + 5) + s.results.values.length + 2
  | .events i _ => (s.tasks.values.length - (i + 1)) * (s.jobs.values.length + 5) +
      s.results.values.length + s.jobs.values.length + 6
  | .jobsOf i _ => (s.tasks.values.length - (i + 1)) * (s.jobs.values.length + 5) +
      s.results.values.length + s.jobs.values.length + 5
  | .jobs i jobs => (s.tasks.values.length - (i + 1)) * (s.jobs.values.length + 5) +
      s.results.values.length + jobs.length + 3
  | .result i => s.results.values.length - i

theorem remaining_lt {run run' : PersistRun}
    (heffect : PersistEffect codec s r run (.ok (some run')) r') :
    remaining s run' < remaining s run := by
  cases heffect with
  | tasksEnd i _ =>
    simp only [remaining]
    omega
  | stored i task htask _ =>
    have hlt := (List.getElem?_eq_some_iff.mp htask).1
    have hleft : s.tasks.values.length - i = s.tasks.values.length - (i + 1) + 1 := by omega
    simp only [remaining]
    rw [hleft, Nat.add_mul]
    omega
  | events i taskId =>
    simp only [remaining]
    omega
  | jobsOf i taskId =>
    have hlength : (s.getJobsForTask taskId).length ≤ s.jobs.values.length :=
      List.length_filter_le _ _
    simp only [remaining]
    omega
  | jobsEnd i =>
    simp only [remaining, List.length_nil]
    omega
  | job i job jobs =>
    simp only [remaining, List.length_cons]
    omega
  | result i result hresult =>
    have hlt := (List.getElem?_eq_some_iff.mp hresult).1
    simp only [remaining]
    omega

end uninterrupted

section runs

variable {codec : TaskCodec} {h : History Persisting PersistAction} {p p' : Persisting}

theorem run_ends (codec : TaskCodec) (p : Persisting) : ∃ h p', (persisting codec).Path p h p' ∧
    (∀ q ∈ h, q.2 = persist) ∧ p'.run = none := by
  cases hrun : p.run with
  | none => exact ⟨[], p, .nil, by simp, hrun⟩
  | some run =>
    induction hn : remaining p.system.store run using Nat.strong_induction_on generalizing p run with
    | _ n ih =>
      have heffect := @persistEffect codec p.system.store p.redis run
      cases hstep : persistStep codec p.system.store p.redis run with
      | mk outcome redis =>
        rw [hstep] at heffect
        cases outcome with
        | error message =>
          have hnext := next_persist_iff.mpr ⟨run, hrun, Or.inr ⟨message, redis, hstep, rfl⟩⟩
          exact ⟨_, _, .cons hnext .nil, by simp, rfl⟩
        | ok run' =>
          have hnext := next_persist_iff.mpr ⟨run, hrun, Or.inl ⟨run', redis, hstep, rfl⟩⟩
          cases run' with
          | none => exact ⟨_, _, .cons hnext .nil, by simp, rfl⟩
          | some run' =>
            have hless := hn ▸ remaining_lt heffect
            obtain ⟨h, p', hpath, hpersist, hidle⟩ :=
              ih _ hless { p with redis := redis, run := some run' } run' rfl rfl
            refine ⟨_, p', .cons hnext hpath, fun q hq => ?_, hidle⟩
            rcases List.mem_cons.mp hq with rfl | hq
            · rfl
            · exact hpersist q hq

theorem stored_of_uninterrupted {h₁ h₂ : History Persisting PersistAction} {p₁ : Persisting}
    (hrun : (persisting codec).Run (h₁ ++ (p₁, .start) :: h₂) p)
    (hpersist : ∀ q ∈ h₂, q.2 = persist) (hidle : p.run = none)
    (herrors : p.errors = []) : Stored codec p.system.store p.redis := by
  obtain ⟨p₂, _, hstart, hpath⟩ := hrun.split
  obtain ⟨_, rfl⟩ := next_start_iff.mp hstart
  have hprogress : p.system = p₁.system ∧
      (p.errors = [] → Progress codec p₁.system.store p.redis p.run) := by
    have hinit : p₁.system = p₁.system ∧ (p₁.errors = [] →
        Progress codec p₁.system.store p₁.redis (some (.task 0))) :=
      ⟨rfl, fun _ k hk => absurd hk (Nat.not_lt_zero k)⟩
    refine hpath.stable (C := fun _ a => a = persist)
      (P := fun q : Persisting => q.system = p₁.system ∧
        (q.errors = [] → Progress codec p₁.system.store q.redis q.run)) ?_ hpersist hinit
    intro q a q' hq ha hstep
    subst ha
    obtain ⟨run, hqrun, houtcome⟩ := next_persist_iff.mp hstep
    have heffect := @persistEffect codec q.system.store q.redis run
    rcases houtcome with ⟨run', redis, houtcome, rfl⟩ | ⟨message, redis, houtcome, rfl⟩
    · refine ⟨hq.1, fun hnone => ?_⟩
      have hbefore := hq.2 hnone
      rw [houtcome, hq.1] at heffect
      rw [hqrun] at hbefore
      exact progress_of_persistEffect heffect hbefore
    · exact ⟨hq.1, fun hnone => absurd hnone (by simp)⟩
  have hsystem := run_systemHistory hrun
  have hdone := hprogress.2 herrors
  rw [hidle, ← hprogress.1] at hdone
  exact stored_of_progress (backed_of_run hrun).1 (fun id => log_eq_nil_of_run hsystem)
    (wired_of_run hsystem).jobTask hdone

/-- The task of an id that a step of a run sends to the backend. -/
def sentTasks (taskId : String) (p : Persisting) : PersistAction → List Task
  | .persist =>
    match p.run with
    | some (.task i) => p.system.store.tasks.values[i]?.toList.filter fun t => t.taskId = taskId
    | _ => []
  | _ => []

def Succeeds (codec : TaskCodec) (previous next : Task) : Prop :=
  codec.stringify next = codec.stringify previous ∨ next.version = previous.version + 1

theorem accepts_iff_succeeds {previous next : Task} :
    VersionedRegister.Accepts (fun t => (codec.decode t).version)
      (some (codec.stringify previous)) (codec.stringify next) ↔ Succeeds codec previous next := by
  rw [accepts_some_iff, codec.decode_stringify, codec.decode_stringify]
  exact or_congr_left eq_comm

theorem isChain_append_iff {sent : List Task} {task : Task} (hsent : sent.IsChain (Succeeds codec)) :
    (sent ++ [task]).IsChain (Succeeds codec) ↔
      VersionedRegister.Accepts (fun t => (codec.decode t).version)
        (sent.getLast?.map codec.stringify) (codec.stringify task) := by
  rw [List.isChain_append]
  cases hlast : sent.getLast? with
  | none => simp [hsent, accepts_none]
  | some previous =>
    rw [Option.map_some, accepts_iff_succeeds]
    simp [hsent]

/-- While no run has failed, the backend holds what was sent last, and what was sent is a chain. -/
structure SentInOrder (codec : TaskCodec) (h : History Persisting PersistAction) (p : Persisting) :
    Prop where
  chain : p.errors = [] ↔ ∀ id, (written (sentTasks id) h).IsChain (Succeeds codec)
  last : p.errors = [] → ∀ id,
    p.redis.task? id = (written (sentTasks id) h).getLast?.map codec.stringify

theorem SentInOrder.quiet {a : PersistAction} (hsent : SentInOrder codec h p)
    (hnothing : ∀ id, sentTasks id p a = []) (herrors : p'.errors = p.errors)
    (hredis : ∀ id, p'.redis.task? id = p.redis.task? id) : SentInOrder codec (h ++ [(p, a)]) p' := by
  have hsame : ∀ id, written (sentTasks id) (h ++ [(p, a)]) = written (sentTasks id) h := by
    intro id
    rw [written_snoc, hnothing, List.append_nil]
  constructor
  · simpa only [hsame, herrors] using hsent.chain
  · simpa only [hsame, herrors, hredis] using hsent.last

theorem SentInOrder.send {a : PersistAction} {task : Task} (hsent : SentInOrder codec h p)
    (htask : ∀ id, sentTasks id p a = if task.taskId = id then [task] else [])
    (hredis : ∀ id, p'.redis.task? id = if id = task.taskId then
      write (fun t => (codec.decode t).version) (p.redis.task? task.taskId)
        (codec.stringify task) else p.redis.task? id)
    (herrors : p'.errors = [] ↔ p.errors = [] ∧
      VersionedRegister.Accepts (fun t => (codec.decode t).version) (p.redis.task? task.taskId)
        (codec.stringify task)) : SentInOrder codec (h ++ [(p, a)]) p' := by
  have hself : written (sentTasks task.taskId) (h ++ [(p, a)]) =
      written (sentTasks task.taskId) h ++ [task] := by
    rw [written_snoc, htask, if_pos rfl]
  have hother : ∀ id, id ≠ task.taskId → written (sentTasks id) (h ++ [(p, a)]) =
      written (sentTasks id) h := by
    intro id hid
    rw [written_snoc, htask, if_neg (Ne.symm hid), List.append_nil]
  constructor
  · rw [herrors]
    constructor
    · rintro ⟨hnone, haccepts⟩ id
      have hchain := hsent.chain.mp hnone
      by_cases hid : id = task.taskId
      · subst hid
        rw [hsent.last hnone] at haccepts
        rw [hself]
        exact (isChain_append_iff (hchain _)).mpr haccepts
      · rw [hother id hid]
        exact hchain id
    · intro hchain
      have hbefore : ∀ id, (written (sentTasks id) h).IsChain (Succeeds codec) := by
        intro id
        by_cases hid : id = task.taskId
        · subst hid
          have hlonger := hchain task.taskId
          rw [hself] at hlonger
          exact hlonger.left_of_append
        · rw [← hother id hid]
          exact hchain id
      have hnone := hsent.chain.mpr hbefore
      refine ⟨hnone, ?_⟩
      have hlonger := hchain task.taskId
      rw [hself] at hlonger
      rw [hsent.last hnone]
      exact (isChain_append_iff (hbefore _)).mp hlonger
  · intro hnone id
    have hbefore := herrors.mp hnone
    rw [hredis]
    split_ifs with hid
    · subst hid
      rw [hself, List.getLast?_append]
      exact if_pos hbefore.2
    · rw [hother id hid]
      exact hsent.last hbefore.1 id

theorem sentInOrder_of_run (hrun : (persisting codec).Run h p) : SentInOrder codec h p := by
  induction hrun with
  | start hinit =>
    obtain ⟨_, hredis, _, herrors⟩ := hinit
    refine ⟨iff_of_true herrors fun _ => .nil, fun _ _ => ?_⟩
    rw [hredis]
    rfl
  | @snoc h p a p' hbefore hstep ih =>
    cases a with
    | call c =>
      obtain ⟨system, _, rfl⟩ := next_call_iff.mp hstep
      exact ih.quiet (fun _ => rfl) rfl fun _ => rfl
    | start =>
      obtain ⟨_, rfl⟩ := next_start_iff.mp hstep
      exact ih.quiet (fun _ => rfl) rfl fun _ => rfl
    | persist =>
      obtain ⟨run, hprun, houtcome⟩ := next_persist_iff.mp hstep
      have hsends : ∀ i task, run = .task i → p.system.store.tasks.values[i]? = some task →
          ∀ id, sentTasks id p .persist = if task.taskId = id then [task] else [] := by
        rintro i task rfl htask id
        simp [sentTasks, hprun, htask, List.filter_singleton]
      have heffect := @persistEffect codec p.system.store p.redis run
      rcases houtcome with ⟨run', redis, houtcome, rfl⟩ | ⟨message, redis, houtcome, rfl⟩
      · rw [houtcome] at heffect
        dsimp only at heffect
        cases heffect with
        | tasksEnd i hend =>
          exact ih.quiet (fun id => by simp [sentTasks, hprun, hend]) rfl fun _ => rfl
        | stored i task htask haccepts =>
          exact ih.send (hsends i task rfl htask) (fun id => (Redis.setTask_spec id).2)
            (iff_self_and.mpr fun _ => haccepts)
        | events i taskId =>
          exact ih.quiet (fun id => by simp [sentTasks, hprun]) rfl
            fun id => p.redis.replaceEvents_task? _ id _
        | _ => exact ih.quiet (fun id => by simp [sentTasks, hprun]) rfl fun _ => rfl
      · rw [houtcome] at heffect
        dsimp only at heffect
        cases heffect with
        | conflict i task htask hrefused =>
          refine ih.send (hsends i task rfl htask) (fun id => (Redis.setTask_spec id).2) ?_
          exact iff_of_false (by simp) fun hboth => hrefused hboth.2

/-- Every run so far went through, a run left alone comes to its end, and a run that has ended with no
call since it started has stored what the store holds. -/
structure Converges (codec : TaskCodec) (h : History Persisting PersistAction) (p : Persisting) :
    Prop where
  succeeded : p.errors = []
  ends : ∃ h' p', (persisting codec).Path p h' p' ∧ (∀ q ∈ h', q.2 = persist) ∧ p'.run = none
  stored : ∀ h₁ p₁ h₂, h = h₁ ++ (p₁, .start) :: h₂ → (∀ q ∈ h₂, q.2 = persist) →
    p.run = none → Stored codec p.system.store p.redis

/-- Persistence converges over a run of the system exactly when each task sent to the backend has the
text of the task sent before it for its id, or the next version. -/
theorem persistence_converges_iff (hrun : (persisting codec).Run h p) : Converges codec h p ↔
    ∀ taskId, (written (sentTasks taskId) h).IsChain (Succeeds codec) := by
  rw [← (sentInOrder_of_run hrun).chain]
  constructor
  · exact fun hconverges => hconverges.succeeded
  · intro herrors
    refine ⟨herrors, run_ends codec p, fun h₁ p₁ h₂ hsplit hpersist hidle => ?_⟩
    subst hsplit
    exact stored_of_uninterrupted hrun hpersist hidle herrors

end runs

section samples

def taskStates : List TaskState :=
  [.queued, .planning, .planned, .developing, .devCompleted, .accepting, .accepted, .reworkRequired,
    .integrating, .integrated, .publishPendingApproval, .publishing, .published, .completed,
    .cancelled, .failed, .blocked]

def stateOf (text : List Char) : TaskState :=
  (taskStates.find? fun state => state.text.toList = text).getD .queued

/-- Texts that say no more of a task than the script reads: its version in strokes and its state. -/
def sampleCodec : TaskCodec where
  stringify task := String.ofList (List.replicate task.version '1' ++ task.state.text.toList)
  decode text := ⟨(text.toList.takeWhile (· = '1')).length, stateOf (text.toList.dropWhile (· = '1'))⟩
  decode_stringify task := by
    have hstate : task.state.text.toList.takeWhile (· = '1') = [] ∧
        task.state.text.toList.dropWhile (· = '1') = task.state.text.toList ∧
        stateOf task.state.text.toList = task.state := by
      cases task.state <;> decide
    have hstrokes : ∀ c ∈ List.replicate task.version '1', decide (c = '1') = true := by
      intro c hc
      simp [List.eq_of_mem_replicate hc]
    rw [String.toList_ofList, List.takeWhile_append_of_pos hstrokes,
      List.dropWhile_append_of_pos hstrokes, hstate.1, hstate.2.1, hstate.2.2]
    simp

abbrev PersistScript := List (Persisting → Option PersistAction)

def emptyBackend : Persisting := ⟨.initial ⟨20, 200, .empty, .empty⟩ "executor", .empty, none, []⟩

theorem exists_persisting_of_play (script : PersistScript)
    (test : History Persisting PersistAction × Persisting → Bool)
    (h : (replay (Persisting.next sampleCodec) emptyBackend script).any test = true) :
    ∃ h p, (persisting sampleCodec).Run h p ∧ test (h, p) = true :=
  exists_run_of_replay ⟨⟨20, 200, "executor", rfl⟩, rfl, rfl, rfl⟩ h

def callsOf (script : Script) : PersistScript := script.map fun line p => (line p.system).map .call

def runOf (steps : Nat) : PersistScript :=
  (fun _ => some .start) :: List.replicate steps fun _ => some .persist

def dispatchedScript : PersistScript := callsOf [line "0" (.createTask sampleRequest)] ++ runOf 6 ++
    callsOf [dispatchLine "0" .plan, settleLine submitted] ++ runOf 7

def storesDispatched (p : Persisting) : Bool :=
  p.run.isNone && p.errors.isEmpty && (p.redis.task? "task_0" == some "1planning") &&
    (p.redis.jobs.get? "job_0").isSome

theorem dispatched_task_stored : ∃ h p, (persisting sampleCodec).Run h p ∧
    storesDispatched p = true ∧ Converges sampleCodec h p := by
  obtain ⟨h, p, hrun, htest⟩ := exists_persisting_of_play dispatchedScript
    (fun q => storesDispatched q.2) (by decide +kernel)
  have herrors : p.errors = [] := by
    simp only [storesDispatched, Bool.and_eq_true, List.isEmpty_iff] at htest
    exact htest.1.1.2
  have hchain := (sentInOrder_of_run hrun).chain.mp herrors
  exact ⟨h, p, hrun, htest, (persistence_converges_iff hrun).mpr hchain⟩

def plannedScript : PersistScript :=
  dispatchedScript ++ callsOf [line "0" (.applyResult "task_0" (sampleResult "job_0" .succeeded))] ++
    runOf 1

theorem persistence_conflicts : ∃ codec h p, (persisting codec).Run h p ∧
    p.errors = ["VERSION_CONFLICT: task task_0"] ∧ ¬Converges codec h p := by
  obtain ⟨h, p, hrun, htest⟩ := exists_persisting_of_play plannedScript
    (fun q => decide (q.2.errors = ["VERSION_CONFLICT: task task_0"])) (by decide +kernel)
  have herrors : p.errors = ["VERSION_CONFLICT: task task_0"] := of_decide_eq_true htest
  refine ⟨sampleCodec, h, p, hrun, herrors, fun hconverges => ?_⟩
  rw [hconverges.succeeded] at herrors
  cases herrors

end samples

end ShipyardCp.Properties
