import ShipyardCp.Lib.VersionedRegister
import ShipyardCp.Store.References

/-! Whether the version of a task counts the changes of its stored content. -/

namespace ShipyardCp.Properties

open Types Domain Lib Store ControlPlane

def taskContent (task : Task) : Task := { task with version := 0, updatedAt := 0 }

/-- What manual acceptance stores, one after another. -/
def acceptanceWrites (env : Env) (task : Task) (request : CompleteAcceptanceRequest) : List Task :=
  if task.state ≠ .accepting then []
  else
    (if writesChecklist task request then [checklistWritten env task request] else []) ++
    (match acceptanceRefusal env.now task request with
    | some _ => []
    | none => [transitioned env (acceptedCandidate env.now task request) .accepted])

def orphanWrites (env : Env) (s : ControlPlane) (task : Task) : List Task :=
  match orphanBlock env s task with
  | none => []
  | some block => [transitioned env task .blocked, orphanedTask env task block]

def storedAfter (id : String) (sys : System) (call : Call) : List Task :=
  ((sys.perform call).store.task? id).toList

/-- The tasks a call stores under an id, one after another; only manual acceptance and the orphan
scan store a task twice. -/
def storedBy (id : String) (sys : System) (call : Call) : List Task :=
  match call.op with
  | .completeAcceptance taskId request =>
    if taskId = id then
      (sys.store.task? id).toList.flatMap fun task => acceptanceWrites call.env task request
    else []
  | .scanForOrphans => (sys.store.task? id).toList.flatMap (orphanWrites call.env sys.store)
  | _ => storedAfter id sys call

/-- The call changes the progress of a run. -/
def changesProgress (sys : System) (call : Call) : Bool :=
  match call.op with
  | .updateIntegrationProgress taskId progress => (sys.store.task? taskId).any fun task =>
    task.state = .integrating &&
      task.integrationRun.any fun run => run.progress ≠ some (clampProgress progress)
  | .updatePublishProgress taskId progress => (sys.store.task? taskId).any fun task =>
    task.state = .publishing &&
      task.publishRun.any fun run => run.progress ≠ some (clampProgress progress)
  | _ => false

/-- The call checks items of the checklist and accepts the task at once. -/
def acceptsWithItems (sys : System) (call : Call) : Bool :=
  match call.op with
  | .completeAcceptance taskId request => (sys.store.task? taskId).any fun task =>
    task.state = .accepting && writesChecklist task request &&
      (acceptanceRefusal call.env.now task request).isNone
  | _ => false

section stored

variable {sys sys' : System} {call : Call} {id : String}

theorem completeAcceptance_task? (s : ControlPlane) (env : Env) (taskId : String)
    (request : CompleteAcceptanceRequest) (id : String) :
    (finalState (completeAcceptance env taskId request) s).task? id =
      if taskId = id then
        (s.task? id).bind fun task => (acceptanceWrites env task request).getLast?.or (some task)
      else s.task? id := by
  refine finalState_rec (completeAcceptance env taskId request) s ?_
  simp only [completeAcceptance, wp_bind, wp_requireTask]
  by_cases hid : taskId = id
  swap
  · cases htask : s.task? taskId with
    | none => simp [hid]
    | some task =>
      have hkey := s.task?_taskId htask
      have hne : id ≠ task.taskId := fun h => hid (hkey.symm.trans h.symm)
      by_cases hstate : task.state = .accepting
      swap
      · simp [hstate, hid]
      have hcan : canTransition (acceptedCandidate env.now task request).state .accepted = true := by
        simp [acceptedCandidate, hstate, canTransition, allowedTransitions]
      have hne' : id ≠ (acceptedCandidate env.now task request).taskId := hne
      cases hrefusal : acceptanceRefusal env.now task request <;>
      by_cases hwrites : writesChecklist task request = true <;>
      simp [hstate, hwrites, htask, hrefusal, hcan, hid, hne, hne', setTask_task?, commit_task?]
  · subst hid
    cases htask : s.task? taskId with
    | none => simp [htask]
    | some task =>
      have hkey := s.task?_taskId htask
      by_cases hstate : task.state = .accepting
      swap
      · simp [hstate, htask, acceptanceWrites]
      have hcan : canTransition (acceptedCandidate env.now task request).state .accepted = true := by
        simp [acceptedCandidate, hstate, canTransition, allowedTransitions]
      have hkey' : (acceptedCandidate env.now task request).taskId = taskId := hkey
      cases hrefusal : acceptanceRefusal env.now task request <;>
      by_cases hwrites : writesChecklist task request = true <;>
      simp [hstate, hwrites, htask, hrefusal, hcan, hkey, hkey', acceptanceWrites, checklistWritten,
        setTask_task?, commit_task?]

theorem scanForOrphans_task? (s : ControlPlane) (env : Env) (id : String) :
    (finalState (scanForOrphans env) s).task? id =
      (s.task? id).bind fun task => (orphanWrites env s task).getLast?.or (some task) := by
  have hchange := (finalState_scanForOrphans env s).2 id
  dsimp only at hchange
  cases htask : s.task? id with
  | none =>
    rw [htask] at hchange
    exact hchange.1
  | some task =>
    rw [htask, Option.bind_some] at hchange
    rw [Option.bind_some, orphanWrites]
    cases hblock : orphanBlock env s task with
    | none =>
      rw [hblock] at hchange
      exact hchange.1
    | some block =>
      rw [hblock] at hchange
      obtain ⟨task', n, hstored, _, _, htask', _⟩ := hchange
      obtain rfl : task = task' := Option.some.inj (htask.symm.trans hstored)
      exact htask'

theorem getLast?_storedAfter (id : String) (hstep : controlPlane.step sys call sys') :
    ((sys.store.task? id).toList ++ storedAfter id sys call).getLast? = sys'.store.task? id := by
  have hafter : storedAfter id sys call = (sys'.store.task? id).toList := by
    rw [(step_iff.mp hstep).2, storedAfter]
  rw [hafter]
  cases htask : sys.store.task? id with
  | none => cases sys'.store.task? id <;> rfl
  | some task =>
    obtain ⟨task', htask'⟩ := task?_persists hstep htask
    rw [htask']
    rfl

theorem getLast?_storedBy (hstep : controlPlane.step sys call sys') :
    ((sys.store.task? id).toList ++ storedBy id sys call).getLast? = sys'.store.task? id := by
  have hlast := getLast?_storedAfter id hstep
  obtain ⟨_, rfl⟩ := step_iff.mp hstep
  unfold storedBy
  split
  · next taskId request hop =>
    rw [System.perform, hop]
    refine Eq.trans ?_ (completeAcceptance_task? sys.store call.env taskId request id).symm
    split_ifs with hid
    · cases sys.store.task? id with
      | none => rfl
      | some task => simp [List.getLast?_cons]
    · cases sys.store.task? id <;> rfl
  · next hop =>
    rw [System.perform, hop]
    refine Eq.trans ?_ (scanForOrphans_task? sys.store call.env id).symm
    cases sys.store.task? id with
    | none => rfl
    | some task => simp [List.getLast?_cons]
  · exact hlast

end stored

section versions

variable {sys sys' : System} {call : Call} {id : String} {task task' : Task}

abbrev TaskGrows : Task → Task → Prop := ChangeCounter.Grows Task.version taskContent

abbrev TaskIncreases : Task → Task → Prop := ChangeCounter.Increases Task.version taskContent

theorem withPolicyWarnings_version (task : Task) (warnings : List String) :
    (withPolicyWarnings task warnings).version = task.version := by
  unfold withPolicyWarnings
  split_ifs <;> rfl

theorem version_lt_of_moved {event : StateTransitionEvent} (hmove : Moved call id task task' event) :
    task.version < task'.version := by
  have hnext : ∀ {moved : Task} {toState : TaskState}, moved.version = task.version →
      task.version < (transitioned call.env moved toState).version := by
    intro moved toState hversion
    rw [transitioned_version, hversion]
    exact Nat.lt_succ_self _
  cases hmove with
  | integrationEnded _ _ _ _ _ _ hended => cases hended <;> exact hnext rfl
  | publish _ _ _ _ _ _ _ hpublish =>
    cases hpublish with
    | denied _ => exact hnext rfl
    | pending warnings _ _ => exact hnext (withPolicyWarnings_version task warnings)
    | started warnings _ _ => exact hnext (withPolicyWarnings_version task warnings)
  | timedOut updatedTask reason n _ htimed =>
    obtain ⟨_, _, _, _, _, _, _, rfl⟩ := timedOut_eq_some htimed
    exact hnext rfl
  | orphaned resumeState reason n _ _ _ =>
    rw [applyTaskUpdate_version, transitioned_version]
    exact Nat.lt_succ_of_lt (Nat.lt_succ_self _)
  | _ => exact hnext rfl

theorem version_lt_of_answered (a : ResultAnswer) (env : Env) : task.version < (a.resultTask env task).version := by
  unfold ResultAnswer.resultTask
  split
  · exact Nat.lt_succ_self _
  · exact Nat.lt_succ_of_lt (Nat.lt_succ_self _)

theorem grows_of_patched (hstored : sys.store.task? id = some task)
    (hprogress : changesProgress sys call = false) (hpatch : Patched call id task task') :
    TaskGrows task task' := by
  cases hpatch with
  | checklist request _ _ _ => exact Or.inl (Nat.lt_succ_self _)
  | integrationProgress progress run hop hstate hrun =>
    have hsame : run.progress = some (clampProgress progress) := by
      simpa [changesProgress, hop, hstored, hstate, hrun] using hprogress
    refine Or.inr ⟨rfl, ?_⟩
    rw [integrationProgressed, ← hsame, ← hrun]
    rfl
  | publishProgress progress run hop hstate hrun =>
    have hsame : run.progress = some (clampProgress progress) := by
      simpa [changesProgress, hop, hstored, hstate, hrun] using hprogress
    refine Or.inr ⟨rfl, ?_⟩
    rw [publishProgressed, ← hsame, ← hrun]
    rfl
  | references _ _ _ => exact Or.inl (Nat.lt_succ_self _)

theorem grows_of_step (hsync : Synchronous sys) (hprogress : changesProgress sys call = false)
    (hstep : controlPlane.step sys call sys') (hstored : sys.store.task? id = some task)
    (hstored' : sys'.store.task? id = some task') : TaskGrows task task' := by
  have heffect := taskEffect_of_step hstep id
  rw [hstored, hstored'] at heffect
  generalize sys.store.log id = log, sys'.store.log id = log' at heffect
  have hsnapshot : ∀ d ∈ sys.dispatching, d.task.taskId = id → d.task = task := by
    rintro d hd rfl
    exact Option.some.inj ((hsync.current d hd).symm.trans hstored)
  cases heffect with
  | kept => exact ChangeCounter.grows_refl _ _ _
  | recorded _ _ event _ _ _ _ => exact Or.inl (Nat.lt_succ_self _)
  | moved _ _ _ event hmove => exact Or.inl (version_lt_of_moved hmove)
  | patched _ _ _ hpatch => exact grows_of_patched hstored hprogress hpatch
  | answered _ _ result job a _ _ _ _ _ _ =>
    exact Or.inl (version_lt_of_answered a _)
  | dispatched _ _ d backend reason _ hmem hid _ =>
    rw [← hsnapshot d hmem hid]
    exact Or.inl (Nat.lt_succ_self _)
  | refused _ _ d error failure _ _ _ hmem hid _ =>
    rw [← hsnapshot d hmem hid]
    exact Or.inl (Nat.lt_succ_self _)

theorem isChain_storedAfter (hsync : Synchronous sys) (hprogress : changesProgress sys call = false)
    (hstep : controlPlane.step sys call sys') (id : String) :
    ((sys.store.task? id).toList ++ storedAfter id sys call).IsChain TaskGrows := by
  obtain ⟨_, rfl⟩ := step_iff.mp hstep
  unfold storedAfter
  cases hstored : sys.store.task? id with
  | none => cases (sys.perform call).store.task? id <;> simp
  | some task =>
    cases hstored' : (sys.perform call).store.task? id with
    | none => simp
    | some task' => simpa using grows_of_step hsync hprogress hstep hstored hstored'

theorem isChain_acceptanceWrites (env : Env) (request : CompleteAcceptanceRequest)
    (honce : (decide (task.state = .accepting) && writesChecklist task request &&
      (acceptanceRefusal env.now task request).isNone) = false) :
    (task :: acceptanceWrites env task request).IsChain TaskGrows := by
  have hnext : ∀ t : Task, t.version = task.version + 1 → TaskGrows task t :=
    fun t ht => Or.inl (by rw [ht]; exact Nat.lt_succ_self _)
  unfold acceptanceWrites
  by_cases hstate : task.state = .accepting
  swap
  · simp [hstate]
  cases hrefusal : acceptanceRefusal env.now task request with
  | some message =>
    by_cases hwrites : writesChecklist task request = true
    · simpa [hstate, hwrites] using hnext _ rfl
    · simp [hstate, hwrites]
  | none =>
    have hwrites : writesChecklist task request = false := by
      simpa [hstate, hrefusal] using honce
    simpa [hstate, hwrites] using hnext _ rfl

theorem isChain_storedBy (hsync : Synchronous sys) (hprogress : changesProgress sys call = false)
    (honce : acceptsWithItems sys call = false) (hstep : controlPlane.step sys call sys')
    (id : String) : ((sys.store.task? id).toList ++ storedBy id sys call).IsChain TaskGrows := by
  have hafter := isChain_storedAfter hsync hprogress hstep id
  unfold storedBy
  split
  · next taskId request hop =>
    split_ifs with hid
    · subst hid
      cases hstored : sys.store.task? taskId with
      | none => simp
      | some task =>
        simpa using isChain_acceptanceWrites call.env request
          (by simpa [acceptsWithItems, hop, hstored] using honce)
    · cases sys.store.task? id <;> simp
  · cases hstored : sys.store.task? id with
    | none => simp
    | some task =>
      have hwrites : (task :: orphanWrites call.env sys.store task).IsChain TaskGrows := by
        unfold orphanWrites
        split
        · simp
        · have h₁ : ∀ t : Task, t.version = task.version + 1 → TaskGrows task t :=
            fun t ht => Or.inl (by rw [ht]; exact Nat.lt_succ_self _)
          have h₂ : ∀ t t' : Task, t'.version = t.version + 1 → TaskGrows t t' :=
            fun t t' ht => Or.inl (by rw [ht]; exact Nat.lt_succ_self _)
          simpa using ⟨h₁ _ rfl, h₂ _ _ rfl⟩
      simpa using hwrites
  · exact hafter

theorem taskContent_eq_of_storedAfter {id : String} {task after : Task}
    (h : ((sys.store.task? id).toList ++ storedAfter id sys call).IsChain TaskIncreases)
    (hstored : sys.store.task? id = some task) (hafter : (sys.perform call).store.task? id = some after)
    (hversion : after.version = task.version) : taskContent task = taskContent after := by
  rw [storedAfter, hafter, hstored] at h
  have hlink : TaskIncreases task after := by simpa using h
  by_contra hne
  exact absurd (hlink hne) (Nat.lt_irrefl _ <| hversion ▸ ·)

theorem not_changesProgress (hstep : controlPlane.step sys call sys')
    (h : ∀ id, ((sys.store.task? id).toList ++ storedAfter id sys call).IsChain TaskIncreases) :
    changesProgress sys call = false := by
  by_contra hchanges
  rw [Bool.not_eq_false] at hchanges
  obtain ⟨env, op⟩ := call
  cases op with
  | updateIntegrationProgress taskId progress =>
    obtain ⟨task, hstored, htest⟩ := Option.any_eq_true _ _ |>.mp hchanges
    rw [Bool.and_eq_true, decide_eq_true_eq] at htest
    obtain ⟨run, hrun, hne⟩ := Option.any_eq_true _ _ |>.mp htest.2
    have hfinal : (finalState (updateIntegrationProgress env taskId progress) sys.store).task?
        taskId = some (integrationProgressed env task run progress) := by
      have hkey := sys.store.task?_taskId hstored
      refine finalState_rec (updateIntegrationProgress env taskId progress) sys.store ?_
      simp [updateIntegrationProgress, hstored, htest.1, hrun, setTask_task?, hkey,
        integrationProgressed]
    have hruns := congrArg Task.integrationRun (taskContent_eq_of_storedAfter (h taskId) hstored hfinal rfl)
    rw [show (taskContent task).integrationRun = some run from hrun] at hruns
    have hprogress := congrArg IntegrationRun.progress (Option.some.inj hruns)
    simp [hprogress] at hne
  | updatePublishProgress taskId progress =>
    obtain ⟨task, hstored, htest⟩ := Option.any_eq_true _ _ |>.mp hchanges
    rw [Bool.and_eq_true, decide_eq_true_eq] at htest
    obtain ⟨run, hrun, hne⟩ := Option.any_eq_true _ _ |>.mp htest.2
    have hfinal : (finalState (updatePublishProgress env taskId progress) sys.store).task?
        taskId = some (publishProgressed env task run progress) := by
      have hkey := sys.store.task?_taskId hstored
      refine finalState_rec (updatePublishProgress env taskId progress) sys.store ?_
      simp [updatePublishProgress, hstored, htest.1, hrun, setTask_task?, hkey, publishProgressed]
    have hruns := congrArg Task.publishRun (taskContent_eq_of_storedAfter (h taskId) hstored hfinal rfl)
    rw [show (taskContent task).publishRun = some run from hrun] at hruns
    have hprogress := congrArg PublishRun.progress (Option.some.inj hruns)
    simp [hprogress] at hne
  | _ => cases hchanges

theorem not_acceptsWithItems
    (h : ∀ id, ((sys.store.task? id).toList ++ storedBy id sys call).IsChain TaskIncreases) :
    acceptsWithItems sys call = false := by
  by_contra haccepts
  rw [Bool.not_eq_false] at haccepts
  obtain ⟨env, op⟩ := call
  cases op with
  | completeAcceptance taskId request =>
    obtain ⟨task, hstored, htest⟩ := Option.any_eq_true _ _ |>.mp haccepts
    simp only [Bool.and_eq_true, decide_eq_true_eq, Option.isNone_iff_eq_none] at htest
    obtain ⟨⟨hstate, hwrites⟩, hrefusal⟩ := htest
    have hchain := h taskId
    simp only [storedBy, if_true, hstored, Option.toList_some, List.flatMap_cons, List.flatMap_nil,
      List.append_nil, acceptanceWrites, hstate, ne_eq, not_true_eq_false, if_false, hwrites,
      hrefusal, List.cons_append, List.nil_append, List.isChain_cons_cons] at hchain
    refine absurd (hchain.2.1 fun hsame => ?_) (Nat.lt_irrefl _)
    have hstates := congrArg Task.state hsame
    rw [show (taskContent (checklistWritten env task request)).state = .accepting from hstate]
      at hstates
    cases hstates
  | _ => cases haccepts

end versions

section runs

variable {h : History System Call} {sys : System}

def CountsChanges (writes : String → System → Call → List Task) (h : History System Call) : Prop :=
  ∀ id, ChangeCounter.Counts Task.version taskContent (Machine.written (writes id) h)

theorem task?_of_fresh (hfresh : IsFresh sys) (id : String) : sys.store.task? id = none := by
  obtain ⟨_, _, _, rfl⟩ := hfresh
  rfl

theorem step_of_mem (hrun : controlPlane.Run h sys) (hseq : Machine.Steps Sequential h)
    {p : System × Call} (hp : p ∈ h) :
    Synchronous p.1 ∧ ∃ sys', controlPlane.step p.1 p.2 sys' := by
  obtain ⟨h₁, h₂, rfl⟩ := List.append_of_mem hp
  obtain ⟨s₁, hrun₁, hstep, _⟩ := hrun.split
  rw [Machine.steps_append] at hseq
  exact ⟨synchronous_of_run hrun₁ hseq.1, s₁, hstep⟩

theorem countsChanges_iff {writes : String → System → Call → List Task}
    {C : System → Call → Prop} (hrun : controlPlane.Run h sys)
    (hwrites : ∀ id s a s', controlPlane.step s a s' →
      ((s.store.task? id).toList ++ writes id s a).getLast? = s'.store.task? id)
    (hgrows : ∀ p ∈ h, C p.1 p.2 → ∀ id,
      ((p.1.store.task? id).toList ++ writes id p.1 p.2).IsChain TaskGrows)
    (honly : ∀ p ∈ h, (∀ id,
      ((p.1.store.task? id).toList ++ writes id p.1 p.2).IsChain TaskIncreases) → C p.1 p.2) :
    CountsChanges writes h ↔ Machine.Steps C h := by
  constructor
  · intro hcounts p hp
    refine honly p hp fun id => ?_
    exact (hrun.isChain_written_iff (fun s => s.store.task? id)
      (fun s hs => task?_of_fresh hs id) (hwrites id)).mp (hcounts id).increases p hp
  · intro hsteps id
    refine ChangeCounter.counts_of_isChain ?_
    exact (hrun.isChain_written_iff (fun s => s.store.task? id)
      (fun s hs => task?_of_fresh hs id) (hwrites id)).mpr fun p hp => hgrows p hp (hsteps p hp) id

/-- A sequential run counts every change from call to call exactly when none of its calls changes the
progress of a run, and counts every write exactly when moreover no manual acceptance checks items and
accepts at once. -/
theorem version_counts_iff (hrun : controlPlane.Run h sys) (hseq : Machine.Steps Sequential h) :
    (CountsChanges storedAfter h ↔
      Machine.Steps (fun sys call => changesProgress sys call = false) h) ∧
    (CountsChanges storedBy h ↔ Machine.Steps (fun sys call =>
      changesProgress sys call = false ∧ acceptsWithItems sys call = false) h) := by
  constructor
  · refine countsChanges_iff hrun (fun id _ _ _ => getLast?_storedAfter id) ?_ ?_
    · intro p hp hprogress id
      obtain ⟨hsync, _, hstep⟩ := step_of_mem hrun hseq hp
      exact isChain_storedAfter hsync hprogress hstep id
    · intro p hp hchains
      obtain ⟨_, _, hstep⟩ := step_of_mem hrun hseq hp
      exact not_changesProgress hstep hchains
  · refine countsChanges_iff hrun (fun id _ _ _ => getLast?_storedBy) ?_ ?_
    · intro p hp hcalls id
      obtain ⟨hsync, _, hstep⟩ := step_of_mem hrun hseq hp
      exact isChain_storedBy hsync hcalls.1 hcalls.2 hstep id
    · intro p hp hchains
      obtain ⟨_, _, hstep⟩ := step_of_mem hrun hseq hp
      refine ⟨?_, not_acceptsWithItems hchains⟩
      by_cases hop : ∃ taskId progress, p.2.op = .updateIntegrationProgress taskId progress ∨
          p.2.op = .updatePublishProgress taskId progress
      · refine not_changesProgress hstep fun id => ?_
        have hchain := hchains id
        obtain ⟨taskId, progress, hop | hop⟩ := hop
        · simpa only [storedBy, hop] using hchain
        · simpa only [storedBy, hop] using hchain
      · unfold changesProgress
        split
        · next taskId progress heq => exact absurd ⟨taskId, progress, Or.inl heq⟩ hop
        · next taskId progress heq => exact absurd ⟨taskId, progress, Or.inr heq⟩ hop
        · rfl

def recordedAcceptanceScript : Script :=
  acceptingScript sampleRequest ++ [recordLine .accepting .accepted,
    line "3" (.integrate "task_0" "sha"),
    line "4" (.completeIntegrate "task_0" ⟨true, some "head", none, none, none⟩)]

def isIntegrated (sys : System) : Bool :=
  (sys.store.task? "task_0").any fun task => task.state = .integrated

theorem integration_counts_changes : ∃ h sys, controlPlane.Run h sys ∧ isIntegrated sys = true ∧
    CountsChanges storedBy h := by
  obtain ⟨h, sys, hrun, htest⟩ := exists_run_of_play recordedAcceptanceScript
    (fun p => isIntegrated p.2 && decide (∀ step ∈ p.1, Sequential step.1 step.2 ∧
      changesProgress step.1 step.2 = false ∧ acceptsWithItems step.1 step.2 = false))
    (by decide +kernel)
  rw [Bool.and_eq_true, decide_eq_true_eq] at htest
  refine ⟨h, sys, hrun, htest.1, (version_counts_iff hrun fun p hp => (htest.2 p hp).1).2.mpr ?_⟩
  exact fun p hp => (htest.2 p hp).2

def progressScript : Script := acceptingScript sampleRequest ++ [recordLine .accepting .accepted,
    line "3" (.integrate "task_0" "sha"), line "4" (.updateIntegrationProgress "task_0" 50)]

def hasAmbiguousVersion (history : List Task) : Bool :=
  history.any fun task => history.any fun task' =>
    task.version = task'.version && taskContent task ≠ taskContent task'

/-- The progress of an integration changes its task under the version it has. -/
theorem version_not_counts : ¬∀ h sys, controlPlane.Run h sys → Machine.Steps Sequential h →
    CountsChanges storedAfter h := by
  intro hcounts
  obtain ⟨h, sys, hrun, htest⟩ := exists_run_of_play progressScript
    (fun p => decide (∀ step ∈ p.1, Sequential step.1 step.2) &&
      hasAmbiguousVersion (Machine.written (storedAfter "task_0") p.1))
    (by decide +kernel)
  rw [Bool.and_eq_true, decide_eq_true_eq] at htest
  obtain ⟨task, htask, hambiguous⟩ := List.any_eq_true.mp htest.2
  obtain ⟨task', htask', hne⟩ := List.any_eq_true.mp hambiguous
  simp only [Bool.and_eq_true, decide_eq_true_eq] at hne
  exact hne.2 ((hcounts h sys hrun htest.1 "task_0").agree task htask task' htask' hne.1)

end runs

end ShipyardCp.Properties
