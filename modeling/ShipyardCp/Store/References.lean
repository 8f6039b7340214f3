import ShipyardCp.Store.Application
import ShipyardCp.Store.Wiring

/-! Sequential runs: a dispatch that has begun settles before any other call is made. Then the task
it read is still the stored one when it writes. -/

namespace ShipyardCp.Store

open Types Domain Lib

def endsDispatch : Op → Bool
  | .settleDispatch _ _ => true
  | _ => false

def Sequential (sys : System) (call : Call) : Prop :=
  sys.dispatching = [] ∨ endsDispatch call.op = true

instance : DecidableRel Sequential := fun _ _ => inferInstanceAs (Decidable (_ ∨ _))

/-- Every waiting dispatch has read the stored task. -/
structure Synchronous (sys : System) : Prop where
  alone : sys.dispatching.length ≤ 1
  current : ∀ d ∈ sys.dispatching, sys.store.task? d.task.taskId = some d.task

variable {sys sys' : System} {call : Call}

theorem Sequential.idle (h : Sequential sys call)
    (hop : ∀ d submission, call.op ≠ .settleDispatch d submission) : sys.dispatching = [] := by
  rcases h with hidle | hsettle
  · exact hidle
  · unfold endsDispatch at hsettle
    split at hsettle
    · next d submission heq => exact absurd heq (hop d submission)
    · cases hsettle

theorem beginDispatch_tasks {env : Env} {taskId : String} {request : DispatchRequest}
    (hbegun : (sys.beginDispatch env taskId request).dispatching ≠ sys.dispatching) :
    (sys.beginDispatch env taskId request).store.tasks = sys.store.tasks := by
  have hwp : wp (beginDispatch env taskId request) (returnsWith fun _ s' =>
      s'.tasks = sys.store.tasks) sys.store :=
    wp_beginDispatch (fun _ => trivial) (fun _ _ _ _ _ _ => trivial) fun _ _ _ _ _ _ _ => rfl
  unfold wp at hwp
  unfold System.beginDispatch at hbegun ⊢
  cases hrun : (beginDispatch env taskId request).run sys.store with
  | ok d store =>
    rw [hrun] at hwp
    exact hwp
  | error e store =>
    rw [hrun] at hbegun
    exact absurd rfl hbegun

theorem erase_eq_nil_of_alone {d : PendingDispatch} (h : sys.dispatching.length ≤ 1)
    (hd : d ∈ sys.dispatching) : sys.dispatching.erase d = [] := by
  have hpos := List.length_pos_of_mem hd
  refine List.eq_nil_of_length_eq_zero ?_
  rw [List.length_erase_of_mem hd]
  omega

theorem synchronous_of_idle (h : sys.dispatching = []) : Synchronous sys := by
  constructor <;> simp [h]

theorem Synchronous.step (hsync : Synchronous sys) (hseq : Sequential sys call)
    (hstep : controlPlane.step sys call sys') : Synchronous sys' := by
  cases jobEffect_of_step hstep with
  | kept hop _ hdispatching _ =>
    exact synchronous_of_idle (hdispatching.trans (hseq.idle hop))
  | begun taskId request d hop hbegun _ _ hdispatching _ =>
    have hidle := hseq.idle (by simp [hop])
    rw [hidle, List.nil_append] at hdispatching
    have hperform : sys' = sys.beginDispatch call.env taskId request := by
      rw [(step_iff.mp hstep).2, System.perform, hop]
    refine ⟨by simp [hdispatching], fun e he => ?_⟩
    rw [hdispatching, List.mem_singleton] at he
    subst he
    have hnew : sys'.dispatching ≠ sys.dispatching := by simp [hdispatching, hidle]
    rw [hperform] at hnew
    rw [hperform, ControlPlane.task?, beginDispatch_tasks hnew]
    have hstored := hbegun.stored
    rwa [← sys.store.task?_taskId hstored] at hstored
  | ended d submission _ hmem _ _ hdispatching _ =>
    exact synchronous_of_idle (hdispatching.trans (erase_eq_nil_of_alone hsync.alone hmem))
  | submitted d backend reason _ hmem _ hdispatching _ =>
    exact synchronous_of_idle (hdispatching.trans (erase_eq_nil_of_alone hsync.alone hmem))
  | polled job outcome status hop _ _ _ _ hdispatching _ =>
    exact synchronous_of_idle (hdispatching.trans (hseq.idle (by simp [hop])))

theorem synchronous_of_run {h : History System Call} (hrun : controlPlane.Run h sys)
    (hseq : Machine.Steps Sequential h) : Synchronous sys := by
  refine hrun.stateInvariant (I := Synchronous) ?_ ?_ hseq
  · rintro s ⟨_, _, _, rfl⟩
    exact synchronous_of_idle rfl
  · exact fun s a s' hsync hseq hstep => hsync.step hseq hstep

end ShipyardCp.Store

/-! What a call leaves of the references of a task: the references it writes itself, those of the result
it applies, or the ones it found. -/

namespace ShipyardCp.Store

open Types Domain Lib

def referencesOf (u : TaskUpdate) : TaskUpdate where
  resolverRefs := u.resolverRefs
  mergeResolverRefs := u.mergeResolverRefs
  externalRefs := u.externalRefs
  mergeExternalRefs := u.mergeExternalRefs

def resultReferences (result : WorkerResult) : TaskUpdate where
  mergeResolverRefs := result.resolverRefs
  mergeExternalRefs := result.externalRefs.filter (· ≠ [])

/-- The resolver references that an applied result merges; an invalid result merges none. -/
def AppliedResult.resolverRefs (r : AppliedResult) : Option ResolverRefs :=
  if (validateResult r.result r.task r.job).valid then r.result.resolverRefs else none

def AppliedResult.externalRefs (r : AppliedResult) : Option (List ExternalRef) :=
  if (validateResult r.result r.task r.job).valid then r.result.externalRefs.filter (· ≠ []) else none

def publishReferences? (call : Call) (s : ControlPlane) : Option ReferenceUpdate :=
  match call.op with
  | .completePublish taskId request =>
    if (s.task? taskId).any fun task => task.state = .publishing then
      some ⟨taskId, fun _ => none,
        fun task => request.externalRefs.map (mergeExternalRefs task.externalRefs)⟩
    else none
  | _ => none

def referenceWrite? (call : Call) (s : ControlPlane) : Option ReferenceUpdate :=
  (referenceUpdate? call).orElse fun _ => (publishReferences? call s).orElse fun _ =>
    (appliedResult? call s).map fun r =>
      ⟨r.task.taskId, fun _ => r.resolverRefs,
        fun task => r.externalRefs.map (mergeExternalRefs task.externalRefs)⟩

def ReferenceUpdate.Writes (u : ReferenceUpdate) (task task' : Task) : Prop :=
  task'.resolverRefs = applyResolverRefs task.resolverRefs (u.resolverRefs task) ∧
    task'.externalRefs = overwrite (u.externalRefs task) task.externalRefs

def SameReferences (task task' : Task) : Prop :=
  task'.resolverRefs = task.resolverRefs ∧ task'.externalRefs = task.externalRefs

def ReferencesWritten (write : Option ReferenceUpdate) (id : String) (task task' : Task) : Prop :=
  match write.filter (·.taskId = id) with
  | some u => u.Writes task task'
  | none => SameReferences task task'

section updates

variable {env : Env} {s : ControlPlane} {result : WorkerResult} {task : Task} {job : WorkerJob}

@[simp] theorem applyResolverRefs_none_left (refs : Option ResolverRefs) :
    applyResolverRefs none refs = refs := by
  cases refs with
  | none => rfl
  | some refs =>
    obtain ⟨docRefs, chunkRefs, ackRefs, contractRefs, staleStatus, staleDocCounts⟩ := refs
    simp [applyResolverRefs, spreadResolverRefs, ResolverRefs.empty, overwrite]

@[simp] theorem applyResolverRefs_none_right (refs : Option ResolverRefs) :
    applyResolverRefs refs none = refs := rfl

theorem referencesOf_foldl {l : List TaskUpdate} (hus : ∀ u ∈ l, referencesOf u = {})
    (m : TaskUpdate) : referencesOf (l.foldl mergeTaskUpdate m) = referencesOf m := by
  induction l generalizing m with
  | nil => rfl
  | cons u l ih =>
    have hu : referencesOf (mergeTaskUpdate m u) =
        mergeTaskUpdate (referencesOf m) (referencesOf u) := rfl
    rw [List.foldl_cons, ih fun v hv => hus v (List.mem_cons_of_mem u hv), hu,
      hus u List.mem_cons_self]
    rfl

theorem referencesOf_single (u : TaskUpdate) :
    referencesOf (mergeTaskUpdates [u]) = referencesOf u := by
  have hexternal : (mergeTaskUpdate {} u).mergeExternalRefs = u.mergeExternalRefs := by
    unfold mergeTaskUpdate
    cases u.mergeExternalRefs <;> rfl
  simp only [mergeTaskUpdates, List.foldl_cons, List.foldl_nil, referencesOf]
  rw [hexternal]
  simp [mergeTaskUpdate, overwrite]

theorem referencesOf_pair (u : TaskUpdate) {v : TaskUpdate} (hv : referencesOf v = {}) :
    referencesOf (mergeTaskUpdates [u, v]) = referencesOf u :=
  (referencesOf_foldl (l := [v]) (by simpa using hv) (mergeTaskUpdates [u])).trans
    (referencesOf_single u)

theorem referencesOf_computed :
    referencesOf (computeTaskUpdatesFromResult env result job) = resultReferences result := by
  unfold computeTaskUpdatesFromResult mergeTaskUpdates resultUpdates
  dsimp only
  simp only [List.foldl_append]
  rw [referencesOf_foldl, referencesOf_foldl, referencesOf_foldl, referencesOf_foldl,
    referencesOf_foldl, referencesOf_foldl, referencesOf_foldl, referencesOf_foldl]
  · generalize hartifacts : List.foldl mergeTaskUpdate {} _ = m
    have hm : referencesOf m = {} := by
      rw [← hartifacts]
      split <;> rfl
    have hmerged : m.resolverRefs = none ∧ m.mergeResolverRefs = none ∧ m.externalRefs = none ∧
        m.mergeExternalRefs = none := by
      simpa [referencesOf] using hm
    unfold resultReferences
    cases result.resolverRefs <;> rcases result.externalRefs with _ | _ | ⟨ref, refs⟩ <;>
      simp [referencesOf, mergeTaskUpdate, hmerged, Option.filter]
  all_goals
    intro u hu
    split at hu
    all_goals simp_all [referencesOf]

theorem validationAnswer_references (errors : List ValidationError) :
    referencesOf (validationAnswer s task job result errors).update = {} := by
  unfold validationAnswer
  dsimp only
  split_ifs
  · exact referencesOf_pair {} rfl
  · exact referencesOf_pair {} rfl
  · exact referencesOf_pair {} rfl

theorem failedAnswer_references (u : TaskUpdate) :
    referencesOf (failedAnswer env s task job result u).update = referencesOf u := by
  unfold failedAnswer
  cases s.doomLoopDetector.detectLoop job.jobId with
  | some loopType => exact referencesOf_pair u rfl
  | none =>
    cases getFailoverWorker job.stage job.workerType with
    | some nextWorker => exact referencesOf_pair u rfl
    | none =>
      dsimp only
      split_ifs
      · exact referencesOf_pair u rfl
      · unfold finalFailureAnswer
        split_ifs
        · exact referencesOf_pair u rfl
        · exact referencesOf_pair u rfl

theorem succeededAnswer_references (u : TaskUpdate) :
    referencesOf (succeededAnswer task job result u).update = referencesOf u := by
  unfold succeededAnswer
  cases job.stage with
  | plan => rfl
  | dev => rfl
  | acceptance =>
    dsimp only
    split_ifs
    · rfl
    · refine (referencesOf_foldl (l := [{ lastVerdict := result.verdict }, _]) ?_
        (mergeTaskUpdates [u])).trans (referencesOf_single u)
      intro v hv
      rcases List.mem_pair.mp hv with rfl | rfl
      · rfl
      · split_ifs <;> rfl

theorem resultAnswer_references : referencesOf (resultAnswer env s result task job).update =
      if (validateResult result task job).valid then resultReferences result else {} := by
  unfold resultAnswer
  dsimp only
  cases (validateResult result task job).valid with
  | false => exact validationAnswer_references _
  | true =>
    have hcomputed : referencesOf (computeTaskUpdatesFromResult env result job) =
        resultReferences result := referencesOf_computed
    refine Eq.trans ?_ hcomputed
    cases result.status with
    | blocked => exact referencesOf_pair _ rfl
    | failed => exact failedAnswer_references _
    | succeeded => exact succeededAnswer_references _

theorem AppliedResult.resultTask_references {r : AppliedResult} :
    ((r.answer env).resultTask env r.task).resolverRefs =
        applyResolverRefs r.task.resolverRefs r.resolverRefs ∧
      ((r.answer env).resultTask env r.task).externalRefs =
        overwrite (r.externalRefs.map (mergeExternalRefs r.task.externalRefs))
          r.task.externalRefs := by
  have hkept : SameReferences ((r.answer env).patched env r.task)
      ((r.answer env).resultTask env r.task) := by
    unfold ResultAnswer.resultTask
    split <;> exact ⟨rfl, rfl⟩
  have hupdate : referencesOf (r.answer env).update =
      if (validateResult r.result r.task r.job).valid then resultReferences r.result else {} :=
    resultAnswer_references
  have hfields : (r.answer env).update.resolverRefs = none ∧
      (r.answer env).update.mergeResolverRefs = r.resolverRefs ∧
      (r.answer env).update.externalRefs = none ∧
      (r.answer env).update.mergeExternalRefs = r.externalRefs := by
    unfold AppliedResult.resolverRefs AppliedResult.externalRefs
    split_ifs at hupdate ⊢
    · simpa [referencesOf, resultReferences] using hupdate
    · simpa [referencesOf] using hupdate
  obtain ⟨hresolver, hmerge, hexternal, hmergeExternal⟩ := hfields
  rw [hkept.1, hkept.2]
  constructor
  · simp [ResultAnswer.patched, applyTaskUpdate, hresolver, hmerge, applyResolverRefs]
  · simp only [ResultAnswer.patched, applyTaskUpdate, hexternal, hmergeExternal, overwrite_none]
    cases r.externalRefs <;> rfl

end updates

/-- Whether the end of a dispatch writes the task: where the job was taken, and where the backend
refused it. -/
def writesTask : SubmissionResult → Bool
  | .success _ _ => true
  | .failure error => isBackendRefusal (error.getD "unknown worker submission failure")
  | .thrown _ => false

section steps

variable {sys sys' : System} {call : Call} {id : String} {task task' : Task}

theorem SameReferences.refl (task : Task) : SameReferences task task := ⟨rfl, rfl⟩

theorem SameReferences.withPolicyWarnings (task : Task) (warnings : List String) :
    SameReferences task (withPolicyWarnings task warnings) := by
  unfold Store.withPolicyWarnings
  split_ifs <;> exact .refl task

theorem Moved.sameReferences {event : StateTransitionEvent} (h : Moved call id task task' event)
    (hstored : sys.store.task? id = some task)
    (hpublish : publishReferences? call sys.store = none) : SameReferences task task' := by
  cases h with
  | integrationEnded request moved toState reason _ _ hmove => cases hmove <;> exact ⟨rfl, rfl⟩
  | publish request n moved toState input _ _ hmove =>
    cases hmove with
    | denied reason => exact ⟨rfl, rfl⟩
    | pending warnings _ _ => exact .withPolicyWarnings task warnings
    | started warnings _ _ => exact .withPolicyWarnings task warnings
  | timedOut updatedTask reason n _ htimed =>
    obtain ⟨_, _, _, _, _, _, _, rfl⟩ := timedOut_eq_some htimed
    exact ⟨rfl, rfl⟩
  | published request hop hstate => simp [publishReferences?, hop, hstored, hstate] at hpublish
  | _ => exact ⟨rfl, rfl⟩

variable {u : ReferenceUpdate}

theorem perform_updateReferences (hu : referenceUpdate? call = some u) :
    (sys.perform call).store = sys.store.updateReferences call.env u := by
  obtain ⟨env, op⟩ := call
  unfold referenceUpdate? at hu
  cases op with
  | resolveDocs taskId request =>
    obtain rfl := Option.some.inj hu
    exact finalState_resolveDocs env taskId request
  | ackDocs taskId request =>
    obtain rfl := Option.some.inj hu
    exact finalState_ackDocs env taskId request
  | settleStaleCheck check currentVersions =>
    dsimp only at hu
    split_ifs at hu with hstale
    obtain rfl := Option.some.inj hu
    exact (finalState_settleStaleCheck env check currentVersions).trans (if_neg hstale)
  | settleLinkTracker link succeeded =>
    cases succeeded with
    | false => cases hu
    | true =>
      obtain rfl := Option.some.inj hu
      exact finalState_settleLinkTracker env link
  | _ => cases hu

theorem handedOver?_eq_none {s : ControlPlane} (hop : appliesResult call.op = false) :
    handedOver? call s = none ∧ appliedBy call s = none := by
  obtain ⟨env, op⟩ := call
  cases op with
  | applyResult _ _ | settlePoll _ _ => cases hop
  | _ => exact ⟨rfl, rfl⟩

theorem appliedResult?_stored {s : ControlPlane} {r : AppliedResult}
    (h : appliedResult? call s = some r) : s.task? r.task.taskId = some r.task := by
  obtain ⟨env, op⟩ := call
  have happlied : ∀ s', Application ⟨env, op⟩ s s' → s.task? r.task.taskId = some r.task :=
    fun s' happlication => by
      unfold Application at happlication
      rw [h] at happlication
      exact happlication.stored
  cases op with
  | applyResult taskId result => exact happlied _ application_applyResult
  | settlePoll job outcome => exact happlied _ application_settlePoll
  | _ => cases h

def WritesSnapshot (sys : System) (call : Call) (id : String) (task' : Task) : Prop :=
  ∃ d submission, call.op = .settleDispatch d submission ∧ d ∈ sys.dispatching ∧ d.task.taskId = id ∧
    writesTask submission = true ∧ SameReferences d.task task'

theorem TaskEffect.sameReferences {log log' : List StateTransitionEvent}
    (hupdate : referenceUpdate? call = none) (hpublish : publishReferences? call sys.store = none)
    (happly : appliesResult call.op = false) (hstored : sys.store.task? id = some task)
    {o : Option Task} (h : TaskEffect sys call id (some task) log o log') :
    ∃ task', o = some task' ∧ (SameReferences task task' ∨ WritesSnapshot sys call id task') := by
  cases h with
  | kept => exact ⟨task, rfl, Or.inl (.refl task)⟩
  | recorded _ _ event _ _ _ _ => exact ⟨_, rfl, Or.inl ⟨rfl, rfl⟩⟩
  | moved _ _ _ event hmove => exact ⟨_, rfl, Or.inl (hmove.sameReferences hstored hpublish)⟩
  | patched _ _ _ hpatch =>
    cases hpatch with
    | references u hu _ =>
      rw [hupdate] at hu
      cases hu
    | _ => exact ⟨_, rfl, Or.inl ⟨rfl, rfl⟩⟩
  | answered _ _ result job a happlied _ _ _ _ _ =>
    rw [(handedOver?_eq_none happly).2] at happlied
    cases happlied
  | dispatched _ _ d backend reason hop hmem hid _ =>
    exact ⟨_, rfl, Or.inr ⟨d, _, hop, hmem, hid, rfl, rfl, rfl⟩⟩
  | refused _ _ d error failure hop hfailure hrefusal hmem hid _ =>
    subst hfailure
    exact ⟨_, rfl, Or.inr ⟨d, _, hop, hmem, hid, hrefusal, rfl, rfl⟩⟩

theorem ReferencesWritten.none (id : String) (h : SameReferences task task') :
    ReferencesWritten none id task task' := h

theorem ReferencesWritten.some {s s' : ControlPlane} {t : Task}
    (hwrite : ∀ id, s'.task? id = if id = u.taskId then some t else s.task? id)
    (hwritten : ∀ task, s.task? u.taskId = some task → u.Writes task t)
    (htask : s.task? id = some task) :
    ∃ task', s'.task? id = some task' ∧ ReferencesWritten (some u) id task task' := by
  unfold ReferencesWritten
  rw [hwrite]
  by_cases hid : id = u.taskId
  · subst hid
    refine ⟨t, if_pos rfl, ?_⟩
    rw [Option.filter_some, if_pos (by simp)]
    exact hwritten task htask
  · refine ⟨task, (if_neg hid).trans htask, ?_⟩
    rw [Option.filter_some, if_neg (by simpa using Ne.symm hid)]
    exact .refl task

theorem references_updateReferences {s : ControlPlane} (env : Env) (htask : s.task? id = some task) :
    ∃ task', (s.updateReferences env u).task? id = some task' ∧
      ReferencesWritten (some u) id task task' := by
  unfold ControlPlane.updateReferences
  cases hstored : s.task? u.taskId with
  | none =>
    have hid : u.taskId ≠ id := fun hid => by
      rw [hid, htask] at hstored
      cases hstored
    refine ⟨task, htask, ?_⟩
    rw [ReferencesWritten, Option.filter_some, if_neg (by simpa using hid)]
    exact .refl task
  | some stored =>
    refine ReferencesWritten.some (t := u.applied env stored) (fun id => ?_)
      (fun task hsame => ?_) htask
    · rw [ControlPlane.setTask_task?]
      have hkey : stored.taskId = u.taskId := s.task?_taskId hstored
      rw [← hkey]
      rfl
    · rw [hstored] at hsame
      obtain rfl := Option.some.inj hsame
      exact ⟨rfl, rfl⟩

theorem references_completePublish
    (hu : publishReferences? call sys.store = some u) (htask : sys.store.task? id = some task) :
    ∃ task', (sys.perform call).store.task? id = some task' ∧
      ReferencesWritten (some u) id task task' := by
  obtain ⟨env, op⟩ := call
  cases op with
  | completePublish taskId request =>
    simp only [publishReferences?, Option.ite_none_right_eq_some] at hu
    obtain ⟨hpublishing, hu⟩ := hu
    obtain rfl := Option.some.inj hu
    change ∃ task', (finalState (completePublish env taskId request) sys.store).task? id = _ ∧ _
    rcases finalState_completePublish (s := sys.store) env taskId request with
      ⟨_, hother⟩ | ⟨stored, hstored, _, h⟩
    · obtain ⟨stored, hstored, hstate⟩ := (Option.any_eq_true ..).mp hpublishing
      exact absurd (by simpa using hstate) (hother stored hstored)
    · rw [h]
      refine ReferencesWritten.some
        (t := transitioned env (publishedTask env stored request) .published)
        (fun id => ?_) (fun task hsame => ?_) htask
      · rw [ControlPlane.commit_task?]
        have hkey : stored.taskId = taskId := sys.store.task?_taskId hstored
        rw [← hkey]
        rfl
      · rw [hstored] at hsame
        obtain rfl := Option.some.inj hsame
        refine ⟨rfl, ?_⟩
        change (publishedTask env stored request).externalRefs = _
        cases hrefs : request.externalRefs <;> simp [publishedTask, hrefs]
  | _ => cases hu

theorem references_application {s s' : ControlPlane} (happlication : Application call s s')
    (htask : s.task? id = some task) :
    ∃ task', s'.task? id = some task' ∧ ReferencesWritten ((appliedResult? call s).map fun r =>
        ⟨r.task.taskId, fun _ => r.resolverRefs,
          fun task => r.externalRefs.map (mergeExternalRefs task.externalRefs)⟩) id task task' := by
  unfold Application at happlication
  cases happlied : appliedResult? call s with
  | none =>
    rw [happlied] at happlication
    refine ⟨task, ?_, .refl task⟩
    rw [ControlPlane.task?, happlication.1]
    exact htask
  | some r =>
    rw [happlied] at happlication
    refine ReferencesWritten.some happlication.task? (fun task hsame => ?_) htask
    rw [happlication.stored] at hsame
    obtain rfl := Option.some.inj hsame
    exact AppliedResult.resultTask_references

theorem written_or_snapshot_of_step (hstep : controlPlane.step sys call sys')
    (htask : sys.store.task? id = some task) :
    ∃ task', sys'.store.task? id = some task' ∧
      (ReferencesWritten (referenceWrite? call sys.store) id task task' ∨
        WritesSnapshot sys call id task') := by
  unfold referenceWrite?
  cases hupdate : referenceUpdate? call with
  | some u =>
    obtain ⟨_, rfl⟩ := step_iff.mp hstep
    rw [perform_updateReferences hupdate]
    obtain ⟨task', htask', hwritten⟩ := references_updateReferences call.env (u := u) htask
    exact ⟨task', htask', Or.inl hwritten⟩
  | none =>
    cases hpublish : publishReferences? call sys.store with
    | some u =>
      obtain ⟨_, rfl⟩ := step_iff.mp hstep
      obtain ⟨task', htask', hwritten⟩ := references_completePublish hpublish htask
      exact ⟨task', htask', Or.inl hwritten⟩
    | none =>
      cases happly : appliesResult call.op with
      | true =>
        obtain ⟨task', htask', hwritten⟩ :=
          references_application (application_of_step happly hstep) htask
        exact ⟨task', htask', Or.inl hwritten⟩
      | false =>
        have heffect := taskEffect_of_step hstep id
        rw [htask] at heffect
        rw [appliedResult?, (handedOver?_eq_none happly).1]
        exact heffect.sameReferences hupdate hpublish happly htask

theorem references_of_step (hsync : Synchronous sys) (hstep : controlPlane.step sys call sys')
    (htask : sys.store.task? id = some task) :
    ∃ task', sys'.store.task? id = some task' ∧
      ReferencesWritten (referenceWrite? call sys.store) id task task' := by
  obtain ⟨task', htask', hwritten | ⟨d, submission, hop, hmem, hid, _, hsame⟩⟩ :=
    written_or_snapshot_of_step hstep htask
  · exact ⟨task', htask', hwritten⟩
  · have hcurrent := hsync.current d hmem
    rw [hid, htask] at hcurrent
    obtain rfl := Option.some.inj hcurrent
    refine ⟨task', htask', ?_⟩
    rw [referenceWrite?, referenceUpdate?, publishReferences?, appliedResult?, handedOver?, hop]
    exact hsame

theorem created_of_step (hsync : Synchronous sys) (hstep : controlPlane.step sys call sys')
    (hnone : sys.store.task? id = none) (htask' : sys'.store.task? id = some task') :
    ∃ request, call.op = .createTask request ∧ task' = newTask call.env request := by
  have hfresh : ∀ d ∈ sys.dispatching, d.task.taskId ≠ id := fun d hd hid => by
    have hcurrent := hsync.current d hd
    rw [hid, hnone] at hcurrent
    cases hcurrent
  have heffect := taskEffect_of_step hstep id
  rw [hnone, htask'] at heffect
  generalize sys.store.log id = log, sys'.store.log id = log' at heffect
  cases heffect with
  | created request _ hop _ => exact ⟨request, hop, rfl⟩
  | dispatched _ _ d backend reason _ hmem hid _ => exact absurd hid (hfresh d hmem)
  | refused _ _ d error failure _ _ _ hmem hid _ => exact absurd hid (hfresh d hmem)

end steps

end ShipyardCp.Store
