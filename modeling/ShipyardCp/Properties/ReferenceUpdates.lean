import ShipyardCp.Store.References
import ShipyardCp.Properties.AcknowledgedDocs

/-! Which references a task loses. Links and stale checks await in between and write the references they
read before, so that what was stored meanwhile may be gone. -/

namespace ShipyardCp.Properties

open Types Domain Store Lib ControlPlane Machine ResultAnswer

/-- A reference on a task: an external one, by kind and value, or an acknowledgement. -/
inductive StoredRef where
  | external (kind : ExternalRefKind) (value : String)
  | ack (ackRef : String)
  deriving DecidableEq

def externalKeys (refs : List ExternalRef) : List StoredRef :=
  refs.map fun e => .external e.kind e.value

def storedRefs (task : Task) : List StoredRef :=
  externalKeys (task.externalRefs.getD []) ++ (storedAckRefs task).map .ack

/-- The references that the response of a call reports as stored on a task. -/
def reportedRefs (id : String) (sys : System) (call : Call) : List StoredRef :=
  match call.op with
  | .settleLinkTracker link true =>
    if link.taskId = id then
      externalKeys ((returned? (settleLinkTracker call.env link) sys.store).getD [])
    else []
  | .ackDocs taskId request =>
    if taskId = id then (returned? (ackDocs call.env taskId request) sys.store).toList.map .ack
    else []
  | .applyResult taskId result =>
    if taskId = id then
      ((returned? (applyResult call.env taskId result) sys.store).map
        fun response => storedRefs response.task).getD []
    else []
  | _ => []

/-- The end of a link finds no external reference on its task beside those it has read and its own; a
stale check that reports something finds no acknowledgement that it has not read; a dispatch that writes
its task finds no reference that it has not read; and the acknowledgements that a valid result carries
include those of its task. -/
def findsReferences (sys : System) (call : Call) : Bool :=
  match call.op with
  | .settleLinkTracker link true =>
    (sys.store.task? link.taskId).all fun task =>
      (externalKeys (task.externalRefs.getD [])).all fun ref =>
        ref ∈ externalKeys (link.externalRefs.getD []) ∨
          ref ∈ externalKeys (linkedRefs call.env.now link.taskId link.request)
  | .settleStaleCheck check currentVersions =>
    staleItems call.env.now check currentVersions = [] ||
      (sys.store.task? check.taskId).all fun task =>
        (storedAckRefs task).all fun ackRef => ackRef ∈ check.resolverRefs.ackRefs.getD []
  | .settleDispatch d submission =>
    !writesTask submission ||
      (sys.store.task? d.task.taskId).all fun task =>
        (storedRefs task).all fun ref => ref ∈ storedRefs d.task
  | _ =>
    (appliedResult? call sys.store).all fun r =>
      (r.resolverRefs.bind (·.ackRefs)).all fun ackRefs =>
        (storedAckRefs r.task).all fun ackRef => ackRef ∈ ackRefs

section writes

variable {sys sys' : System} {call : Call} {id : String} {task task' : Task}

theorem mem_externalKeys {refs : List ExternalRef} {ref : StoredRef} :
    ref ∈ externalKeys refs ↔ ∃ e ∈ refs, .external e.kind e.value = ref := List.mem_map

theorem mem_externalKeys_mergeTrackerRefs {existing : Option (List ExternalRef)}
    {newRefs : List ExternalRef} {ref : StoredRef} :
    ref ∈ externalKeys (mergeTrackerRefs existing newRefs) ↔
      ref ∈ externalKeys (existing.getD []) ∨ ref ∈ externalKeys newRefs := by
  unfold mergeTrackerRefs
  dsimp only
  rw [externalKeys, List.map_append, List.mem_append]
  constructor
  · rintro (hold | hnew)
    · exact Or.inl hold
    · obtain ⟨e, he, rfl⟩ := List.mem_map.mp hnew
      exact Or.inr (List.mem_map_of_mem (List.mem_of_mem_filter he))
  · rintro (hold | hnew)
    · exact Or.inl hold
    · obtain ⟨e, he, rfl⟩ := mem_externalKeys.mp hnew
      by_cases hread : (e.kind, e.value) ∈ (existing.getD []).map fun e => (e.kind, e.value)
      · obtain ⟨e', he', heq⟩ := List.mem_map.mp hread
        obtain ⟨hkind, hvalue⟩ := Prod.mk.inj heq
        exact Or.inl (mem_externalKeys.mpr ⟨e', he', by rw [hkind, hvalue]⟩)
      · exact Or.inr (List.mem_map_of_mem (List.mem_filter.mpr ⟨he, by simpa using hread⟩))

theorem externalKeys_subset_mergeExternalRefs (existing : Option (List ExternalRef))
    (newRefs : List ExternalRef) :
    externalKeys (existing.getD []) ⊆ externalKeys (mergeExternalRefs existing newRefs) := by
  intro ref href
  obtain ⟨e, he, rfl⟩ := mem_externalKeys.mp href
  exact mem_externalKeys.mpr ⟨e, List.mem_append_left _ he, rfl⟩

theorem mem_storedRefs_external {kind : ExternalRefKind} {value : String} :
    .external kind value ∈ storedRefs task ↔
      .external kind value ∈ externalKeys (task.externalRefs.getD []) := by
  simp [storedRefs]

theorem mem_storedRefs_ack {ackRef : String} :
    .ack ackRef ∈ storedRefs task ↔ ackRef ∈ storedAckRefs task := by
  simp [storedRefs, externalKeys]

variable {u : ReferenceUpdate}

theorem storedAckRefs_of_writes (h : u.Writes task task') :
    storedAckRefs task' = ((u.resolverRefs task).bind (·.ackRefs)).getD (storedAckRefs task) := by
  unfold storedAckRefs
  rw [h.1]
  cases u.resolverRefs task with
  | none => rfl
  | some new =>
    rw [applyResolverRefs, Option.bind_some, Option.getD_some, spreadResolverRefs]
    cases new.ackRefs <;> rfl

theorem externalRefs_of_writes (h : u.Writes task task') :
    task'.externalRefs.getD [] = (u.externalRefs task).getD (task.externalRefs.getD []) := by
  rw [h.2]
  cases u.externalRefs task <;> rfl

theorem storedRefs_subset_of_writes (h : u.Writes task task')
    (hexternal : ∀ refs ∈ u.externalRefs task,
      externalKeys (task.externalRefs.getD []) ⊆ externalKeys refs)
    (hack : ∀ ackRefs ∈ (u.resolverRefs task).bind (·.ackRefs),
      ∀ ackRef ∈ storedAckRefs task, ackRef ∈ ackRefs) :
    storedRefs task ⊆ storedRefs task' := by
  intro ref href
  cases ref with
  | external kind value =>
    rw [mem_storedRefs_external] at href ⊢
    rw [externalRefs_of_writes h]
    cases hrefs : u.externalRefs task with
    | none => exact href
    | some refs => exact hexternal refs hrefs href
  | ack ackRef =>
    rw [mem_storedRefs_ack] at href ⊢
    rw [storedAckRefs_of_writes h]
    cases hrefs : (u.resolverRefs task).bind (·.ackRefs) with
    | none => exact href
    | some ackRefs => exact hack ackRefs hrefs ackRef href

theorem storedRefs_of_sameReferences (h : SameReferences task task') :
    storedRefs task' = storedRefs task := by
  unfold storedRefs storedAckRefs
  rw [h.1, h.2]

theorem storedRefs_subset_of_referenceWrite
    (hfinds : findsReferences sys call = true) (hu : referenceWrite? call sys.store = some u)
    (htask : sys.store.task? u.taskId = some task) (h : u.Writes task task') :
    storedRefs task ⊆ storedRefs task' := by
  obtain ⟨env, op⟩ := call
  cases op with
  | resolveDocs taskId request =>
    obtain rfl := Option.some.inj hu
    refine storedRefs_subset_of_writes h (fun _ hrefs => ?_) fun _ hrefs => ?_
    · cases hrefs
    · cases hrefs
  | ackDocs taskId request =>
    obtain rfl := Option.some.inj hu
    refine storedRefs_subset_of_writes h (fun _ hrefs => by cases hrefs) ?_
    rintro ackRefs hrefs ackRef hmem
    obtain rfl := Option.some.inj hrefs
    change ackRef ∈ if _ then storedAckRefs task else _
    split_ifs
    · exact hmem
    · exact List.mem_append_left _ hmem
  | settleStaleCheck check currentVersions =>
    by_cases hstale : staleItems env.now check currentVersions = []
    · simp [referenceWrite?, referenceUpdate?, hstale, publishReferences?, appliedResult?,
        handedOver?] at hu
    · rw [referenceWrite?, referenceUpdate?] at hu
      simp only [hstale, if_false, Option.orElse_some] at hu
      obtain rfl := Option.some.inj hu
      refine storedRefs_subset_of_writes h (fun _ hrefs => by cases hrefs) ?_
      intro ackRefs hrefs ackRef hmem
      simp only [findsReferences, hstale, decide_false, Bool.false_or, htask, Option.all_some,
        List.all_eq_true, decide_eq_true_eq] at hfinds
      have hread : check.resolverRefs.ackRefs = some ackRefs := hrefs
      have hfound := hfinds ackRef hmem
      rwa [hread, Option.getD_some] at hfound
  | settleLinkTracker link succeeded =>
    cases succeeded with
    | false => cases hu
    | true =>
      obtain rfl := Option.some.inj hu
      refine storedRefs_subset_of_writes h ?_ fun _ hrefs => by cases hrefs
      rintro refs hrefs ref hmem
      obtain rfl := Option.some.inj hrefs
      simp only [findsReferences, htask, Option.all_some, List.all_eq_true, decide_eq_true_eq] at hfinds
      exact mem_externalKeys_mergeTrackerRefs.mpr (hfinds ref hmem)
  | completePublish taskId request =>
    simp only [referenceWrite?, referenceUpdate?, publishReferences?, Option.orElse_none] at hu
    split_ifs at hu
    · obtain rfl := Option.some.inj hu
      refine storedRefs_subset_of_writes h ?_ fun _ hrefs => by cases hrefs
      intro refs hrefs
      obtain ⟨newRefs, _, rfl⟩ := Option.map_eq_some_iff.mp hrefs
      exact externalKeys_subset_mergeExternalRefs task.externalRefs newRefs
    · cases hu
  | applyResult _ _ | settlePoll _ _ =>
    simp only [referenceWrite?, referenceUpdate?, publishReferences?, Option.orElse_none] at hu
    obtain ⟨r, hr, rfl⟩ := Option.map_eq_some_iff.mp hu
    simp only [findsReferences, hr, Option.all_some] at hfinds
    refine storedRefs_subset_of_writes h (fun refs hrefs => ?_) fun ackRefs hrefs => ?_
    · obtain ⟨newRefs, _, rfl⟩ := Option.map_eq_some_iff.mp hrefs
      exact externalKeys_subset_mergeExternalRefs task.externalRefs newRefs
    · have hacks : r.resolverRefs.bind (·.ackRefs) = some ackRefs := hrefs
      simp only [hacks, Option.all_some, List.all_eq_true, decide_eq_true_eq] at hfinds
      rw [appliedResult?_stored hr] at htask
      obtain rfl := Option.some.inj htask
      exact hfinds
  | _ => cases hu

theorem storedRefs_subset_of_step (hfinds : findsReferences sys call = true)
    (hstep : controlPlane.step sys call sys') (htask : sys.store.task? id = some task) :
    ∃ task', sys'.store.task? id = some task' ∧ storedRefs task ⊆ storedRefs task' := by
  obtain ⟨task', htask', hwritten | ⟨d, submission, hop, _, hid, hwrites, hsame⟩⟩ :=
    written_or_snapshot_of_step hstep htask
  · refine ⟨task', htask', ?_⟩
    unfold ReferencesWritten at hwritten
    cases hwrite : (referenceWrite? call sys.store).filter (·.taskId = id) with
    | none =>
      rw [hwrite] at hwritten
      rw [storedRefs_of_sameReferences hwritten]
      exact List.Subset.refl _
    | some u =>
      rw [hwrite] at hwritten
      obtain ⟨hu, hid⟩ := Option.filter_eq_some_iff.mp hwrite
      obtain rfl := of_decide_eq_true hid
      exact storedRefs_subset_of_referenceWrite hfinds hu htask hwritten
  · refine ⟨task', htask', ?_⟩
    rw [storedRefs_of_sameReferences hsame]
    simp only [findsReferences, hop, hwrites, Bool.not_true, Bool.false_or, hid, htask,
      Option.all_some, List.all_eq_true, decide_eq_true_eq] at hfinds
    exact hfinds

end writes

section reports

variable {sys sys' : System} {call : Call} {id : String} {task task' : Task}

theorem stored_of_settleLinkTracker {env : Env} {s : ControlPlane} {link : PendingLink}
    {refs : List ExternalRef} (hreturned : returned? (settleLinkTracker env link) s = some refs) :
    ∃ task, (finalState (settleLinkTracker env link) s).task? link.taskId = some task ∧
      externalKeys refs ⊆ externalKeys (task.externalRefs.getD []) := by
  refine of_wp_returnsWith (R := fun refs s' => ∃ task, s'.task? link.taskId = some task ∧
    externalKeys refs ⊆ externalKeys (task.externalRefs.getD [])) ?_ hreturned
  simp only [settleLinkTracker, wp_bind, wp_updateTask]
  cases htask : s.task? link.taskId with
  | none => trivial
  | some task =>
    have hid := s.task?_taskId htask
    refine ⟨_, by rw [setTask_task?]; exact if_pos hid.symm, ?_⟩
    exact fun ref href => mem_externalKeys_mergeTrackerRefs.mpr (Or.inr href)

theorem stored_of_ackDocs {env : Env} {s : ControlPlane} {taskId ackRef : String}
    {request : AckDocsRequest} (hreturned : returned? (ackDocs env taskId request) s = some ackRef) :
    ∃ task, (finalState (ackDocs env taskId request) s).task? taskId = some task ∧
      ackRef ∈ storedAckRefs task := by
  refine of_wp_returnsWith (R := fun ackRef s' => ∃ task, s'.task? taskId = some task ∧
    ackRef ∈ storedAckRefs task) ?_ hreturned
  simp only [ackDocs, wp_bind, wp_requireTask]
  cases htask : s.task? taskId with
  | none => trivial
  | some task =>
    have hid := s.task?_taskId htask
    simp only [andThen_ok, wp_bind, wp_updateTask, htask]
    refine ⟨_, by rw [setTask_task?]; exact if_pos hid.symm, ?_⟩
    change buildAckRef taskId request.docId request.version ∈ if _ then storedAckRefs task else _
    split_ifs with hold
    · exact hold
    · exact List.mem_append_right _ (List.mem_singleton_self _)

theorem stored_of_applyResult {env : Env} {s : ControlPlane} {taskId : String}
    {result : WorkerResult} {response : ResultApplyResponse}
    (hreturned : returned? (applyResult env taskId result) s = some response) :
    (finalState (applyResult env taskId result) s).task? taskId = some response.task := by
  refine of_wp_returnsWith (R := fun response s' => s'.task? taskId = some response.task) ?_
    hreturned
  by_cases hdelivered : ∃ task job, Delivery s taskId result task job
  · obtain ⟨task, job, hdelivery⟩ := hdelivered
    have hid := s.task?_taskId hdelivery.stored
    rw [wp_applyResult hdelivery, wp_orchestrateResult, wp_perform]
    cases (resultAnswer env (s.setResult result) result task job).move with
    | none => simp [setTask_task?, patched, hid]
    | some move =>
      dsimp only
      split_ifs
      · simp [setTask_task?, patched, hid]
      · simp
  · simp only [applyResult, wp_bind, wp_requireTask]
    cases htask : s.task? taskId with
    | none => simp
    | some task =>
      by_cases hactive : task.activeJobId = some result.jobId
      swap
      · by_cases htruthy : isTruthy task.activeJobId = true <;> simp [htruthy, hactive, htask]
      by_cases hnamed : result.jobId = ""
      · simp [hactive, isTruthy, hnamed, htask]
      by_cases htyped : result.typedRef = task.typedRef
      swap
      · simp [hactive, isTruthy, hnamed, htyped]
      cases hjob : s.jobs.get? result.jobId with
      | none => simp [hactive, isTruthy, hnamed, htyped, hjob]
      | some job => exact absurd ⟨task, job, htask, hactive, hnamed, htyped, hjob⟩ hdelivered

theorem reported_of_step (hstep : controlPlane.step sys call sys') {ref : StoredRef}
    (href : ref ∈ reportedRefs id sys call) :
    ∃ task', sys'.store.task? id = some task' ∧ ref ∈ storedRefs task' := by
  obtain ⟨_, rfl⟩ := step_iff.mp hstep
  obtain ⟨env, op⟩ := call
  cases op with
  | settleLinkTracker link succeeded =>
    cases succeeded with
    | false => cases href
    | true =>
      simp only [reportedRefs] at href
      split_ifs at href with hid
      · subst hid
        cases hreturned : returned? (settleLinkTracker env link) sys.store with
        | none =>
          rw [hreturned] at href
          cases href
        | some refs =>
          rw [hreturned, Option.getD_some] at href
          obtain ⟨task', htask', hrefs⟩ := stored_of_settleLinkTracker hreturned
          exact ⟨task', htask', List.mem_append_left _ (hrefs href)⟩
      · cases href
  | ackDocs taskId request =>
    simp only [reportedRefs] at href
    split_ifs at href with hid
    · subst hid
      obtain ⟨ackRef, hreturned, rfl⟩ := List.mem_map.mp href
      obtain ⟨task', htask', hack⟩ := stored_of_ackDocs (Option.mem_toList.mp hreturned)
      exact ⟨task', htask', mem_storedRefs_ack.mpr hack⟩
    · cases href
  | applyResult taskId result =>
    simp only [reportedRefs] at href
    split_ifs at href with hid
    · subst hid
      cases hreturned : returned? (applyResult env taskId result) sys.store with
      | none =>
        rw [hreturned] at href
        cases href
      | some response =>
        rw [hreturned, Option.map_some, Option.getD_some] at href
        exact ⟨response.task, stored_of_applyResult hreturned, href⟩
    · cases href
  | _ => cases href

/-- In every run in which each call finds the references it has read, whatever the interleaving, all
references that completed calls reported as stored on a task are on it, in every state reached. -/
theorem reported_refs_kept {h : History System Call} (hrun : controlPlane.Run h sys)
    (hfinds : Machine.Steps (fun sys call => findsReferences sys call = true) h) (id : String) :
    ∀ ref ∈ written (reportedRefs id) h,
      ∃ task, sys.store.task? id = some task ∧ ref ∈ storedRefs task := by
  refine hrun.invariant (I := fun h sys => ∀ ref ∈ written (reportedRefs id) h,
    ∃ task, sys.store.task? id = some task ∧ ref ∈ storedRefs task) ?_ ?_ hfinds
  · intro sys _ ref href
    cases href
  · intro h sys call sys' _ _ hkept hnow hstep ref href
    rw [written_snoc, List.mem_append] at href
    rcases href with hbefore | hreported
    · obtain ⟨task, htask, hmem⟩ := hkept ref hbefore
      obtain ⟨task', htask', hsubset⟩ := storedRefs_subset_of_step hnow hstep htask
      exact ⟨task', htask', hsubset hmem⟩
    · exact reported_of_step hstep hreported

end reports

section sample

def trackerRequest (entityRef : String) : TrackerLinkRequest :=
  ⟨"memx:task:local:1", none, entityRef, none, none⟩

def beginLinkLine (entityRef : String) : System → Option Call :=
  line "0" (.beginLinkTracker "task_0" (trackerRequest entityRef))

def settleLinkLine : System → Option Call := fun sys =>
  sys.linking.head?.map fun link => ⟨sampleEnv "0", .settleLinkTracker link true⟩

def linkedInOrderScript : Script :=
  [line "0" (.createTask sampleRequest), beginLinkLine "github_issue:1", settleLinkLine,
    beginLinkLine "github_issue:2", settleLinkLine]

def linkedAtOnceScript : Script :=
  [line "0" (.createTask sampleRequest), beginLinkLine "github_issue:1",
    beginLinkLine "github_issue:2", settleLinkLine, settleLinkLine]

def firstIssue : StoredRef := .external .githubIssue "1"

theorem both_links_kept : ∃ h sys task, controlPlane.Run h sys ∧
    sys.store.task? "task_0" = some task ∧ firstIssue ∈ storedRefs task := by
  obtain ⟨h, sys, hrun, htest⟩ := exists_run_of_play linkedInOrderScript
    (fun p => decide ((∀ step ∈ p.1, findsReferences step.1 step.2 = true) ∧
      firstIssue ∈ written (reportedRefs "task_0") p.1)) (by decide +kernel)
  obtain ⟨hfinds, hreported⟩ := of_decide_eq_true htest
  obtain ⟨task, htask, hmem⟩ := reported_refs_kept hrun hfinds "task_0" firstIssue hreported
  exact ⟨h, sys, task, hrun, htask, hmem⟩

/-- The second of two links that wait at the same time takes the first one away. -/
theorem first_link_lost : ¬∀ h sys, controlPlane.Run h sys → sys.linking = [] → sys.checking = [] →
    ∀ id, ∀ ref ∈ written (reportedRefs id) h,
      ∃ task, sys.store.task? id = some task ∧ ref ∈ storedRefs task := by
  intro hall
  obtain ⟨h, sys, hrun, htest⟩ := exists_run_of_play linkedAtOnceScript
    (fun p => decide (p.2.linking = [] ∧ p.2.checking = [] ∧
      firstIssue ∈ written (reportedRefs "task_0") p.1 ∧
      ((p.2.store.task? "task_0").all fun task => firstIssue ∉ storedRefs task) = true))
    (by decide +kernel)
  obtain ⟨hlinking, hchecking, hreported, hlost⟩ := of_decide_eq_true htest
  obtain ⟨task, htask, hmem⟩ := hall h sys hrun hlinking hchecking "task_0" firstIssue hreported
  rw [htask, Option.all_some] at hlost
  exact of_decide_eq_true hlost hmem

end sample

end ShipyardCp.Properties
