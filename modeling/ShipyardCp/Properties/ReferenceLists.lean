import ShipyardCp.Store.ControlPlaneStore

/-! The external references of one task under the three routines that merge into them. -/

namespace ShipyardCp.Properties
open Types Domain Store Lib Machine

def refValues (refs : Option (List ExternalRef)) : List String := (refs.getD []).map (·.value)

/-- A task, the links of it that wait for the bridge, and every value that came in, in order. -/
structure ReferencedTask where
  task : Task
  links : List PendingLink
  inserted : List String

inductive RefCall where
  | update (env : Env) (update : TaskUpdate)
  | completePublish (env : Env) (request : CompletePublishRequest)
  | beginLink (request : TrackerLinkRequest)
  | settleLink (env : Env) (i : Nat)

namespace ReferencedTask

def written (s : ReferencedTask) (task : Task) (incoming : List String) : ReferencedTask :=
  { s with task, inserted := s.inserted ++ incoming }

/-- A publish completes in whatever state the task is; what moves it there keeps its references. A link
whose bridge fails is never settled. -/
def perform (s : ReferencedTask) : RefCall → Option ReferencedTask
  | .update env update => some (s.written (applyTaskUpdate env s.task update)
      (refValues update.externalRefs ++ refValues update.mergeExternalRefs))
  | .completePublish env request =>
    some (s.written (publishedTask env s.task request) (refValues request.externalRefs))
  | .beginLink request =>
    if request.typedRef ≠ s.task.typedRef then some s
    else some { s with links := s.links ++ [⟨s.task.taskId, s.task.externalRefs, request⟩] }
  | .settleLink env i => s.links[i]?.map fun link =>
      let refs := linkedRefs env.now link.taskId link.request
      { s.written (applyTaskUpdate env s.task
          { externalRefs := some (mergeTrackerRefs link.externalRefs refs) }) (refs.map (·.value)) with
        links := s.links.eraseIdx i }

def machine : Machine ReferencedTask RefCall :=
  .ofNext (fun s => ∃ env request, (refValues request.externalRefs).Nodup ∧
    s = ⟨newTask env request, [], refValues request.externalRefs⟩) perform

end ReferencedTask

/-- Every value once, in the order in which it came in first. -/
structure RefsKept (values inserted : List String) : Prop where
  distinct : values.Nodup
  complete : values = inserted.eraseDups

def newDistinct (existing incoming : List String) : Bool := (incoming.filter (· ∉ existing)).Nodup

/-- No list repeats a new value among its own, references that are set directly continue those that are
there, and a link finds the references as it read them, with neither value under another kind. -/
def mergesDistinct (s : ReferencedTask) : RefCall → Bool
  | .update _ update =>
    (update.externalRefs.all fun refs => (refs.map (·.value)).Nodup ∧
      refValues s.task.externalRefs <+: refs.map (·.value)) &&
    newDistinct (refValues (overwrite update.externalRefs s.task.externalRefs))
      (refValues update.mergeExternalRefs)
  | .completePublish _ request =>
    newDistinct (refValues s.task.externalRefs) (refValues request.externalRefs)
  | .beginLink _ => true
  | .settleLink env i => s.links[i]?.all fun link =>
      let refs := linkedRefs env.now link.taskId link.request
      link.externalRefs = s.task.externalRefs ∧
        newDistinct (refValues s.task.externalRefs) (refs.map (·.value)) ∧
        ∀ ref ∈ refs, ref.value ∈ refValues s.task.externalRefs →
          (ref.kind, ref.value) ∈ (s.task.externalRefs.getD []).map fun e => (e.kind, e.value)

theorem eraseDups_of_nodup {l : List String} (h : l.Nodup) : l.eraseDups = l := by
  induction l with
  | nil => rfl
  | cons a l ih =>
    obtain ⟨hnew, hrest⟩ := List.nodup_cons.mp h
    rw [List.eraseDups_cons, List.filter_eq_self.mpr, ih hrest]
    intro b hb
    simpa using fun heq : b = a => hnew (heq ▸ hb)

section kept

variable {values inserted incoming : List String}

/-- The rule of a merge: what is there stays, and the new values that come in follow. -/
theorem RefsKept.append (h : RefsKept values inserted) (hnew : newDistinct values incoming = true) :
    RefsKept (values ++ incoming.filter (· ∉ values)) (inserted ++ incoming) := by
  obtain ⟨hdistinct, rfl⟩ := h
  have hnew := of_decide_eq_true hnew
  have hrest : incoming.removeAll inserted = incoming.filter (· ∉ inserted.eraseDups) := by
    refine List.filter_congr fun v _ => ?_
    simp [List.mem_eraseDups]
  constructor
  · refine hdistinct.append hnew fun v hv hincoming => ?_
    exact of_decide_eq_true (List.mem_filter.mp hincoming).2 hv
  · rw [List.eraseDups_append, hrest, eraseDups_of_nodup hnew]

/-- References that are set directly to a continuation of those that are there. -/
theorem RefsKept.continued (h : RefsKept values inserted) (hnodup : incoming.Nodup)
    (hstart : values <+: incoming) : RefsKept incoming (inserted ++ incoming) := by
  obtain ⟨more, rfl⟩ := hstart
  obtain ⟨hvalues, hmore, hapart⟩ := List.nodup_append'.mp hnodup
  have hfilter : (values ++ more).filter (· ∉ values) = more := by
    rw [List.filter_append, List.filter_eq_nil_iff.mpr (by simp), List.nil_append,
      List.filter_eq_self]
    exact fun v hv => decide_eq_true fun hin => hapart hin hv
  have hnew : newDistinct values (values ++ more) = true := by
    unfold newDistinct
    rw [hfilter]
    exact decide_eq_true hmore
  have happended := h.append hnew
  rwa [hfilter] at happended

end kept

theorem refValues_mergeExternalRefs (refs : Option (List ExternalRef)) (newRefs : List ExternalRef) :
    refValues (some (mergeExternalRefs refs newRefs)) =
      refValues refs ++ (refValues (some newRefs)).filter (· ∉ refValues refs) := by
  simp only [refValues, mergeExternalRefs, Option.getD_some, List.map_append, List.filter_map]
  rfl

theorem refValues_mergeTrackerRefs {refs : Option (List ExternalRef)} {newRefs : List ExternalRef}
    (h : ∀ ref ∈ newRefs, ref.value ∈ refValues refs →
      (ref.kind, ref.value) ∈ (refs.getD []).map fun e => (e.kind, e.value)) :
    refValues (some (mergeTrackerRefs refs newRefs)) =
      refValues refs ++ (newRefs.map (·.value)).filter (· ∉ refValues refs) := by
  simp only [refValues, mergeTrackerRefs, Option.getD_some, List.map_append, List.filter_map]
  congr 2
  refine List.filter_congr fun ref href => decide_eq_decide.mpr (not_congr ⟨fun hkey => ?_, h ref href⟩)
  obtain ⟨e, he, heq⟩ := List.mem_map.mp hkey
  exact List.mem_map.mpr ⟨e, he, congrArg Prod.snd heq⟩

theorem refsKept_step {s s' : ReferencedTask} {call : RefCall} (hstep : s.perform call = some s')
    (hkept : RefsKept (refValues s.task.externalRefs) s.inserted)
    (hsafe : mergesDistinct s call = true) : RefsKept (refValues s'.task.externalRefs) s'.inserted := by
  cases call with
  | update env update =>
    obtain rfl := Option.some.inj hstep
    obtain ⟨hdirect, hmerge⟩ := Bool.and_eq_true_iff.mp hsafe
    have hset : RefsKept (refValues (overwrite update.externalRefs s.task.externalRefs))
        (s.inserted ++ refValues update.externalRefs) := by
      cases hrefs : update.externalRefs with
      | none => simpa [refValues, overwrite] using hkept
      | some refs =>
        rw [hrefs] at hdirect
        obtain ⟨hnodup, hstart⟩ := of_decide_eq_true hdirect
        exact hkept.continued hnodup hstart
    show RefsKept (refValues (applyTaskUpdate env s.task update).externalRefs) (s.inserted ++ _)
    rw [← List.append_assoc]
    cases hnew : update.mergeExternalRefs with
    | none => simpa [applyTaskUpdate, hnew, refValues] using hset
    | some new =>
      rw [hnew] at hmerge
      have hmerged := hset.append hmerge
      simpa only [applyTaskUpdate, hnew, refValues_mergeExternalRefs] using hmerged
  | completePublish env request =>
    obtain rfl := Option.some.inj hstep
    show RefsKept (refValues (publishedTask env s.task request).externalRefs) (s.inserted ++ _)
    cases hrefs : request.externalRefs with
    | none => simpa [publishedTask, hrefs, refValues] using hkept
    | some refs =>
      rw [mergesDistinct, hrefs] at hsafe
      have hmerged := hkept.append hsafe
      simpa only [publishedTask, hrefs, refValues_mergeExternalRefs] using hmerged
  | beginLink request =>
    simp only [ReferencedTask.perform] at hstep
    split_ifs at hstep <;> obtain rfl := Option.some.inj hstep <;> exact hkept
  | settleLink env i =>
    obtain ⟨link, hlink, rfl⟩ := Option.map_eq_some_iff.mp hstep
    rw [mergesDistinct, hlink] at hsafe
    obtain ⟨hread, hnew, hkinds⟩ := of_decide_eq_true hsafe
    have hmerged := hkept.append hnew
    rw [← refValues_mergeTrackerRefs hkinds, ← hread] at hmerged
    exact hmerged

/-- The references are free of duplicates, in order and complete in every state of a run whose lists repeat
no new value, whose direct lists continue those that are there and whose links lose no write. -/
theorem references_kept {h : History ReferencedTask RefCall} {t : ReferencedTask}
    (hrun : ReferencedTask.machine.Run h t)
    (hsafe : Machine.Steps (fun s call => mergesDistinct s call = true) h) :
    ∀ s ∈ states h t, RefsKept (refValues s.task.externalRefs) s.inserted := by
  refine (Machine.Run.invariantPairwise (R := fun _ _ => True) (fun _ _ _ _ _ => trivial) ?_ ?_
    hrun hsafe).2
  · rintro s ⟨env, request, hnodup, rfl⟩
    exact ⟨hnodup, (eraseDups_of_nodup hnodup).symm⟩
  · intro s call s' hkept hsafe hstep
    exact ⟨refsKept_step hstep hkept hsafe, trivial⟩

def release (version : String) : ExternalRef :=
  { kind := .release, value := version, connectionRef := none, linkRole := none, metadataJson := none }

def unreferenced : ReferencedTask :=
  ⟨newTask (sampleEnv "0") sampleRequest, [], refValues sampleRequest.externalRefs⟩

theorem unreferenced_created : ReferencedTask.machine.init unreferenced := ⟨_, _, by decide, rfl⟩

/-- An update whose list has one release twice. -/
theorem repeated_reference_merged : ∃ h t, ReferencedTask.machine.Run h t ∧
    ¬ (refValues t.task.externalRefs).Nodup := by
  have hplayed : (replay ReferencedTask.perform unreferenced
      [fun _ => some (.update (sampleEnv "1") { mergeExternalRefs := some [release "v1", release "v1"] })]).any
      (fun p => ¬ (refValues p.2.task.externalRefs).Nodup) = true := by
    decide +kernel
  obtain ⟨h, t, hrun, htest⟩ := exists_run_of_replay unreferenced_created hplayed
  exact ⟨h, t, hrun, of_decide_eq_true htest⟩

/-- A release, a link, and a publish with that release and a new one. -/
theorem releases_kept : ∃ h t, ReferencedTask.machine.Run h t ∧
    (refValues t.task.externalRefs).length = 4 ∧
    ∀ s ∈ states h t, RefsKept (refValues s.task.externalRefs) s.inserted := by
  have hplayed : (replay ReferencedTask.perform unreferenced
      ([.update (sampleEnv "1") { externalRefs := some [release "v1"] },
        .beginLink ⟨sampleRequest.typedRef, none, "github_issue:7", none, none⟩,
        .settleLink (sampleEnv "2") 0,
        .completePublish (sampleEnv "3") ⟨some [release "v1", release "v2"], none⟩].map
          fun call _ => some call)).any
      (fun p => (refValues p.2.task.externalRefs).length = 4 ∧
        p.1.all fun step => mergesDistinct step.1 step.2) = true := by
    decide +kernel
  obtain ⟨h, t, hrun, htest⟩ := exists_run_of_replay unreferenced_created hplayed
  simp only [decide_eq_true_eq, List.all_eq_true] at htest
  exact ⟨h, t, hrun, htest.1, references_kept hrun htest.2⟩

end ShipyardCp.Properties
