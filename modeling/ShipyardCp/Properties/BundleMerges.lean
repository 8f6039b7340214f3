import ShipyardCp.Domain.ContextBundles
import ShipyardCp.Lib.GuardedMerges

/-! What the merging of context bundles keeps of their documents and trackers. -/

namespace ShipyardCp.Properties

open Lib Domain.ContextBundles

section views

variable {X : Type}

def documentsOf (f : DocumentContext → List X) (bundle : ContextBundle) : List X :=
  (bundle.documents.map f).getD []

def trackersOf (f : TrackerContext → List X) (bundle : ContextBundle) : List X :=
  (bundle.trackers.map f).getD []

end views

/-- The collections of bundles, one bundle after the other. -/
structure BundleCollections where
  docRefs : List DocRef
  chunks : List Chunk
  contracts : List Contract
  issues : List Issue
  projectItems : List ProjectItem
  externalRefs : List ExternalRef
  syncEvents : List SyncEventRef

def collectionsOf (bundles : List ContextBundle) : BundleCollections where
  docRefs := bundles.flatMap (documentsOf (·.docRefs))
  chunks := bundles.flatMap (documentsOf (·.chunks))
  contracts := bundles.flatMap (documentsOf (·.contracts))
  issues := bundles.flatMap (trackersOf (·.issues))
  projectItems := bundles.flatMap (trackersOf (·.projectItems))
  externalRefs := bundles.flatMap (trackersOf (·.externalRefs))
  syncEvents := bundles.flatMap (trackersOf (·.syncEvents))

/-- Merging the bundles gives all their collections, also when the first of them and the others are
merged before. -/
structure MergesAll (bundles : List ContextBundle) : Prop where
  whole : ∀ clock, ∃ merged, mergeBundles clock bundles = .ok merged ∧
    collectionsOf [merged] = collectionsOf bundles
  grouped : ∀ xs ys clock₁ clock₂ clock₃, xs ≠ [] → ys ≠ [] → bundles = xs ++ ys →
    ∃ first others merged, mergeBundles clock₁ xs = .ok first ∧ mergeBundles clock₂ ys = .ok others ∧
      mergeBundles clock₃ [first, others] = .ok merged ∧
      collectionsOf [merged] = collectionsOf bundles

/-- A single bundle; or a document reference, if there are chunks or contracts, and an issue, if there
are other tracker entries. -/
def LedBundles (bundles : List ContextBundle) : Prop := bundles.length = 1 ∨
    ((collectionsOf bundles).docRefs = [] →
      (collectionsOf bundles).chunks = [] ∧ (collectionsOf bundles).contracts = []) ∧
    ((collectionsOf bundles).issues = [] → (collectionsOf bundles).projectItems = [] ∧
      (collectionsOf bundles).externalRefs = [] ∧ (collectionsOf bundles).syncEvents = [])

instance (bundles : List ContextBundle) : Decidable (LedBundles bundles) :=
  inferInstanceAs (Decidable (_ ∨ _))

section merging

variable {X : Type} {clock : Clock} {bundle merged : ContextBundle} {bundles : List ContextBundle}

def documentPair (f : DocumentContext → List X) (bundle : ContextBundle) : List DocRef × List X :=
  (documentsOf (·.docRefs) bundle, documentsOf f bundle)

def trackerPair (f : TrackerContext → List X) (bundle : ContextBundle) : List Issue × List X :=
  (trackersOf (·.issues) bundle, trackersOf f bundle)

theorem flatMap_filterMap_documents (f : DocumentContext → List X) (bundles : List ContextBundle) :
    (bundles.filterMap (·.documents)).flatMap f = bundles.flatMap (documentsOf f) := by
  induction bundles with
  | nil => rfl
  | cons bundle bundles ih =>
    cases hdocs : bundle.documents <;> simp [documentsOf, hdocs, ih]

theorem flatMap_filterMap_trackers (f : TrackerContext → List X) (bundles : List ContextBundle) :
    (bundles.filterMap (·.trackers)).flatMap f = bundles.flatMap (trackersOf f) := by
  induction bundles with
  | nil => rfl
  | cons bundle bundles ih =>
    cases htrackers : bundle.trackers <;> simp [trackersOf, htrackers, ih]

def EachPair (P : ∀ {A B : Type}, (ContextBundle → List A × List B) → Prop) : Prop :=
  P (documentPair (·.chunks)) ∧ P (documentPair (·.contracts)) ∧
    P (trackerPair (·.projectItems)) ∧ P (trackerPair (·.externalRefs)) ∧
    P (trackerPair (·.syncEvents))

theorem EachPair.imp {P Q : ∀ {A B : Type}, (ContextBundle → List A × List B) → Prop}
    (h : EachPair P) (himp : ∀ {A B : Type} (view : ContextBundle → List A × List B),
      P view → Q view) : EachPair Q :=
  ⟨himp _ h.1, himp _ h.2.1, himp _ h.2.2.1, himp _ h.2.2.2.1, himp _ h.2.2.2.2⟩

theorem EachPair.and {P Q : ∀ {A B : Type}, (ContextBundle → List A × List B) → Prop}
    (h : EachPair P) (h' : EachPair Q) : EachPair fun view => P view ∧ Q view :=
  ⟨⟨h.1, h'.1⟩, ⟨h.2.1, h'.2.1⟩, ⟨h.2.2.1, h'.2.2.1⟩, ⟨h.2.2.2.1, h'.2.2.2.1⟩,
    ⟨h.2.2.2.2, h'.2.2.2.2⟩⟩

theorem EachPair.forall {ι : Sort*} {P : ι → ∀ {A B : Type}, (ContextBundle → List A × List B) → Prop}
    (h : ∀ i, EachPair (P i)) : EachPair fun view => ∀ i, P i view :=
  ⟨fun i => (h i).1, fun i => (h i).2.1, fun i => (h i).2.2.1, fun i => (h i).2.2.2.1,
    fun i => (h i).2.2.2.2⟩

def MergeViews (bundles : List ContextBundle) (merged : ContextBundle) : Prop :=
  EachPair fun view => view merged = guardedMerge (bundles.map view)

theorem guardedMerge_many {A B : Type} {view : ContextBundle → List A × List B}
    (hmany : bundles.length ≠ 1) : guardedMerge (bundles.map view) =
      if (bundles.flatMap fun b => (view b).1) ≠ [] then
        (bundles.flatMap fun b => (view b).1, bundles.flatMap fun b => (view b).2)
      else ([], []) := by
  unfold guardedMerge concatPairs
  rw [List.length_map, List.flatMap_map, List.flatMap_map]
  exact if_congr (or_iff_right hmany) rfl rfl

/-- The merged documents, if there is a document reference. -/
def mergedDocuments (bundles : List ContextBundle) : Option DocumentContext :=
  if (collectionsOf bundles).docRefs ≠ [] then
    some { docRefs := (collectionsOf bundles).docRefs
           chunks := (collectionsOf bundles).chunks
           contracts := (collectionsOf bundles).contracts }
  else none

/-- The merged trackers, if there is an issue. -/
def mergedTrackers (bundles : List ContextBundle) : Option TrackerContext :=
  if (collectionsOf bundles).issues ≠ [] then
    some { issues := (collectionsOf bundles).issues
           projectItems := (collectionsOf bundles).projectItems
           externalRefs := (collectionsOf bundles).externalRefs
           syncEvents := (collectionsOf bundles).syncEvents }
  else none

theorem mergeBundles_many (clock : Clock) (base other : ContextBundle) (others : List ContextBundle) :
    ∃ merged, mergeBundles clock (base :: other :: others) = .ok merged ∧
      merged.documents = mergedDocuments (base :: other :: others) ∧
      merged.trackers = mergedTrackers (base :: other :: others) := by
  unfold mergeBundles mergedDocuments mergedTrackers collectionsOf
  simp only [flatMap_filterMap_documents, flatMap_filterMap_trackers, List.length_pos_iff]
  split_ifs
  · exact ⟨_, rfl, rfl, rfl⟩
  · exact ⟨_, rfl, rfl, rfl⟩
  · exact ⟨_, rfl, rfl, rfl⟩
  · exact ⟨_, rfl, rfl, rfl⟩

theorem exists_mergeBundles (clock : Clock) (hne : bundles ≠ []) :
    ∃ merged, mergeBundles clock bundles = .ok merged ∧ MergeViews bundles merged := by
  match bundles with
  | [] => exact absurd rfl hne
  | [bundle] =>
    have hone : ∀ {A B : Type} (view : ContextBundle → List A × List B),
        view bundle = guardedMerge ([bundle].map view) := fun view => by
      simp [guardedMerge, concatPairs]
    exact ⟨bundle, rfl, ⟨hone _, hone _, hone _, hone _, hone _⟩⟩
  | base :: other :: others =>
    obtain ⟨merged, hmerged, hdocuments, htrackers⟩ := mergeBundles_many clock base other others
    have hmany : (base :: other :: others).length ≠ 1 := by simp
    have hdocs : ∀ {X : Type} (f : DocumentContext → List X), documentPair f merged =
        ((mergedDocuments (base :: other :: others)).map (·.docRefs) |>.getD [],
          (mergedDocuments (base :: other :: others)).map f |>.getD []) := fun f => by
      rw [documentPair, documentsOf, documentsOf, hdocuments]
    have htracks : ∀ {X : Type} (f : TrackerContext → List X), trackerPair f merged =
        ((mergedTrackers (base :: other :: others)).map (·.issues) |>.getD [],
          (mergedTrackers (base :: other :: others)).map f |>.getD []) := fun f => by
      rw [trackerPair, trackersOf, trackersOf, htrackers]
    refine ⟨merged, hmerged, ?_, ?_, ?_, ?_, ?_⟩
    · refine (hdocs _).trans (.trans ?_ (guardedMerge_many hmany).symm)
      exact apply_ite (fun d => ((Option.map _ d).getD [], (Option.map _ d).getD [])) _ _ _
    · refine (hdocs _).trans (.trans ?_ (guardedMerge_many hmany).symm)
      exact apply_ite (fun d => ((Option.map _ d).getD [], (Option.map _ d).getD [])) _ _ _
    · refine (htracks _).trans (.trans ?_ (guardedMerge_many hmany).symm)
      exact apply_ite (fun d => ((Option.map _ d).getD [], (Option.map _ d).getD [])) _ _ _
    · refine (htracks _).trans (.trans ?_ (guardedMerge_many hmany).symm)
      exact apply_ite (fun d => ((Option.map _ d).getD [], (Option.map _ d).getD [])) _ _ _
    · refine (htracks _).trans (.trans ?_ (guardedMerge_many hmany).symm)
      exact apply_ite (fun d => ((Option.map _ d).getD [], (Option.map _ d).getD [])) _ _ _

theorem collectionsOf_eq_iff : collectionsOf [merged] = collectionsOf bundles ↔
    EachPair fun view => view merged = concatPairs (bundles.map view) := by
  simp only [EachPair, collectionsOf, concatPairs, documentPair, trackerPair, List.flatMap_map,
    BundleCollections.mk.injEq, Prod.mk.injEq, List.flatMap_cons, List.flatMap_nil, List.append_nil]
  tauto

theorem ledBundles_iff : LedBundles bundles ↔ EachPair fun view => Led (bundles.map view) := by
  simp only [EachPair, LedBundles, Led, collectionsOf, documentPair, trackerPair, List.flatMap_map,
    List.length_map]
  tauto

theorem exists_mergeBundles_grouped {xs ys : List ContextBundle} (clock₁ clock₂ clock₃ : Clock)
    (hxs : xs ≠ []) (hys : ys ≠ []) : ∃ first others merged, mergeBundles clock₁ xs = .ok first ∧
      mergeBundles clock₂ ys = .ok others ∧ mergeBundles clock₃ [first, others] = .ok merged ∧
      EachPair fun view => view merged =
        guardedMerge [guardedMerge (xs.map view), guardedMerge (ys.map view)] := by
  obtain ⟨first, hfirst, hfirstViews⟩ := exists_mergeBundles clock₁ hxs
  obtain ⟨others, hothers, hothersViews⟩ := exists_mergeBundles clock₂ hys
  obtain ⟨merged, hmerged, hviews⟩ := exists_mergeBundles clock₃ (List.cons_ne_nil first [others])
  refine ⟨first, others, merged, hfirst, hothers, hmerged, ?_⟩
  refine (hviews.and (hfirstViews.and hothersViews)).imp fun view h => ?_
  obtain ⟨hmerged, hfirst, hothers⟩ := h
  rw [hmerged, ← hfirst, ← hothers]
  rfl

theorem mergesAll_iff_pairs (hne : bundles ≠ []) : MergesAll bundles ↔ EachPair fun view =>
    guardedMerge (bundles.map view) = concatPairs (bundles.map view) ∧
      ∀ xs ys, xs ≠ [] → ys ≠ [] → bundles = xs ++ ys →
        guardedMerge [guardedMerge (xs.map view), guardedMerge (ys.map view)] =
          concatPairs (bundles.map view) := by
  constructor
  · rintro ⟨hwhole, hgrouped⟩
    refine EachPair.and ?_ (.forall fun xs => .forall fun ys => .forall fun hxs => .forall fun hys =>
      .forall fun heq => ?_)
    · obtain ⟨merged, hmerged, hviews⟩ := exists_mergeBundles ⟨0, ""⟩ hne
      obtain ⟨merged', hmerged', hall⟩ := hwhole ⟨0, ""⟩
      obtain rfl := Except.ok.inj (hmerged.symm.trans hmerged')
      exact (hviews.and (collectionsOf_eq_iff.mp hall)).imp fun view h => h.1.symm.trans h.2
    · obtain ⟨first, others, merged, hfirst, hothers, hmerged, hviews⟩ :=
        exists_mergeBundles_grouped ⟨0, ""⟩ ⟨0, ""⟩ ⟨0, ""⟩ hxs hys
      obtain ⟨first', others', merged', hfirst', hothers', hmerged', hall⟩ :=
        hgrouped xs ys ⟨0, ""⟩ ⟨0, ""⟩ ⟨0, ""⟩ hxs hys heq
      obtain rfl := Except.ok.inj (hfirst.symm.trans hfirst')
      obtain rfl := Except.ok.inj (hothers.symm.trans hothers')
      obtain rfl := Except.ok.inj (hmerged.symm.trans hmerged')
      exact (hviews.and (collectionsOf_eq_iff.mp hall)).imp fun view h => h.1.symm.trans h.2
  · intro hpairs
    refine ⟨fun clock => ?_, fun xs ys clock₁ clock₂ clock₃ hxs hys heq => ?_⟩
    · obtain ⟨merged, hmerged, hviews⟩ := exists_mergeBundles clock hne
      exact ⟨merged, hmerged, collectionsOf_eq_iff.mpr
        ((hviews.and hpairs).imp fun view h => h.1.trans h.2.1)⟩
    · obtain ⟨first, others, merged, hfirst, hothers, hmerged, hviews⟩ :=
        exists_mergeBundles_grouped clock₁ clock₂ clock₃ hxs hys
      exact ⟨first, others, merged, hfirst, hothers, hmerged, collectionsOf_eq_iff.mpr
        ((hviews.and hpairs).imp fun view h => h.1.trans (h.2.2 xs ys hxs hys heq))⟩

/-- Merging keeps every collection exactly when each list of bundles that is merged has a document
reference for its chunks and contracts and an issue for its other tracker entries. -/
theorem mergesAll_iff (base : ContextBundle) (others : List ContextBundle) :
    MergesAll (base :: others) ↔
      ∀ xs ys, base :: others = xs ++ ys → LedBundles xs ∧ LedBundles ys := by
  rw [mergesAll_iff_pairs (List.cons_ne_nil base others)]
  constructor
  · intro hpairs xs ys heq
    have hled := hpairs.imp fun view h => (guardedMerge_map_laws_iff view _).mp h xs ys heq
    exact ⟨ledBundles_iff.mpr (hled.imp fun _ h => h.1), ledBundles_iff.mpr (hled.imp fun _ h => h.2)⟩
  · intro hled
    have hpairs : EachPair fun view => ∀ xs ys, base :: others = xs ++ ys →
        Led (xs.map view) ∧ Led (ys.map view) :=
      .forall fun xs => .forall fun ys => .forall fun heq =>
        (ledBundles_iff.mp (hled xs ys heq).1).and (ledBundles_iff.mp (hled xs ys heq).2)
    exact hpairs.imp fun view h => (guardedMerge_map_laws_iff view _).mpr h

end merging

/-- A bundle of one task, with these documents. -/
def bundleWith (documents : Option DocumentContext) : ContextBundle where
  version := "1.0.0"
  bundleId := "ctx-task-1-0"
  taskId := "task-1"
  createdAt := "2025-01-01T00:00:00.000Z"
  generator :=
    { component := .controlPlane
      version := "1.0.0"
      generatedAt := "2025-01-01T00:00:00.000Z" }
  task :=
    { taskId := "task-1"
      typedRef := "agent-taskstate:task:local:task-1"
      title := "Task"
      objective := "Fix"
      state := "queued"
      stage := "plan"
      riskLevel := .low }
  repository := { provider := .github, owner := "org", name := "repo", defaultBranch := "main" }
  workspace :=
    { workspaceId := "ws-1"
      kind := .container
      reusable := false
      workingDirectory := "/work" }
  documents := documents
  metadata := {}

/-- A chunk of a document that no bundle refers to is lost. -/
theorem chunk_lost_without_docRef : ¬MergesAll [bundleWith (some
      { docRefs := []
        chunks := [{ chunkId := "chunk-1", docRef := "doc-1", content := "text" }]
        contracts := [] }), bundleWith none] := by
  intro h
  obtain ⟨merged, hmerged, hall⟩ := h.whole ⟨0, "2025-01-01T00:00:00.000Z"⟩
  have hdocuments : merged.documents = none := by
    rw [← Except.ok.inj hmerged]
    rfl
  have hchunks := congrArg BundleCollections.chunks hall
  simp [collectionsOf, documentsOf, hdocuments, bundleWith] at hchunks

end ShipyardCp.Properties
