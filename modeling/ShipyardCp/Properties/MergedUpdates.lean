import ShipyardCp.Store.ControlPlaneStore

/-! Merging updates and applying them one after the other. Both come to the same task, unless the
merge brings a replacement before a combination that it came after, or combines references that
the later updates would have found present. -/

namespace ShipyardCp.Properties

open Domain Types Store ResolverRefs

def content (task : Task) : Task := { task with version := 0, updatedAt := 0 }

def applyUpdates (task : Task) (updates : List (Env × TaskUpdate)) : Task :=
  updates.foldl (fun task update => applyTaskUpdate update.1 task update.2) task

theorem applyUpdates_append (task : Task) (updates : List (Env × TaskUpdate))
    (update : Env × TaskUpdate) :
    applyUpdates task (updates ++ [update]) =
      applyTaskUpdate update.1 (applyUpdates task updates) update.2 := by
  rw [applyUpdates, List.foldl_append]
  rfl

section otherFields

variable {α : Type}

theorem overwrite_assoc (a b c : Option α) :
    overwrite (overwrite a b) c = overwrite a (overwrite b c) := by
  cases a <;> rfl

def apartFromCombined (task : Task) : Task :=
  { task with artifacts := none, resolverRefs := none, externalRefs := none,
              version := 0, updatedAt := 0 }

theorem content_eq_iff {a b : Task} : content a = content b ↔
    a.artifacts = b.artifacts ∧ a.resolverRefs = b.resolverRefs ∧
      a.externalRefs = b.externalRefs ∧ apartFromCombined a = apartFromCombined b := by
  constructor
  · intro h
    exact ⟨(congrArg Task.artifacts h :), (congrArg Task.resolverRefs h :),
      (congrArg Task.externalRefs h :), (congrArg apartFromCombined h :)⟩
  · rintro ⟨hartifacts, hresolver, hexternal, hapart⟩
    have hcontent : ∀ task : Task, content task =
        { apartFromCombined task with artifacts := task.artifacts,
                                      resolverRefs := task.resolverRefs,
                                      externalRefs := task.externalRefs } := fun _ => rfl
    rw [hcontent a, hcontent b, hartifacts, hresolver, hexternal, hapart]

def addRetries (own new : Option (StageRecord Int)) : Option (StageRecord Int) :=
  match new with
  | none => own
  | some new => some ((own.getD .empty).merge new)

theorem addRetries_assoc (own m u : Option (StageRecord Int)) :
    addRetries own (addRetries m u) = addRetries (addRetries own m) u := by
  cases u with
  | none => rfl
  | some u =>
    cases m with
    | none => cases own <;> simp [addRetries, StageRecord.merge, StageRecord.empty]
    | some m => cases own <;> simp [addRetries, StageRecord.merge, StageRecord.empty, Option.or_assoc]

theorem apartFromCombined_merge (env env₁ env₂ : Env) (task : Task) (m u : TaskUpdate) :
    apartFromCombined (applyTaskUpdate env task (mergeTaskUpdate m u)) =
      apartFromCombined (applyTaskUpdate env₂ (applyTaskUpdate env₁ task m) u) := by
  simp only [apartFromCombined, applyTaskUpdate, mergeTaskUpdate, overwrite_assoc]
  congr 1
  exact addRetries_assoc task.retryCounts m.retryCounts u.retryCounts

theorem apartFromCombined_apply {env₁ env₂ : Env} {a b : Task} (u : TaskUpdate)
    (h : apartFromCombined a = apartFromCombined b) :
    apartFromCombined (applyTaskUpdate env₁ a u) = apartFromCombined (applyTaskUpdate env₂ b u) := by
  have happly : ∀ (env : Env) (task : Task), apartFromCombined (applyTaskUpdate env task u) =
      apartFromCombined (applyTaskUpdate env (apartFromCombined task) u) := fun _ _ => rfl
  rw [happly, happly env₂, h]
  rfl

theorem apartFromCombined_applyUpdates (env : Env) (task : Task) (updates : List (Env × TaskUpdate)) :
    apartFromCombined (applyTaskUpdate env task (mergeTaskUpdates (updates.map Prod.snd))) =
      apartFromCombined (applyUpdates task updates) := by
  induction updates using List.reverseRecOn with
  | nil => rfl
  | append_singleton updates update ih =>
    rw [applyUpdates_append, List.map_append, List.map_singleton, mergeTaskUpdates_append,
      apartFromCombined_merge env env env]
    exact apartFromCombined_apply update.2 ih

end otherFields

section artifacts

def addedArtifacts (update : TaskUpdate) : List ArtifactRef := update.mergeArtifacts.getD []

def ArtifactsInOrder (updates : List TaskUpdate) : Prop :=
  updates.Pairwise fun earlier later => later.artifacts = none ∨ addedArtifacts earlier = []

theorem pairwise_snoc {α : Type} {R : α → α → Prop} {l : List α} {a : α} :
    (l ++ [a]).Pairwise R ↔ l.Pairwise R ∧ ∀ x ∈ l, R x a := by
  simp [List.pairwise_append]

def appendTo {α : Type} (own new : Option (List α)) : Option (List α) :=
  match new with
  | none => own
  | some new => some (own.getD [] ++ new)

theorem getD_appendTo {α : Type} (own new : Option (List α)) :
    (appendTo own new).getD [] = own.getD [] ++ new.getD [] := by
  cases new <;> simp [appendTo]

theorem isSome_appendTo {α : Type} (own new : Option (List α)) :
    (appendTo own new).isSome = (own.isSome || new.isSome) := by
  cases new <;> simp [appendTo]

theorem artifacts_applyTaskUpdate (env : Env) (task : Task) (u : TaskUpdate) :
    (applyTaskUpdate env task u).artifacts =
      appendTo (overwrite u.artifacts task.artifacts) u.mergeArtifacts := by
  unfold applyTaskUpdate appendTo
  cases u.mergeArtifacts <;> rfl

theorem artifacts_mergeTaskUpdate (m u : TaskUpdate) :
    (mergeTaskUpdate m u).artifacts = overwrite u.artifacts m.artifacts := rfl

theorem mergeArtifacts_mergeTaskUpdate (m u : TaskUpdate) :
    (mergeTaskUpdate m u).mergeArtifacts = appendTo m.mergeArtifacts u.mergeArtifacts := by
  unfold mergeTaskUpdate appendTo
  cases u.mergeArtifacts <;> rfl

theorem option_eq_iff_getD {α : Type} {a b : Option (List α)} (h : a.isSome = b.isSome) :
    a = b ↔ a.getD [] = b.getD [] := by
  cases a <;> cases b <;> simp_all

theorem isSome_overwrite {α : Type} (new old : Option α) :
    (overwrite new old).isSome = (new.isSome || old.isSome) := by
  cases new <;> rfl

theorem addedArtifacts_mergeTaskUpdates (updates : List TaskUpdate) :
    addedArtifacts (mergeTaskUpdates updates) = updates.flatMap addedArtifacts := by
  induction updates using List.reverseRecOn with
  | nil => rfl
  | append_singleton updates u ih =>
    rw [mergeTaskUpdates_append, addedArtifacts, mergeArtifacts_mergeTaskUpdate,
      getD_appendTo, List.flatMap_append, List.flatMap_singleton, ← ih]
    rfl

theorem isSome_artifacts_applyUpdates (env : Env) (task : Task) (updates : List (Env × TaskUpdate)) :
    (applyTaskUpdate env task (mergeTaskUpdates (updates.map Prod.snd))).artifacts.isSome =
      (applyUpdates task updates).artifacts.isSome := by
  induction updates using List.reverseRecOn with
  | nil => rfl
  | append_singleton updates u ih =>
    simp only [artifacts_applyTaskUpdate, isSome_appendTo, isSome_overwrite] at ih
    simp only [applyUpdates_append, List.map_append, List.map_singleton, mergeTaskUpdates_append,
      artifacts_applyTaskUpdate, mergeArtifacts_mergeTaskUpdate, isSome_appendTo,
      isSome_overwrite, artifacts_mergeTaskUpdate, ← ih]
    ac_rfl

theorem artifacts_applyUpdates_iff (env : Env) (task : Task) (updates : List (Env × TaskUpdate)) :
    (applyTaskUpdate env task (mergeTaskUpdates (updates.map Prod.snd))).artifacts =
      (applyUpdates task updates).artifacts ↔ ArtifactsInOrder (updates.map Prod.snd) := by
  rw [option_eq_iff_getD (isSome_artifacts_applyUpdates env task updates)]
  induction updates using List.reverseRecOn with
  | nil => exact ⟨fun _ => List.Pairwise.nil, fun _ => rfl⟩
  | append_singleton updates update ih =>
    obtain ⟨env', u⟩ := update
    have hmerged := addedArtifacts_mergeTaskUpdates (updates.map Prod.snd)
    simp only [artifacts_applyTaskUpdate, getD_appendTo] at ih
    simp only [ArtifactsInOrder, applyUpdates_append, List.map_append, List.map_singleton,
      mergeTaskUpdates_append, artifacts_applyTaskUpdate, mergeArtifacts_mergeTaskUpdate,
      getD_appendTo, pairwise_snoc]
    cases hreplaced : u.artifacts with
    | none =>
      have hkeep : (mergeTaskUpdate (mergeTaskUpdates (updates.map Prod.snd)) u).artifacts =
          (mergeTaskUpdates (updates.map Prod.snd)).artifacts := by
        rw [artifacts_mergeTaskUpdate, hreplaced]; rfl
      simp only [hkeep, overwrite_none, ← List.append_assoc, List.append_cancel_right_eq, ih,
        true_or, implies_true, and_true]
      rfl
    | some replaced =>
      have hkeep : (mergeTaskUpdate (mergeTaskUpdates (updates.map Prod.snd)) u).artifacts =
          some replaced := by
        rw [artifacts_mergeTaskUpdate, hreplaced]; rfl
      have hadded : (mergeTaskUpdates (updates.map Prod.snd)).mergeArtifacts.getD [] =
          (updates.map Prod.snd).flatMap addedArtifacts := hmerged
      simp only [hkeep, overwrite_some, Option.getD_some, hadded, List.append_cancel_left_eq,
        List.append_left_eq_self, List.flatMap_eq_nil_iff, reduceCtorEq, false_or]
      exact ⟨fun hnone => ⟨List.pairwise_of_forall_mem_list fun x hx _ _ => Or.inr (hnone x hx),
        hnone⟩, And.right⟩

end artifacts

section resolverRefs

variable {α : Type} {key : ResolverRefs → Option α} {updates : List TaskUpdate} {u : TaskUpdate}

def mergedAt (key : ResolverRefs → Option α) (update : TaskUpdate) : Option α :=
  update.mergeResolverRefs.bind key

def placedAt (key : ResolverRefs → Option α) (update : TaskUpdate) : Option α :=
  update.resolverRefs.bind key

/-- After the last update that merges at a key, other updates put there what it merged, if
anything. -/
def KeyInOrder (key : ResolverRefs → Option α) (updates : List TaskUpdate) : Prop :=
  ∀ front u rest v, updates = front ++ u :: rest → mergedAt key u = some v →
    (∀ later ∈ rest, mergedAt key later = none) →
    ∀ w, (rest.filterMap (placedAt key)).getLast? = some w → w = v

/-- A key of the references: absent from the empty ones, and overwritten by a spread. -/
structure IsKey (key : ResolverRefs → Option α) : Prop where
  empty : key .empty = none
  spread : ∀ base new, key (spreadResolverRefs base new) = overwrite (key new) (key base)

theorem IsKey.applyResolverRefs (h : IsKey key) (refs update : Option ResolverRefs) :
    (applyResolverRefs refs update).bind key = overwrite (update.bind key) (refs.bind key) := by
  cases update with
  | none => rfl
  | some new => cases refs <;> simp [Domain.applyResolverRefs, h.spread, h.empty]

theorem getLast?_filterMap_concat (f : TaskUpdate → Option α) (updates : List TaskUpdate)
    (u : TaskUpdate) : ((updates ++ [u]).filterMap f).getLast? =
      overwrite (f u) (updates.filterMap f).getLast? := by
  rw [List.filterMap_append]
  cases hu : f u <;> simp [hu]

theorem IsKey.mergedAt_mergeTaskUpdates (h : IsKey key) (updates : List TaskUpdate) :
    mergedAt key (mergeTaskUpdates updates) = (updates.filterMap (mergedAt key)).getLast? := by
  induction updates using List.reverseRecOn with
  | nil => rfl
  | append_singleton updates u ih =>
    rw [mergeTaskUpdates_append, getLast?_filterMap_concat, ← ih]
    exact h.applyResolverRefs _ _

theorem IsKey.placedAt_mergeTaskUpdate (h : IsKey key) (m u : TaskUpdate) :
    placedAt key (mergeTaskUpdate m u) = overwrite (placedAt key u) (placedAt key m) :=
  h.applyResolverRefs _ _

theorem IsKey.mergedAt_mergeTaskUpdate (h : IsKey key) (m u : TaskUpdate) :
    mergedAt key (mergeTaskUpdate m u) = overwrite (mergedAt key u) (mergedAt key m) :=
  h.applyResolverRefs _ _

theorem IsKey.bind_applyTaskUpdate (h : IsKey key) (env : Env) (task : Task) (u : TaskUpdate) :
    (applyTaskUpdate env task u).resolverRefs.bind key =
      overwrite (mergedAt key u) (overwrite (placedAt key u) (task.resolverRefs.bind key)) :=
  (h.applyResolverRefs _ _).trans (congrArg _ (h.applyResolverRefs _ _))

theorem getLast?_filterMap_eq_some {f : TaskUpdate → Option α} {v : α} :
    (updates.filterMap f).getLast? = some v ↔ ∃ front u rest, updates = front ++ u :: rest ∧
      f u = some v ∧ ∀ later ∈ rest, f later = none := by
  constructor
  · intro h
    obtain ⟨before, hbefore⟩ := List.getLast?_eq_some_iff.mp h
    obtain ⟨front, back, rfl, _, hback⟩ := List.filterMap_eq_append_iff.mp hbefore
    obtain ⟨skipped, u, rest, rfl, _, hu, hrest⟩ := List.filterMap_eq_cons_iff.mp hback
    refine ⟨front ++ skipped, u, rest, by rw [List.append_assoc], hu, fun later hlater => ?_⟩
    exact List.filterMap_eq_nil_iff.mp hrest later hlater
  · rintro ⟨front, u, rest, rfl, hu, hrest⟩
    rw [List.filterMap_append, List.filterMap_cons_some hu, List.filterMap_eq_nil_iff.mpr hrest,
      List.getLast?_concat]

theorem keyInOrder_concat_merged {v : α} (hu : mergedAt key u = some v) :
    KeyInOrder key (updates ++ [u]) := by
  intro front x rest _ hsplit _ hrest w hw
  obtain rfl | ⟨rest, last, rfl⟩ := List.eq_nil_or_concat rest
  · cases hw
  · rw [List.concat_eq_append, ← List.cons_append, ← List.append_assoc] at hsplit
    obtain ⟨_, hlast⟩ := List.append_inj' hsplit rfl
    have hnone := hrest last (by simp)
    rw [← List.singleton_inj.mp hlast, hu] at hnone
    cases hnone

theorem split_concat {front rest : List TaskUpdate} {x : TaskUpdate} {v : α}
    (hu : mergedAt key u = none) (hx : mergedAt key x = some v)
    (hsplit : updates ++ [u] = front ++ x :: rest) :
    ∃ rest', rest = rest' ++ [u] ∧ updates = front ++ x :: rest' := by
  obtain rfl | ⟨rest, last, rfl⟩ := List.eq_nil_or_concat rest
  · obtain ⟨_, hlast⟩ := List.append_inj' hsplit rfl
    rw [← List.singleton_inj.mp hlast, hu] at hx
    cases hx
  · rw [List.concat_eq_append, ← List.cons_append, ← List.append_assoc] at hsplit
    obtain ⟨hfront, hlast⟩ := List.append_inj' hsplit rfl
    rw [List.concat_eq_append, List.singleton_inj.mp hlast]
    exact ⟨rest, rfl, hfront⟩

theorem keyInOrder_concat_none (hm : mergedAt key u = none) (hp : placedAt key u = none) :
    KeyInOrder key (updates ++ [u]) ↔ KeyInOrder key updates := by
  constructor
  · rintro h front x rest v rfl hx hrest w hw
    refine h front x (rest ++ [u]) v (by simp) hx ?_ w ?_
    · intro later hlater
      obtain hlater | hlater := List.mem_append.mp hlater
      · exact hrest later hlater
      · rw [List.mem_singleton.mp hlater, hm]
    · rw [getLast?_filterMap_concat, hp, overwrite_none, hw]
  · intro h front x rest v hsplit hx hrest w hw
    obtain ⟨rest, rfl, rfl⟩ := split_concat hm hx hsplit
    rw [getLast?_filterMap_concat, hp, overwrite_none] at hw
    exact h front x rest v rfl hx (fun later hlater => hrest later (by simp [hlater])) w hw

theorem keyInOrder_concat_placed {w : α} (hm : mergedAt key u = none)
    (hp : placedAt key u = some w) : KeyInOrder key (updates ++ [u]) ↔
      ∀ v, (updates.filterMap (mergedAt key)).getLast? = some v → w = v := by
  have hlast : ∀ rest : List TaskUpdate,
      ((rest ++ [u]).filterMap (placedAt key)).getLast? = some w := by
    intro rest
    rw [getLast?_filterMap_concat, hp, overwrite_some]
  constructor
  · intro h v hv
    obtain ⟨front, x, rest, rfl, hx, hrest⟩ := getLast?_filterMap_eq_some.mp hv
    refine h front x (rest ++ [u]) v (by simp) hx (fun later hlater => ?_) w (hlast rest)
    obtain hlater | hlater := List.mem_append.mp hlater
    · exact hrest later hlater
    · rw [List.mem_singleton.mp hlater, hm]
  · intro h front x rest v hsplit hx hrest w' hw'
    obtain ⟨rest, rfl, rfl⟩ := split_concat hm hx hsplit
    rw [hlast rest] at hw'
    rw [← Option.some.inj hw']
    exact h v (getLast?_filterMap_eq_some.mpr
      ⟨front, x, rest, rfl, hx, fun later hlater => hrest later (by simp [hlater])⟩)

theorem IsKey.applyUpdates_iff (h : IsKey key) (env : Env) (task : Task)
    (updates : List (Env × TaskUpdate)) :
    (applyTaskUpdate env task (mergeTaskUpdates (updates.map Prod.snd))).resolverRefs.bind key =
      (applyUpdates task updates).resolverRefs.bind key ↔
    KeyInOrder key (updates.map Prod.snd) := by
  induction updates using List.reverseRecOn with
  | nil =>
    refine ⟨fun _ front u rest v hsplit => ?_, fun _ => ?_⟩
    · cases front <;> cases hsplit
    · exact h.bind_applyTaskUpdate env task {}
  | append_singleton updates update ih =>
    obtain ⟨env', u⟩ := update
    rw [applyUpdates_append, h.bind_applyTaskUpdate, h.bind_applyTaskUpdate, List.map_append,
      List.map_singleton, mergeTaskUpdates_append, h.mergedAt_mergeTaskUpdate,
      h.placedAt_mergeTaskUpdate]
    rw [h.bind_applyTaskUpdate] at ih
    cases hm : mergedAt key u with
    | some v => exact ⟨fun _ => keyInOrder_concat_merged hm, fun _ => rfl⟩
    | none =>
      cases hp : placedAt key u with
      | none => exact ih.trans (keyInOrder_concat_none hm hp).symm
      | some w =>
        rw [keyInOrder_concat_placed hm hp, ← h.mergedAt_mergeTaskUpdates]
        cases hlast : mergedAt key (mergeTaskUpdates (updates.map Prod.snd)) with
        | none => simp
        | some v => simp [eq_comm]

/-- The updates of each key of the resolver references are in order. -/
structure ResolverRefsInOrder (updates : List TaskUpdate) : Prop where
  docRefs : KeyInOrder docRefs updates
  chunkRefs : KeyInOrder chunkRefs updates
  ackRefs : KeyInOrder ackRefs updates
  contractRefs : KeyInOrder contractRefs updates
  staleStatus : KeyInOrder staleStatus updates
  staleDocCounts : KeyInOrder staleDocCounts updates

theorem isSome_applyResolverRefs (refs update : Option ResolverRefs) :
    (applyResolverRefs refs update).isSome = (update.isSome || refs.isSome) := by
  cases update <;> rfl

theorem isSome_resolverRefs_applyUpdates (env : Env) (task : Task)
    (updates : List (Env × TaskUpdate)) :
    (applyTaskUpdate env task (mergeTaskUpdates (updates.map Prod.snd))).resolverRefs.isSome =
      (applyUpdates task updates).resolverRefs.isSome := by
  have happly : ∀ (env : Env) (task : Task) (u : TaskUpdate),
      (applyTaskUpdate env task u).resolverRefs.isSome =
        (u.mergeResolverRefs.isSome || (u.resolverRefs.isSome || task.resolverRefs.isSome)) := by
    intro env task u
    exact (isSome_applyResolverRefs _ _).trans (congrArg _ (isSome_applyResolverRefs _ _))
  have hmerged : ∀ m u : TaskUpdate, (mergeTaskUpdate m u).mergeResolverRefs.isSome =
      (u.mergeResolverRefs.isSome || m.mergeResolverRefs.isSome) :=
    fun _ _ => isSome_applyResolverRefs _ _
  have hplaced : ∀ m u : TaskUpdate, (mergeTaskUpdate m u).resolverRefs.isSome =
      (u.resolverRefs.isSome || m.resolverRefs.isSome) := fun _ _ => isSome_applyResolverRefs _ _
  induction updates using List.reverseRecOn with
  | nil => exact happly env task {}
  | append_singleton updates update ih =>
    rw [applyUpdates_append, happly update.1, ← ih, happly env, happly env, List.map_append,
      List.map_singleton, mergeTaskUpdates_append, hmerged, hplaced]
    ac_rfl

theorem resolverRefs_eq_iff {a b : Option ResolverRefs} (h : a.isSome = b.isSome) : a = b ↔
    a.bind docRefs = b.bind docRefs ∧
    a.bind chunkRefs = b.bind chunkRefs ∧
    a.bind ackRefs = b.bind ackRefs ∧
    a.bind contractRefs = b.bind contractRefs ∧
    a.bind staleStatus = b.bind staleStatus ∧
    a.bind staleDocCounts = b.bind staleDocCounts := by
  constructor
  · rintro rfl
    exact ⟨rfl, rfl, rfl, rfl, rfl, rfl⟩
  · rintro ⟨h₁, h₂, h₃, h₄, h₅, h₆⟩
    cases a with
    | none =>
      cases b with
      | none => rfl
      | some b => cases h
    | some a =>
      cases b with
      | none => cases h
      | some b =>
        obtain ⟨_, _, _, _, _, _⟩ := a
        obtain ⟨_, _, _, _, _, _⟩ := b
        simp only [Option.bind_some] at h₁ h₂ h₃ h₄ h₅ h₆
        rw [h₁, h₂, h₃, h₄, h₅, h₆]

theorem resolverRefs_applyUpdates_iff (env : Env) (task : Task) (updates : List (Env × TaskUpdate)) :
    (applyTaskUpdate env task (mergeTaskUpdates (updates.map Prod.snd))).resolverRefs =
      (applyUpdates task updates).resolverRefs ↔
    ResolverRefsInOrder (updates.map Prod.snd) := by
  have hiff : ∀ {α : Type} {key : ResolverRefs → Option α}, IsKey key →
      ((applyTaskUpdate env task (mergeTaskUpdates (updates.map Prod.snd))).resolverRefs.bind key =
        (applyUpdates task updates).resolverRefs.bind key ↔
      KeyInOrder key (updates.map Prod.snd)) := fun h => h.applyUpdates_iff env task updates
  rw [resolverRefs_eq_iff (isSome_resolverRefs_applyUpdates env task updates),
    hiff ⟨rfl, fun _ _ => rfl⟩, hiff ⟨rfl, fun _ _ => rfl⟩, hiff ⟨rfl, fun _ _ => rfl⟩,
    hiff ⟨rfl, fun _ _ => rfl⟩, hiff ⟨rfl, fun _ _ => rfl⟩, hiff ⟨rfl, fun _ _ => rfl⟩]
  exact ⟨fun ⟨h₁, h₂, h₃, h₄, h₅, h₆⟩ => ⟨h₁, h₂, h₃, h₄, h₅, h₆⟩,
    fun ⟨h₁, h₂, h₃, h₄, h₅, h₆⟩ => ⟨h₁, h₂, h₃, h₄, h₅, h₆⟩⟩

end resolverRefs

section externalRefs

def freshValues (base : List ExternalRef) (update : TaskUpdate) : List String :=
  ((update.mergeExternalRefs.getD []).map (·.value)).filter (· ∉ base.map (·.value))

/-- The references that the updates add to: those that the last replacing update puts in place, or
the task's own. -/
def baseRefs (own : Option (List ExternalRef)) (updates : List TaskUpdate) : List ExternalRef :=
  (overwrite (updates.filterMap (·.externalRefs)).getLast? own).getD []

/-- No references are replaced after an update has added some, and no two updates add references of
the same value. -/
def ExternalRefsInOrder (own : Option (List ExternalRef)) (updates : List TaskUpdate) : Prop :=
  updates.Pairwise fun earlier later =>
    (later.externalRefs = none ∨ freshValues (baseRefs own updates) earlier = []) ∧
      (freshValues (baseRefs own updates) earlier).Disjoint (freshValues (baseRefs own updates) later)

section list

variable {base added refs : List ExternalRef}

def freshRefs (base refs : List ExternalRef) : List ExternalRef :=
  refs.filter fun ref => ref.value ∉ base.map (·.value)

theorem freshRefs_append (base refs others : List ExternalRef) :
    freshRefs base (refs ++ others) = freshRefs base refs ++ freshRefs base others :=
  List.filter_append _ _

theorem freshRefs_sublist : (freshRefs (base ++ added) refs).Sublist (freshRefs base refs) := by
  refine List.monotone_filter_right refs fun ref hfresh => ?_
  simp only [List.map_append, List.mem_append, not_or, decide_eq_true_eq] at hfresh
  exact decide_eq_true hfresh.1

theorem freshRefs_eq_iff : freshRefs (base ++ added) refs = freshRefs base refs ↔
    ∀ ref ∈ freshRefs base refs, ref.value ∉ added.map (·.value) := by
  have hfilter : freshRefs (base ++ added) refs =
      (freshRefs base refs).filter fun ref => ref.value ∉ added.map (·.value) := by
    rw [freshRefs, freshRefs, List.filter_filter]
    refine List.filter_congr fun ref _ => ?_
    simp only [List.map_append, List.mem_append, not_or, Bool.decide_and, Bool.and_comm]
  rw [hfilter, List.filter_eq_self]
  simp only [decide_eq_true_eq]

theorem append_freshRefs_eq_iff {all : List ExternalRef} (h : added.Sublist all) :
    all ++ freshRefs base refs = added ++ freshRefs (base ++ added) refs ↔
      all = added ∧ ∀ ref ∈ freshRefs base refs, ref.value ∉ added.map (·.value) := by
  constructor
  · intro heq
    have hlength := congrArg List.length heq
    have hle := h.length_le
    have hle' : (freshRefs (base ++ added) refs).length ≤ (freshRefs base refs).length :=
      freshRefs_sublist.length_le
    simp only [List.length_append] at hlength
    obtain ⟨hsame, hfresh⟩ := List.append_inj heq (by omega)
    exact ⟨hsame, freshRefs_eq_iff.mp hfresh.symm⟩
  · rintro ⟨rfl, hfresh⟩
    rw [freshRefs_eq_iff.mpr hfresh]

theorem mem_freshValues_iff {value : String} {u : TaskUpdate} : value ∈ freshValues base u ↔
    ∃ ref ∈ freshRefs base (u.mergeExternalRefs.getD []), ref.value = value := by
  simp only [freshValues, freshRefs, List.mem_filter, List.mem_map, decide_eq_true_eq]
  constructor
  · rintro ⟨⟨ref, hmem, rfl⟩, hfresh⟩
    exact ⟨ref, ⟨hmem, hfresh⟩, rfl⟩
  · rintro ⟨ref, ⟨hmem, hfresh⟩, rfl⟩
    exact ⟨⟨ref, hmem, rfl⟩, hfresh⟩

end list

def addExternalRefs (own new : Option (List ExternalRef)) : Option (List ExternalRef) :=
  match new with
  | none => own
  | some new => some (mergeExternalRefs own new)

theorem getD_addExternalRefs (own new : Option (List ExternalRef)) :
    (addExternalRefs own new).getD [] = own.getD [] ++ freshRefs (own.getD []) (new.getD []) := by
  cases new with
  | none => exact (List.append_nil _).symm
  | some new => rfl

theorem isSome_addExternalRefs (own new : Option (List ExternalRef)) :
    (addExternalRefs own new).isSome = (own.isSome || new.isSome) := by
  cases new <;> simp [addExternalRefs]

theorem externalRefs_applyTaskUpdate (env : Env) (task : Task) (u : TaskUpdate) :
    (applyTaskUpdate env task u).externalRefs =
      addExternalRefs (overwrite u.externalRefs task.externalRefs) u.mergeExternalRefs := rfl

theorem externalRefs_mergeTaskUpdate (m u : TaskUpdate) :
    (mergeTaskUpdate m u).externalRefs = overwrite u.externalRefs m.externalRefs := rfl

theorem mergeExternalRefs_mergeTaskUpdate (m u : TaskUpdate) :
    (mergeTaskUpdate m u).mergeExternalRefs = appendTo m.mergeExternalRefs u.mergeExternalRefs := by
  unfold mergeTaskUpdate appendTo
  cases u.mergeExternalRefs <;> rfl

theorem isSome_externalRefs_applyUpdates (env : Env) (task : Task)
    (updates : List (Env × TaskUpdate)) :
    (applyTaskUpdate env task (mergeTaskUpdates (updates.map Prod.snd))).externalRefs.isSome =
      (applyUpdates task updates).externalRefs.isSome := by
  induction updates using List.reverseRecOn with
  | nil => rfl
  | append_singleton updates u ih =>
    simp only [externalRefs_applyTaskUpdate, isSome_addExternalRefs, isSome_overwrite] at ih
    simp only [applyUpdates_append, List.map_append, List.map_singleton, mergeTaskUpdates_append,
      externalRefs_applyTaskUpdate, mergeExternalRefs_mergeTaskUpdate, isSome_addExternalRefs,
      isSome_appendTo, isSome_overwrite, externalRefs_mergeTaskUpdate, ← ih]
    ac_rfl

theorem externalRefs_mergeTaskUpdates (updates : List TaskUpdate) :
    (mergeTaskUpdates updates).externalRefs = (updates.filterMap (·.externalRefs)).getLast? := by
  induction updates using List.reverseRecOn with
  | nil => rfl
  | append_singleton updates u ih =>
    rw [mergeTaskUpdates_append, getLast?_filterMap_concat, externalRefs_mergeTaskUpdate, ih]

theorem mergeExternalRefs_mergeTaskUpdates (updates : List TaskUpdate) :
    (mergeTaskUpdates updates).mergeExternalRefs.getD [] =
      updates.flatMap fun u => u.mergeExternalRefs.getD [] := by
  induction updates using List.reverseRecOn with
  | nil => rfl
  | append_singleton updates u ih =>
    rw [mergeTaskUpdates_append, mergeExternalRefs_mergeTaskUpdate, getD_appendTo, ih,
      List.flatMap_append, List.flatMap_singleton]

theorem externalRefs_merged (env : Env) (task : Task) (updates : List TaskUpdate) :
    (applyTaskUpdate env task (mergeTaskUpdates updates)).externalRefs.getD [] =
      baseRefs task.externalRefs updates ++ freshRefs (baseRefs task.externalRefs updates)
        (updates.flatMap fun u => u.mergeExternalRefs.getD []) := by
  rw [externalRefs_applyTaskUpdate, getD_addExternalRefs, externalRefs_mergeTaskUpdates,
    mergeExternalRefs_mergeTaskUpdates]
  rfl

theorem baseRefs_concat (own : Option (List ExternalRef)) (updates : List TaskUpdate)
    (u : TaskUpdate) : baseRefs own (updates ++ [u]) =
      (overwrite u.externalRefs (some (baseRefs own updates))).getD [] := by
  rw [baseRefs, getLast?_filterMap_concat]
  cases u.externalRefs <;> rfl

theorem externalRefs_applyUpdates (task : Task) (updates : List (Env × TaskUpdate)) :
    ∃ added, (applyUpdates task updates).externalRefs.getD [] =
        baseRefs task.externalRefs (updates.map Prod.snd) ++ added ∧
      added.Sublist (freshRefs (baseRefs task.externalRefs (updates.map Prod.snd))
        ((updates.map Prod.snd).flatMap fun u => u.mergeExternalRefs.getD [])) := by
  induction updates using List.reverseRecOn with
  | nil => exact ⟨[], (List.append_nil _).symm, List.nil_sublist _⟩
  | append_singleton updates update ih =>
    obtain ⟨env, u⟩ := update
    obtain ⟨added, hadded, hsub⟩ := ih
    rw [applyUpdates_append, externalRefs_applyTaskUpdate, getD_addExternalRefs, List.map_append,
      List.map_singleton, baseRefs_concat, List.flatMap_append, List.flatMap_singleton,
      freshRefs_append]
    cases hreplaced : u.externalRefs with
    | none =>
      rw [overwrite_none, overwrite_none, Option.getD_some, hadded, List.append_assoc]
      exact ⟨_, rfl, hsub.append freshRefs_sublist⟩
    | some replaced =>
      rw [overwrite_some, overwrite_some, Option.getD_some]
      exact ⟨_, rfl, List.sublist_append_right _ _⟩

theorem forall_freshValues_iff {base : List ExternalRef} {updates : List TaskUpdate}
    (P : String → Prop) : (∀ u ∈ updates, ∀ value ∈ freshValues base u, P value) ↔
      ∀ ref ∈ freshRefs base (updates.flatMap fun u => u.mergeExternalRefs.getD []), P ref.value := by
  constructor
  · intro h ref hmem
    obtain ⟨hmem, hfresh⟩ := List.mem_filter.mp hmem
    obtain ⟨u, hu, hmem⟩ := List.mem_flatMap.mp hmem
    exact h u hu _ (mem_freshValues_iff.mpr ⟨ref, List.mem_filter.mpr ⟨hmem, hfresh⟩, rfl⟩)
  · intro h u hu value hvalue
    obtain ⟨ref, hmem, rfl⟩ := mem_freshValues_iff.mp hvalue
    obtain ⟨hmem, hfresh⟩ := List.mem_filter.mp hmem
    exact h ref (List.mem_filter.mpr ⟨List.mem_flatMap.mpr ⟨u, hu, hmem⟩, hfresh⟩)

theorem freshRefs_eq_nil_iff {base : List ExternalRef} {updates : List TaskUpdate} :
    freshRefs base (updates.flatMap fun u => u.mergeExternalRefs.getD []) = [] ↔
      ∀ u ∈ updates, freshValues base u = [] := by
  simp only [List.eq_nil_iff_forall_not_mem]
  exact ⟨fun h => (forall_freshValues_iff fun _ => False).mpr fun ref hmem => absurd hmem (h ref),
    fun h ref hmem => (forall_freshValues_iff fun _ => False).mp h ref hmem⟩

theorem externalRefs_applyUpdates_iff (env : Env) (task : Task) (updates : List (Env × TaskUpdate)) :
    (applyTaskUpdate env task (mergeTaskUpdates (updates.map Prod.snd))).externalRefs =
      (applyUpdates task updates).externalRefs ↔
    ExternalRefsInOrder task.externalRefs (updates.map Prod.snd) := by
  rw [option_eq_iff_getD (isSome_externalRefs_applyUpdates env task updates), externalRefs_merged]
  induction updates using List.reverseRecOn with
  | nil => exact ⟨fun _ => List.Pairwise.nil, fun _ => List.append_nil _⟩
  | append_singleton updates update ih =>
    obtain ⟨env', u⟩ := update
    rw [applyUpdates_append, externalRefs_applyTaskUpdate, getD_addExternalRefs,
      ExternalRefsInOrder, List.map_append, List.map_singleton, baseRefs_concat,
      List.flatMap_append, List.flatMap_singleton, freshRefs_append, pairwise_snoc]
    cases hreplaced : u.externalRefs with
    | none =>
      -- what came before agrees, and the update adds nothing that was added before
      obtain ⟨added, hadded, hsub⟩ := externalRefs_applyUpdates task updates
      rw [hadded, List.append_cancel_left_eq] at ih
      rw [overwrite_none, overwrite_none, Option.getD_some, hadded, List.append_assoc,
        List.append_cancel_left_eq, append_freshRefs_eq_iff hsub, ih]
      simp only [true_or, true_and]
      refine and_congr_right fun horder => ?_
      rw [← ih.mpr horder]
      constructor
      · intro hnew x hx value hvalue hlater
        obtain ⟨ref, hmem, rfl⟩ := mem_freshValues_iff.mp hlater
        refine hnew ref hmem ?_
        exact (forall_freshValues_iff fun value => value ∈ List.map ExternalRef.value _).mpr
          (fun ref hmem => List.mem_map_of_mem hmem) x hx _ hvalue
      · intro hdisjoint ref hmem hadded
        obtain ⟨earlier, hearlier, hvalue⟩ := List.mem_map.mp hadded
        have hnot := (forall_freshValues_iff fun value =>
          value ∉ freshValues (baseRefs task.externalRefs (updates.map Prod.snd)) u).mp
          (fun x hx value hvalue hlater => hdisjoint x hx hvalue hlater) earlier hearlier
        exact hnot (mem_freshValues_iff.mpr ⟨ref, hmem, hvalue.symm⟩)
    | some replaced =>
      rw [overwrite_some, overwrite_some, Option.getD_some, List.append_cancel_left_eq,
        List.append_left_eq_self, freshRefs_eq_nil_iff]
      constructor
      · intro hnone
        refine ⟨List.pairwise_of_forall_mem_list fun x hx y _ => ?_, fun x hx => ?_⟩
        · exact ⟨Or.inr (hnone x hx), by rw [hnone x hx]; exact List.disjoint_nil_left _⟩
        · exact ⟨Or.inr (hnone x hx), by rw [hnone x hx]; exact List.disjoint_nil_left _⟩
      · rintro ⟨_, hlast⟩ x hx
        exact (hlast x hx).1.resolve_left nofun

end externalRefs

/-- What updates combine they combine in the order in which a merge applies it. -/
structure CombinedInOrder (task : Task) (updates : List TaskUpdate) : Prop where
  artifacts : ArtifactsInOrder updates
  resolverRefs : ResolverRefsInOrder updates
  externalRefs : ExternalRefsInOrder task.externalRefs updates

end ShipyardCp.Properties
