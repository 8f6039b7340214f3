import Mathlib.Data.List.Induction
import ShipyardCp.Domain.StateMachine

/-! Partial updates of a task: how they are applied and how several are merged into one. -/

namespace ShipyardCp.Domain

open Types

/-- A partial update; `none` is a key that is absent or set to `undefined`. -/
structure TaskUpdate where
  artifacts : Option (List ArtifactRef) := none
  mergeArtifacts : Option (List ArtifactRef) := none
  resolverRefs : Option ResolverRefs := none
  mergeResolverRefs : Option ResolverRefs := none
  externalRefs : Option (List ExternalRef) := none
  mergeExternalRefs : Option (List ExternalRef) := none
  contextBundleRef : Option String := none
  rollbackNotes : Option String := none
  lastVerdict : Option Types.Verdict := none
  retryCounts : Option (StageRecord Int) := none
  lastFailureClass : Option FailureClass := none
  reworkContext : Option ReworkContext := none
  acceptanceGateContext : Option AcceptanceGateContext := none
  loopFingerprint : Option String := none
  detectedSideEffects : Option (List SideEffectCategory) := none
  blockedContext : Option BlockedContext := none
  activeJobId : Option String := none
  manualChecklist : Option (List ManualChecklistItem) := none

/-- `if (new !== undefined) old = new`. -/
def overwrite {α : Type} (new old : Option α) : Option α := new.orElse fun _ => old

@[simp] theorem overwrite_none {α : Type} (old : Option α) : overwrite none old = old := rfl

@[simp] theorem overwrite_some {α : Type} (a : α) (old : Option α) :
    overwrite (some a) old = some a := rfl

/-- Object spread of partial resolver references: keys present in the second record win. -/
def spreadResolverRefs (base new : ResolverRefs) : ResolverRefs where
  docRefs := overwrite new.docRefs base.docRefs
  chunkRefs := overwrite new.chunkRefs base.chunkRefs
  ackRefs := overwrite new.ackRefs base.ackRefs
  contractRefs := overwrite new.contractRefs base.contractRefs
  staleStatus := overwrite new.staleStatus base.staleStatus
  staleDocCounts := overwrite new.staleDocCounts base.staleDocCounts

def mergeExternalRefs (existing : Option (List ExternalRef)) (newRefs : List ExternalRef) :
    List ExternalRef :=
  let existingValues := (existing.getD []).map (·.value)
  existing.getD [] ++ newRefs.filter fun e => e.value ∉ existingValues

def applyResolverRefs (refs : Option ResolverRefs) (update : Option ResolverRefs) :
    Option ResolverRefs :=
  match update with
  | none => refs
  | some new => some (spreadResolverRefs (refs.getD .empty) new)

def applyTaskUpdate (env : Env) (task : Task) (update : TaskUpdate) : Task :=
  let artifacts := overwrite update.artifacts task.artifacts
  let externalRefs := overwrite update.externalRefs task.externalRefs
  { task with
    artifacts := match update.mergeArtifacts with
      | none => artifacts
      | some new => some (artifacts.getD [] ++ new)
    resolverRefs := applyResolverRefs (applyResolverRefs task.resolverRefs update.resolverRefs)
        update.mergeResolverRefs
    externalRefs := match update.mergeExternalRefs with
      | none => externalRefs
      | some new => some (mergeExternalRefs externalRefs new)
    contextBundleRef := overwrite update.contextBundleRef task.contextBundleRef
    rollbackNotes := overwrite update.rollbackNotes task.rollbackNotes
    lastVerdict := overwrite update.lastVerdict task.lastVerdict
    lastFailureClass := overwrite update.lastFailureClass task.lastFailureClass
    reworkContext := overwrite update.reworkContext task.reworkContext
    acceptanceGateContext := overwrite update.acceptanceGateContext task.acceptanceGateContext
    loopFingerprint := overwrite update.loopFingerprint task.loopFingerprint
    detectedSideEffects := overwrite update.detectedSideEffects task.detectedSideEffects
    blockedContext := overwrite update.blockedContext task.blockedContext
    activeJobId := overwrite update.activeJobId task.activeJobId
    manualChecklist := overwrite update.manualChecklist task.manualChecklist
    retryCounts := match update.retryCounts with
      | none => task.retryCounts
      | some new => some ((task.retryCounts.getD .empty).merge new)
    version := task.version + 1
    updatedAt := env.now }

/-- One step of `mergeTaskUpdates`: direct fields of the later update win, merge fields are
combined. -/
def mergeTaskUpdate (merged update : TaskUpdate) : TaskUpdate where
  artifacts := overwrite update.artifacts merged.artifacts
  mergeArtifacts := match update.mergeArtifacts with
    | none => merged.mergeArtifacts
    | some new => some (merged.mergeArtifacts.getD [] ++ new)
  resolverRefs := applyResolverRefs merged.resolverRefs update.resolverRefs
  mergeResolverRefs := applyResolverRefs merged.mergeResolverRefs update.mergeResolverRefs
  externalRefs := overwrite update.externalRefs merged.externalRefs
  mergeExternalRefs := match update.mergeExternalRefs with
    | none => merged.mergeExternalRefs
    | some new => some (merged.mergeExternalRefs.getD [] ++ new)
  contextBundleRef := overwrite update.contextBundleRef merged.contextBundleRef
  rollbackNotes := overwrite update.rollbackNotes merged.rollbackNotes
  lastVerdict := overwrite update.lastVerdict merged.lastVerdict
  retryCounts := match update.retryCounts with
    | none => merged.retryCounts
    | some new => some ((merged.retryCounts.getD .empty).merge new)
  lastFailureClass := overwrite update.lastFailureClass merged.lastFailureClass
  reworkContext := overwrite update.reworkContext merged.reworkContext
  acceptanceGateContext := overwrite update.acceptanceGateContext merged.acceptanceGateContext
  loopFingerprint := overwrite update.loopFingerprint merged.loopFingerprint
  detectedSideEffects := overwrite update.detectedSideEffects merged.detectedSideEffects
  blockedContext := overwrite update.blockedContext merged.blockedContext
  activeJobId := overwrite update.activeJobId merged.activeJobId
  manualChecklist := overwrite update.manualChecklist merged.manualChecklist

def mergeTaskUpdates (updates : List TaskUpdate) : TaskUpdate := updates.foldl mergeTaskUpdate {}

section applyTaskUpdate

variable (env : Env) (task : Task) (update : TaskUpdate)

@[simp] theorem applyTaskUpdate_taskId : (applyTaskUpdate env task update).taskId = task.taskId := rfl

@[simp] theorem applyTaskUpdate_state : (applyTaskUpdate env task update).state = task.state := rfl

@[simp] theorem applyTaskUpdate_typedRef :
    (applyTaskUpdate env task update).typedRef = task.typedRef := rfl

@[simp] theorem applyTaskUpdate_version :
    (applyTaskUpdate env task update).version = task.version + 1 := rfl

@[simp] theorem applyTaskUpdate_publishPlan :
    (applyTaskUpdate env task update).publishPlan = task.publishPlan := rfl

@[simp] theorem applyTaskUpdate_pendingApprovalToken :
    (applyTaskUpdate env task update).pendingApprovalToken = task.pendingApprovalToken := rfl

@[simp] theorem applyTaskUpdate_activeJobId :
    (applyTaskUpdate env task update).activeJobId = overwrite update.activeJobId task.activeJobId :=
  rfl

@[simp] theorem applyTaskUpdate_blockedContext : (applyTaskUpdate env task update).blockedContext =
      overwrite update.blockedContext task.blockedContext := rfl

@[simp] theorem applyTaskUpdate_lastVerdict : (applyTaskUpdate env task update).lastVerdict =
      overwrite update.lastVerdict task.lastVerdict := rfl

@[simp] theorem applyTaskUpdate_manualChecklist : (applyTaskUpdate env task update).manualChecklist =
      overwrite update.manualChecklist task.manualChecklist := rfl

end applyTaskUpdate

@[simp] theorem mergeTaskUpdates_nil : mergeTaskUpdates [] = {} := rfl

theorem mergeTaskUpdates_append (us : List TaskUpdate) (u : TaskUpdate) :
    mergeTaskUpdates (us ++ [u]) = mergeTaskUpdate (mergeTaskUpdates us) u := by
  simp [mergeTaskUpdates]

theorem mem_of_mergeTaskUpdates {α : Type} (field : TaskUpdate → Option α) (hempty : field {} = none)
    (hmerge : ∀ m u, field (mergeTaskUpdate m u) = overwrite (field u) (field m))
    {us : List TaskUpdate} {a : α} (h : field (mergeTaskUpdates us) = some a) :
    ∃ u ∈ us, field u = some a := by
  induction us using List.reverseRecOn with
  | nil => simp [hempty] at h
  | append_singleton us u ih =>
    rw [mergeTaskUpdates_append, hmerge] at h
    cases hu : field u with
    | some b =>
      rw [hu, overwrite_some] at h
      exact ⟨u, by simp, hu.trans h⟩
    | none =>
      rw [hu, overwrite_none] at h
      obtain ⟨v, hv, hfield⟩ := ih h
      exact ⟨v, by simp [hv], hfield⟩

end ShipyardCp.Domain
