import ShipyardCp.Domain.WorkspaceManager
import ShipyardCp.Lib.NumberedIds
import ShipyardCp.Lib.Transition

/-! The life of workspaces whose operations are interleaved at their awaits: whether a destroyed one
comes back, who holds a lease, and which workspace a task is mapped to. -/

namespace ShipyardCp.Properties

open Types Domain Lib Machine WorkspaceManager InsertionMap

def workspaceRuns : Machine WorkspaceManager WorkspaceCall :=
  .ofNext (fun m => m = .new) WorkspaceManager.next

/-- The record that a suspended call is going to make ready, at first or in a reset. -/
def makes : Suspended → Option Nat
  | .performCreation ref _ => some ref
  | .afterCreation ref (.resetWorkspace _) => some ref
  | .performDestruction ref (.resetWorkspace _) => some ref
  | .afterDestruction ref (.resetWorkspace _) => some ref
  | _ => none

def destroys : Suspended → Option Nat
  | .performDestruction ref (.destroyWorkspace _) => some ref
  | .afterDestruction ref (.destroyWorkspace _) => some ref
  | _ => none

def nextOrphan (m : WorkspaceManager) (frame : CleanupFrame) : Option Nat :=
  (m.orphansAhead frame).head?.bind fun entry => (m.getWorkspace entry.1).map (·.1)

/-- The workspace whose destruction a step begins. -/
def beginsDestruction (m : WorkspaceManager) (call : WorkspaceCall) : Option Nat :=
  match call.op with
  | .destroyWorkspace workspaceId => (m.getWorkspace workspaceId).map (·.1)
  | .cleanupOrphaned maxAgeMs => nextOrphan m ⟨call.now, maxAgeMs, 0, []⟩
  | .resume index =>
    match m.suspended[index]? with
    | some (.afterDestroy frame) => nextOrphan m frame
    | _ => none
  | _ => none

def DestructionBegun (m : WorkspaceManager) (ref : Nat) : Prop :=
  (∃ waiting ∈ m.suspended, destroys waiting = some ref) ∨
    (m.records[ref]?).any (·.destroyedAt.isSome) = true

instance (m : WorkspaceManager) (ref : Nat) : Decidable (DestructionBegun m ref) :=
  inferInstanceAs (Decidable (_ ∨ _))

def Undestroyed (m : WorkspaceManager) (taskId : String) (ref : Nat) : Prop :=
  (m.records[ref]?).any (fun w => w.taskId = taskId && w.destroyedAt.isNone) = true

instance (m : WorkspaceManager) (taskId : String) (ref : Nat) : Decidable (Undestroyed m taskId ref) :=
  inferInstanceAs (Decidable (_ = true))

def Newest (m : WorkspaceManager) (taskId : String) (ref : Nat) : Prop :=
  Undestroyed m taskId ref ∧ ∀ other, Undestroyed m taskId other → other ≤ ref

def GrantsLease (workspaceId owner : String) (expiresAt : ℤ) (m : WorkspaceManager)
    (call : WorkspaceCall) : Prop :=
  ∃ runId durationMs, call.op = .acquireLease workspaceId runId owner durationMs ∧
    (m.acquireLease call.now workspaceId runId owner durationMs).1 = .lease true (some expiresAt)

def EndsLease (workspaceId : String) (m : WorkspaceManager) (call : WorkspaceCall) : Prop :=
  call.op = .releaseLease workspaceId ∨
    ∃ owner expiresAt, GrantsLease workspaceId owner expiresAt m call

def HoldsLease (h : History WorkspaceManager WorkspaceCall) (workspaceId owner : String)
    (expiresAt : ℤ) : Prop :=
  Since (GrantsLease workspaceId owner expiresAt) (EndsLease workspaceId) h

/-- What the steps of a run come to. -/
structure WorkspaceLaws (h : History WorkspaceManager WorkspaceCall) (m : WorkspaceManager) :
    Prop where
  gone : ∀ ref, Occurs (fun m call => beginsDestruction m call = some ref) h → ∀ w,
    m.records[ref]? = some w → w.status ≠ .ready ∧
      ∀ now workspaceId runId owner durationMs, m.getWorkspace workspaceId = some (ref, w) →
        (m.acquireLease now workspaceId runId owner durationMs).1 = .lease false none
  exclusive : workspaceRuns.EveryStep (fun h m call _ => ∀ workspaceId owner owner' expiresAt expiresAt',
    HoldsLease h workspaceId owner expiresAt → (call.now : ℤ) < expiresAt →
      GrantsLease workspaceId owner' expiresAt' m call → owner' = owner) h
  mapped : ∀ taskId ref, (m.getWorkspaceForTask taskId).map (·.1) = some ref ↔ Newest m taskId ref
  unmapped : ∀ taskId, (∀ ref, ¬Undestroyed m taskId ref) → m.taskWorkspaces.get? taskId = none

def Disposable (m : WorkspaceManager) (ref : Nat) : Prop :=
  (∀ waiting ∈ m.suspended, makes waiting ≠ some ref) ∧
    ∀ w ∈ m.records[ref]?, ∀ other < m.records.length, Undestroyed m w.taskId other → other = ref

instance (m : WorkspaceManager) (ref : Nat) : Decidable (Disposable m ref) :=
  inferInstanceAs (Decidable (_ ∧ _))

def Creatable (m : WorkspaceManager) (now : Timestamp) (taskId : String) : Prop :=
  (∀ waiting ∈ m.suspended, ∀ ref ∈ destroys waiting, ∀ w ∈ m.records[ref]?, w.taskId ≠ taskId) ∧
    ∀ found ∈ m.getWorkspace (workspaceIdOf taskId now), found.2.leaseOwner = none

instance (m : WorkspaceManager) (now : Timestamp) (taskId : String) :
    Decidable (Creatable m now taskId) :=
  inferInstanceAs (Decidable (_ ∧ _))

/-- A ready workspace is not taken from an owner without a name whose lease has not expired. -/
def Acquirable (m : WorkspaceManager) (now : Timestamp) (workspaceId owner : String)
    (durationMs : ℚ) : Prop :=
  ∀ found ∈ m.getWorkspace workspaceId, found.2.status = .ready → found.2.leaseOwner = some "" →
    (∀ expiresAt ∈ found.2.leaseExpiresAt, expiresAt ≤ (now : ℤ)) ∨ owner = "" ∨
      toIsoInstant ((now : ℚ) + durationMs) = none

instance (m : WorkspaceManager) (now : Timestamp) (workspaceId owner : String) (durationMs : ℚ) :
    Decidable (Acquirable m now workspaceId owner durationMs) :=
  inferInstanceAs (Decidable (∀ found ∈ m.getWorkspace workspaceId, _))

def Standing (m : WorkspaceManager) (workspaceId : String) : Prop :=
  ∀ found ∈ m.getWorkspace workspaceId, ¬DestructionBegun m found.1

instance (m : WorkspaceManager) (workspaceId : String) : Decidable (Standing m workspaceId) :=
  inferInstanceAs (Decidable (∀ found ∈ m.getWorkspace workspaceId, _))

/-- The step finds the workspaces that it concerns in a state that it allows for. -/
def Undisturbed (m : WorkspaceManager) (call : WorkspaceCall) : Prop :=
  (∀ ref ∈ beginsDestruction m call, Disposable m ref) ∧
    match call.op with
    | .createWorkspace request => Creatable m call.now request.taskId
    | .acquireLease workspaceId _ owner durationMs =>
      Acquirable m call.now workspaceId owner durationMs
    | .releaseLease workspaceId => Standing m workspaceId
    | .resetWorkspace request =>
      request.riskLevel ≠ .high ∧ request.reason = .highRiskDetected ∨ Standing m request.workspaceId
    | _ => True

instance (m : WorkspaceManager) : (call : WorkspaceCall) → Decidable (Undisturbed m call)
  | ⟨now, .createWorkspace request⟩ =>
    inferInstanceAs (Decidable ((∀ ref ∈ beginsDestruction m _, _) ∧ Creatable m now request.taskId))
  | ⟨now, .acquireLease workspaceId _ owner durationMs⟩ =>
    inferInstanceAs (Decidable ((∀ ref ∈ beginsDestruction m _, _) ∧
      Acquirable m now workspaceId owner durationMs))
  | ⟨_, .releaseLease workspaceId⟩ =>
    inferInstanceAs (Decidable ((∀ ref ∈ beginsDestruction m _, _) ∧ Standing m workspaceId))
  | ⟨_, .resetWorkspace request⟩ =>
    inferInstanceAs (Decidable ((∀ ref ∈ beginsDestruction m _, _) ∧
      (request.riskLevel ≠ .high ∧ request.reason = .highRiskDetected ∨
        Standing m request.workspaceId)))
  | ⟨_, .destroyWorkspace _⟩ =>
    inferInstanceAs (Decidable ((∀ ref ∈ beginsDestruction m _, _) ∧ True))
  | ⟨_, .cleanupOrphaned _⟩ =>
    inferInstanceAs (Decidable ((∀ ref ∈ beginsDestruction m _, _) ∧ True))
  | ⟨_, .resume _⟩ =>
    inferInstanceAs (Decidable ((∀ ref ∈ beginsDestruction m _, _) ∧ True))

/-- What holds between the steps: a destruction has its workspace, and its task, to itself, and a task is
mapped to its newest undestroyed workspace. -/
structure Tidy (m : WorkspaceManager) : Prop where
  named : ∀ workspaceId ref, m.workspaces.get? workspaceId = some ref →
    ∃ w, m.records[ref]? = some w ∧ w.workspaceId = workspaceId
  ids : ∀ w ∈ m.records, ∃ now, w.workspaceId = workspaceIdOf w.taskId now
  bounded : ∀ waiting ∈ m.suspended, ∀ ref, destroys waiting = some ref → ref < m.records.length
  gone : ∀ ref w, DestructionBegun m ref → m.records[ref]? = some w →
    w.status = .destroying ∨ w.status = .destroyed
  unmade : ∀ ref, DestructionBegun m ref → ∀ waiting ∈ m.suspended, makes waiting ≠ some ref
  alone : ∀ waiting ∈ m.suspended, ∀ ref w, destroys waiting = some ref → m.records[ref]? = some w →
    ∀ other, Undestroyed m w.taskId other → other = ref
  pointed : ∀ taskId workspaceId, m.taskWorkspaces.get? taskId = some workspaceId →
    ∃ ref, m.workspaces.get? workspaceId = some ref ∧ Newest m taskId ref
  mapped : ∀ taskId ref, Undestroyed m taskId ref → m.taskWorkspaces.get? taskId ≠ none

/-- A change of a record that leaves it the same workspace, destroyed or not. -/
structure KeepsWorkspace (change : WorkspaceState → WorkspaceState) : Prop where
  workspaceId : ∀ w, (change w).workspaceId = w.workspaceId
  taskId : ∀ w, (change w).taskId = w.taskId
  destroyedAt : ∀ w, (change w).destroyedAt = w.destroyedAt

section changes

variable {m : WorkspaceManager} {ref r other : Nat} {taskId workspaceId : String} {w : WorkspaceState}
  {change : WorkspaceState → WorkspaceState} {waiting : Suspended}

theorem getWorkspace_eq_some_iff : m.getWorkspace workspaceId = some (ref, w) ↔
    m.workspaces.get? workspaceId = some ref ∧ m.records[ref]? = some w := by
  simp only [getWorkspace, Option.bind_eq_bind, Option.bind_eq_some_iff, Option.some.injEq,
    Prod.mk.injEq]
  constructor
  · rintro ⟨_, hget, _, hrecord, rfl, rfl⟩
    exact ⟨hget, hrecord⟩
  · rintro ⟨hget, hrecord⟩
    exact ⟨ref, hget, w, hrecord, rfl, rfl⟩

theorem undestroyed_iff : Undestroyed m taskId ref ↔
    ∃ w, m.records[ref]? = some w ∧ w.taskId = taskId ∧ w.destroyedAt = none := by
  simp [Undestroyed, Option.any_eq_true]

theorem destructionBegun_iff : DestructionBegun m ref ↔
    (∃ waiting ∈ m.suspended, destroys waiting = some ref) ∨
      ∃ w, m.records[ref]? = some w ∧ w.destroyedAt ≠ none := by
  simp [DestructionBegun, Option.any_eq_true, Option.isSome_iff_ne_none]

theorem getElem?_update : (m.update ref change).records[r]? =
    (m.records[r]?).map fun w => if ref = r then change w else w := by
  rw [update, List.getElem?_modify]
  split_ifs
  · rfl
  · simp

theorem getElem?_update_self (h : m.records[ref]? = some w) :
    (m.update ref change).records[ref]? = some (change w) := by
  rw [getElem?_update, h, Option.map_some, if_pos rfl]

theorem exists_of_getElem?_update (h : (m.update ref change).records[r]? = some w) :
    ∃ w', m.records[r]? = some w' ∧ w = if ref = r then change w' else w' := by
  rw [getElem?_update] at h
  obtain ⟨w', hw', hw⟩ := Option.map_eq_some_iff.mp h
  exact ⟨w', hw', hw.symm⟩

theorem undestroyed_update (hkeeps : KeepsWorkspace change) :
    Undestroyed (m.update ref change) taskId r ↔ Undestroyed m taskId r := by
  rw [Undestroyed, Undestroyed, getElem?_update, Option.any_map]
  refine iff_of_eq (congrArg (Option.any · _ = true) (funext fun w => ?_))
  split_ifs
  · rw [hkeeps.taskId, hkeeps.destroyedAt]
  · rfl

theorem destructionBegun_update (hkeeps : KeepsWorkspace change) :
    DestructionBegun (m.update ref change) r ↔ DestructionBegun m r := by
  refine or_congr Iff.rfl ?_
  rw [getElem?_update, Option.any_map]
  refine iff_of_eq (congrArg (Option.any · _ = true) (funext fun w => ?_))
  split_ifs
  · rw [hkeeps.destroyedAt]
  · rfl

theorem newest_update (hkeeps : KeepsWorkspace change) :
    Newest (m.update ref change) taskId r ↔ Newest m taskId r := by
  simp only [Newest, undestroyed_update hkeeps]

theorem Tidy.update (h : Tidy m) (hkeeps : KeepsWorkspace change)
    (hstatus : DestructionBegun m ref → ∀ w, m.records[ref]? = some w →
      (change w).status = .destroying ∨ (change w).status = .destroyed) :
    Tidy (m.update ref change) where
  named workspaceId r hget := by
    obtain ⟨w, hw, hid⟩ := h.named workspaceId r hget
    refine ⟨_, getElem?_update.trans (congrArg (Option.map _) hw), ?_⟩
    split_ifs
    · rw [hkeeps.workspaceId, hid]
    · exact hid
  ids w hw := by
    obtain ⟨r, hr⟩ := List.mem_iff_getElem?.mp hw
    obtain ⟨w', hw', rfl⟩ := exists_of_getElem?_update hr
    obtain ⟨now, hnow⟩ := h.ids w' (List.mem_of_getElem? hw')
    refine ⟨now, ?_⟩
    split_ifs
    · rw [hkeeps.workspaceId, hkeeps.taskId, hnow]
    · exact hnow
  bounded waiting hwaiting r hr := by
    rw [WorkspaceManager.update, List.length_modify]
    exact h.bounded waiting hwaiting r hr
  gone r w hbegun hw := by
    rw [destructionBegun_update hkeeps] at hbegun
    obtain ⟨w', hw', rfl⟩ := exists_of_getElem?_update hw
    split_ifs with hsame
    · subst hsame
      exact hstatus hbegun w' hw'
    · exact h.gone r w' hbegun hw'
  unmade r hbegun := h.unmade r ((destructionBegun_update hkeeps).mp hbegun)
  alone waiting hwaiting r w hr hw other hother := by
    rw [undestroyed_update hkeeps] at hother
    obtain ⟨w', hw', rfl⟩ := exists_of_getElem?_update hw
    refine h.alone waiting hwaiting r w' hr hw' other ?_
    split_ifs at hother
    · rwa [hkeeps.taskId] at hother
    · exact hother
  pointed taskId workspaceId hmap := by
    obtain ⟨r, hget, hnewest⟩ := h.pointed taskId workspaceId hmap
    exact ⟨r, hget, (newest_update hkeeps).mpr hnewest⟩
  mapped taskId r hr := h.mapped taskId r ((undestroyed_update hkeeps).mp hr)

theorem destructionBegun_suspend : DestructionBegun (m.suspend waiting) ref ↔
    DestructionBegun m ref ∨ destroys waiting = some ref := by
  simp only [DestructionBegun, suspend, List.mem_append, List.mem_singleton]
  constructor
  · rintro (⟨call, hcall | rfl, hdestroys⟩ | hdestroyed)
    · exact .inl (.inl ⟨call, hcall, hdestroys⟩)
    · exact .inr hdestroys
    · exact .inl (.inr hdestroyed)
  · rintro ((⟨call, hcall, hdestroys⟩ | hdestroyed) | hdestroys)
    · exact .inl ⟨call, .inl hcall, hdestroys⟩
    · exact .inr hdestroyed
    · exact .inl ⟨waiting, .inr rfl, hdestroys⟩

theorem Tidy.suspend (h : Tidy m) (hmakes : ∀ ref, makes waiting = some ref → ¬DestructionBegun m ref)
    (hdestroys : ∀ ref, destroys waiting = some ref → Disposable m ref ∧ makes waiting ≠ some ref ∧
      ∃ w, m.records[ref]? = some w ∧ (w.status = .destroying ∨ w.status = .destroyed)) :
    Tidy (m.suspend waiting) where
  named := h.named
  ids := h.ids
  bounded call hcall r hr := by
    rcases List.mem_append.mp hcall with hcall | hcall
    · exact h.bounded call hcall r hr
    · obtain rfl := List.mem_singleton.mp hcall
      obtain ⟨_, _, w, hw, _⟩ := hdestroys r hr
      exact (List.getElem?_eq_some_iff.mp hw).1
  gone r w hbegun hw := by
    rcases destructionBegun_suspend.mp hbegun with hbegun | hr
    · exact h.gone r w hbegun hw
    · obtain ⟨_, _, w', hw', hstatus⟩ := hdestroys r hr
      obtain rfl := Option.some.inj (hw'.symm.trans hw)
      exact hstatus
  unmade r hbegun call hcall := by
    rcases destructionBegun_suspend.mp hbegun with hbefore | hr
    · rcases List.mem_append.mp hcall with hcall | hcall
      · exact h.unmade r hbefore call hcall
      · obtain rfl := List.mem_singleton.mp hcall
        exact fun hmaking => hmakes r hmaking hbefore
    · rcases List.mem_append.mp hcall with hcall | hcall
      · exact (hdestroys r hr).1.1 call hcall
      · obtain rfl := List.mem_singleton.mp hcall
        exact (hdestroys r hr).2.1
  alone call hcall r w hr hw other hother := by
    rcases List.mem_append.mp hcall with hcall | hcall
    · exact h.alone call hcall r w hr hw other hother
    · obtain rfl := List.mem_singleton.mp hcall
      obtain ⟨w', hw', _⟩ := undestroyed_iff.mp hother
      exact (hdestroys r hr).1.2 w hw other (List.getElem?_eq_some_iff.mp hw').1 hother
  pointed := h.pointed
  mapped := h.mapped

theorem Tidy.drop (h : Tidy m) (index : Nat) :
    Tidy { m with suspended := m.suspended.eraseIdx index } where
  named := h.named
  ids := h.ids
  bounded call hcall := h.bounded call (List.mem_of_mem_eraseIdx hcall)
  gone r w hbegun := h.gone r w (hbegun.imp_left fun ⟨call, hcall, hr⟩ =>
    ⟨call, List.mem_of_mem_eraseIdx hcall, hr⟩)
  unmade r hbegun call hcall := h.unmade r (hbegun.imp_left fun ⟨call, hcall, hr⟩ =>
    ⟨call, List.mem_of_mem_eraseIdx hcall, hr⟩) call (List.mem_of_mem_eraseIdx hcall)
  alone call hcall := h.alone call (List.mem_of_mem_eraseIdx hcall)
  pointed := h.pointed
  mapped := h.mapped

end changes

section operations

variable {m : WorkspaceManager} {ref r : Nat} {taskId workspaceId : String} {w : WorkspaceState}
  {now : Timestamp} {request : CreateWorkspaceRequest}

theorem workspaceIdOf_inj {taskId taskId' : String} {now now' : Timestamp}
    (h : workspaceIdOf taskId now = workspaceIdOf taskId' now') : taskId = taskId' := by
  have hname := congrArg String.toList (numberedId_inj h).1
  rw [String.toList_append, String.toList_append] at hname
  exact String.toList_inj.mp (List.append_cancel_left hname)

theorem not_destructionBegun_of_length (h : Tidy m) (hlength : m.records.length ≤ ref) :
    ¬DestructionBegun m ref := by
  intro hbegun
  rcases destructionBegun_iff.mp hbegun with ⟨waiting, hwaiting, hr⟩ | ⟨w, hw, _⟩
  · exact absurd (h.bounded waiting hwaiting ref hr) (by omega)
  · exact absurd (List.getElem?_eq_some_iff.mp hw).1 (by omega)

theorem exists_of_getElem?_createWorkspace
    (hw : (m.createWorkspace now request).records[r]? = some w) :
    m.records[r]? = some w ∨ r = m.records.length ∧ w = .new request now := by
  rcases Nat.lt_or_ge r m.records.length with hlt | hge
  · rw [createWorkspace, List.getElem?_append_left hlt] at hw
    exact .inl hw
  · rw [createWorkspace, List.getElem?_append_right hge, List.getElem?_singleton] at hw
    split_ifs at hw
    exact .inr ⟨by omega, (Option.some.inj hw).symm⟩

theorem getElem?_createWorkspace_of_some (hw : m.records[r]? = some w) :
    (m.createWorkspace now request).records[r]? = some w :=
  (List.getElem?_append_left (List.getElem?_eq_some_iff.mp hw).1).trans hw

theorem undestroyed_createWorkspace : Undestroyed (m.createWorkspace now request) taskId r ↔
    Undestroyed m taskId r ∨ r = m.records.length ∧ request.taskId = taskId := by
  simp only [undestroyed_iff]
  constructor
  · rintro ⟨w, hw, htask, hundestroyed⟩
    rcases exists_of_getElem?_createWorkspace hw with hw | ⟨rfl, rfl⟩
    · exact .inl ⟨w, hw, htask, hundestroyed⟩
    · exact .inr ⟨rfl, htask⟩
  · rintro (⟨w, hw, hrest⟩ | ⟨rfl, htask⟩)
    · exact ⟨w, getElem?_createWorkspace_of_some hw, hrest⟩
    · exact ⟨.new request now, List.getElem?_concat_length, htask, rfl⟩

theorem destructionBegun_createWorkspace :
    DestructionBegun (m.createWorkspace now request) r ↔ DestructionBegun m r := by
  simp only [destructionBegun_iff]
  constructor
  · rintro (⟨waiting, hwaiting, hr⟩ | ⟨w, hw, hdestroyed⟩)
    · rcases List.mem_append.mp hwaiting with hwaiting | hwaiting
      · exact .inl ⟨waiting, hwaiting, hr⟩
      · rw [List.mem_singleton.mp hwaiting] at hr
        cases hr
    · rcases exists_of_getElem?_createWorkspace hw with hw | ⟨_, rfl⟩
      · exact .inr ⟨w, hw, hdestroyed⟩
      · exact absurd rfl hdestroyed
  · rintro (⟨waiting, hwaiting, hr⟩ | ⟨w, hw, hdestroyed⟩)
    · exact .inl ⟨waiting, List.mem_append_left _ hwaiting, hr⟩
    · exact .inr ⟨w, getElem?_createWorkspace_of_some hw, hdestroyed⟩

theorem Tidy.createWorkspace (h : Tidy m) (hcreatable : Creatable m now request.taskId) :
    Tidy (m.createWorkspace now request) where
  named id r hget := by
    rw [WorkspaceManager.createWorkspace, get?_set] at hget
    split_ifs at hget with hid
    · obtain rfl := Option.some.inj hget
      exact ⟨.new request now, List.getElem?_concat_length, hid.symm⟩
    · obtain ⟨w, hw, hname⟩ := h.named id r hget
      exact ⟨w, getElem?_createWorkspace_of_some hw, hname⟩
  ids w hw := by
    rcases List.mem_append.mp hw with hw | hw
    · exact h.ids w hw
    · rw [List.mem_singleton.mp hw]
      exact ⟨now, rfl⟩
  bounded waiting hwaiting r hr := by
    rw [WorkspaceManager.createWorkspace, List.length_append]
    rcases List.mem_append.mp hwaiting with hwaiting | hwaiting
    · exact Nat.lt_add_right _ (h.bounded waiting hwaiting r hr)
    · rw [List.mem_singleton.mp hwaiting] at hr
      cases hr
  gone r w hbegun hw := by
    rw [destructionBegun_createWorkspace] at hbegun
    rcases exists_of_getElem?_createWorkspace hw with hw | ⟨rfl, _⟩
    · exact h.gone r w hbegun hw
    · exact absurd hbegun (not_destructionBegun_of_length h le_rfl)
  unmade r hbegun waiting hwaiting := by
    rw [destructionBegun_createWorkspace] at hbegun
    rcases List.mem_append.mp hwaiting with hwaiting | hwaiting
    · exact h.unmade r hbegun waiting hwaiting
    · rw [List.mem_singleton.mp hwaiting]
      rintro hmaking
      obtain rfl := Option.some.inj hmaking
      exact not_destructionBegun_of_length h le_rfl hbegun
  alone waiting hwaiting r w hr hw other hother := by
    rcases List.mem_append.mp hwaiting with hwaiting | hwaiting
    · have hlt := h.bounded waiting hwaiting r hr
      rcases exists_of_getElem?_createWorkspace hw with hw | ⟨rfl, _⟩
      · rcases undestroyed_createWorkspace.mp hother with hother | ⟨_, htask⟩
        · exact h.alone waiting hwaiting r w hr hw other hother
        · exact absurd htask.symm (hcreatable.1 waiting hwaiting r hr w hw)
      · exact absurd hlt (Nat.lt_irrefl _)
    · rw [List.mem_singleton.mp hwaiting] at hr
      cases hr
  pointed taskId id hmap := by
    rw [WorkspaceManager.createWorkspace, get?_set] at hmap
    split_ifs at hmap with htask
    · obtain rfl := Option.some.inj hmap
      refine ⟨m.records.length, get?_set_self _ _ _,
        undestroyed_createWorkspace.mpr (.inr ⟨rfl, htask.symm⟩), fun other hother => ?_⟩
      rcases undestroyed_createWorkspace.mp hother with hother | ⟨rfl, _⟩
      · obtain ⟨w, hw, _⟩ := undestroyed_iff.mp hother
        exact (List.getElem?_eq_some_iff.mp hw).1.le
      · exact le_rfl
    · obtain ⟨r, hget, hundestroyed, hlast⟩ := h.pointed taskId id hmap
      obtain ⟨w, hw, hname⟩ := h.named id r hget
      obtain ⟨w', hw', htask', _⟩ := undestroyed_iff.mp hundestroyed
      obtain rfl := Option.some.inj (hw.symm.trans hw')
      obtain ⟨now', hid⟩ := h.ids w (List.mem_of_getElem? hw)
      have hother : id ≠ workspaceIdOf request.taskId now := by
        intro hsame
        rw [← hname, hid] at hsame
        exact htask (htask'.symm.trans (workspaceIdOf_inj hsame))
      refine ⟨r, (get?_set_of_ne _ _ hother).trans hget,
        undestroyed_createWorkspace.mpr (.inl hundestroyed), fun other hother' => ?_⟩
      rcases undestroyed_createWorkspace.mp hother' with hother' | ⟨_, hsame⟩
      · exact hlast other hother'
      · exact absurd hsame.symm htask
  mapped taskId r hr := by
    rw [WorkspaceManager.createWorkspace, get?_set]
    split_ifs with htask
    · exact Option.some_ne_none _
    · rcases undestroyed_createWorkspace.mp hr with hr | ⟨_, hsame⟩
      · exact h.mapped taskId r hr
      · exact absurd hsame.symm htask

theorem getElem?_finishDestroy : (m.finishDestroy now ref).records[r]? =
    (m.records[r]?).map fun w => if ref = r then w.finishDestruction now else w :=
  getElem?_update

theorem undestroyed_finishDestroy : Undestroyed (m.finishDestroy now ref) taskId r ↔
    Undestroyed m taskId r ∧ r ≠ ref := by
  simp only [undestroyed_iff, getElem?_finishDestroy, Option.map_eq_some_iff]
  constructor
  · rintro ⟨w, ⟨w', hw', rfl⟩, htask, hundestroyed⟩
    split_ifs at htask hundestroyed with hsame
    · cases hundestroyed
    · exact ⟨⟨w', hw', htask, hundestroyed⟩, Ne.symm hsame⟩
  · rintro ⟨⟨w, hw, hrest⟩, hne⟩
    exact ⟨w, ⟨w, hw, if_neg (Ne.symm hne)⟩, hrest⟩

theorem destructionBegun_finishDestroy (h : DestructionBegun (m.finishDestroy now ref) r) :
    r = ref ∨ DestructionBegun m r := by
  rcases destructionBegun_iff.mp h with hwaiting | ⟨w, hw, hdestroyed⟩
  · exact .inr (.inl hwaiting)
  · obtain ⟨w', hw', rfl⟩ := exists_of_getElem?_update hw
    split_ifs at hdestroyed with hsame
    · exact .inl hsame.symm
    · exact .inr (destructionBegun_iff.mpr (.inr ⟨w', hw', hdestroyed⟩))

theorem Tidy.finishDestroy (h : Tidy m) (hw : m.records[ref]? = some w)
    (hunmade : ∀ waiting ∈ m.suspended, makes waiting ≠ some ref)
    (halone : ∀ other, Undestroyed m w.taskId other → other = ref) :
    Tidy (m.finishDestroy now ref) := by
  have hmapping : (m.finishDestroy now ref).taskWorkspaces = m.taskWorkspaces.delete w.taskId := by
    rw [WorkspaceManager.finishDestroy, hw]
  refine ⟨?_, ?_, ?_, ?_, ?_, ?_, ?_, ?_⟩
  · intro id r hget
    obtain ⟨w', hw', hname⟩ := h.named id r hget
    refine ⟨_, getElem?_finishDestroy.trans (congrArg (Option.map _) hw'), ?_⟩
    split_ifs <;> exact hname
  · intro w' hmem
    obtain ⟨r, hr⟩ := List.mem_iff_getElem?.mp hmem
    obtain ⟨w'', hw'', rfl⟩ := exists_of_getElem?_update hr
    obtain ⟨now', hid⟩ := h.ids w'' (List.mem_of_getElem? hw'')
    exact ⟨now', by split_ifs <;> exact hid⟩
  · intro waiting hwaiting r hr
    have hlength : (m.finishDestroy now ref).records.length = m.records.length :=
      List.length_modify ..
    rw [hlength]
    exact h.bounded waiting hwaiting r hr
  · intro r w' hbegun hw'
    obtain ⟨w'', hw'', rfl⟩ := exists_of_getElem?_update hw'
    split_ifs with hsame
    · exact .inr rfl
    · rcases destructionBegun_finishDestroy hbegun with rfl | hbegun
      · exact absurd rfl hsame
      · exact h.gone r w'' hbegun hw''
  · intro r hbegun
    rcases destructionBegun_finishDestroy hbegun with rfl | hbegun
    · exact hunmade
    · exact h.unmade r hbegun
  · intro waiting hwaiting r w' hr hw' other hother
    obtain ⟨w'', hw'', rfl⟩ := exists_of_getElem?_update hw'
    refine h.alone waiting hwaiting r w'' hr hw'' other ?_
    have hbefore := (undestroyed_finishDestroy.mp hother).1
    split_ifs at hbefore <;> exact hbefore
  · intro taskId id hmap
    rw [hmapping, get?_delete] at hmap
    split_ifs at hmap with htask
    obtain ⟨r, hget, hundestroyed, hlast⟩ := h.pointed taskId id hmap
    have hne : r ≠ ref := by
      rintro rfl
      obtain ⟨w', hw', htask', _⟩ := undestroyed_iff.mp hundestroyed
      obtain rfl := Option.some.inj (hw.symm.trans hw')
      exact htask htask'.symm
    exact ⟨r, hget, undestroyed_finishDestroy.mpr ⟨hundestroyed, hne⟩,
      fun other hother => hlast other (undestroyed_finishDestroy.mp hother).1⟩
  · intro taskId r hr
    obtain ⟨hundestroyed, hne⟩ := undestroyed_finishDestroy.mp hr
    rw [hmapping, get?_delete]
    split_ifs with htask
    · exact absurd (halone r (htask ▸ hundestroyed)) hne
    · exact h.mapped taskId r hundestroyed

end operations

section steps

variable {m m' : WorkspaceManager} {ref r index : Nat} {now : Timestamp} {workspaceId : String}
  {cleanup : Option CleanupFrame} {frame : CleanupFrame} {waiting : Suspended}
  {change : WorkspaceState → WorkspaceState} {call : WorkspaceCall}

theorem disposable_update (hkeeps : KeepsWorkspace change) (h : Disposable m r) :
    Disposable (m.update ref change) r := by
  refine ⟨h.1, fun w hw other hlt hother => ?_⟩
  rw [update, List.length_modify] at hlt
  rw [undestroyed_update hkeeps] at hother
  obtain ⟨w', hw', rfl⟩ := exists_of_getElem?_update hw
  refine h.2 w' hw' other hlt ?_
  split_ifs at hother
  · rwa [hkeeps.taskId] at hother
  · exact hother

theorem disposable_drop (h : Disposable m r) :
    Disposable { m with suspended := m.suspended.eraseIdx index } r :=
  ⟨fun waiting hwaiting => h.1 waiting (List.mem_of_mem_eraseIdx hwaiting), h.2⟩

theorem Tidy.destroyWorkspace (h : Tidy m)
    (hdisposable : ∀ ref ∈ (m.getWorkspace workspaceId).map (·.1), Disposable m ref) :
    Tidy (m.destroyWorkspace now workspaceId cleanup).2 := by
  unfold WorkspaceManager.destroyWorkspace
  cases hget : m.getWorkspace workspaceId with
  | none =>
    cases cleanup with
    | none => exact h
    | some frame => exact h.suspend nofun nofun
  | some found =>
    obtain ⟨ref, w⟩ := found
    have hkeeps : KeepsWorkspace fun w => { w with status := .destroying, updatedAt := now } :=
      ⟨fun _ => rfl, fun _ => rfl, fun _ => rfl⟩
    have hsafe : Disposable m ref := hdisposable ref (by rw [hget]; rfl)
    refine (h.update hkeeps fun _ _ _ => .inl rfl).suspend nofun ?_
    intro r hr
    obtain rfl := Option.some.inj hr
    exact ⟨disposable_update hkeeps hsafe, nofun, _,
      getElem?_update_self (getWorkspace_eq_some_iff.mp hget).2, .inl rfl⟩

theorem Tidy.cleanUp (h : Tidy m) (hdisposable : ∀ ref ∈ nextOrphan m frame, Disposable m ref) :
    Tidy (m.cleanUp now frame).2 := by
  unfold WorkspaceManager.cleanUp
  unfold nextOrphan at hdisposable
  cases hahead : m.orphansAhead frame with
  | nil => exact h
  | cons entry later =>
    rw [hahead] at hdisposable
    exact h.destroyWorkspace hdisposable

theorem Tidy.not_begun (h : Tidy m) (hwaiting : waiting ∈ m.suspended)
    (hmakes : makes waiting = some ref) : ¬DestructionBegun m ref :=
  fun hbegun => h.unmade ref hbegun waiting hwaiting hmakes

theorem Tidy.of_destroys (h : Tidy m) (hwaiting : waiting ∈ m.suspended)
    (hdestroys : destroys waiting = some ref) : Disposable m ref ∧
      ∃ w, m.records[ref]? = some w ∧ (w.status = .destroying ∨ w.status = .destroyed) := by
  have hbegun : DestructionBegun m ref := .inl ⟨waiting, hwaiting, hdestroys⟩
  have hw := List.getElem?_eq_getElem (h.bounded waiting hwaiting ref hdestroys)
  refine ⟨⟨h.unmade ref hbegun, fun w hw other _ hother => ?_⟩, _, hw, h.gone ref _ hbegun hw⟩
  exact h.alone waiting hwaiting ref w hdestroys hw other hother

theorem begun_of_begun_drop
    (hbegun : DestructionBegun { m with suspended := m.suspended.eraseIdx index } ref) :
    DestructionBegun m ref :=
  hbegun.imp_left fun ⟨waiting, hwaiting, hr⟩ => ⟨waiting, List.mem_of_mem_eraseIdx hwaiting, hr⟩

theorem Tidy.resume (h : Tidy m) (hindex : m.suspended[index]? = some waiting)
    (hdisposable : ∀ frame, waiting = .afterDestroy frame →
      ∀ ref ∈ nextOrphan m frame, Disposable m ref) :
    Tidy ({ m with suspended := m.suspended.eraseIdx index }.resume now waiting).2 := by
  have hwaiting := List.mem_of_getElem? hindex
  have hdrop := h.drop index
  cases waiting with
  | performCreation ref caller =>
    have hnot := h.not_begun hwaiting rfl
    have hkeeps : KeepsWorkspace (·.create now) := ⟨fun _ => rfl, fun _ => rfl, fun _ => rfl⟩
    refine (hdrop.update hkeeps fun hbegun => absurd (begun_of_begun_drop hbegun) hnot).suspend ?_ ?_
    · intro r hmakes
      rw [destructionBegun_update hkeeps]
      cases caller with
      | createWorkspace => cases hmakes
      | resetWorkspace frame =>
        obtain rfl := Option.some.inj hmakes
        exact fun hbegun => hnot (begun_of_begun_drop hbegun)
    · intro r hdestroys
      cases caller <;> cases hdestroys
  | afterCreation ref caller =>
    cases caller with
    | createWorkspace => exact hdrop
    | resetWorkspace frame =>
      have hnot := h.not_begun hwaiting rfl
      exact hdrop.update ⟨fun _ => rfl, fun _ => rfl, fun _ => rfl⟩ fun hbegun =>
        absurd (begun_of_begun_drop hbegun) hnot
  | performDestruction ref caller =>
    have hkeeps : KeepsWorkspace fun w => { w with containerId := none } :=
      ⟨fun _ => rfl, fun _ => rfl, fun _ => rfl⟩
    refine (hdrop.update hkeeps fun hbegun w hw => hdrop.gone ref w hbegun hw).suspend ?_ ?_
    · intro r hmakes
      rw [destructionBegun_update hkeeps]
      cases caller with
      | destroyWorkspace cleanup => cases hmakes
      | resetWorkspace frame =>
        obtain rfl := Option.some.inj hmakes
        exact fun hbegun => h.not_begun hwaiting rfl (begun_of_begun_drop hbegun)
    · intro r hdestroys
      cases caller with
      | resetWorkspace frame => cases hdestroys
      | destroyWorkspace cleanup =>
        obtain rfl := Option.some.inj hdestroys
        obtain ⟨hsafe, w, hw, hstatus⟩ := h.of_destroys hwaiting rfl
        exact ⟨disposable_update hkeeps (disposable_drop hsafe), nofun, _,
          getElem?_update_self hw, hstatus⟩
  | afterDestruction ref caller =>
    cases caller with
    | resetWorkspace frame =>
      refine hdrop.suspend (fun r hmakes => ?_) nofun
      obtain rfl := Option.some.inj hmakes
      exact fun hbegun => h.not_begun hwaiting rfl (begun_of_begun_drop hbegun)
    | destroyWorkspace cleanup =>
      obtain ⟨hsafe, w, hw, _⟩ := h.of_destroys hwaiting rfl
      have hfinish : Tidy ({ m with suspended := m.suspended.eraseIdx index }.finishDestroy now ref) :=
        hdrop.finishDestroy hw (disposable_drop hsafe).1 fun other hother =>
          h.alone _ hwaiting ref w rfl hw other hother
      cases cleanup with
      | none => exact hfinish
      | some frame => exact hfinish.suspend nofun nofun
  | afterDestroy frame =>
    exact hdrop.cleanUp fun ref href => disposable_drop (hdisposable frame rfl ref href)

theorem Tidy.next (h : Tidy m) (hquiet : Undisturbed m call) (hnext : m.next call = some m') :
    Tidy m' := by
  obtain ⟨now, op⟩ := call
  obtain ⟨hdisposable, hop⟩ := hquiet
  obtain ⟨result, hperform, rfl⟩ := Option.map_eq_some_iff.mp hnext
  cases op with
  | createWorkspace request =>
    obtain rfl := Option.some.inj hperform
    exact h.createWorkspace hop
  | acquireLease workspaceId runId owner durationMs =>
    obtain rfl := Option.some.inj hperform
    unfold acquireLease
    cases hget : m.getWorkspace workspaceId with
    | none => exact h
    | some found =>
      obtain ⟨ref, w⟩ := found
      dsimp only
      split_ifs with hready hleased
      · exact h
      · exact h
      · cases toIsoInstant ((now : ℚ) + durationMs) with
        | none => exact h
        | some expiresAt =>
          have hw := (getWorkspace_eq_some_iff.mp hget).2
          refine h.update ⟨fun _ => rfl, fun _ => rfl, fun _ => rfl⟩ fun hbegun _ _ => ?_
          rw [not_not] at hready
          have hgone := h.gone ref w hbegun hw
          rw [hready] at hgone
          exact hgone.elim nofun nofun
  | releaseLease workspaceId =>
    obtain rfl := Option.some.inj hperform
    unfold releaseLease
    cases hget : m.getWorkspace workspaceId with
    | none => exact h
    | some found =>
      exact h.update ⟨fun _ => rfl, fun _ => rfl, fun _ => rfl⟩ fun hbegun =>
        absurd hbegun (hop found hget)
  | resetWorkspace request =>
    obtain rfl := Option.some.inj hperform
    unfold resetWorkspace
    cases hget : m.getWorkspace request.workspaceId with
    | none => exact h
    | some found =>
      dsimp only
      split_ifs with hrisk
      · exact h
      · have hnot := hop.resolve_left hrisk found hget
        have hkeeps : KeepsWorkspace fun w => { w with status := .resetting, updatedAt := now } :=
          ⟨fun _ => rfl, fun _ => rfl, fun _ => rfl⟩
        refine (h.update hkeeps fun hbegun => absurd hbegun hnot).suspend (fun r hmakes => ?_) nofun
        obtain rfl := Option.some.inj hmakes
        rwa [destructionBegun_update hkeeps]
  | destroyWorkspace workspaceId =>
    obtain rfl := Option.some.inj hperform
    exact h.destroyWorkspace hdisposable
  | cleanupOrphaned maxAgeMs =>
    obtain rfl := Option.some.inj hperform
    exact h.cleanUp hdisposable
  | resume index =>
    obtain ⟨waiting, hindex, rfl⟩ := Option.map_eq_some_iff.mp hperform
    refine h.resume hindex ?_
    rintro frame rfl
    simpa only [beginsDestruction, hindex] using hdisposable

theorem begun_update_of_keeps (hkeeps : KeepsWorkspace change) (h : DestructionBegun m r) :
    DestructionBegun (m.update ref change) r :=
  (destructionBegun_update hkeeps).mpr h

theorem begun_suspend (h : DestructionBegun m r) : DestructionBegun (m.suspend waiting) r :=
  destructionBegun_suspend.mpr (.inl h)

theorem begun_finishDestroy (h : DestructionBegun m r) :
    DestructionBegun (m.finishDestroy now ref) r := by
  rcases destructionBegun_iff.mp h with hwaiting | ⟨w, hw, hdestroyed⟩
  · exact .inl hwaiting
  · refine destructionBegun_iff.mpr (.inr ⟨_, getElem?_finishDestroy.trans
      (congrArg (Option.map _) hw), ?_⟩)
    split_ifs
    · exact Option.some_ne_none _
    · exact hdestroyed

theorem begun_drop (hindex : m.suspended[index]? = some waiting) (h : DestructionBegun m r) :
    DestructionBegun { m with suspended := m.suspended.eraseIdx index } r ∨
      destroys waiting = some r := by
  rcases h with ⟨other, hother, hr⟩ | hdestroyed
  · obtain ⟨i, hi⟩ := List.mem_iff_getElem?.mp hother
    by_cases hsame : i = index
    · subst hsame
      obtain rfl := Option.some.inj (hi.symm.trans hindex)
      exact .inr hr
    · exact .inl (.inl ⟨other, List.mem_eraseIdx_iff_getElem?.mpr ⟨i, hsame, hi⟩, hr⟩)
  · exact .inl (.inr hdestroyed)

theorem begun_destroyWorkspace (h : DestructionBegun m r) :
    DestructionBegun (m.destroyWorkspace now workspaceId cleanup).2 r := by
  unfold WorkspaceManager.destroyWorkspace
  split
  · exact begun_suspend (begun_update_of_keeps ⟨fun _ => rfl, fun _ => rfl, fun _ => rfl⟩ h)
  · exact begun_suspend h
  · exact h

theorem begun_cleanUp (h : DestructionBegun m r) : DestructionBegun (m.cleanUp now frame).2 r := by
  unfold WorkspaceManager.cleanUp
  split
  · exact h
  · exact begun_destroyWorkspace h

theorem begun_resume (htidy : Tidy m) (hindex : m.suspended[index]? = some waiting)
    (h : DestructionBegun m r) :
    DestructionBegun ({ m with suspended := m.suspended.eraseIdx index }.resume now waiting).2 r := by
  have hwaiting := List.mem_of_getElem? hindex
  have hdrop := begun_drop hindex h
  cases waiting with
  | performCreation ref caller =>
    exact begun_suspend (begun_update_of_keeps ⟨fun _ => rfl, fun _ => rfl, fun _ => rfl⟩
      (hdrop.resolve_right nofun))
  | afterCreation ref caller =>
    cases caller with
    | createWorkspace => exact hdrop.resolve_right nofun
    | resetWorkspace frame =>
      exact begun_update_of_keeps ⟨fun _ => rfl, fun _ => rfl, fun _ => rfl⟩
        (hdrop.resolve_right nofun)
  | performDestruction ref caller =>
    refine destructionBegun_suspend.mpr (hdrop.imp
      (begun_update_of_keeps ⟨fun _ => rfl, fun _ => rfl, fun _ => rfl⟩) fun hr => ?_)
    cases caller with
    | resetWorkspace frame => cases hr
    | destroyWorkspace cleanup => exact hr
  | afterDestruction ref caller =>
    cases caller with
    | resetWorkspace frame => exact begun_suspend (hdrop.resolve_right nofun)
    | destroyWorkspace cleanup =>
      have hfinish : DestructionBegun
          ({ m with suspended := m.suspended.eraseIdx index }.finishDestroy now ref) r := by
        rcases hdrop with hbegun | hr
        · exact begun_finishDestroy hbegun
        · obtain rfl := Option.some.inj hr
          obtain ⟨_, w, hw, _⟩ := htidy.of_destroys hwaiting rfl
          exact destructionBegun_iff.mpr (.inr ⟨_, getElem?_update_self hw, Option.some_ne_none _⟩)
      cases cleanup with
      | none => exact hfinish
      | some frame => exact begun_suspend hfinish
  | afterDestroy frame => exact begun_cleanUp (hdrop.resolve_right nofun)

theorem begun_next (htidy : Tidy m) (hnext : m.next call = some m') (h : DestructionBegun m r) :
    DestructionBegun m' r := by
  obtain ⟨now, op⟩ := call
  obtain ⟨result, hperform, rfl⟩ := Option.map_eq_some_iff.mp hnext
  cases op with
  | createWorkspace request =>
    obtain rfl := Option.some.inj hperform
    exact destructionBegun_createWorkspace.mpr h
  | acquireLease workspaceId runId owner durationMs =>
    obtain rfl := Option.some.inj hperform
    unfold acquireLease
    split
    · exact h
    · split_ifs
      · exact h
      · exact h
      · split
        · exact h
        · exact begun_update_of_keeps ⟨fun _ => rfl, fun _ => rfl, fun _ => rfl⟩ h
  | releaseLease workspaceId =>
    obtain rfl := Option.some.inj hperform
    unfold releaseLease
    split
    · exact h
    · exact begun_update_of_keeps ⟨fun _ => rfl, fun _ => rfl, fun _ => rfl⟩ h
  | resetWorkspace request =>
    obtain rfl := Option.some.inj hperform
    unfold resetWorkspace
    split
    · exact h
    · split_ifs
      · exact h
      · exact begun_suspend (begun_update_of_keeps ⟨fun _ => rfl, fun _ => rfl, fun _ => rfl⟩ h)
  | destroyWorkspace workspaceId =>
    obtain rfl := Option.some.inj hperform
    exact begun_destroyWorkspace h
  | cleanupOrphaned maxAgeMs =>
    obtain rfl := Option.some.inj hperform
    exact begun_cleanUp h
  | resume index =>
    obtain ⟨waiting, hindex, rfl⟩ := Option.map_eq_some_iff.mp hperform
    exact begun_resume htidy hindex h

theorem begun_of_destroyWorkspace {found : Nat × WorkspaceState}
    (hfound : m.getWorkspace workspaceId = some found) :
    DestructionBegun (m.destroyWorkspace now workspaceId cleanup).2 found.1 := by
  unfold WorkspaceManager.destroyWorkspace
  rw [hfound]
  exact destructionBegun_suspend.mpr (.inr rfl)

theorem begun_of_cleanUp (h : nextOrphan m frame = some ref) :
    DestructionBegun (m.cleanUp now frame).2 ref := by
  unfold nextOrphan at h
  unfold WorkspaceManager.cleanUp
  cases hahead : m.orphansAhead frame with
  | nil =>
    rw [hahead] at h
    cases h
  | cons entry later =>
    rw [hahead] at h
    obtain ⟨found, hfound, rfl⟩ := Option.map_eq_some_iff.mp h
    exact begun_of_destroyWorkspace hfound

theorem begun_of_beginsDestruction (hnext : m.next call = some m')
    (h : beginsDestruction m call = some ref) : DestructionBegun m' ref := by
  obtain ⟨now, op⟩ := call
  obtain ⟨result, hperform, rfl⟩ := Option.map_eq_some_iff.mp hnext
  cases op with
  | destroyWorkspace workspaceId =>
    obtain rfl := Option.some.inj hperform
    obtain ⟨found, hfound, rfl⟩ := Option.map_eq_some_iff.mp h
    exact begun_of_destroyWorkspace hfound
  | cleanupOrphaned maxAgeMs =>
    obtain rfl := Option.some.inj hperform
    exact begun_of_cleanUp h
  | resume index =>
    obtain ⟨waiting, hindex, rfl⟩ := Option.map_eq_some_iff.mp hperform
    simp only [beginsDestruction, hindex] at h
    cases waiting with
    | afterDestroy frame => exact begun_of_cleanUp (m := { m with suspended := _ }) h
    | _ => cases h
  | _ => cases h

end steps

def LeaseRecorded (m : WorkspaceManager) (workspaceId owner : String) (expiresAt : ℤ) : Prop :=
  ∃ ref w, m.getWorkspace workspaceId = some (ref, w) ∧ w.leaseOwner = some owner ∧
    w.leaseExpiresAt = some expiresAt

/-- The same workspaces, with the leases that they had. -/
structure SameLeases (m m' : WorkspaceManager) : Prop where
  workspaces : m'.workspaces = m.workspaces
  records : ∀ (ref : Nat) (w : WorkspaceState), m.records[ref]? = some w → ∃ w' : WorkspaceState,
    m'.records[ref]? = some w' ∧ w'.leaseOwner = w.leaseOwner ∧ w'.leaseExpiresAt = w.leaseExpiresAt

section leases

variable {m m' m'' : WorkspaceManager} {ref : Nat} {now : Timestamp}
  {workspaceId id runId owner owner' : String} {expiresAt expiresAt' : ℤ} {durationMs : ℚ}
  {cleanup : Option CleanupFrame} {frame : CleanupFrame} {waiting : Suspended}
  {change : WorkspaceState → WorkspaceState} {call : WorkspaceCall}

theorem SameLeases.recorded (h : SameLeases m m') (hlease : LeaseRecorded m workspaceId owner expiresAt) :
    LeaseRecorded m' workspaceId owner expiresAt := by
  obtain ⟨ref, w, hget, howner, hexpires⟩ := hlease
  obtain ⟨hid, hw⟩ := getWorkspace_eq_some_iff.mp hget
  obtain ⟨w', hw', howner', hexpires'⟩ := h.records ref w hw
  exact ⟨ref, w', getWorkspace_eq_some_iff.mpr ⟨h.workspaces ▸ hid, hw'⟩, howner'.trans howner,
    hexpires'.trans hexpires⟩

theorem sameLeases_refl (m : WorkspaceManager) : SameLeases m m :=
  ⟨rfl, fun _ w hw => ⟨w, hw, rfl, rfl⟩⟩

theorem sameLeases_update (howner : ∀ w, (change w).leaseOwner = w.leaseOwner)
    (hexpires : ∀ w, (change w).leaseExpiresAt = w.leaseExpiresAt) :
    SameLeases m (m.update ref change) := by
  refine ⟨rfl, fun r w hw => ⟨_, getElem?_update.trans (congrArg (Option.map _) hw), ?_⟩⟩
  split_ifs
  · exact ⟨howner w, hexpires w⟩
  · exact ⟨rfl, rfl⟩

theorem SameLeases.of_same (h : SameLeases m m') (hworkspaces : m''.workspaces = m'.workspaces)
    (hrecords : m''.records = m'.records) : SameLeases m m'' := by
  refine ⟨hworkspaces.trans h.workspaces, fun ref w hw => ?_⟩
  rw [hrecords]
  exact h.records ref w hw

theorem sameLeases_destroyWorkspace :
    SameLeases m (m.destroyWorkspace now workspaceId cleanup).2 := by
  unfold WorkspaceManager.destroyWorkspace
  split
  · rename_i ref _ _
    have hupdate : SameLeases m (m.update ref fun w => { w with status := .destroying, updatedAt := now }) :=
      sameLeases_update (fun _ => rfl) fun _ => rfl
    exact hupdate.of_same rfl rfl
  · exact (sameLeases_refl m).of_same rfl rfl
  · exact sameLeases_refl m

theorem sameLeases_cleanUp : SameLeases m (m.cleanUp now frame).2 := by
  unfold WorkspaceManager.cleanUp
  split
  · exact sameLeases_refl m
  · exact sameLeases_destroyWorkspace

theorem sameLeases_resume : SameLeases m (m.resume now waiting).2 := by
  cases waiting with
  | performCreation ref caller =>
    have hupdate : SameLeases m (m.update ref (·.create now)) :=
      sameLeases_update (fun _ => rfl) fun _ => rfl
    exact hupdate.of_same rfl rfl
  | afterCreation ref caller =>
    cases caller with
    | createWorkspace => exact sameLeases_refl m
    | resetWorkspace frame => exact sameLeases_update (fun _ => rfl) fun _ => rfl
  | performDestruction ref caller =>
    have hupdate : SameLeases m (m.update ref fun w => { w with containerId := none }) :=
      sameLeases_update (fun _ => rfl) fun _ => rfl
    exact hupdate.of_same rfl rfl
  | afterDestruction ref caller =>
    cases caller with
    | resetWorkspace frame => exact (sameLeases_refl m).of_same rfl rfl
    | destroyWorkspace cleanup =>
      have hfinish : SameLeases m (m.update ref (·.finishDestruction now)) :=
        sameLeases_update (fun _ => rfl) fun _ => rfl
      cases cleanup <;> exact hfinish.of_same rfl rfl
  | afterDestroy frame => exact sameLeases_cleanUp

theorem acquireLease_granted_iff :
    (m.acquireLease now workspaceId runId owner durationMs).1 = .lease true (some expiresAt) ↔
      ∃ ref w, m.getWorkspace workspaceId = some (ref, w) ∧ w.status = .ready ∧
        w.leased now = false ∧ toIsoInstant ((now : ℚ) + durationMs) = some expiresAt := by
  unfold acquireLease
  cases m.getWorkspace workspaceId with
  | none => simp
  | some found =>
    obtain ⟨ref, w⟩ := found
    dsimp only
    split_ifs with hready hleased
    · simp [hready]
    · simp [hleased]
    · cases toIsoInstant ((now : ℚ) + durationMs) with
      | none => simp
      | some other =>
        rw [not_not] at hready
        rw [Bool.not_eq_true] at hleased
        simp [hready, hleased]

theorem acquireLease_of_granted {w : WorkspaceState} (hget : m.getWorkspace workspaceId = some (ref, w))
    (hgranted : (m.acquireLease now workspaceId runId owner durationMs).1 =
      .lease true (some expiresAt)) :
    (m.acquireLease now workspaceId runId owner durationMs).2 =
      m.update ref (·.grant now runId owner expiresAt) := by
  obtain ⟨r, w', hget', hready, hleased, hinstant⟩ := acquireLease_granted_iff.mp hgranted
  obtain ⟨rfl, rfl⟩ : ref = r ∧ w = w' := by
    simpa using Option.some.inj (hget.symm.trans hget')
  simp [acquireLease, hget, hready, hleased, hinstant]

theorem acquireLease_of_not_granted
    (h : ∀ expiresAt, (m.acquireLease now workspaceId runId owner durationMs).1 ≠
      .lease true (some expiresAt)) :
    (m.acquireLease now workspaceId runId owner durationMs).2 = m := by
  revert h
  unfold acquireLease
  split
  · exact fun _ => rfl
  · split_ifs
    · exact fun _ => rfl
    · exact fun _ => rfl
    · split
      · exact fun _ => rfl
      · exact fun h => absurd rfl (h _)

theorem LeaseRecorded.update (h : Tidy m) (hlease : LeaseRecorded m workspaceId owner expiresAt)
    {found : Nat × WorkspaceState} (hfound : m.getWorkspace id = some found) (hne : id ≠ workspaceId) :
    LeaseRecorded (m.update found.1 change) workspaceId owner expiresAt := by
  obtain ⟨r, w, hget, hrest⟩ := hlease
  obtain ⟨hid, hw⟩ := getWorkspace_eq_some_iff.mp hget
  have hother : found.1 ≠ r := by
    rintro rfl
    obtain ⟨hid', _⟩ := getWorkspace_eq_some_iff.mp (hfound.trans (congrArg some (Prod.eta found).symm))
    obtain ⟨w₁, hw₁, hname₁⟩ := h.named _ _ hid'
    obtain ⟨w₂, hw₂, hname₂⟩ := h.named _ _ hid
    obtain rfl := Option.some.inj (hw₁.symm.trans hw₂)
    exact hne (hname₁.symm.trans hname₂)
  refine ⟨r, w, getWorkspace_eq_some_iff.mpr ⟨hid, ?_⟩, hrest⟩
  rw [getElem?_update, hw, Option.map_some, if_neg hother]

theorem leaseRecorded_next (h : Tidy m) (hquiet : Undisturbed m call) (hnext : m.next call = some m')
    (hlease : LeaseRecorded m workspaceId owner expiresAt) (hends : ¬EndsLease workspaceId m call) :
    LeaseRecorded m' workspaceId owner expiresAt := by
  obtain ⟨now, op⟩ := call
  obtain ⟨result, hperform, rfl⟩ := Option.map_eq_some_iff.mp hnext
  cases op with
  | createWorkspace request =>
    obtain rfl := Option.some.inj hperform
    obtain ⟨r, w, hget, howner, hexpires⟩ := hlease
    obtain ⟨hid, hw⟩ := getWorkspace_eq_some_iff.mp hget
    have hne : workspaceId ≠ workspaceIdOf request.taskId now := by
      rintro rfl
      exact absurd ((hquiet.2.2 _ hget).symm.trans howner) nofun
    exact ⟨r, w, getWorkspace_eq_some_iff.mpr ⟨(get?_set_of_ne _ _ hne).trans hid,
      getElem?_createWorkspace_of_some hw⟩, howner, hexpires⟩
  | acquireLease id runId owner' durationMs =>
    obtain rfl := Option.some.inj hperform
    by_cases hgranted : ∃ expiresAt', (m.acquireLease now id runId owner' durationMs).1 =
        .lease true (some expiresAt')
    · obtain ⟨expiresAt', hgranted⟩ := hgranted
      obtain ⟨r, w, hget, _⟩ := acquireLease_granted_iff.mp hgranted
      dsimp only
      rw [acquireLease_of_granted hget hgranted]
      refine hlease.update h hget ?_
      rintro rfl
      exact hends (.inr ⟨owner', expiresAt', runId, durationMs, rfl, hgranted⟩)
    · dsimp only
      rwa [acquireLease_of_not_granted (not_exists.mp hgranted)]
  | releaseLease id =>
    obtain rfl := Option.some.inj hperform
    unfold releaseLease
    cases hget : m.getWorkspace id with
    | none => exact hlease
    | some found =>
      refine hlease.update h hget ?_
      rintro rfl
      exact hends (.inl rfl)
  | resetWorkspace request =>
    obtain rfl := Option.some.inj hperform
    unfold resetWorkspace
    cases m.getWorkspace request.workspaceId with
    | none => exact hlease
    | some found =>
      have hupdate : SameLeases m
          (m.update found.1 fun w => { w with status := .resetting, updatedAt := now }) :=
        sameLeases_update (fun _ => rfl) fun _ => rfl
      dsimp only
      split_ifs
      · exact hlease
      · exact (hupdate.of_same rfl rfl).recorded hlease
  | destroyWorkspace id =>
    obtain rfl := Option.some.inj hperform
    exact sameLeases_destroyWorkspace.recorded hlease
  | cleanupOrphaned maxAgeMs =>
    obtain rfl := Option.some.inj hperform
    exact sameLeases_cleanUp.recorded hlease
  | resume index =>
    obtain ⟨waiting, hindex, rfl⟩ := Option.map_eq_some_iff.mp hperform
    have hdrop : SameLeases m { m with suspended := m.suspended.eraseIdx index } :=
      (sameLeases_refl m).of_same rfl rfl
    exact sameLeases_resume.recorded (hdrop.recorded hlease)

theorem leaseRecorded_of_grantsLease (hnext : m.next call = some m')
    (h : GrantsLease workspaceId owner expiresAt m call) :
    LeaseRecorded m' workspaceId owner expiresAt := by
  obtain ⟨now, op⟩ := call
  obtain ⟨runId, durationMs, rfl, hgranted⟩ := h
  obtain ⟨result, hperform, rfl⟩ := Option.map_eq_some_iff.mp hnext
  obtain rfl := Option.some.inj hperform
  obtain ⟨r, w, hget, _⟩ := acquireLease_granted_iff.mp hgranted
  obtain ⟨hid, hw⟩ := getWorkspace_eq_some_iff.mp hget
  dsimp only
  rw [acquireLease_of_granted hget hgranted]
  exact ⟨r, _, getWorkspace_eq_some_iff.mpr ⟨hid, getElem?_update_self hw⟩, rfl, rfl⟩

end leases

section runs

variable {h : History WorkspaceManager WorkspaceCall} {m : WorkspaceManager}

/-- What is known of a run whose steps disturb nothing. -/
structure Accounted (h : History WorkspaceManager WorkspaceCall) (m : WorkspaceManager) : Prop where
  tidy : Tidy m
  begun : ∀ ref, Occurs (fun m call => beginsDestruction m call = some ref) h → DestructionBegun m ref
  leases : ∀ workspaceId owner expiresAt, HoldsLease h workspaceId owner expiresAt →
    LeaseRecorded m workspaceId owner expiresAt

theorem tidy_new : Tidy .new where
  named _ _ hget := by cases hget
  ids w hw := by cases hw
  bounded waiting hwaiting := by cases hwaiting
  gone ref w _ hw := by cases hw
  unmade ref _ waiting hwaiting := by cases hwaiting
  alone waiting hwaiting := by cases hwaiting
  pointed _ _ hmap := by cases hmap
  mapped taskId ref hr := by cases hr

theorem accounted_of_run (hrun : workspaceRuns.Run h m) (hsteps : Steps Undisturbed h) :
    Accounted h m := by
  refine Run.invariant (C := Undisturbed) (I := Accounted) ?_ ?_ hrun hsteps
  · rintro m rfl
    refine ⟨tidy_new, ?_, fun _ _ _ hholds => absurd hholds not_since_nil⟩
    rintro ref ⟨p, hp, _⟩
    cases hp
  · rintro h m call m' _ _ hacc hquiet hnext
    refine ⟨hacc.tidy.next hquiet hnext, ?_, ?_⟩
    · rintro ref ⟨p, hp, hbegins⟩
      rcases List.mem_append.mp hp with hp | hp
      · exact begun_next hacc.tidy hnext (hacc.begun ref ⟨p, hp, hbegins⟩)
      · obtain rfl := List.mem_singleton.mp hp
        exact begun_of_beginsDestruction hnext hbegins
    · intro workspaceId owner expiresAt hholds
      rcases since_snoc.mp hholds with hgrants | ⟨hholds, hends⟩
      · exact leaseRecorded_of_grantsLease hnext hgrants
      · exact leaseRecorded_next hacc.tidy hquiet hnext
          (hacc.leases workspaceId owner expiresAt hholds) hends

theorem owner_eq_of_leaseRecorded {m : WorkspaceManager} {call : WorkspaceCall}
    {workspaceId owner owner' : String} {expiresAt expiresAt' : ℤ} (hquiet : Undisturbed m call)
    (hlease : LeaseRecorded m workspaceId owner expiresAt) (hlive : (call.now : ℤ) < expiresAt)
    (hgrants : GrantsLease workspaceId owner' expiresAt' m call) : owner' = owner := by
  obtain ⟨now, op⟩ := call
  obtain ⟨runId, durationMs, rfl, hgranted⟩ := hgrants
  obtain ⟨ref, w, hget, howner, hexpires⟩ := hlease
  obtain ⟨r, w', hget', hready, hleased, hinstant⟩ := acquireLease_granted_iff.mp hgranted
  obtain ⟨rfl, rfl⟩ : ref = r ∧ w = w' := by
    simpa using Option.some.inj (hget.symm.trans hget')
  have hnameless : owner = "" := by
    simpa [WorkspaceState.leased, isTruthy, howner, hexpires, hlive] using hleased
  subst hnameless
  rcases hquiet.2 (ref, w) hget hready howner with hexpired | hempty | hinvalid
  · have hle : expiresAt ≤ (now : ℤ) := hexpired expiresAt hexpires
    exact absurd hlive (Int.not_lt.mpr hle)
  · exact hempty
  · exact absurd (hinvalid.symm.trans hinstant) nofun

theorem getWorkspaceForTask_eq_some_iff (h : Tidy m) {taskId : String} {ref : Nat} :
    (m.getWorkspaceForTask taskId).map (·.1) = some ref ↔ Newest m taskId ref := by
  constructor
  · intro hfound
    obtain ⟨⟨r, w⟩, hget, rfl⟩ := Option.map_eq_some_iff.mp hfound
    obtain ⟨workspaceId, hmap, hget⟩ := Option.bind_eq_some_iff.mp hget
    obtain ⟨r', hid, hnewest⟩ := h.pointed taskId workspaceId hmap
    obtain rfl := Option.some.inj (hid.symm.trans (getWorkspace_eq_some_iff.mp hget).1)
    exact hnewest
  · intro hnewest
    obtain ⟨workspaceId, hmap⟩ := Option.ne_none_iff_exists'.mp (h.mapped taskId ref hnewest.1)
    obtain ⟨r, hid, hnewest'⟩ := h.pointed taskId workspaceId hmap
    obtain rfl := Nat.le_antisymm (hnewest.2 r hnewest'.1) (hnewest'.2 ref hnewest.1)
    obtain ⟨w, hw, _⟩ := h.named workspaceId r hid
    refine Option.map_eq_some_iff.mpr ⟨(r, w), Option.bind_eq_some_iff.mpr ⟨workspaceId, hmap, ?_⟩, rfl⟩
    exact getWorkspace_eq_some_iff.mpr ⟨hid, hw⟩

/-- Where no step disturbs another, a destroyed workspace stays gone, a lease has one owner, and a task is
mapped to its newest undestroyed workspace. -/
theorem workspaceLaws_of_undisturbed (hrun : workspaceRuns.Run h m) (hsteps : Steps Undisturbed h) :
    WorkspaceLaws h m := by
  have hacc := accounted_of_run hrun hsteps
  refine ⟨?_, ?_, fun taskId ref => getWorkspaceForTask_eq_some_iff hacc.tidy, ?_⟩
  · intro ref hbegins w hw
    have hstatus := hacc.tidy.gone ref w (hacc.begun ref hbegins) hw
    have hready : w.status ≠ .ready := by
      rcases hstatus with hstatus | hstatus <;> rw [hstatus] <;> exact nofun
    refine ⟨hready, fun now workspaceId runId owner durationMs hget => ?_⟩
    simp [acquireLease, hget, hready]
  · refine Run.everyStep (C := Undisturbed) ?_ hrun hsteps
    intro h m call m' hrun hsteps hquiet _ workspaceId owner owner' expiresAt expiresAt' hholds hlive
    have hlease := (accounted_of_run hrun hsteps).leases workspaceId owner expiresAt hholds
    exact owner_eq_of_leaseRecorded hquiet hlease hlive
  · intro taskId hnone
    by_contra hmap
    obtain ⟨workspaceId, hmap⟩ := Option.ne_none_iff_exists'.mp hmap
    obtain ⟨ref, _, hnewest⟩ := hacc.tidy.pointed taskId workspaceId hmap
    exact hnone ref hnewest.1

end runs

def plainWorkspace (taskId : String) : CreateWorkspaceRequest :=
  ⟨taskId, .container, none, none, none, none, none, none, none, none⟩

def playedWorkspaces (calls : List WorkspaceCall) :
    Option (History WorkspaceManager WorkspaceCall × WorkspaceManager) :=
  replay WorkspaceManager.next .new (calls.map fun call _ => some call)

theorem exists_workspaceRun {calls : List WorkspaceCall}
    {test : History WorkspaceManager WorkspaceCall × WorkspaceManager → Bool}
    (h : (playedWorkspaces calls).any test = true) :
    ∃ h m, workspaceRuns.Run h m ∧ test (h, m) = true :=
  exists_run_of_replay rfl h

/-- A workspace is leased and orphaned, a cleanup destroys it, and the task gets another one. -/
theorem orphan_replaced : ∃ h m, workspaceRuns.Run h m ∧ h.length = 7 ∧ WorkspaceLaws h m := by
  have hplayed : (playedWorkspaces [⟨0, .createWorkspace (plainWorkspace "task_0")⟩, ⟨100, .resume 0⟩,
      ⟨110, .acquireLease "ws-task_0-0" "run_0" "worker_0" 50⟩, ⟨900, .cleanupOrphaned 500⟩,
      ⟨950, .resume 1⟩, ⟨950, .resume 1⟩, ⟨1000, .createWorkspace (plainWorkspace "task_0")⟩]).any
      (fun p => decide (p.1.length = 7) && decide (∀ q ∈ p.1, Undisturbed q.1 q.2)) = true := by
    decide +kernel
  obtain ⟨h, m, hrun, htest⟩ := exists_workspaceRun hplayed
  obtain ⟨hlength, htest⟩ := Bool.and_eq_true_iff.mp htest
  have hsteps : ∀ q ∈ h, Undisturbed q.1 q.2 := of_decide_eq_true htest
  exact ⟨h, m, hrun, of_decide_eq_true hlength, workspaceLaws_of_undisturbed hrun hsteps⟩

/-- A creation that is still awaited makes a workspace ready again that was destroyed meanwhile. -/
theorem destroyed_workspace_ready : ¬ ∀ h m, workspaceRuns.Run h m → WorkspaceLaws h m := by
  intro hall
  have hplayed : (playedWorkspaces [⟨0, .createWorkspace (plainWorkspace "task_0")⟩,
      ⟨10, .destroyWorkspace "ws-task_0-0"⟩, ⟨60, .resume 1⟩, ⟨60, .resume 1⟩, ⟨100, .resume 0⟩]).any
      (fun p => p.1.any (fun q => beginsDestruction q.1 q.2 = some 0) &&
        (p.2.records[0]?).any (·.status = .ready)) = true := by
    decide +kernel
  obtain ⟨h, m, hrun, htest⟩ := exists_workspaceRun hplayed
  obtain ⟨hbegins, hready⟩ := Bool.and_eq_true_iff.mp htest
  obtain ⟨q, hq, hbegun⟩ := List.any_eq_true.mp hbegins
  obtain ⟨w, hw, hstatus⟩ := Option.any_eq_true .. |>.mp hready
  exact ((hall h m hrun).gone 0 ⟨q, hq, of_decide_eq_true hbegun⟩ w hw).1 (of_decide_eq_true hstatus)

end ShipyardCp.Properties
