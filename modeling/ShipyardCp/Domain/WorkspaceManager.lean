import ShipyardCp.Domain.ConcurrencyManager

/-! The workspace manager. Its operations change a shared record before and after their awaits; a call
that awaits is kept with what is left of it to do. -/

namespace ShipyardCp.Domain

open Types Lib

inductive WorkspaceStatus where
  | pending | creating | ready | inUse | error | resetting | destroying | destroyed
  deriving DecidableEq

inductive WorkspaceMountType where
  | bind | volume

structure WorkspaceMount where
  source : String
  target : String
  type : WorkspaceMountType

inductive NetworkMode where
  | off | bridge | host | custom

structure WorkspaceIsolation where
  userNamespace : Option Bool
  networkMode : Option NetworkMode
  customNetwork : Option String
  noNewPrivileges : Option Bool
  readOnlyRoot : Option Bool
  securityOpts : Option (List String)
  capDrop : Option (List String)
  capAdd : Option (List String)

structure WorkspaceResourceLimits where
  cpuLimit : Option ℚ
  memoryLimit : Option ℚ
  diskLimit : Option ℚ
  executionTimeoutMs : Option ℚ

structure CreateWorkspaceRequest where
  taskId : String
  kind : WorkspaceKind
  reusable : Option Bool
  containerImage : Option String
  workingDirectory : Option String
  environment : Option (List (String × String))
  secrets : Option (List String)
  mounts : Option (List WorkspaceMount)
  isolation : Option WorkspaceIsolation
  resourceLimits : Option WorkspaceResourceLimits

structure WorkspaceConfig where
  workspaceId : String
  taskId : String
  kind : WorkspaceKind
  reusable : Bool
  containerImage : Option String
  workingDirectory : String
  environment : Option (List (String × String))
  secrets : Option (List String)
  mounts : Option (List WorkspaceMount)
  isolation : Option WorkspaceIsolation
  resourceLimits : Option WorkspaceResourceLimits

inductive ResetReason where
  | highRiskDetected | contamination | userRequest | errorRecovery
  deriving DecidableEq

structure WorkspaceState where
  workspaceId : String
  taskId : String
  status : WorkspaceStatus
  kind : WorkspaceKind
  containerId : Option String
  createdAt : Timestamp
  updatedAt : Timestamp
  readyAt : Option Timestamp
  destroyedAt : Option Timestamp
  currentRunId : Option String
  leaseOwner : Option String
  leaseExpiresAt : Option ℤ
  resetCount : Nat
  lastResetReason : Option ResetReason
  config : WorkspaceConfig

structure ResetWorkspaceRequest where
  workspaceId : String
  reason : ResetReason
  riskLevel : RiskLevel
  preserveArtifacts : Option Bool
  artifactPaths : Option (List String)

structure PreservedArtifact where
  path : String
  artifactId : String

structure ResetWorkspaceResult where
  workspaceId : String
  oldContainerId : Option String
  newContainerId : Option String
  resetAt : Timestamp
  reason : ResetReason
  preservedArtifacts : Option (List PreservedArtifact)

/-- What `resetWorkspace` keeps over its awaits. -/
structure ResetFrame where
  request : ResetWorkspaceRequest
  oldContainerId : Option String
  preservedArtifacts : List PreservedArtifact

/-- What `cleanupOrphaned` keeps over its awaits; the position is that of the next entry. -/
structure CleanupFrame where
  now : Timestamp
  maxAgeMs : ℚ
  position : Nat
  orphanedIds : List String

inductive CreationCaller where
  | createWorkspace
  | resetWorkspace (frame : ResetFrame)

/-- A destruction belongs to a reset, or to `destroyWorkspace`, which a cleanup may have called. -/
inductive DestructionCaller where
  | resetWorkspace (frame : ResetFrame)
  | destroyWorkspace (cleanup : Option CleanupFrame)

/-- An await at which a call is suspended, with the record that it works on. -/
inductive Suspended where
  | performCreation (ref : Nat) (caller : CreationCaller)
  | afterCreation (ref : Nat) (caller : CreationCaller)
  | performDestruction (ref : Nat) (caller : DestructionCaller)
  | afterDestruction (ref : Nat) (caller : DestructionCaller)
  | afterDestroy (frame : CleanupFrame)

inductive WorkspaceAnswer where
  | suspended
  | threw (message : String)
  | workspace (state : WorkspaceState)
  | lease (success : Bool) (expiresAt : Option ℤ)
  | done
  | reset (result : ResetWorkspaceResult)
  | orphaned (workspaceIds : List String)

/-- The records made so far, first to last; a workspace is named by the place of its record. -/
structure WorkspaceManager where
  records : List WorkspaceState
  workspaces : InsertionMap String Nat
  taskWorkspaces : InsertionMap String String
  suspended : List Suspended

def toIsoInstant (ms : ℚ) : Option ℤ :=
  if -8640000000000000 ≤ ms ∧ ms ≤ 8640000000000000 then some (timeClip ms) else none

def workspaceIdOf (taskId : String) (now : Timestamp) : String :=
  "ws-" ++ taskId ++ "-" ++ toString now

namespace WorkspaceState

def new (request : CreateWorkspaceRequest) (now : Timestamp) : WorkspaceState where
  workspaceId := workspaceIdOf request.taskId now
  taskId := request.taskId
  status := .creating
  kind := request.kind
  containerId := none
  createdAt := now
  updatedAt := now
  readyAt := none
  destroyedAt := none
  currentRunId := none
  leaseOwner := none
  leaseExpiresAt := none
  resetCount := 0
  lastResetReason := none
  config :=
    { workspaceId := workspaceIdOf request.taskId now
      taskId := request.taskId
      kind := request.kind
      reusable := request.reusable.getD false
      containerImage := request.containerImage
      workingDirectory := request.workingDirectory.getD "/workspace"
      environment := request.environment
      secrets := request.secrets
      mounts := request.mounts
      isolation := request.isolation
      resourceLimits := request.resourceLimits }

def leased (w : WorkspaceState) (now : Timestamp) : Bool :=
  isTruthy w.leaseOwner && w.leaseExpiresAt.any fun expiresAt => (now : ℤ) < expiresAt

def grant (w : WorkspaceState) (now : Timestamp) (runId owner : String) (expiresAt : ℤ) :
    WorkspaceState :=
  { w with
    status := .inUse
    currentRunId := some runId
    leaseOwner := some owner
    leaseExpiresAt := some expiresAt
    updatedAt := now }

def release (w : WorkspaceState) (now : Timestamp) : WorkspaceState :=
  { w with
    status := .ready
    currentRunId := none
    leaseOwner := none
    leaseExpiresAt := none
    updatedAt := now }

def create (w : WorkspaceState) (now : Timestamp) : WorkspaceState :=
  { w with
    containerId := some ("container-" ++ w.workspaceId)
    status := .ready
    readyAt := some now
    updatedAt := now }

def finishReset (w : WorkspaceState) (now : Timestamp) (reason : ResetReason) : WorkspaceState :=
  { w with
    status := .ready
    resetCount := w.resetCount + 1
    lastResetReason := some reason
    updatedAt := now }

def finishDestruction (w : WorkspaceState) (now : Timestamp) : WorkspaceState :=
  { w with status := .destroyed, destroyedAt := some now, updatedAt := now }

def isOrphaned (w : WorkspaceState) (frame : CleanupFrame) : Bool :=
  (w.status = .inUse || w.status = .ready && isTruthy w.leaseOwner) &&
    w.leaseExpiresAt.any fun expiresAt => (expiresAt : ℚ) < (frame.now : ℚ) - frame.maxAgeMs

end WorkspaceState

def preserveArtifacts (request : ResetWorkspaceRequest) (now : Timestamp) : List PreservedArtifact :=
  if request.preserveArtifacts = some true then
    (request.artifactPaths.getD []).map fun path =>
      ⟨path, s!"artifact-{now}-" ++ path.map fun c => if c = '/' then '_' else c⟩
  else []

namespace WorkspaceManager

def new : WorkspaceManager := ⟨[], .empty, .empty, []⟩

def update (m : WorkspaceManager) (ref : Nat) (change : WorkspaceState → WorkspaceState) :
    WorkspaceManager :=
  { m with records := m.records.modify ref change }

def suspend (m : WorkspaceManager) (call : Suspended) : WorkspaceManager :=
  { m with suspended := m.suspended ++ [call] }

def getWorkspace (m : WorkspaceManager) (workspaceId : String) : Option (Nat × WorkspaceState) := do
  let ref ← m.workspaces.get? workspaceId
  let workspace ← m.records[ref]?
  some (ref, workspace)

def getWorkspaceForTask (m : WorkspaceManager) (taskId : String) : Option (Nat × WorkspaceState) := do
  let workspaceId ← m.taskWorkspaces.get? taskId
  m.getWorkspace workspaceId

def createWorkspace (m : WorkspaceManager) (now : Timestamp) (request : CreateWorkspaceRequest) :
    WorkspaceManager :=
  let workspaceId := workspaceIdOf request.taskId now
  let ref := m.records.length
  { records := m.records ++ [.new request now]
    workspaces := m.workspaces.set workspaceId ref
    taskWorkspaces := m.taskWorkspaces.set request.taskId workspaceId
    suspended := m.suspended ++ [.performCreation ref .createWorkspace] }

def acquireLease (m : WorkspaceManager) (now : Timestamp) (workspaceId runId owner : String)
    (durationMs : ℚ) : WorkspaceAnswer × WorkspaceManager :=
  match m.getWorkspace workspaceId with
  | none => (.threw s!"Workspace {workspaceId} not found", m)
  | some (ref, workspace) =>
    if workspace.status ≠ .ready then (.lease false none, m)
    else if workspace.leased now then (.lease false none, m)
    else
      match toIsoInstant ((now : ℚ) + durationMs) with
      | none => (.threw "Invalid time value", m)
      | some expiresAt =>
        (.lease true (some expiresAt), m.update ref (·.grant now runId owner expiresAt))

def releaseLease (m : WorkspaceManager) (now : Timestamp) (workspaceId : String) : WorkspaceManager :=
  match m.getWorkspace workspaceId with
  | none => m
  | some (ref, _) => m.update ref (·.release now)

def resetWorkspace (m : WorkspaceManager) (now : Timestamp) (request : ResetWorkspaceRequest) :
    WorkspaceAnswer × WorkspaceManager :=
  match m.getWorkspace request.workspaceId with
  | none => (.threw s!"Workspace {request.workspaceId} not found", m)
  | some (ref, workspace) =>
    if request.riskLevel ≠ .high ∧ request.reason = .highRiskDetected then
      (.threw "High-risk reset only allowed for high risk level tasks", m)
    else
      let frame : ResetFrame :=
        { request
          oldContainerId := workspace.containerId
          preservedArtifacts := preserveArtifacts request now }
      (.suspended, (m.update ref fun w => { w with status := .resetting, updatedAt := now }).suspend
          (.performDestruction ref (.resetWorkspace frame)))

/-- Destroying no workspace is over at the next await of a cleanup. -/
def destroyWorkspace (m : WorkspaceManager) (now : Timestamp) (workspaceId : String)
    (cleanup : Option CleanupFrame) : WorkspaceAnswer × WorkspaceManager :=
  match m.getWorkspace workspaceId, cleanup with
  | some (ref, _), _ =>
    (.suspended, (m.update ref fun w => { w with status := .destroying, updatedAt := now }).suspend
        (.performDestruction ref (.destroyWorkspace cleanup)))
  | none, some frame => (.suspended, m.suspend (.afterDestroy frame))
  | none, none => (.done, m)

/-- The entries that the loop of a cleanup has still to look at, from the next orphaned one on. -/
def orphansAhead (m : WorkspaceManager) (frame : CleanupFrame) : List (String × Nat) :=
  (m.workspaces.entries.drop frame.position).dropWhile fun entry =>
    !(m.records[entry.2]?).any (·.isOrphaned frame)

/-- The loop of `cleanupOrphaned` up to its next await. -/
def cleanUp (m : WorkspaceManager) (now : Timestamp) (frame : CleanupFrame) :
    WorkspaceAnswer × WorkspaceManager :=
  match m.orphansAhead frame with
  | [] => (.orphaned frame.orphanedIds, m)
  | (id, _) :: later =>
    m.destroyWorkspace now id (some
      { frame with
        position := m.workspaces.size - later.length
        orphanedIds := frame.orphanedIds ++ [id] })

def cleanupOrphaned (m : WorkspaceManager) (now : Timestamp) (maxAgeMs : ℚ) :
    WorkspaceAnswer × WorkspaceManager :=
  m.cleanUp now ⟨now, maxAgeMs, 0, []⟩

/-- The end of `destroyWorkspace`: the task is mapped to no workspace any more. -/
def finishDestroy (m : WorkspaceManager) (now : Timestamp) (ref : Nat) : WorkspaceManager :=
  { m.update ref (·.finishDestruction now) with
    taskWorkspaces :=
      match m.records[ref]? with
      | some workspace => m.taskWorkspaces.delete workspace.taskId
      | none => m.taskWorkspaces }

/-- What is left of a call to do, up to its next await. -/
def resume (m : WorkspaceManager) (now : Timestamp) : Suspended → WorkspaceAnswer × WorkspaceManager
  | .performCreation ref caller =>
    (.suspended, (m.update ref (·.create now)).suspend (.afterCreation ref caller))
  | .afterCreation ref .createWorkspace =>
    (match m.records[ref]? with
      | some state => .workspace state
      | none => .done, m)
  | .afterCreation ref (.resetWorkspace frame) =>
    let m := m.update ref (·.finishReset now frame.request.reason)
    (.reset
      { workspaceId := frame.request.workspaceId
        oldContainerId := frame.oldContainerId
        newContainerId := m.records[ref]? >>= (·.containerId)
        resetAt := now
        reason := frame.request.reason
        preservedArtifacts :=
          if frame.preservedArtifacts.isEmpty then none else some frame.preservedArtifacts }, m)
  | .performDestruction ref caller =>
    (.suspended,
      (m.update ref fun w => { w with containerId := none }).suspend (.afterDestruction ref caller))
  | .afterDestruction ref (.resetWorkspace frame) =>
    (.suspended, m.suspend (.performCreation ref (.resetWorkspace frame)))
  | .afterDestruction ref (.destroyWorkspace cleanup) =>
    match cleanup with
    | none => (.done, m.finishDestroy now ref)
    | some frame => (.suspended, (m.finishDestroy now ref).suspend (.afterDestroy frame))
  | .afterDestroy frame => m.cleanUp now frame

end WorkspaceManager

inductive WorkspaceOp where
  | createWorkspace (request : CreateWorkspaceRequest)
  | acquireLease (workspaceId runId owner : String) (durationMs : ℚ)
  | releaseLease (workspaceId : String)
  | resetWorkspace (request : ResetWorkspaceRequest)
  | destroyWorkspace (workspaceId : String)
  | cleanupOrphaned (maxAgeMs : ℚ)
  | resume (index : Nat)

/-- A call, or the next stretch of a suspended one, at its instant. -/
structure WorkspaceCall where
  now : Timestamp
  op : WorkspaceOp

namespace WorkspaceManager

/-- What a call answers and leaves up to its first await; only a suspended call can go on. -/
def perform (m : WorkspaceManager) (call : WorkspaceCall) : Option (WorkspaceAnswer × WorkspaceManager) :=
  match call.op with
  | .createWorkspace request => some (.suspended, m.createWorkspace call.now request)
  | .acquireLease workspaceId runId owner durationMs =>
    some (m.acquireLease call.now workspaceId runId owner durationMs)
  | .releaseLease workspaceId => some (.done, m.releaseLease call.now workspaceId)
  | .resetWorkspace request => some (m.resetWorkspace call.now request)
  | .destroyWorkspace workspaceId => some (m.destroyWorkspace call.now workspaceId none)
  | .cleanupOrphaned maxAgeMs => some (m.cleanupOrphaned call.now maxAgeMs)
  | .resume index =>
    m.suspended[index]?.map fun waiting =>
      { m with suspended := m.suspended.eraseIdx index }.resume call.now waiting

def next (m : WorkspaceManager) (call : WorkspaceCall) : Option WorkspaceManager :=
  (m.perform call).map (·.2)

end WorkspaceManager

end ShipyardCp.Domain
