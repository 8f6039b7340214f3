import ShipyardCp.Store.State

/-! The services for the documents and the tracker links of a task. -/

namespace ShipyardCp.Store

open Types Domain Lib ControlPlane

/-! Resolving, acknowledging and checking the documents of a task. A stale check is split at the
await of the document versions. -/

structure ResolveDocsRequest where
  feature : Option String
  topic : Option String
  taskSeed : Option String

structure AckDocsRequest where
  docId : String
  version : String

structure DocVersionInfo where
  docId : String
  version : String
  exists? : Bool

inductive StaleReason where
  | documentMissing | versionMismatch

structure StaleDocItem where
  taskId : String
  docId : String
  previousVersion : String
  currentVersion : String
  reason : StaleReason
  detectedAt : Timestamp

/-- The references a request resolves to; a request that names nothing gets the blueprint. -/
def resolvedRefs (request : ResolveDocsRequest) : ResolverRefs :=
  let feature := request.feature.getD ""
  let docRefs := (if isTruthy request.feature then ["doc:feature:" ++ feature] else []) ++
    (if isTruthy request.topic then ["doc:topic:" ++ request.topic.getD ""] else []) ++
    (if isTruthy request.taskSeed then ["doc:task:" ++ request.taskSeed.getD ""] else [])
  { docRefs := some (if docRefs = [] then ["doc:workflow-cookbook:blueprint"] else docRefs)
    chunkRefs := some (if isTruthy request.feature then ["chunk:feature:" ++ feature ++ ":1"] else [])
    ackRefs := none
    contractRefs := some []
    staleStatus := some .fresh
    staleDocCounts := none }

def resolveDocs (env : Env) (taskId : String) (request : ResolveDocsRequest) :
    StoreM ResolverRefs := do
  let _ ← requireTask taskId
  let _ ← updateTask env taskId { resolverRefs := some (resolvedRefs request) }
  pure (resolvedRefs request)

def buildAckRef (taskId docId version : String) : String :=
  "ack:" ++ taskId ++ ":" ++ docId ++ ":" ++ version

def ackDocs (env : Env) (taskId : String) (request : AckDocsRequest) : StoreM String := do
  let task ← requireTask taskId
  let ackRef := buildAckRef taskId request.docId request.version
  let refs := task.resolverRefs.getD .empty
  let existingAckRefs := refs.ackRefs.getD []
  let updatedAckRefs :=
    if ackRef ∈ existingAckRefs then existingAckRefs else existingAckRefs ++ [ackRef]
  let _ ← updateTask env taskId { resolverRefs := some { refs with ackRefs := some updatedAckRefs } }
  pure ackRef

def acknowledgedRefs (taskId : String) (task : Task) (request : AckDocsRequest) : ResolverRefs :=
  let ackRef := buildAckRef taskId request.docId request.version
  let refs := task.resolverRefs.getD .empty
  let existingAckRefs := refs.ackRefs.getD []
  { refs with
    ackRefs := some
      (if ackRef ∈ existingAckRefs then existingAckRefs else existingAckRefs ++ [ackRef]) }

def splitFirst (sep : Char) (text : List Char) : Option (List Char × List Char) :=
  match text.dropWhile (· ≠ sep) with
  | [] => none
  | _ :: rest => some (text.takeWhile (· ≠ sep), rest)

def splitLast (sep : Char) (text : List Char) : Option (List Char × List Char) :=
  (splitFirst sep text.reverse).map fun (after, before) => (before.reverse, after.reverse)

def parseAckRef (ackRef : String) : Option (String × String) :=
  match ackRef.toList with
  | 'a' :: 'c' :: 'k' :: ':' :: rest => do
    let (_, afterTaskId) ← splitFirst ':' rest
    let (docId, version) ← splitLast ':' afterTaskId
    pure (String.ofList docId, String.ofList version)
  | _ => none

def parseAckRefs (ackRefs : List String) : InsertionMap String String :=
  (ackRefs.filterMap parseAckRef).foldl (fun m entry => m.set entry.1 entry.2) .empty

/-- A stale check that waits for the current versions, with the references it read. -/
structure PendingStaleCheck where
  taskId : String
  resolverRefs : ResolverRefs
  docIds : Option (List String)
  deriving DecidableEq

def acknowledged (check : PendingStaleCheck) : InsertionMap String String :=
  parseAckRefs (check.resolverRefs.ackRefs.getD [])

def docIdsToCheck (check : PendingStaleCheck) : List String :=
  check.docIds.getD (acknowledged check).keys

/-- What is wrong with one document; of several answers for it the last counts. -/
def staleItem (now : Timestamp) (check : PendingStaleCheck) (currentVersions : List DocVersionInfo)
    (docId : String) : Option StaleDocItem :=
  let previous := (acknowledged check).get? docId
  match currentVersions.reverse.find? fun v => v.docId = docId with
  | some current =>
    if current.exists? then
      match previous with
      | some version =>
        if current.version ≠ version then
          some ⟨check.taskId, docId, version, current.version, .versionMismatch, now⟩
        else none
      | none => none
    else some ⟨check.taskId, docId, previous.getD "unknown", "missing", .documentMissing, now⟩
  | none => some ⟨check.taskId, docId, previous.getD "unknown", "missing", .documentMissing, now⟩

def staleItems (now : Timestamp) (check : PendingStaleCheck)
    (currentVersions : List DocVersionInfo) : List StaleDocItem :=
  (docIdsToCheck check).filterMap (staleItem now check currentVersions)

/-- The first half of a stale check; nothing is asked for a task that acknowledged nothing. -/
def beginStaleCheck (taskId : String) (docIds : Option (List String)) :
    StoreM (Option PendingStaleCheck) := do
  let task ← requireTask taskId
  match task.resolverRefs with
  | none => pure none
  | some refs =>
    if refs.ackRefs.getD [] = [] then pure none
    else pure (some { taskId, resolverRefs := refs, docIds })

def settleStaleCheck (env : Env) (check : PendingStaleCheck)
    (currentVersions : List DocVersionInfo) : StoreM (List StaleDocItem) := do
  let stale := staleItems env.now check currentVersions
  if stale ≠ [] then
    let _ ← updateTask env check.taskId
      { resolverRefs := some { check.resolverRefs with staleStatus := some .stale } }
  pure stale

/-- New references for a task. -/
structure ReferenceUpdate where
  taskId : String
  resolverRefs : Task → Option ResolverRefs
  externalRefs : Task → Option (List ExternalRef)

def ReferenceUpdate.applied (u : ReferenceUpdate) (env : Env) (task : Task) : Task :=
  applyTaskUpdate env task
    { resolverRefs := u.resolverRefs task, externalRefs := u.externalRefs task }

def ControlPlane.updateReferences (s : ControlPlane) (env : Env) (u : ReferenceUpdate) :
    ControlPlane :=
  match s.task? u.taskId with
  | none => s
  | some task => s.setTask (u.applied env task)

section spec

variable {s : ControlPlane}

theorem finalState_resolveDocs (env : Env) (taskId : String) (request : ResolveDocsRequest) :
    finalState (resolveDocs env taskId request) s =
      s.updateReferences env ⟨taskId, fun _ => some (resolvedRefs request), fun _ => none⟩ := by
  refine finalState_rec (resolveDocs env taskId request) s ?_
  simp only [resolveDocs, wp_bind, wp_requireTask, updateReferences]
  cases htask : s.task? taskId with
  | none => exact rfl
  | some task =>
    simp only [andThen_ok, wp_bind, wp_updateTask, htask, wp_pure, onState_ok]
    rfl

theorem finalState_ackDocs (env : Env) (taskId : String) (request : AckDocsRequest) :
    finalState (ackDocs env taskId request) s = s.updateReferences env
        ⟨taskId, fun task => some (acknowledgedRefs taskId task request), fun _ => none⟩ := by
  refine finalState_rec (ackDocs env taskId request) s ?_
  simp only [ackDocs, wp_bind, wp_requireTask, updateReferences]
  cases htask : s.task? taskId with
  | none => exact rfl
  | some task =>
    simp only [andThen_ok, wp_bind, wp_updateTask, htask, wp_pure, onState_ok]
    rfl

theorem finalState_settleStaleCheck (env : Env) (check : PendingStaleCheck)
    (currentVersions : List DocVersionInfo) :
    finalState (settleStaleCheck env check currentVersions) s =
      if staleItems env.now check currentVersions = [] then s
      else s.updateReferences env
        ⟨check.taskId, fun _ => some { check.resolverRefs with staleStatus := some .stale },
          fun _ => none⟩ := by
  refine finalState_rec (settleStaleCheck env check currentVersions) s ?_
  simp only [settleStaleCheck, wp_ite]
  by_cases hstale : staleItems env.now check currentVersions = []
  · rw [if_neg (not_not_intro hstale), if_pos hstale]
    rfl
  · rw [if_pos hstale, if_neg hstale]
    simp only [wp_bind, wp_updateTask, updateReferences]
    cases s.task? check.taskId with
    | none => exact rfl
    | some task => exact rfl

end spec

/-! Linking tracker entities to a task. A link is split at the await of the tracker bridge. -/

structure TrackerLinkRequest where
  typedRef : String
  connectionRef : Option String
  entityRef : String
  linkRole : Option LinkRole
  metadataJson : Option String
  deriving DecidableEq

def entityKind (kind : String) : ExternalRefKind :=
  if kind = "github_issue" then .githubIssue
  else if kind = "github_project_item" then .githubProjectItem
  else if kind = "tracker_issue" then .trackerIssue
  else .entityLink

def nonEmpty (o : Option String) : Option String := if isTruthy o then o else none

def parseEntityRef (request : TrackerLinkRequest) : ExternalRef :=
  let (kind, value) := match splitFirst ':' request.entityRef.toList with
    | some (kind, value) => (entityKind (String.ofList kind), String.ofList value)
    | none => (.entityLink, request.entityRef)
  { kind, value, connectionRef := nonEmpty request.connectionRef, linkRole := request.linkRole
    metadataJson := nonEmpty request.metadataJson }

def generateSyncEventRef (now : Timestamp) (taskId : String) : String :=
  "sync_evt_" ++ taskId ++ "_" ++ toString now

def linkedRefs (now : Timestamp) (taskId : String) (request : TrackerLinkRequest) :
    List ExternalRef :=
  [parseEntityRef request,
   { kind := .syncEvent, value := generateSyncEventRef now taskId
     connectionRef := nonEmpty request.connectionRef, linkRole := none, metadataJson := none }]

def mergeTrackerRefs (existing : Option (List ExternalRef)) (newRefs : List ExternalRef) :
    List ExternalRef :=
  let existingValues := (existing.getD []).map fun e => (e.kind, e.value)
  existing.getD [] ++ newRefs.filter fun e => (e.kind, e.value) ∉ existingValues

/-- A link that waits for the bridge, with the references it read. -/
structure PendingLink where
  taskId : String
  externalRefs : Option (List ExternalRef)
  request : TrackerLinkRequest
  deriving DecidableEq

def beginLinkTracker (taskId : String) (request : TrackerLinkRequest) : StoreM PendingLink := do
  let task ← requireTask taskId
  if request.typedRef ≠ task.typedRef then
    throw (.error ("typed_ref mismatch: expected " ++ task.typedRef ++ ", got " ++ request.typedRef))
  else pure { taskId, externalRefs := task.externalRefs, request }

def settleLinkTracker (env : Env) (link : PendingLink) : StoreM (List ExternalRef) := do
  let externalRefs := linkedRefs env.now link.taskId link.request
  let _ ← updateTask env link.taskId
    { externalRefs := some (mergeTrackerRefs link.externalRefs externalRefs) }
  pure externalRefs

theorem finalState_settleLinkTracker {s : ControlPlane} (env : Env) (link : PendingLink) :
    finalState (settleLinkTracker env link) s =
      s.updateReferences env ⟨link.taskId, fun _ => none, fun _ =>
        some (mergeTrackerRefs link.externalRefs (linkedRefs env.now link.taskId link.request))⟩ := by
  refine finalState_rec (settleLinkTracker env link) s ?_
  simp only [settleLinkTracker, wp_bind, wp_updateTask, updateReferences]
  cases s.task? link.taskId with
  | none => exact rfl
  | some task => exact rfl

end ShipyardCp.Store
