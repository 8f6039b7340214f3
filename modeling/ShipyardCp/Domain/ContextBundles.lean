import Mathlib.Data.List.Lex
import Mathlib.Data.List.Sort
import Mathlib.Data.Rat.Init
import Mathlib.Order.Lex
import ShipyardCp.Lib.JsonText
import ShipyardCp.Types.Base

/-! Context bundles for workers: the builder, merging, and the checksum of a bundle. -/

namespace ShipyardCp.Domain.ContextBundles

open Types Lib

inductive Component where
  | controlPlane | worker | external

structure ContextGenerator where
  component : Component
  version : String
  generatedAt : String

inductive Priority where
  | low | medium | high | critical

structure TaskCore where
  taskId : String
  typedRef : String
  title : String
  objective : String
  description : Option String := none
  state : String
  stage : String
  riskLevel : RiskLevel
  acceptanceCriteria : Option (List String) := none
  constraints : Option (List String) := none
  labels : Option (List String) := none
  priority : Option Priority := none

inductive RepositoryProvider where
  | github | gitlab | bitbucket

inductive CiType where
  | githubActions | circleci | jenkins | other

structure CiConfig where
  type : CiType
  path : String
  «exists» : Bool

structure RepositoryContext where
  provider : RepositoryProvider
  owner : String
  name : String
  defaultBranch : String
  baseSha : Option String := none
  headSha : Option String := none
  cloneUrl : Option String := none
  htmlUrl : Option String := none
  primaryLanguage : Option String := none
  frameworks : Option (List String) := none
  ciConfig : Option CiConfig := none

inductive WorkspaceKind where
  | container | volume | hostPath

inductive MountType where
  | bind | volume

structure Mount where
  source : String
  target : String
  type : MountType

structure WorkspaceContext where
  workspaceId : String
  kind : WorkspaceKind
  reusable : Bool
  containerImage : Option String := none
  workingDirectory : String
  environment : Option (List (String × String)) := none
  secrets : Option (List String) := none
  mounts : Option (List Mount) := none

structure DocRef where
  ref : String
  title : Option String := none
  relevanceScore : Option ℚ := none
  lastUpdated : Option String := none

structure Chunk where
  chunkId : String
  docRef : String
  content : String
  startLine : Option Nat := none
  endLine : Option Nat := none

inductive ContractType where
  | feature | api | interface

structure Contract where
  contractRef : String
  type : ContractType
  version : Option String := none

inductive DocumentStaleStatus where
  | fresh | stale | unknown

structure StaleDetail where
  docRef : String
  isStale : Bool
  reason : Option String := none

structure DocumentContext where
  docRefs : List DocRef
  chunks : List Chunk
  contracts : List Contract
  ackRefs : Option (List String) := none
  staleStatus : Option DocumentStaleStatus := none
  staleDetails : Option (List StaleDetail) := none

inductive IssueProvider where
  | github | jira | linear | other

structure Issue where
  provider : IssueProvider
  issueId : String
  title : String
  state : String
  labels : Option (List String) := none
  url : Option String := none

structure ProjectItem where
  projectName : String
  itemId : String
  status : Option String := none
  customFields : Option (List (String × (String ⊕ ℚ))) := none

structure ExternalRef where
  kind : String
  value : String
  url : Option String := none

structure SyncEventRef where
  syncId : String
  source : String
  timestamp : String

structure TrackerContext where
  issues : List Issue
  projectItems : List ProjectItem
  externalRefs : List ExternalRef
  syncEvents : List SyncEventRef

structure ContextBundleMetadata where
  estimatedSizeBytes : Option Nat := none
  checksum : Option String := none
  expiresAt : Option String := none
  tags : Option (List String) := none
  annotations : Option (List (String × String)) := none

structure ContextBundle where
  version : String
  bundleId : String
  taskId : String
  createdAt : String
  generator : ContextGenerator
  task : TaskCore
  repository : RepositoryContext
  workspace : WorkspaceContext
  documents : Option DocumentContext := none
  trackers : Option TrackerContext := none
  metadata : ContextBundleMetadata

/-- The instant of `Date.now()`, and its text. -/
structure Clock where
  now : Nat
  isoNow : String

/-- The partial bundle of a `ContextBundleBuilder`. -/
structure ContextBundleBuilder where
  version : String
  bundleId : String
  taskId : String
  createdAt : String
  generator : ContextGenerator
  task : Option TaskCore := none
  repository : Option RepositoryContext := none
  workspace : Option WorkspaceContext := none
  documents : Option DocumentContext := none
  trackers : Option TrackerContext := none
  metadata : ContextBundleMetadata := {}

namespace ContextBundleBuilder

def new (clock : Clock) (taskId : String) : ContextBundleBuilder where
  version := "1.0.0"
  bundleId := s!"ctx-{taskId}-{clock.now}"
  taskId := taskId
  createdAt := clock.isoNow
  generator := { component := .controlPlane, version := "1.0.0", generatedAt := clock.isoNow }

def setTaskCore (b : ContextBundleBuilder) (task : TaskCore) : ContextBundleBuilder :=
  { b with task := some task }

def setRepository (b : ContextBundleBuilder) (repo : RepositoryContext) : ContextBundleBuilder :=
  { b with repository := some repo }

def setWorkspace (b : ContextBundleBuilder) (workspace : WorkspaceContext) : ContextBundleBuilder :=
  { b with workspace := some workspace }

def setDocuments (b : ContextBundleBuilder) (docs : DocumentContext) : ContextBundleBuilder :=
  { b with documents := some docs }

def setTrackers (b : ContextBundleBuilder) (trackers : TrackerContext) : ContextBundleBuilder :=
  { b with trackers := some trackers }

def build (b : ContextBundleBuilder) : Except String ContextBundle :=
  match b.task, b.repository, b.workspace with
  | none, _, _ => .error "Task core is required"
  | _, none, _ => .error "Repository context is required"
  | _, _, none => .error "Workspace context is required"
  | some task, some repository, some workspace => .ok
    { version := b.version
      bundleId := b.bundleId
      taskId := b.taskId
      createdAt := b.createdAt
      generator := b.generator
      task := task
      repository := repository
      workspace := workspace
      documents := b.documents
      trackers := b.trackers
      metadata := b.metadata }

end ContextBundleBuilder

open ContextBundleBuilder

def mergeBundles (clock : Clock) : List ContextBundle → Except String ContextBundle
  | [] => .error "No bundles to merge"
  | [bundle] => .ok bundle
  | base :: others =>
    let bundles := base :: others
    let builder := (((new clock base.taskId).setTaskCore base.task).setRepository
      base.repository).setWorkspace base.workspace
    let documents := bundles.filterMap (·.documents)
    let allDocs : DocumentContext :=
      { docRefs := documents.flatMap (·.docRefs)
        chunks := documents.flatMap (·.chunks)
        contracts := documents.flatMap (·.contracts) }
    let builder := if 0 < allDocs.docRefs.length then builder.setDocuments allDocs else builder
    let trackers := bundles.filterMap (·.trackers)
    let allTrackers : TrackerContext :=
      { issues := trackers.flatMap (·.issues)
        projectItems := trackers.flatMap (·.projectItems)
        externalRefs := trackers.flatMap (·.externalRefs)
        syncEvents := trackers.flatMap (·.syncEvents) }
    let builder := if 0 < allTrackers.issues.length then builder.setTrackers allTrackers else builder
    builder.build

/-- A bundle as an object: its members in their order, under distinct names at every depth. -/
structure BundleObject where
  members : List (String × JsonValue)
  distinct : (JsonValue.obj members).distinctNames = true

namespace BundleObject

def value (bundle : BundleObject) : JsonValue := .obj bundle.members

/-- `Object.keys(bundle)` -/
def keys (bundle : BundleObject) : List String := bundle.members.map Prod.fst

/-- `keys.sort()`, by code units. -/
def sortKeys (keys : List String) : List String :=
  keys.insertionSort fun a b => JsText.charCodes a.toList ≤ JsText.charCodes b.toList

end BundleObject

def serialize (bundle : BundleObject) : List Char := bundle.value.stringify

def toInt32 (n : Int) : Int := (n + 2 ^ 31) % 2 ^ 32 - 2 ^ 31

def checksumContent (bundle : BundleObject) : List Char :=
  bundle.value.stringifyWith (BundleObject.sortKeys bundle.keys)

def contentHash (content : List Char) : Int :=
  (JsText.charCodes content).foldl (fun hash char => toInt32 (toInt32 (hash * 32) - hash + char)) 0

def checksumOf (content : List Char) : String :=
  let digits := Nat.toDigits 16 (contentHash content).natAbs
  "sha256:" ++ String.ofList ((List.replicate (64 - digits.length) '0' ++ digits).take 64)

def calculateChecksum (bundle : BundleObject) : String := checksumOf (checksumContent bundle)

def verifyIntegrity (bundle : BundleObject) (expectedChecksum : String) : Bool :=
  calculateChecksum bundle = expectedChecksum

end ShipyardCp.Domain.ContextBundles
