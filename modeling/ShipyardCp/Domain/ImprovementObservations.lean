import Mathlib.Algebra.Order.Ring.Rat
import ShipyardCp.Lib.SortedLists
import ShipyardCp.Lib.InsertionMap
import ShipyardCp.Lib.Json

/-! The improvement projection: the observations that are built from the audit events and
retrospectives of the control plane, and their export page by page. -/

namespace ShipyardCp.Domain

open Lib

/-- What the export takes from the language: reading a date, and an order of texts. -/
structure ImprovementHost where
  /-- `Date.parse`; `none` is NaN. -/
  parseDate : String → Option Int
  localeCompare : String → String → Ordering
  transCmp : Std.TransCmp localeCompare

/-- The fields of an audit event that the projection reads. -/
structure AuditEvent where
  eventId : String
  eventType : String
  taskId : String
  runId : Option String
  payload : Json
  occurredAt : String

structure SummaryMetrics where
  jobCount : Nat
  jobSuccessCount : Nat
  jobFailureCount : Nat
  jobBlockedCount : Nat
  retryCount : Nat
  riskLevel : String
  checkpointCount : Nat

structure Retrospective where
  retrospectiveId : String
  taskId : String
  generatedAt : String
  summaryMetrics : SummaryMetrics

structure GateCatalogEntry where
  gateId : String
  owner : String
  policyRevision : String
  hardSafety : Bool

inductive GateOverride where
  | none
  | applied
  | unknown
  deriving DecidableEq

structure GateObservation where
  observationId : String
  taskId : String
  runId : Option String
  occurredAt : String
  gateId : String
  owner : String
  policyRevision : String
  decision : String
  effectiveAction : String
  /-- `none` is 'unknown'. -/
  transitionChanged : Option Bool
  risk : String
  override : GateOverride
  sourceEventId : String
  deriving DecidableEq

structure EvidenceConsumptionObservation where
  observationId : String
  taskId : String
  evidenceId : String
  occurredAt : String
  disposition : String
  reviewedBy : String
  purpose : Option String
  sourceEventId : String
  deriving DecidableEq

structure ReflectionLesson where
  observation : String
  category : String
  actionable : Bool
  deriving DecidableEq

/-- A source of a projection: its type and what it refers to. -/
structure ReflectionSource where
  type : String
  ref : String
  deriving DecidableEq

/-- The projection of a retrospective; its open questions and next actions are always empty. -/
structure ReflectionSummaryProjection where
  sessionId : String
  taskId : String
  objective : String
  changes : List String
  lessons : List ReflectionLesson
  sources : List ReflectionSource
  createdAt : String
  schemaVersion : String
  deriving DecidableEq

structure ImprovementObservationQuery where
  since : Option String := none
  untilAt : Option String := none
  cursor : Option String := none
  limit : Option ℚ := none

structure ImprovementObservationBundle where
  schemaVersion : String
  generatedAt : String
  taskCount : Nat
  since : Option String
  untilAt : Option String
  gateCatalog : List GateCatalogEntry
  gateObservations : List GateObservation
  evidenceConsumptionObservations : List EvidenceConsumptionObservation
  reflectionSummaries : List ReflectionSummaryProjection
  nextCursor : Option String

inductive ExportValue where
  | gate (value : GateObservation)
  | evidence (value : EvidenceConsumptionObservation)
  | reflection (value : ReflectionSummaryProjection)
  deriving DecidableEq

structure ExportItem where
  id : String
  occurredAt : String
  value : ExportValue
  deriving DecidableEq

namespace ExportItem

def gate? (item : ExportItem) : Option GateObservation :=
  match item.value with
  | .gate value => some value
  | _ => none

def evidence? (item : ExportItem) : Option EvidenceConsumptionObservation :=
  match item.value with
  | .evidence value => some value
  | _ => none

def reflection? (item : ExportItem) : Option ReflectionSummaryProjection :=
  match item.value with
  | .reflection value => some value
  | _ => none

end ExportItem

section projections

def readString (payload : Json) (key : String) : Option String :=
  ((payload.get? key).bind Json.asString?).filter (· ≠ "")

def readBoolean (payload : Json) (key : String) : Option Bool :=
  match payload.get? key with
  | some (.bool value) => some value
  | _ => none

def readNestedString (payload : Json) (key nestedKey : String) : Option String :=
  ((payload.get? key).bind (·.get? nestedKey)).bind Json.asString?

def readOverride (payload : Json) : GateOverride :=
  match payload.get? "override" with
  | some (.str "none") => .none
  | some (.str "applied") => .applied
  | some value =>
    match value.get? "applied" with
    | some (.bool true) => .applied
    | some (.bool false) => .none
    | _ => .unknown
  | none => .unknown

def toGateObservation (event : AuditEvent) : GateObservation where
  observationId := s!"gate:{event.eventId}"
  taskId := event.taskId
  runId := event.runId.filter (· ≠ "")
  occurredAt := event.occurredAt
  gateId := (readString event.payload "gate_id").getD "unknown"
  owner := (readString event.payload "gate_owner").getD "unknown"
  policyRevision := (readString event.payload "policy_revision").getD "unknown"
  decision := ((readString event.payload "decision").or
    (readNestedString event.payload "gatefield" "verdict")).getD "unknown"
  effectiveAction := (readString event.payload "effective_action").getD "unknown"
  transitionChanged := readBoolean event.payload "transition_changed"
  risk := (readString event.payload "risk").getD "unknown"
  override := readOverride event.payload
  sourceEventId := event.eventId

def toEvidenceObservation (event : AuditEvent) : Option EvidenceConsumptionObservation := do
  let evidenceId ← readString event.payload "evidence_id"
  let reviewedBy ← readString event.payload "reviewed_by"
  pure {
    observationId := s!"evidence:{event.eventId}"
    taskId := event.taskId
    evidenceId := evidenceId
    occurredAt := event.occurredAt
    disposition := "acknowledged"
    reviewedBy := reviewedBy
    purpose := readString event.payload "purpose"
    sourceEventId := event.eventId }

/-- Metrics only; the narrative of a retrospective is not projected. -/
def adaptRetrospectiveToReflectionSummary (retrospective : Retrospective) :
    ReflectionSummaryProjection :=
  let metrics := retrospective.summaryMetrics
  { sessionId := s!"shipyard-retrospective:{retrospective.retrospectiveId}"
    taskId := retrospective.taskId
    objective := s!"Runtime retrospective for task {retrospective.taskId}"
    changes := [s!"Jobs: {metrics.jobCount}; successful: {metrics.jobSuccessCount}; " ++
      s!"failed: {metrics.jobFailureCount}; blocked: {metrics.jobBlockedCount}."]
    lessons := [{
      observation := s!"Risk level {metrics.riskLevel}; retries: {metrics.retryCount}; " ++
        s!"checkpoints: {metrics.checkpointCount}."
      category := "process"
      actionable := true }]
    sources := [{ type := "task", ref := retrospective.taskId }]
    createdAt := retrospective.generatedAt
    schemaVersion := "self-improvement/v1" }

def toExportItems (event : AuditEvent) : List ExportItem :=
  if event.eventType = "run.systemGateEvaluated" then
    let observation := toGateObservation event
    [⟨observation.observationId, observation.occurredAt, .gate observation⟩]
  else if event.eventType = "evidence.acknowledged" then
    match toEvidenceObservation event with
    | some observation => [⟨observation.observationId, observation.occurredAt, .evidence observation⟩]
    | none => []
  else []

def reflectionItem (retrospective : Retrospective) : ExportItem where
  id := s!"reflection:{retrospective.retrospectiveId}"
  occurredAt := retrospective.generatedAt
  value := .reflection (adaptRetrospectiveToReflectionSummary retrospective)

end projections

section paging

variable (host : ImprovementHost)

/-- The gates that the observations of a page name, after the one of the run system. -/
def catalogFrom (observations : List GateObservation) : List GateCatalogEntry :=
  let seeded : InsertionMap String GateCatalogEntry :=
    InsertionMap.empty.set "run-system:shipyard-cp:1.0" ⟨"run-system", "shipyard-cp", "1.0", false⟩
  let entries := observations.foldl (fun entries observation =>
    let key := s!"{observation.gateId}:{observation.owner}:{observation.policyRevision}"
    if (entries.get? key).isSome then entries
    else entries.set key ⟨observation.gateId, observation.owner, observation.policyRevision,
      observation.gateId.startsWith "hard-safety:"⟩) seeded
  entries.values.insertionSort fun left right =>
    (host.localeCompare left.gateId right.gateId).isLE = true

def parseTimestamp (value : Option String) (label : String) : Except String (Option Int) :=
  match value with
  | none => .ok none
  | some value =>
    match host.parseDate value with
    | none => .error s!"{label} must be an ISO timestamp"
    | some parsed => .ok (some parsed)

def isWithinWindow (value : String) (since untilAt : Option Int) : Bool :=
  match host.parseDate value with
  | none => false
  | some timestamp =>
    since.all (fun since => decide (since ≤ timestamp)) &&
      untilAt.all (fun untilAt => decide (timestamp ≤ untilAt))

def normalizeLimit (value : Option ℚ) : Except String Nat :=
  match value with
  | none => .ok 100
  | some value =>
    if value.den ≠ 1 ∨ value < 1 ∨ 500 < value then
      .error "limit must be an integer from 1 through 500"
    else .ok value.num.toNat

def resolveCursor (items : List ExportItem) (cursor : Option String) : Except String Nat :=
  match cursor.filter (· ≠ "") with
  | none => .ok 0
  | some cursor =>
    match items.findIdx? (fun item => item.id = cursor) with
    | none => .error "cursor does not reference an observation in the selected window"
    | some index => .ok (index + 1)

def compareExportItems (left right : ExportItem) : Ordering :=
  (host.localeCompare left.occurredAt right.occurredAt).then (host.localeCompare left.id right.id)

def exportItems (auditEvents : List AuditEvent) (retrospectives : List Retrospective) :
    List ExportItem :=
  auditEvents.flatMap toExportItems ++ retrospectives.map reflectionItem

def selectItems (items : List ExportItem) (since untilAt : Option Int) : List ExportItem :=
  (items.filter fun item => isWithinWindow host item.occurredAt since untilAt).insertionSort
    fun left right => (compareExportItems host left right).isLE = true

/-- `export`, at a time and with the number of tasks that the caller counted. -/
def exportObservations (now : String) (auditEvents : List AuditEvent)
    (retrospectives : List Retrospective) (query : ImprovementObservationQuery) (taskCount : Nat) :
    Except String ImprovementObservationBundle := do
  let since ← parseTimestamp host query.since "since"
  let untilAt ← parseTimestamp host query.untilAt "until"
  if since.any fun since => untilAt.any fun untilAt => decide (untilAt < since) then
    .error "since must be before or equal to until"
  let limit ← normalizeLimit query.limit
  let selected := selectItems host (exportItems auditEvents retrospectives) since untilAt
  let start ← resolveCursor selected query.cursor
  let page := (selected.drop start).take limit
  let next := if start + page.length < selected.length then page.getLast?.map (·.id) else none
  let gateObservations := page.filterMap ExportItem.gate?
  pure {
    schemaVersion := "self-improvement/v1"
    generatedAt := now
    taskCount := taskCount
    since := query.since.filter (· ≠ "")
    untilAt := query.untilAt.filter (· ≠ "")
    gateCatalog := catalogFrom host gateObservations
    gateObservations := gateObservations
    evidenceConsumptionObservations := page.filterMap ExportItem.evidence?
    reflectionSummaries := page.filterMap ExportItem.reflection?
    nextCursor := next.filter (· ≠ "") }

end paging

end ShipyardCp.Domain
