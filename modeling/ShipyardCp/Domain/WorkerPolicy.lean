import ShipyardCp.Types.Job
import ShipyardCp.Lib.JsText

/-! Fixed policies of the control plane: workers and capabilities of a stage, retries and the
classification of failures. -/

namespace ShipyardCp.Domain

open Types Lib

def getDefaultWorker : WorkerStage → WorkerType
  | .plan => .codex
  | .dev => .codex
  | .acceptance => .claudeCode

/-- Workers a stage fails over to, in order; `none` is a stage without failover. -/
def failoverOrder : WorkerStage → Option (List WorkerType)
  | .plan => some [.codex, .claudeCode, .googleAntigravity]
  | .dev => none
  | .acceptance => none

def canFailover (stage : WorkerStage) : Bool := (failoverOrder stage).isSome

def getFailoverWorker (stage : WorkerStage) (currentWorker : WorkerType) : Option WorkerType :=
  (failoverOrder stage).bind fun order => order[order.idxOf currentWorker + 1]?

def buildApprovalPolicy (stage : WorkerStage) (risk : RiskLevel) : ApprovalPolicy :=
  match stage, risk with
  | .plan, _ => ⟨.deny, none, some false, some .readOnly⟩
  | _, .high => ⟨.ask, some [.networkAccess], some true, some .workspaceWrite⟩
  | _, _ => ⟨.ask, none, some false, some .workspaceWrite⟩

def getRequestedOutputs : WorkerStage → List RequestedOutput
  | .plan => [.planNotes, .artifacts]
  | .dev => [.patch, .tests, .artifacts]
  | .acceptance => [.verdict, .tests, .artifacts]

def stageCapabilities : WorkerStage → List Capability
  | .plan => [.plan]
  | .dev => [.editRepo, .runTests]
  | .acceptance => [.producesVerdict]

def defaultWorkerCapabilities : WorkerType → List Capability
  | .codex => [.plan, .editRepo, .runTests, .producesPatch, .producesVerdict]
  | .claudeCode =>
    [.plan, .editRepo, .runTests, .needsApproval, .producesPatch, .producesVerdict, .networked]
  | .googleAntigravity => [.plan, .producesVerdict]

structure CapabilityCheckResult where
  required : List Capability
  present : List Capability
  missing : List Capability
  passed : Bool

def checkCapabilities (required available : List Capability) : CapabilityCheckResult :=
  let missing := required.filter (· ∉ available)
  { required, present := required.filter (· ∈ available), missing, passed := missing.isEmpty }

/-- The check of a dispatch. Every worker type is registered with its default capabilities on first
use, and a dispatch asks for no conditional capability. -/
def checkWorkerCapabilities (workerType : WorkerType) (stage : WorkerStage) : CapabilityCheckResult :=
  checkCapabilities (stageCapabilities stage) (defaultWorkerCapabilities workerType)

def getDefaultMaxRetries : WorkerStage → Nat
  | .plan => 2
  | .dev => 3
  | .acceptance => 1

def shouldRetry (failureClass : FailureClass) (retryCount : Int) (maxRetries : Nat) : Bool :=
  match failureClass with
  | .nonRetryablePolicy | .nonRetryableLogic => false
  | _ => !decide (retryCount ≥ maxRetries)

def transientCodes : List String :=
  ["network_error", "connection_error", "connection_refused", "dns_failure", "service_unavailable"]

def capacityCodes : List String :=
  ["rate_limit", "timeout", "quota_exceeded", "capacity_exceeded", "too_many_requests"]

def policyCodes : List String :=
  ["policy_violation", "unauthorized", "forbidden", "sandbox_violation", "permission_denied",
    "authorization_error"]

def logicCodes : List String :=
  ["invalid_input", "parse_error", "logic_error", "assertion_failed", "validation_error"]

def mentionsAny (text : List Char) (codes : List String) : Bool :=
  codes.any fun c => JsText.includes text c.toList

/-- The class of the first list a lower-cased code or summary mentions; transient by default. -/
def classifyText (text : List Char) : FailureClass :=
  if mentionsAny text transientCodes then .retryableTransient
  else if mentionsAny text capacityCodes then .retryableCapacity
  else if mentionsAny text policyCodes then .nonRetryablePolicy
  else if mentionsAny text logicCodes then .nonRetryableLogic
  else .retryableTransient

def classifyFailure (errorCode : String) : FailureClass :=
  classifyText (JsText.toLowerCase errorCode.toList)

def classifyFromResult (result : WorkerResult) : FailureClass :=
  match result.failureCode with
  | some code =>
    if code ≠ "" then classifyFailure code
    else classifyText (JsText.toLowerCase (result.summary.getD "").toList)
  | none => classifyText (JsText.toLowerCase (result.summary.getD "").toList)

theorem getFailoverWorker_isSome_iff {stage : WorkerStage} {worker : WorkerType} :
    (getFailoverWorker stage worker).isSome ↔ stage = .plan ∧ worker ≠ .googleAntigravity := by
  cases stage <;> cases worker <;> decide

theorem shouldRetry_lt {failureClass : FailureClass} {retryCount : Int} {maxRetries : Nat}
    (h : shouldRetry failureClass retryCount maxRetries = true) : retryCount < maxRetries := by
  cases failureClass <;> simp_all [shouldRetry]

end ShipyardCp.Domain
