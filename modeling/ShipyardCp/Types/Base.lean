import Mathlib.Data.List.Basic

/-! Enumerations shared by tasks, jobs and results. -/

namespace ShipyardCp.Types

inductive RiskLevel where
  | low | medium | high
  deriving DecidableEq

inductive WorkerType where
  | codex | claudeCode | googleAntigravity
  deriving DecidableEq

inductive WorkerStage where
  | plan | dev | acceptance
  deriving DecidableEq

inductive FailureClass where
  | retryableTransient | retryableCapacity | nonRetryablePolicy | nonRetryableLogic
  deriving DecidableEq

inductive SideEffectCategory where
  | networkAccess | workspaceOutsideWrite | protectedPathWrite | destructiveTool | secretAccess
  | externalRelease
  deriving DecidableEq

inductive TaskState where
  | queued | planning | planned | developing | devCompleted | accepting | accepted | reworkRequired
  | integrating | integrated | publishPendingApproval | publishing | published | completed
  | cancelled | failed | blocked
  deriving DecidableEq

def WorkerType.text : WorkerType → String
  | codex => "codex"
  | claudeCode => "claude_code"
  | googleAntigravity => "google_antigravity"

def WorkerStage.text : WorkerStage → String
  | plan => "plan"
  | dev => "dev"
  | acceptance => "acceptance"

def TaskState.text : TaskState → String
  | queued => "queued"
  | planning => "planning"
  | planned => "planned"
  | developing => "developing"
  | devCompleted => "dev_completed"
  | accepting => "accepting"
  | accepted => "accepted"
  | reworkRequired => "rework_required"
  | integrating => "integrating"
  | integrated => "integrated"
  | publishPendingApproval => "publish_pending_approval"
  | publishing => "publishing"
  | published => "published"
  | completed => "completed"
  | cancelled => "cancelled"
  | failed => "failed"
  | blocked => "blocked"

def FailureClass.text : FailureClass → String
  | retryableTransient => "retryable_transient"
  | retryableCapacity => "retryable_capacity"
  | nonRetryablePolicy => "non_retryable_policy"
  | nonRetryableLogic => "non_retryable_logic"

inductive NextAction where
  | dispatchDev | dispatchAcceptance | integrate | publish | retry | failover | waitManual | none
  deriving DecidableEq

inductive Capability where
  | plan | editRepo | runTests | needsApproval | networked | producesPatch | producesVerdict
  deriving DecidableEq

def Capability.text : Capability → String
  | plan => "plan"
  | editRepo => "edit_repo"
  | runTests => "run_tests"
  | needsApproval => "needs_approval"
  | networked => "networked"
  | producesPatch => "produces_patch"
  | producesVerdict => "produces_verdict"

inductive ActorType where
  | controlPlane | worker | human | policyEngine
  deriving DecidableEq

/-- Instants and durations in milliseconds; an ISO date string is the instant it denotes. -/
abbrev Timestamp := Nat

/-- JavaScript truthiness of an optional string: `undefined` and `''` are falsy. -/
def isTruthy : Option String → Bool
  | none => false
  | some s => s ≠ ""

@[simp] theorem isTruthy_none : isTruthy none = false := rfl

/-- What an operation draws from outside: the clock, the stream of `randomUUID` values without
dashes, the hex string of `randomBytes(32)`, the hash inside a loop fingerprint, and the answers of
the regular-expression engine (`none` is a pattern it rejects). -/
structure Env where
  now : Timestamp
  uuid : Nat → String
  randomHex : String
  fingerprintHash : String
  regExpTest : String → String → Option Bool

/-- The id made from the `n`-th uuid the operation draws. -/
def createId (env : Env) (n : Nat) (kind : String) : String := kind ++ "_" ++ env.uuid n

end ShipyardCp.Types
