import Mathlib.Algebra.Order.Ring.Rat
import Mathlib.Data.List.Sort
import ShipyardCp.Lib.KeyedMap
import ShipyardCp.Lib.Transition
import ShipyardCp.Types.Base

/-! The manager of alerts: rules evaluated against error statistics, alerts that fire and are
resolved, and the index of their fingerprints. -/

namespace ShipyardCp.Monitoring

open Types Lib

inductive ErrorSeverity where
  | low | medium | high | critical

inductive ErrorCategory where
  | application | infrastructure | validation | auth | external | timeout | resource | unknown

structure ErrorStats where
  total : ℚ
  byCategory : ErrorCategory → ℚ
  bySeverity : ErrorSeverity → ℚ
  errorRatePerMinute : Option ℚ

inductive AlertSeverity where
  | info | warning | critical

inductive AlertStatus where
  | firing | resolved
  deriving DecidableEq

inductive AlertConditionType where
  | errorRateThreshold | errorCountThreshold | errorSeverityCount | errorCategoryCount
  | taskFailureRate | custom

inductive AlertOperator where
  | gt | gte | lt | lte | eq

structure AlertCondition where
  type : AlertConditionType
  threshold : ℚ
  operator : AlertOperator
  category : Option ErrorCategory := none
  severity : Option ErrorSeverity := none

abbrev Labels := InsertionMap String String

structure AlertRule where
  id : String
  name : String
  description : Option String
  condition : AlertCondition
  severity : AlertSeverity
  enabled : Bool
  cooldownSeconds : ℚ
  labels : Option Labels := none
  annotations : Option Labels := none

/-- The ids of alerts are generated unique; they are known by the number of those before. -/
abbrev AlertId := Nat

structure Alert where
  id : AlertId
  ruleId : String
  name : String
  severity : AlertSeverity
  status : AlertStatus
  startedAt : Timestamp
  updatedAt : Timestamp
  resolvedAt : Option Timestamp := none
  value : ℚ
  threshold : ℚ
  labels : Labels
  annotations : Labels
  fingerprint : String
  count : Option Nat := none

/-- What the manager takes from its host: the order of texts and the text of an instant. -/
structure AlertHost where
  localeCompare : String → String → Ordering
  toISOString : Timestamp → String

structure AlertManager where
  rules : KeyedMap AlertRule.id
  alerts : KeyedMap Alert.id
  fingerprintIndex : InsertionMap String AlertId
  cooldownTracker : InsertionMap String Int
  issued : Nat

/-- What an evaluation returns, beside the number of active alerts. -/
structure AlertEvaluation where
  manager : AlertManager
  firingAlerts : List Alert := []
  resolvedAlerts : List Alert := []

namespace AlertManager

def generateFingerprint (host : AlertHost) (ruleId : String) (labels : Labels) : String :=
  let sortedLabels := labels.entries.insertionSort fun a b =>
    (host.localeCompare a.1 b.1).isLE = true
  ":".intercalate (ruleId :: sortedLabels.map fun label => s!"{label.1}={label.2}")

def fingerprintOf (host : AlertHost) (rule : AlertRule) : String :=
  generateFingerprint host rule.id (rule.labels.getD .empty)

def compare (operator : AlertOperator) (value threshold : ℚ) : Bool :=
  match operator with
  | .gt => value > threshold
  | .gte => value ≥ threshold
  | .lt => value < threshold
  | .lte => value ≤ threshold
  | .eq => value = threshold

def conditionValue (condition : AlertCondition) (stats : ErrorStats) : ℚ :=
  match condition.type with
  | .errorRateThreshold => stats.errorRatePerMinute.getD 0
  | .errorCountThreshold => stats.total
  | .errorSeverityCount => (condition.severity.map stats.bySeverity).getD 0
  | .errorCategoryCount => (condition.category.map stats.byCategory).getD 0
  | .taskFailureRate | .custom => 0

def ruleValue (rule : AlertRule) (stats : ErrorStats) (customMetrics : Option (String → Option ℚ)) :
    ℚ :=
  match rule.condition.type, customMetrics with
  | .custom, some metrics =>
    (metrics ((rule.labels.bind fun labels => labels.get? "metric").getD "")).getD 0
  | _, _ => conditionValue rule.condition stats

def ruleMatches (rule : AlertRule) (stats : ErrorStats)
    (customMetrics : Option (String → Option ℚ)) : Bool :=
  compare rule.condition.operator (ruleValue rule stats customMetrics) rule.condition.threshold

variable (host : AlertHost)

def isInCooldown (manager : AlertManager) (fingerprint : String) (now : Timestamp) : Bool :=
  (manager.cooldownTracker.get? fingerprint).any fun cooldownEnd => (now : Int) < cooldownEnd

def endCooldown (manager : AlertManager) (fingerprint : String) : AlertManager :=
  { manager with cooldownTracker := manager.cooldownTracker.delete fingerprint }

def createAlert (manager : AlertManager) (rule : AlertRule) (value : ℚ) (now : Timestamp) :
    Alert where
  id := manager.issued
  ruleId := rule.id
  name := rule.name
  severity := rule.severity
  status := .firing
  startedAt := now
  updatedAt := now
  value
  threshold := rule.condition.threshold
  labels := rule.labels.getD .empty
  annotations := (rule.annotations.getD .empty).entries.foldl (fun record e => record.set e.1 e.2)
    (InsertionMap.empty.set "description" (rule.description.getD ""))
  fingerprint := fingerprintOf host rule

def existingAlert (manager : AlertManager) (fingerprint : String) : Option Alert :=
  (manager.fingerprintIndex.get? fingerprint).bind manager.alerts.get?

def updateFiring (manager : AlertManager) (alert : Alert) (value : ℚ) (now : Timestamp) :
    AlertManager :=
  let updated :=
    { alert with value := value, updatedAt := now, count := some (alert.count.getD 0 + 1) }
  { manager with alerts := manager.alerts.put updated }

def fire (manager : AlertManager) (rule : AlertRule) (value : ℚ) (now : Timestamp) : AlertManager :=
  let alert := createAlert host manager rule value now
  { manager with
    alerts := manager.alerts.put alert
    fingerprintIndex := manager.fingerprintIndex.set alert.fingerprint alert.id
    cooldownTracker := manager.cooldownTracker.set alert.fingerprint
      ((now : ℚ) + rule.cooldownSeconds * 1000).floor
    issued := manager.issued + 1 }

def resolved (alert : Alert) (now : Timestamp) : Alert :=
  { alert with status := .resolved, updatedAt := now, resolvedAt := some now }

/-- One rule of an evaluation. -/
def evaluateRule (stats : ErrorStats) (customMetrics : Option (String → Option ℚ)) (now : Timestamp)
    (evaluation : AlertEvaluation) (rule : AlertRule) : AlertEvaluation :=
  let manager := evaluation.manager
  let value := ruleValue rule stats customMetrics
  let fingerprint := fingerprintOf host rule
  if !rule.enabled then evaluation
  else if ruleMatches rule stats customMetrics then
    if isInCooldown manager fingerprint now then evaluation
    else
      let manager := endCooldown manager fingerprint
      match existingAlert manager fingerprint with
      | some alert =>
        if alert.status = .firing then
          { evaluation with manager := updateFiring manager alert value now }
        else
          { evaluation with
            manager := fire host manager rule value now
            firingAlerts := evaluation.firingAlerts ++ [createAlert host manager rule value now] }
      | none =>
        { evaluation with
          manager := fire host manager rule value now
          firingAlerts := evaluation.firingAlerts ++ [createAlert host manager rule value now] }
  else
    match existingAlert manager fingerprint with
    | some alert =>
      if alert.status = .firing then
        { evaluation with
          manager := { manager with alerts := manager.alerts.put (resolved alert now) }
          resolvedAlerts := evaluation.resolvedAlerts ++ [resolved alert now] }
      else evaluation
    | none => evaluation

def evaluateRules (stats : ErrorStats) (customMetrics : Option (String → Option ℚ)) (now : Timestamp)
    (manager : AlertManager) : AlertEvaluation :=
  manager.rules.values.foldl (evaluateRule host stats customMetrics now) { manager }

def dropAlert (manager : AlertManager) (alert : Alert) : AlertManager :=
  { manager with
    alerts := manager.alerts.delete alert.id
    fingerprintIndex := manager.fingerprintIndex.delete alert.fingerprint }

def resolvedAlerts (manager : AlertManager) : List Alert :=
  manager.alerts.values.filter fun alert => alert.status = .resolved

def oldestFirst (alerts : List Alert) : List Alert :=
  alerts.insertionSort fun a b => a.updatedAt ≤ b.updatedAt

/-- The oldest resolved alerts are evicted first, and then the oldest of all; with the alerts evicted,
first to last. -/
def enforceMaxAlerts (maxAlerts : Nat) (manager : AlertManager) : AlertManager × List Alert :=
  let evict := fun (e : AlertManager × List Alert) alert =>
    if e.1.alerts.values.length ≤ maxAlerts then e else (dropAlert e.1 alert, e.2 ++ [alert])
  let afterResolved := (oldestFirst manager.resolvedAlerts).foldl evict (manager, [])
  let allAlerts := oldestFirst afterResolved.1.alerts.values
  let toRemove := allAlerts.take (afterResolved.1.alerts.values.length - maxAlerts)
  (toRemove.foldl dropAlert afterResolved.1, afterResolved.2 ++ toRemove)

def evaluate (maxAlerts : Nat) (stats : ErrorStats) (customMetrics : Option (String → Option ℚ))
    (now : Timestamp) (manager : AlertManager) : AlertEvaluation :=
  let evaluation := evaluateRules host stats customMetrics now manager
  { evaluation with manager := (enforceMaxAlerts maxAlerts evaluation.manager).1 }

def addRule (manager : AlertManager) (rule : AlertRule) : AlertManager :=
  { manager with rules := manager.rules.put rule }

/-- `enableRule` and `disableRule` -/
def setEnabled (enabled : Bool) (manager : AlertManager) (ruleId : String) : AlertManager :=
  match manager.rules.get? ruleId with
  | some rule => { manager with rules := manager.rules.put { rule with enabled := enabled } }
  | none => manager

def resolveAlert (manager : AlertManager) (id : AlertId) (now : Timestamp) : AlertManager :=
  match manager.alerts.get? id with
  | some alert =>
    if alert.status = .resolved then manager
    else { manager with alerts := manager.alerts.put (resolved alert now) }
  | none => manager

def acknowledged (alert : Alert) (now : Timestamp) : Alert :=
  { alert with
    annotations := (alert.annotations.set "acknowledged" "true").set "acknowledgedAt"
      (host.toISOString now)
    updatedAt := now }

def acknowledgeAlert (manager : AlertManager) (id : AlertId) (now : Timestamp) : AlertManager :=
  match manager.alerts.get? id with
  | some alert => { manager with alerts := manager.alerts.put (acknowledged host alert now) }
  | none => manager

def clearResolved (manager : AlertManager) : AlertManager :=
  manager.resolvedAlerts.foldl dropAlert manager

def defaultRule (id name description : String) (condition : AlertCondition)
    (severity : AlertSeverity) (cooldownSeconds : ℚ) : AlertRule :=
  { id, name, description := some description, condition, severity, enabled := true, cooldownSeconds
    labels := some .empty, annotations := some .empty }

def DEFAULT_RULES : List AlertRule :=
  [defaultRule "high_error_rate" "High Error Rate" "Error rate exceeds threshold per minute"
      ⟨.errorRateThreshold, 10, .gt, none, none⟩ .warning 300,
    defaultRule "critical_error_count" "Critical Error Count"
      "Number of critical errors exceeds threshold"
      ⟨.errorSeverityCount, 1, .gte, none, some .critical⟩ .critical 60,
    defaultRule "infrastructure_error_count" "Infrastructure Error Count"
      "Number of infrastructure errors exceeds threshold"
      ⟨.errorCategoryCount, 5, .gte, some .infrastructure, none⟩ .critical 120,
    defaultRule "auth_error_count" "Authentication Error Count"
      "Number of authentication errors exceeds threshold"
      ⟨.errorCategoryCount, 10, .gte, some .auth, none⟩ .warning 300]

def initial : AlertManager where
  rules := KeyedMap.empty.putAll DEFAULT_RULES
  alerts := .empty
  fingerprintIndex := .empty
  cooldownTracker := .empty
  issued := 0

end AlertManager

inductive AlertOp where
  | evaluate (stats : ErrorStats) (customMetrics : Option (String → Option ℚ))
  | addRule (rule : AlertRule)
  | enableRule (ruleId : String)
  | disableRule (ruleId : String)
  | resolveAlert (id : AlertId)
  | acknowledgeAlert (id : AlertId)
  | clearResolved

/-- A call and the instant at which it is made. -/
structure AlertCall where
  op : AlertOp
  now : Timestamp

/-- A manager between calls, and the instant of the last one. -/
structure AlertState where
  manager : AlertManager
  clock : Timestamp

namespace AlertState

open AlertManager

variable (host : AlertHost) (maxAlerts : Nat)

def apply (manager : AlertManager) (call : AlertCall) : AlertManager :=
  match call.op with
  | .evaluate stats customMetrics =>
    (evaluate host maxAlerts stats customMetrics call.now manager).manager
  | .addRule rule => addRule manager rule
  | .enableRule ruleId => setEnabled true manager ruleId
  | .disableRule ruleId => setEnabled false manager ruleId
  | .resolveAlert id => resolveAlert manager id call.now
  | .acknowledgeAlert id => acknowledgeAlert host manager id call.now
  | .clearResolved => clearResolved manager

def admits (s : AlertState) (call : AlertCall) : Bool := s.clock ≤ call.now && match call.op with
    | .addRule rule => (s.manager.rules.get? rule.id).isNone
    | _ => true

def next (s : AlertState) (call : AlertCall) : Option AlertState :=
  if s.admits call then some ⟨apply host maxAlerts s.manager call, call.now⟩ else none

end AlertState

def alertMachine (host : AlertHost) (maxAlerts : Nat) : Machine AlertState AlertCall :=
  Machine.ofNext (fun s => s.manager = AlertManager.initial) (AlertState.next host maxAlerts)

end ShipyardCp.Monitoring
