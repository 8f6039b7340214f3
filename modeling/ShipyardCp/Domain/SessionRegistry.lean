import Mathlib.Algebra.Order.Ring.Rat
import Mathlib.Data.List.Sort
import ShipyardCp.Lib.KeyedMap
import ShipyardCp.Types.Base

/-! The registry of a worker's sessions: which of them can be used again for a job, who holds the
lease of each, and the pool of those that are kept warm. -/

namespace ShipyardCp.Domain

open Types Lib

inductive AgentProfile where
  | planningOriented | buildOriented | verificationOriented
  deriving DecidableEq

def determineAgentProfile : WorkerStage → AgentProfile
  | .plan => .planningOriented
  | .dev => .buildOriented
  | .acceptance => .verificationOriented

inductive ReuseSkipReason where
  | agentProfileMismatch | stageBucketMismatch | policyFingerprintMismatch | workspaceMismatch
  | taskMismatch | alreadyLeased | stateNotReady | healthScoreLow | errorHistoryHigh

inductive CleanupReason where
  | taskCompleted | taskCancelled | taskFailed | timeout | serverCrash | policyMismatch | ttlExpired
  | manualCleanup | orphanDetected | leaseExpired
  deriving DecidableEq

def CleanupReason.text : CleanupReason → String
  | taskCompleted => "task_completed"
  | taskCancelled => "task_cancelled"
  | taskFailed => "task_failed"
  | timeout => "timeout"
  | serverCrash => "server_crash"
  | policyMismatch => "policy_mismatch"
  | ttlExpired => "ttl_expired"
  | manualCleanup => "manual_cleanup"
  | orphanDetected => "orphan_detected"
  | leaseExpired => "lease_expired"

structure SessionHealthScore where
  score : Int
  errorCount : Nat
  successCount : Nat
  isHealthy : Bool

inductive SessionRecordState where
  | initializing | ready | active | idle | draining | dead | expired
  deriving DecidableEq

@[ext] structure SessionWorkspace where
  kind : String
  workspaceId : String
  deriving DecidableEq

structure SessionRecord where
  sessionId : String
  taskId : String
  workspaceRef : SessionWorkspace
  logicalWorker : WorkerType
  stageBucket : WorkerStage
  policyFingerprint : String
  agentProfile : AgentProfile
  state : SessionRecordState
  createdAt : Timestamp
  lastActivityAt : Timestamp
  lastUsedAt : Option Timestamp
  leasedBy : Option String
  leaseExpiresAt : Option Timestamp
  error : Option String
  cleanupReason : Option CleanupReason
  healthScore : SessionHealthScore
  inWarmPool : Bool
  warmPoolEntryAt : Option Timestamp

structure SessionSearchCriteria where
  taskId : String
  workspaceRef : SessionWorkspace
  logicalWorker : WorkerType
  stageBucket : WorkerStage
  policyFingerprint : String
  agentProfile : Option AgentProfile
  deriving DecidableEq

structure SessionRegistryConfig where
  sessionTtlMs : Nat
  leaseTtlMs : Nat
  enableWarmPool : Bool := true
  minHealthScoreForReuse : ℚ := 50
  maxErrorCountForReuse : ℚ := 3

def SessionSearchCriteria.profile (criteria : SessionSearchCriteria) : AgentProfile :=
  criteria.agentProfile.getD (determineAgentProfile criteria.stageBucket)

def createInitialHealthScore : SessionHealthScore where
  score := 100
  errorCount := 0
  successCount := 0
  isHealthy := true

def calculateHealthScore (current : SessionHealthScore) (success : Bool)
    (config : SessionRegistryConfig) : SessionHealthScore :=
  let successCount := if success then current.successCount + 1 else current.successCount
  let errorCount := if success then current.errorCount else current.errorCount + 1
  let score : Int := max 0 (min 100 (100 - errorCount * 15 + min (successCount * 2) 50))
  { score
    errorCount
    successCount
    isHealthy := (score : ℚ) ≥ config.minHealthScoreForReuse ∧
      (errorCount : ℚ) ≤ config.maxErrorCountForReuse }

namespace SessionRecord

def isLeased (record : SessionRecord) (now : Timestamp) : Bool :=
  isTruthy record.leasedBy && record.leaseExpiresAt.any fun e => e ≠ 0 && e > now

def leaseExpired (record : SessionRecord) (now : Timestamp) : Bool :=
  isTruthy record.leasedBy && record.leaseExpiresAt.any fun e => e ≠ 0 && e < now

def clearExpiredLease (record : SessionRecord) (now : Timestamp) : SessionRecord :=
  if record.leaseExpired now then
    { record with
      leasedBy := none
      leaseExpiresAt := none
      state := .idle
      lastActivityAt := now }
  else record

/-- Why the session cannot be used again for the criteria, if it cannot. -/
def checkReuseEligibility (record : SessionRecord) (now : Timestamp)
    (criteria : SessionSearchCriteria) (agentProfile : AgentProfile)
    (config : SessionRegistryConfig) : Option ReuseSkipReason :=
  if record.taskId ≠ criteria.taskId then some .taskMismatch
  else if record.workspaceRef.kind ≠ criteria.workspaceRef.kind ∨
      record.workspaceRef.workspaceId ≠ criteria.workspaceRef.workspaceId then
    some .workspaceMismatch
  else if record.logicalWorker ≠ criteria.logicalWorker then some .taskMismatch
  else if record.stageBucket ≠ criteria.stageBucket then some .stageBucketMismatch
  else if record.policyFingerprint ≠ criteria.policyFingerprint then
    some .policyFingerprintMismatch
  else if record.agentProfile ≠ agentProfile then some .agentProfileMismatch
  else if isTruthy record.leasedBy then
    -- an expired lease makes the session eligible before its state or health is looked at
    if record.leaseExpired now then none else some .alreadyLeased
  else if record.state ≠ .ready ∧ record.state ≠ .idle then some .stateNotReady
  else if !record.healthScore.isHealthy then some .healthScoreLow
  else if (record.healthScore.errorCount : ℚ) > config.maxErrorCountForReuse then
    some .errorHistoryHigh
  else none

/-- The session is for the task, workspace, worker, stage, policy and profile of the criteria. -/
structure Fits (record : SessionRecord) (criteria : SessionSearchCriteria) : Prop where
  taskId : record.taskId = criteria.taskId
  workspaceRef : record.workspaceRef = criteria.workspaceRef
  logicalWorker : record.logicalWorker = criteria.logicalWorker
  stageBucket : record.stageBucket = criteria.stageBucket
  policyFingerprint : record.policyFingerprint = criteria.policyFingerprint
  agentProfile : record.agentProfile = criteria.profile

theorem checkReuseEligibility_eq_none_iff {record : SessionRecord} {now : Timestamp}
    {criteria : SessionSearchCriteria} {config : SessionRegistryConfig} :
    record.checkReuseEligibility now criteria criteria.profile config = none ↔
      record.Fits criteria ∧ (record.leaseExpired now = true ∨
        isTruthy record.leasedBy = false ∧ (record.state = .ready ∨ record.state = .idle) ∧
        record.healthScore.isHealthy = true ∧
        (record.healthScore.errorCount : ℚ) ≤ config.maxErrorCountForReuse) := by
  have hexpired : record.leaseExpired now = true → isTruthy record.leasedBy = true := fun h =>
    (Bool.and_eq_true_iff.mp h).1
  unfold checkReuseEligibility
  by_cases h₁ : record.taskId ≠ criteria.taskId
  · rw [if_pos h₁]
    exact iff_of_false nofun fun h => h₁ h.1.taskId
  by_cases h₂ : record.workspaceRef.kind ≠ criteria.workspaceRef.kind ∨
      record.workspaceRef.workspaceId ≠ criteria.workspaceRef.workspaceId
  · rw [if_neg h₁, if_pos h₂]
    refine iff_of_false nofun fun h => ?_
    rw [h.1.workspaceRef] at h₂
    exact h₂.elim (fun hkind => hkind rfl) fun hid => hid rfl
  rw [if_neg h₁, if_neg h₂]
  by_cases h₃ : record.logicalWorker ≠ criteria.logicalWorker
  · rw [if_pos h₃]
    exact iff_of_false nofun fun h => h₃ h.1.logicalWorker
  by_cases h₄ : record.stageBucket ≠ criteria.stageBucket
  · rw [if_neg h₃, if_pos h₄]
    exact iff_of_false nofun fun h => h₄ h.1.stageBucket
  rw [if_neg h₃, if_neg h₄]
  by_cases h₅ : record.policyFingerprint ≠ criteria.policyFingerprint
  · rw [if_pos h₅]
    exact iff_of_false nofun fun h => h₅ h.1.policyFingerprint
  by_cases h₆ : record.agentProfile ≠ criteria.profile
  · rw [if_neg h₅, if_pos h₆]
    exact iff_of_false nofun fun h => h₆ h.1.agentProfile
  rw [if_neg h₅, if_neg h₆]
  have hfits : record.Fits criteria := by
    refine ⟨not_not.mp h₁, ?_, not_not.mp h₃, not_not.mp h₄, not_not.mp h₅, not_not.mp h₆⟩
    obtain ⟨hkind, hid⟩ := not_or.mp h₂
    exact SessionWorkspace.ext (not_not.mp hkind) (not_not.mp hid)
  by_cases hleased : isTruthy record.leasedBy = true
  · rw [if_pos hleased]
    by_cases hover : record.leaseExpired now = true
    · rw [if_pos hover]
      exact iff_of_true rfl ⟨hfits, Or.inl hover⟩
    · rw [if_neg hover]
      refine iff_of_false nofun fun h => h.2.elim hover fun h => ?_
      rw [hleased] at h
      cases h.1
  have hnot : ¬record.leaseExpired now = true := fun h => hleased (hexpired h)
  rw [if_neg hleased]
  by_cases hstate : record.state ≠ .ready ∧ record.state ≠ .idle
  · rw [if_pos hstate]
    exact iff_of_false nofun fun h => h.2.elim hnot fun h => h.2.1.elim hstate.1 hstate.2
  rw [if_neg hstate]
  by_cases hhealth : (!record.healthScore.isHealthy) = true
  · rw [if_pos hhealth]
    refine iff_of_false nofun fun h => h.2.elim hnot fun h => ?_
    simp [h.2.2.1] at hhealth
  rw [if_neg hhealth]
  by_cases herrors : (record.healthScore.errorCount : ℚ) > config.maxErrorCountForReuse
  · rw [if_pos herrors]
    exact iff_of_false nofun fun h => h.2.elim hnot fun h => absurd h.2.2.2 (not_le.mpr herrors)
  · rw [if_neg herrors]
    refine iff_of_true rfl ⟨hfits, Or.inr ⟨by simpa using hleased, ?_, by simpa using hhealth,
      not_lt.mp herrors⟩⟩
    rcases not_and_or.mp hstate with hready | hidle
    · exact Or.inl (not_not.mp hready)
    · exact Or.inr (not_not.mp hidle)

def calculateReuseScore (record : SessionRecord) (now : Timestamp) : ℚ :=
  let lastUsed := match record.lastUsedAt with
    | some lastUsedAt => if lastUsedAt = 0 then record.lastActivityAt else lastUsedAt
    | none => record.lastActivityAt
  let staleHours : ℚ := ((now : ℤ) - (lastUsed : ℤ)) / (1000 * 60 * 60)
  let score := 100 - min 30 (staleHours * 5) + record.healthScore.score * (3 / 10) -
    record.healthScore.errorCount * 10 + if record.inWarmPool then 15 else 0
  max 0 (min 100 score)

def isWarmPoolEligible (record : SessionRecord) (now : Timestamp) (sessionTtlMs : Nat) : Bool :=
  if record.state ≠ .idle ∧ record.state ≠ .ready then false
  else if isTruthy record.leasedBy then false
  else if !record.healthScore.isHealthy then false
  else if now - record.createdAt > sessionTtlMs then false
  else true

def isOrphan (record : SessionRecord) (now : Timestamp) (leaseTtlMs : Nat) : Bool :=
  if record.state = .dead ∨ record.state = .draining then false
  else if record.leaseExpired now then true
  else if record.state = .active ∧ now - record.lastActivityAt > leaseTtlMs * 2 then true
  else if record.state = .initializing ∧ now - record.createdAt > 60000 then true
  else false

def determineOrphanCleanupReason (record : SessionRecord) (now : Timestamp) : CleanupReason :=
  if record.leaseExpired now then .leaseExpired
  else if record.state = .active then .timeout
  else if record.state = .initializing then .serverCrash
  else .orphanDetected

def markSessionOrphan (record : SessionRecord) (reason : CleanupReason) : SessionRecord :=
  { record with
    state := .dead
    cleanupReason := some reason
    leasedBy := none
    leaseExpiresAt := none
    error := some ("Orphan session: " ++ reason.text) }

def isExpired (record : SessionRecord) (now : Timestamp) (sessionTtlMs : Nat) : Bool :=
  if record.state = .draining then false
  else if now - record.createdAt > sessionTtlMs then true
  else if record.state = .idle ∧ (now - record.lastActivityAt) * 2 > sessionTtlMs then true
  else record.state = .dead ∧ now - record.lastActivityAt > 5 * 60 * 1000

end SessionRecord

def rankCandidates (now : Timestamp) (candidates : List SessionRecord) : List SessionRecord :=
  candidates.insertionSort fun a b => a.calculateReuseScore now ≥ b.calculateReuseScore now

/-- Sessions under their ids, and the ids of those kept warm in order of entry with the number of
them that the statistics have. -/
structure SessionRegistry where
  config : SessionRegistryConfig
  sessions : KeyedMap SessionRecord.sessionId
  warmPoolSessions : List String
  warmPoolSize : Nat

namespace SessionRegistry

def new (config : SessionRegistryConfig) : SessionRegistry := ⟨config, .empty, [], 0⟩

def put (r : SessionRegistry) (record : SessionRecord) : SessionRegistry :=
  { r with sessions := r.sessions.put record }

def createSessionRecord (r : SessionRegistry) (now : Timestamp) (sessionId : String)
    (criteria : SessionSearchCriteria) : SessionRecord × SessionRegistry :=
  let record : SessionRecord :=
    { sessionId
      taskId := criteria.taskId
      workspaceRef := criteria.workspaceRef
      logicalWorker := criteria.logicalWorker
      stageBucket := criteria.stageBucket
      policyFingerprint := criteria.policyFingerprint
      agentProfile := criteria.profile
      state := .initializing
      createdAt := now
      lastActivityAt := now
      lastUsedAt := none
      leasedBy := none
      leaseExpiresAt := none
      error := none
      cleanupReason := none
      healthScore := createInitialHealthScore
      inWarmPool := false
      warmPoolEntryAt := none }
  (record, r.put record)

def addToWarmPool (r : SessionRegistry) (now : Timestamp) (sessionId : String) : SessionRegistry :=
  match r.sessions.get? sessionId with
  | some record =>
    if record.inWarmPool then r
    else
      let warmPoolSessions :=
        if sessionId ∈ r.warmPoolSessions then r.warmPoolSessions
        else r.warmPoolSessions ++ [sessionId]
      { r.put { record with inWarmPool := true, warmPoolEntryAt := some now } with
        warmPoolSessions
        warmPoolSize := warmPoolSessions.length }
  | none => r

def removeFromWarmPool (r : SessionRegistry) (sessionId : String) : SessionRegistry :=
  match r.sessions.get? sessionId with
  | some record =>
    if !record.inWarmPool then r
    else
      { r.put { record with inWarmPool := false, warmPoolEntryAt := none } with
        warmPoolSessions := r.warmPoolSessions.erase sessionId
        warmPoolSize := (r.warmPoolSessions.erase sessionId).length }
  | none => r

def updateHealthScore (r : SessionRegistry) (sessionId : String) (success : Bool) : SessionRegistry :=
  match r.sessions.get? sessionId with
  | some record =>
    let updated := calculateHealthScore record.healthScore success r.config
    let r' := r.put { record with healthScore := updated }
    if !updated.isHealthy then r'.removeFromWarmPool sessionId else r'
  | none => r

def considerForWarmPool (r : SessionRegistry) (now : Timestamp) (sessionId : String) :
    SessionRegistry :=
  match r.sessions.get? sessionId with
  | some record =>
    if r.config.enableWarmPool && record.isWarmPoolEligible now r.config.sessionTtlMs then
      r.addToWarmPool now sessionId
    else r
  | none => r

def isEligible (r : SessionRegistry) (now : Timestamp) (criteria : SessionSearchCriteria)
    (record : SessionRecord) : Bool :=
  (record.checkReuseEligibility now criteria criteria.profile r.config).isNone

def searched (r : SessionRegistry) (now : Timestamp) (criteria : SessionSearchCriteria)
    (record : SessionRecord) : SessionRecord :=
  if r.isEligible now criteria record then record.clearExpiredLease now else record

theorem searched_sessionId (r : SessionRegistry) (now : Timestamp)
    (criteria : SessionSearchCriteria) (record : SessionRecord) :
    (r.searched now criteria record).sessionId = record.sessionId := by
  unfold searched SessionRecord.clearExpiredLease
  split_ifs <;> rfl

/-- The best of the sessions that can be used again, taken out of the warm pool. -/
def findReusableSession (r : SessionRegistry) (now : Timestamp)
    (criteria : SessionSearchCriteria) : Option SessionRecord × SessionRegistry :=
  let candidates := (r.sessions.values.filter (r.isEligible now criteria)).map
    (SessionRecord.clearExpiredLease · now)
  let r' := { r with
    sessions := r.sessions.mapValues (r.searched now criteria) (r.searched_sessionId now criteria) }
  match (rankCandidates now candidates).head? with
  | none => (none, r')
  | some selected =>
    let r'' := r'.removeFromWarmPool selected.sessionId
    (r''.sessions.get? selected.sessionId, r'')

def getWarmPoolSession (r : SessionRegistry) (now : Timestamp) (criteria : SessionSearchCriteria) :
    Option SessionRecord :=
  if !r.config.enableWarmPool then none
  else (r.warmPoolSessions.filterMap r.sessions.get?).find? (r.isEligible now criteria)

/-- Leases the session to the job; says whether it did. -/
def leaseSession (r : SessionRegistry) (now : Timestamp) (sessionId jobId : String) :
    Bool × SessionRegistry :=
  match r.sessions.get? sessionId with
  | none => (false, r)
  | some record =>
    if record.isLeased now then (false, r)
    else
      let leased := { record with
        leasedBy := some jobId
        leaseExpiresAt := some (now + r.config.leaseTtlMs)
        state := .active
        lastActivityAt := now
        lastUsedAt := some now }
      (true, (r.put leased).removeFromWarmPool sessionId)

/-- Gives the lease back for the job; says whether it did. -/
def releaseSession (r : SessionRegistry) (now : Timestamp) (sessionId jobId : String) :
    Bool × SessionRegistry :=
  match r.sessions.get? sessionId with
  | none => (false, r)
  | some record =>
    if record.leasedBy ≠ some jobId then (false, r)
    else
      let released := { record with
        leasedBy := none
        leaseExpiresAt := none
        state := .idle
        lastActivityAt := now }
      (true, ((r.put released).updateHealthScore sessionId true).considerForWarmPool now sessionId)

def markSessionDead (r : SessionRegistry) (now : Timestamp) (sessionId : String)
    (error : Option String) (cleanupReason : Option CleanupReason) : SessionRegistry :=
  match r.sessions.get? sessionId with
  | none => r
  | some record =>
    let dead := { record with
      state := .dead
      error
      cleanupReason := some (cleanupReason.getD .taskFailed)
      lastActivityAt := now }
    ((r.put dead).removeFromWarmPool sessionId).updateHealthScore sessionId false

def markSessionDraining (r : SessionRegistry) (now : Timestamp) (sessionId : String)
    (cleanupReason : CleanupReason) : SessionRegistry :=
  match r.sessions.get? sessionId with
  | none => r
  | some record => r.put { record with
      state := .draining
      cleanupReason := some cleanupReason
      lastActivityAt := now }

def markSessionReady (r : SessionRegistry) (now : Timestamp) (sessionId : String) : SessionRegistry :=
  match r.sessions.get? sessionId with
  | none => r
  | some record =>
    (r.put { record with state := .ready, lastActivityAt := now }).considerForWarmPool now sessionId

def orphanProcessed (now : Timestamp) (leaseTtlMs : Nat) (record : SessionRecord) : SessionRecord :=
  if record.isOrphan now leaseTtlMs then
    record.markSessionOrphan (record.determineOrphanCleanupReason now)
  else record

theorem orphanProcessed_sessionId (now : Timestamp) (leaseTtlMs : Nat) (record : SessionRecord) :
    (orphanProcessed now leaseTtlMs record).sessionId = record.sessionId := by
  unfold orphanProcessed
  split_ifs <;> rfl

def processOrphans (r : SessionRegistry) (now : Timestamp) : SessionRegistry :=
  { r with
    sessions := r.sessions.mapValues (orphanProcessed now r.config.leaseTtlMs)
      (orphanProcessed_sessionId now r.config.leaseTtlMs) }

def cleanup (r : SessionRegistry) (now : Timestamp) : SessionRegistry :=
  let expired := r.sessions.values.filter (SessionRecord.isExpired · now r.config.sessionTtlMs)
  { r with sessions := r.sessions.deleteAll (expired.map SessionRecord.sessionId) }

def deleteSession (r : SessionRegistry) (sessionId : String) : Bool × SessionRegistry :=
  match r.sessions.get? sessionId with
  | none => (false, r)
  | some _ =>
    let r' := r.removeFromWarmPool sessionId
    (true, { r' with sessions := r'.sessions.delete sessionId })

def getSessionsForTask (r : SessionRegistry) (taskId : String) : List SessionRecord :=
  r.sessions.values.filter fun record => record.taskId = taskId

/-- Removes the sessions of a task, each marked dead before where it was not; says how many. -/
def cleanupSessionsForTask (r : SessionRegistry) (now : Timestamp) (taskId : String)
    (reason : CleanupReason) : Nat × SessionRegistry :=
  let sessions := r.getSessionsForTask taskId
  (sessions.length, sessions.foldl (fun r record =>
    let r' :=
      if record.state ≠ .dead then
        r.markSessionDead now record.sessionId (some ("Task cleanup: " ++ reason.text)) (some reason)
      else r
    (r'.deleteSession record.sessionId).2) r)

/-- How many sessions there are, in each state, leased and kept warm. -/
structure Stats where
  total : Nat
  byState : SessionRecordState → Nat
  leased : Nat
  warmPool : Nat
  warmPoolSize : Nat

def getStats (r : SessionRegistry) (now : Timestamp) : Stats × SessionRegistry :=
  let warmPoolSize := r.warmPoolSessions.length
  ({ total := r.sessions.values.length
     byState state := r.sessions.values.countP fun record => record.state = state
     leased := r.sessions.values.countP (SessionRecord.isLeased · now)
     warmPool := warmPoolSize
     warmPoolSize },
    { r with warmPoolSize })

end SessionRegistry

end ShipyardCp.Domain
