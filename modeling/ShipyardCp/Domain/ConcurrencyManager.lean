import Mathlib.Data.Rat.Defs
import ShipyardCp.Lib.InsertionMap
import ShipyardCp.Types.Job

/-! The concurrency manager: slots and resource locks. -/

namespace ShipyardCp.Domain

open Types Lib InsertionMap

/-! Slots for running jobs, global and for each worker. -/

structure JobRecord where
  jobId : String
  workerId : String
  stage : WorkerStage
  startedAt : Timestamp

inductive CanAcceptResult where
  | accepted
  | globalCapacityExceeded
  | workerCapacityExceeded
  deriving DecidableEq

structure ConcurrencyManager where
  maxConcurrentPerWorker : Nat
  maxConcurrentGlobal : Nat
  activeJobs : InsertionMap String JobRecord
  workerJobs : InsertionMap String (List String)

namespace ConcurrencyManager

def default : ConcurrencyManager := ⟨20, 200, .empty, .empty⟩

def activeOf (m : ConcurrencyManager) (workerId : String) : List String :=
  (m.workerJobs.get? workerId).getD []

def canAccept (m : ConcurrencyManager) (workerId : String) : CanAcceptResult :=
  if m.activeJobs.size ≥ m.maxConcurrentGlobal then .globalCapacityExceeded
  else if (m.activeOf workerId).length ≥ m.maxConcurrentPerWorker then .workerCapacityExceeded
  else .accepted

def recordStart (m : ConcurrencyManager) (now : Timestamp) (jobId : String) (workerId : String)
    (stage : WorkerStage) : ConcurrencyManager :=
  { m with
    activeJobs := m.activeJobs.set jobId ⟨jobId, workerId, stage, now⟩
    workerJobs := m.workerJobs.set workerId
      (if jobId ∈ m.activeOf workerId then m.activeOf workerId else m.activeOf workerId ++ [jobId]) }

def recordComplete (m : ConcurrencyManager) (jobId : String) (workerId : String) :
    ConcurrencyManager :=
  { m with
    activeJobs := m.activeJobs.delete jobId
    workerJobs := match m.workerJobs.get? workerId with
      | none => m.workerJobs
      | some jobs => m.workerJobs.set workerId (jobs.filter (· ≠ jobId)) }

def counts (m : ConcurrencyManager) (jobId : String) : Bool := m.activeJobs.has jobId

theorem counts_recordStart (m : ConcurrencyManager) (now : Timestamp) (jobId workerId : String)
    (stage : WorkerStage) (id : String) :
    (m.recordStart now jobId workerId stage).counts id = (decide (id = jobId) || m.counts id) := by
  simp only [counts, recordStart, has, get?_set]
  by_cases h : id = jobId <;> simp [h]

theorem counts_recordComplete (m : ConcurrencyManager) (jobId workerId : String) (id : String) :
    (m.recordComplete jobId workerId).counts id = (decide (id ≠ jobId) && m.counts id) := by
  simp only [counts, recordComplete, has, get?_delete]
  by_cases h : id = jobId <;> simp [h]

theorem canAccept_eq_accepted_iff {m : ConcurrencyManager} {workerId : String} :
    m.canAccept workerId = .accepted ↔ m.activeJobs.size < m.maxConcurrentGlobal ∧
      (m.activeOf workerId).length < m.maxConcurrentPerWorker := by
  unfold canAccept
  split_ifs with hglobal hworker
  · exact iff_of_false nofun fun h => absurd h.1 (Nat.not_lt.mpr hglobal)
  · exact iff_of_false nofun fun h => absurd h.2 (Nat.not_lt.mpr hworker)
  · exact iff_of_true rfl ⟨Nat.lt_of_not_le hglobal, Nat.lt_of_not_le hworker⟩

theorem activeOf_recordStart (m : ConcurrencyManager) (now : Timestamp) (jobId workerId : String)
    (stage : WorkerStage) (w : String) :
    (m.recordStart now jobId workerId stage).activeOf w =
      if w = workerId then
        if jobId ∈ m.activeOf workerId then m.activeOf workerId else m.activeOf workerId ++ [jobId]
      else m.activeOf w := by
  simp only [activeOf, recordStart, get?_set]
  by_cases h : w = workerId <;> simp [h]

theorem activeOf_recordComplete (m : ConcurrencyManager) (jobId workerId : String) (w : String) :
    (m.recordComplete jobId workerId).activeOf w =
      if w = workerId then (m.activeOf w).filter (· ≠ jobId) else m.activeOf w := by
  simp only [activeOf, recordComplete]
  cases hjobs : m.workerJobs.get? workerId with
  | none =>
    by_cases h : w = workerId <;> simp [h, hjobs]
  | some jobs =>
    rw [get?_set]
    by_cases h : w = workerId <;> simp [h, hjobs]

end ConcurrencyManager

/-! The resource locks of the concurrency manager: locks of jobs on keys, until an instant. -/

inductive ResourceLockType where
  | task | repoBranch | environment | publishTarget
  deriving DecidableEq

structure LockRecord where
  lockId : String
  resourceKey : String
  resourceType : ResourceLockType
  ownerJobId : String
  ownerTaskId : String
  acquiredAt : Timestamp
  expiresAt : ℤ

structure AcquireLockParams where
  resourceKey : String
  resourceType : ResourceLockType
  jobId : String
  taskId : String
  durationSeconds : Option ℚ

inductive AcquireLockResult where
  | acquired (lock : LockRecord)
  | conflict (conflictWith : String) (conflictExpiresAt : ℤ)

def buildTaskLockKey (taskId : String) : String := s!"task:{taskId}"

def timeClip (ms : ℚ) : ℤ := ms.num.tdiv ms.den

structure ResourceLocks where
  defaultLockDurationSeconds : Option ℚ
  resourceLocks : InsertionMap String LockRecord
  lockConflictCounts : ResourceLockType → Nat

def LockRecord.isExpired (lock : LockRecord) (now : Timestamp) : Bool := lock.expiresAt ≤ now

namespace ResourceLocks

def cleanupExpiredLocks (s : ResourceLocks) (now : Timestamp) : Nat × ResourceLocks :=
  ((s.resourceLocks.values.filter (·.isExpired now)).length,
    { s with resourceLocks := s.resourceLocks.keep fun lock => !lock.isExpired now })

def acquireLock (s : ResourceLocks) (now : Timestamp) (lockId : String)
    (params : AcquireLockParams) : AcquireLockResult × ResourceLocks :=
  let s := (s.cleanupExpiredLocks now).2
  match s.resourceLocks.get? params.resourceKey with
  | some existingLock =>
    (.conflict existingLock.ownerJobId existingLock.expiresAt,
      { s with
        lockConflictCounts := Function.update s.lockConflictCounts params.resourceType
          (s.lockConflictCounts params.resourceType + 1) })
  | none =>
    let duration := (params.durationSeconds <|> s.defaultLockDurationSeconds).getD 300
    let lock : LockRecord :=
      { lockId
        resourceKey := params.resourceKey
        resourceType := params.resourceType
        ownerJobId := params.jobId
        ownerTaskId := params.taskId
        acquiredAt := now
        expiresAt := timeClip ((now : ℤ) + duration * 1000) }
    (.acquired lock, { s with resourceLocks := s.resourceLocks.set params.resourceKey lock })

def releaseLock (s : ResourceLocks) (resourceKey jobId : String) : Bool × ResourceLocks :=
  match s.resourceLocks.get? resourceKey with
  | none => (false, s)
  | some lock =>
    if lock.ownerJobId ≠ jobId then (false, s)
    else (true, { s with resourceLocks := s.resourceLocks.delete resourceKey })

def releaseLocksForJob (s : ResourceLocks) (jobId : String) : Nat × ResourceLocks :=
  ((s.resourceLocks.values.filter (·.ownerJobId = jobId)).length,
    { s with resourceLocks := s.resourceLocks.keep (·.ownerJobId ≠ jobId) })

def isLocked (s : ResourceLocks) (now : Timestamp) (resourceKey : String) : Bool × ResourceLocks :=
  let s := (s.cleanupExpiredLocks now).2
  (s.resourceLocks.has resourceKey, s)

def acquireTaskLock (s : ResourceLocks) (now : Timestamp) (lockId taskId jobId : String)
    (durationSeconds : Option ℚ) : AcquireLockResult × ResourceLocks :=
  s.acquireLock now lockId
    { resourceKey := buildTaskLockKey taskId, resourceType := .task, jobId, taskId, durationSeconds }

def releaseTaskLock (s : ResourceLocks) (taskId jobId : String) : Bool × ResourceLocks :=
  s.releaseLock (buildTaskLockKey taskId) jobId

def isTaskLocked (s : ResourceLocks) (now : Timestamp) (taskId : String) : Bool × ResourceLocks :=
  s.isLocked now (buildTaskLockKey taskId)

end ResourceLocks

end ShipyardCp.Domain
