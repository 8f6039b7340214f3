import ShipyardCp.Types.Job
import ShipyardCp.Lib.InsertionMap

/-! Leases of running jobs: granting, extending and releasing them, and marking the expired ones. -/

namespace ShipyardCp.Domain

open Types Lib

structure LeaseConfig where
  leaseDurationSeconds : Nat
  heartbeatGraceMultiplier : Nat
  heartbeatIntervalSeconds : Nat
  deriving DecidableEq

def defaultLeaseConfig : LeaseConfig where
  leaseDurationSeconds := 300
  heartbeatGraceMultiplier := 3
  heartbeatIntervalSeconds := 60

structure Lease where
  jobId : String
  leaseOwner : String
  leaseExpiresAt : Timestamp
  lastHeartbeatAt : Option Timestamp
  acquiredAt : Timestamp
  orphanedAt : Option Timestamp
  deriving DecidableEq

structure LeaseManager where
  config : LeaseConfig
  leases : InsertionMap String Lease
  deriving DecidableEq

namespace LeaseManager

def empty : LeaseManager := ⟨defaultLeaseConfig, .empty⟩

def isLeaseExpired (now : Timestamp) (lease : Lease) : Bool := now ≥ lease.leaseExpiresAt

def expiresAt (m : LeaseManager) (now : Timestamp) : Timestamp :=
  now + m.config.leaseDurationSeconds * 1000

/-- The instant by which the owner of a lease granted or extended now is to send a heartbeat. -/
def nextHeartbeatDueAt (m : LeaseManager) (now : Timestamp) : Timestamp :=
  now + m.config.heartbeatIntervalSeconds * 1000

/-- Grants the lease unless another owner holds one that has not expired. -/
def acquire (m : LeaseManager) (now : Timestamp) (jobId : String) (owner : String) :
    Option (Lease × LeaseManager) :=
  let refused := match m.leases.get? jobId with
    | some existing => !isLeaseExpired now existing && existing.leaseOwner ≠ owner
    | none => false
  if refused then none
  else
    let lease : Lease :=
      { jobId, leaseOwner := owner, leaseExpiresAt := m.expiresAt now,
        acquiredAt := now, lastHeartbeatAt := some now, orphanedAt := none }
    some (lease, { m with leases := m.leases.set jobId lease })

/-- Extends the lease for its owner; a lease marked as orphaned is not extended. -/
def heartbeat (m : LeaseManager) (now : Timestamp) (jobId : String) (owner : String) :
    Option (Lease × LeaseManager) :=
  match m.leases.get? jobId with
  | none => none
  | some lease =>
    if lease.leaseOwner ≠ owner then none
    else if lease.orphanedAt.isSome then none
    else
      let lease := { lease with leaseExpiresAt := m.expiresAt now, lastHeartbeatAt := some now }
      some (lease, { m with leases := m.leases.set jobId lease })

def releases (m : LeaseManager) (jobId : String) (owner : String) : Bool :=
  (m.leases.get? jobId).any fun lease => lease.leaseOwner = owner

def release (m : LeaseManager) (jobId : String) (owner : String) : LeaseManager :=
  if m.releases jobId owner then { m with leases := m.leases.delete jobId } else m

def getLease (m : LeaseManager) (jobId : String) : Option Lease := m.leases.get? jobId

def markOrphaned (now : Timestamp) (lease : Lease) : Lease :=
  if lease.orphanedAt.isSome then lease else { lease with orphanedAt := some now }

def detectOrphan (m : LeaseManager) (now : Timestamp) (jobId : String) :
    Option (Lease × LeaseManager) :=
  match m.leases.get? jobId with
  | none => none
  | some lease =>
    if !isLeaseExpired now lease then none
    else some (markOrphaned now lease,
      { m with leases := m.leases.set jobId (markOrphaned now lease) })

def newlyExpired (now : Timestamp) (lease : Lease) : Bool :=
  lease.orphanedAt.isNone && isLeaseExpired now lease

/-- Marks every expired lease as orphaned, and hands out those that were not marked before. -/
def checkAndMarkExpired (m : LeaseManager) (now : Timestamp) : List Lease × LeaseManager :=
  ((m.leases.values.filter (newlyExpired now)).map (markOrphaned now),
    { m with leases := m.leases.mapValues fun lease =>
        if newlyExpired now lease then markOrphaned now lease else lease })

def Unmarked (m : LeaseManager) : Prop :=
  ∀ jobId lease, m.leases.get? jobId = some lease → lease.orphanedAt = none

section unmarked

variable {m m' : LeaseManager} {now : Timestamp} {jobId owner : String} {lease : Lease}

theorem Unmarked.set (h : m.Unmarked) (hlease : lease.orphanedAt = none) :
    Unmarked { m with leases := m.leases.set jobId lease } := by
  intro id l hl
  rw [InsertionMap.get?_set] at hl
  split_ifs at hl with hid
  · obtain rfl := Option.some.inj hl
    exact hlease
  · exact h id l hl

theorem Unmarked.acquire (h : m.Unmarked) (hacquire : m.acquire now jobId owner = some (lease, m')) :
    m'.Unmarked := by
  unfold LeaseManager.acquire at hacquire
  dsimp only at hacquire
  split at hacquire <;> split_ifs at hacquire <;> cases hacquire <;> exact h.set rfl

theorem Unmarked.heartbeat (h : m.Unmarked)
    (hheartbeat : m.heartbeat now jobId owner = some (lease, m')) : m'.Unmarked := by
  unfold LeaseManager.heartbeat at hheartbeat
  split at hheartbeat
  · cases hheartbeat
  · next hheld =>
    have hunmarked := h _ _ hheld
    split_ifs at hheartbeat
    cases hheartbeat
    exact h.set hunmarked

theorem Unmarked.release (h : m.Unmarked) (jobId owner : String) :
    (m.release jobId owner).Unmarked := by
  unfold LeaseManager.release
  split_ifs
  · intro id l hl
    rw [InsertionMap.get?_delete] at hl
    split_ifs at hl
    exact h id l hl
  · exact h

theorem heartbeat_of_unmarked (now : Timestamp) (hheld : m.leases.get? jobId = some lease)
    (hunmarked : lease.orphanedAt = none) : ∃ lease' m',
      m.heartbeat now jobId lease.leaseOwner = some (lease', m') ∧
        lease'.leaseExpiresAt = m.expiresAt now := by
  simp [LeaseManager.heartbeat, hheld, hunmarked]

end unmarked

theorem markOrphaned_grant (now : Timestamp) (lease : Lease) :
    (markOrphaned now lease).leaseOwner = lease.leaseOwner ∧
      (markOrphaned now lease).leaseExpiresAt = lease.leaseExpiresAt := by
  unfold markOrphaned
  split_ifs <;> exact ⟨rfl, rfl⟩

end LeaseManager

end ShipyardCp.Domain
