import ShipyardCp.Domain.LeaseManager
import ShipyardCp.Lib.Transition

/-! Mutual exclusion of leases: while an owner holds a grant, no other owner gets at the lease. -/

namespace ShipyardCp.Properties

open Types Domain Lib LeaseManager

inductive LeaseOp where
  | acquire (jobId owner : String)
  | heartbeat (jobId owner : String)
  | release (jobId owner : String)
  | detectOrphan (jobId : String)
  | checkAndMarkExpired
  deriving DecidableEq

structure LeaseCall where
  now : Timestamp
  op : LeaseOp

/-- A manager, and the time of the last call. -/
structure LeaseSystem where
  manager : LeaseManager
  clock : Timestamp

/-- The manager after a call. -/
def performLease (m : LeaseManager) (call : LeaseCall) : LeaseManager :=
  match call.op with
  | .acquire jobId owner => ((m.acquire call.now jobId owner).map (·.2)).getD m
  | .heartbeat jobId owner => ((m.heartbeat call.now jobId owner).map (·.2)).getD m
  | .release jobId owner => m.release jobId owner
  | .detectOrphan jobId => ((m.detectOrphan call.now jobId).map (·.2)).getD m
  | .checkAndMarkExpired => (m.checkAndMarkExpired call.now).2

namespace LeaseSystem

def next (sys : LeaseSystem) (call : LeaseCall) : Option LeaseSystem :=
  if sys.clock ≤ call.now then some ⟨performLease sys.manager call, call.now⟩ else none

end LeaseSystem

def leaseSystem : Machine LeaseSystem LeaseCall :=
  .ofNext (fun sys => sys.manager.leases = .empty) LeaseSystem.next

/-- The instant until which the call grants the lease of the job to the owner. -/
def grants (m : LeaseManager) (call : LeaseCall) (jobId owner : String) : Option Timestamp :=
  match call.op with
  | .acquire j o =>
    if j = jobId ∧ o = owner then (m.acquire call.now j o).map (·.1.leaseExpiresAt) else none
  | .heartbeat j o =>
    if j = jobId ∧ o = owner then (m.heartbeat call.now j o).map (·.1.leaseExpiresAt) else none
  | _ => none

def succeeds (m : LeaseManager) (call : LeaseCall) (jobId owner : String) : Bool :=
  match call.op with
  | .release j o => j = jobId && o = owner && m.releases j o
  | _ => (grants m call jobId owner).isSome

def Held (m : LeaseManager) (jobId owner : String) (e : Timestamp) : Prop :=
  ∃ lease, m.leases.get? jobId = some lease ∧ lease.leaseOwner = owner ∧ e ≤ lease.leaseExpiresAt

section operations

variable {m : LeaseManager} {now : Timestamp} {jobId j owner o : String} {e : Timestamp}
  {lease : Lease} {m' : LeaseManager}

theorem acquire_eq_some_iff : m.acquire now j o = some (lease, m') ↔
    (∀ existing, m.leases.get? j = some existing →
      existing.leaseExpiresAt ≤ now ∨ existing.leaseOwner = o) ∧
    lease = { jobId := j, leaseOwner := o, leaseExpiresAt := m.expiresAt now, acquiredAt := now,
              lastHeartbeatAt := some now, orphanedAt := none } ∧
    m' = { m with leases := m.leases.set j lease } := by
  unfold acquire
  cases hget : m.leases.get? j with
  | none => grind
  | some existing =>
    by_cases hexpired : existing.leaseExpiresAt ≤ now
    · simp only [isLeaseExpired]
      grind
    · simp only [isLeaseExpired]
      grind

theorem heartbeat_eq_some_iff : m.heartbeat now j o = some (lease, m') ↔
    ∃ existing, m.leases.get? j = some existing ∧ existing.leaseOwner = o ∧
      existing.orphanedAt = none ∧
      lease = { existing with leaseExpiresAt := m.expiresAt now, lastHeartbeatAt := some now } ∧
      m' = { m with leases := m.leases.set j lease } := by
  unfold heartbeat
  cases hget : m.leases.get? j with
  | none => simp
  | some existing =>
    cases horphaned : existing.orphanedAt with
    | none => grind
    | some at_ => grind

theorem detectOrphan_eq_some {marked : Lease × LeaseManager}
    (h : m.detectOrphan now j = some marked) : ∃ found, m.leases.get? j = some found ∧
      marked.2 = { m with leases := m.leases.set j (markOrphaned now found) } := by
  unfold detectOrphan at h
  cases hget : m.leases.get? j with
  | none => simp [hget] at h
  | some found =>
    simp only [hget] at h
    split_ifs at h
    rw [← Option.some.inj h]
    exact ⟨found, rfl, rfl⟩

theorem held_of_grants {call : LeaseCall} (h : grants m call jobId owner = some e) :
    Held (performLease m call) jobId owner e ∧ e = m.expiresAt call.now := by
  obtain ⟨now, op⟩ := call
  cases op with
  | acquire j o =>
    simp only [grants] at h
    split_ifs at h with hsame
    obtain ⟨rfl, rfl⟩ := hsame
    obtain ⟨⟨lease, m'⟩, hacquire, rfl⟩ := Option.map_eq_some_iff.mp h
    obtain ⟨_, rfl, rfl⟩ := acquire_eq_some_iff.mp hacquire
    refine ⟨⟨_, ?_, rfl, Nat.le_refl _⟩, rfl⟩
    simp [performLease, hacquire]
  | heartbeat j o =>
    simp only [grants] at h
    split_ifs at h with hsame
    obtain ⟨rfl, rfl⟩ := hsame
    obtain ⟨⟨lease, m'⟩, hheartbeat, rfl⟩ := Option.map_eq_some_iff.mp h
    obtain ⟨existing, _, howner, _, rfl, rfl⟩ := heartbeat_eq_some_iff.mp hheartbeat
    refine ⟨⟨{ existing with leaseExpiresAt := m.expiresAt now, lastHeartbeatAt := some now }, ?_,
      howner, Nat.le_refl _⟩, rfl⟩
    simp [performLease, hheartbeat]
  | _ => cases h

theorem not_succeeds_of_held {call : LeaseCall} {other : String} (hheld : Held m jobId owner e)
    (hbefore : call.now < e) (hother : other ≠ owner) : succeeds m call jobId other = false := by
  obtain ⟨lease, hlease, howner, hexpires⟩ := hheld
  obtain ⟨now, op⟩ := call
  have hbefore : now < e := hbefore
  rw [← Bool.not_eq_true]
  cases op with
  | acquire j o =>
    intro hsucceeds
    obtain ⟨at_, hgrants⟩ := Option.isSome_iff_exists.mp hsucceeds
    simp only [grants] at hgrants
    split_ifs at hgrants with hsame
    obtain ⟨rfl, rfl⟩ := hsame
    obtain ⟨⟨granted, m'⟩, hacquire, _⟩ := Option.map_eq_some_iff.mp hgrants
    obtain ⟨hfree, _⟩ := acquire_eq_some_iff.mp hacquire
    rcases hfree lease hlease with hexpired | hsame
    · exact absurd hbefore (Nat.not_lt_of_le (Nat.le_trans hexpires hexpired))
    · exact hother (hsame.symm.trans howner)
  | heartbeat j o =>
    intro hsucceeds
    obtain ⟨at_, hgrants⟩ := Option.isSome_iff_exists.mp hsucceeds
    simp only [grants] at hgrants
    split_ifs at hgrants with hsame
    obtain ⟨rfl, rfl⟩ := hsame
    obtain ⟨⟨granted, m'⟩, hheartbeat, _⟩ := Option.map_eq_some_iff.mp hgrants
    obtain ⟨existing, hexisting, hsame, _⟩ := heartbeat_eq_some_iff.mp hheartbeat
    obtain rfl := Option.some.inj (hlease.symm.trans hexisting)
    exact hother (hsame.symm.trans howner)
  | release j o =>
    intro hsucceeds
    simp only [succeeds, releases, Bool.and_eq_true, decide_eq_true_eq] at hsucceeds
    obtain ⟨⟨rfl, rfl⟩, hreleases⟩ := hsucceeds
    rw [hlease] at hreleases
    exact hother ((of_decide_eq_true hreleases).symm.trans howner)
  | detectOrphan j => exact nofun
  | checkAndMarkExpired => exact nofun

@[simp] theorem performLease_config {call : LeaseCall} : (performLease m call).config = m.config := by
  obtain ⟨now, op⟩ := call
  cases op with
  | acquire j o =>
    cases hacquire : m.acquire now j o with
    | none => simp [performLease, hacquire]
    | some granted => simp [performLease, hacquire, (acquire_eq_some_iff.mp hacquire).2.2]
  | heartbeat j o =>
    cases hheartbeat : m.heartbeat now j o with
    | none => simp [performLease, hheartbeat]
    | some granted =>
      obtain ⟨_, _, _, _, _, hm⟩ := heartbeat_eq_some_iff.mp hheartbeat
      simp [performLease, hheartbeat, hm]
  | release j o =>
    simp only [performLease, release]
    split_ifs <;> rfl
  | detectOrphan j =>
    cases hdetect : m.detectOrphan now j with
    | none => simp [performLease, hdetect]
    | some marked =>
      obtain ⟨_, _, hm⟩ := detectOrphan_eq_some hdetect
      simp [performLease, hdetect, hm]
  | checkAndMarkExpired => rfl

theorem held_markOrphaned (hheld : Held m jobId owner e) {f : Lease → Lease}
    (hf : ∀ lease, (f lease).leaseOwner = lease.leaseOwner ∧
      (f lease).leaseExpiresAt = lease.leaseExpiresAt) :
    Held { m with leases := m.leases.mapValues f } jobId owner e := by
  obtain ⟨lease, hlease, howner, hexpires⟩ := hheld
  refine ⟨f lease, ?_, (hf lease).1.trans howner, ?_⟩
  · rw [InsertionMap.get?_mapValues, hlease]
    rfl
  · rw [(hf lease).2]; exact hexpires

theorem held_performLease {call : LeaseCall} (hheld : Held m jobId owner e)
    (hexpires : e ≤ m.expiresAt call.now) (hkept : call.op ≠ .release jobId owner) :
    e ≤ call.now ∨ Held (performLease m call) jobId owner e := by
  obtain ⟨lease, hlease, howner, hlater⟩ := id hheld
  obtain ⟨now, op⟩ := call
  cases op with
  | acquire j o =>
    cases hacquire : m.acquire now j o with
    | none => exact Or.inr (by simpa [performLease, hacquire] using hheld)
    | some granted =>
      obtain ⟨hfree, hgranted, hm⟩ := acquire_eq_some_iff.mp hacquire
      by_cases hsame : jobId = j
      · subst hsame
        rcases hfree lease hlease with hexpired | hsame
        · exact Or.inl (Nat.le_trans hlater hexpired)
        · refine Or.inr ⟨granted.1, ?_, ?_, ?_⟩
          · simp [performLease, hacquire, hm]
          · rw [hgranted, ← howner, hsame]
          · rw [hgranted]; exact hexpires
      · refine Or.inr ⟨lease, ?_, howner, hlater⟩
        simp [performLease, hacquire, hm, hsame, hlease]
  | heartbeat j o =>
    cases hheartbeat : m.heartbeat now j o with
    | none => exact Or.inr (by simpa [performLease, hheartbeat] using hheld)
    | some granted =>
      obtain ⟨existing, hexisting, hsame, _, hgranted, hm⟩ := heartbeat_eq_some_iff.mp hheartbeat
      refine Or.inr ?_
      by_cases hsame : jobId = j
      · subst hsame
        obtain rfl := Option.some.inj (hlease.symm.trans hexisting)
        refine ⟨granted.1, ?_, ?_, ?_⟩
        · simp [performLease, hheartbeat, hm]
        · rw [hgranted]; exact howner
        · rw [hgranted]; exact hexpires
      · refine ⟨lease, ?_, howner, hlater⟩
        simp [performLease, hheartbeat, hm, hsame, hlease]
  | release j o =>
    refine Or.inr ⟨lease, ?_, howner, hlater⟩
    simp only [performLease, release]
    split_ifs with hreleases
    · have hne : jobId ≠ j := by
        rintro rfl
        rw [releases, hlease] at hreleases
        exact hkept (by rw [← of_decide_eq_true hreleases, howner])
      simp [hne, hlease]
    · exact hlease
  | detectOrphan j =>
    cases hdetect : m.detectOrphan now j with
    | none => exact Or.inr (by simpa [performLease, hdetect] using hheld)
    | some marked =>
      obtain ⟨found, hfound, hm⟩ := detectOrphan_eq_some hdetect
      refine Or.inr ?_
      by_cases hsame : jobId = j
      · subst hsame
        obtain rfl := Option.some.inj (hlease.symm.trans hfound)
        obtain ⟨hmarkedOwner, hmarkedExpires⟩ := markOrphaned_grant now lease
        refine ⟨markOrphaned now lease, ?_, hmarkedOwner.trans howner, ?_⟩
        · simp [performLease, hdetect, hm]
        · rw [hmarkedExpires]; exact hlater
      · refine ⟨lease, ?_, howner, hlater⟩
        simp [performLease, hdetect, hm, hsame, hlease]
  | checkAndMarkExpired =>
    refine Or.inr (held_markOrphaned hheld fun found => ?_)
    split_ifs
    · exact markOrphaned_grant now found
    · exact ⟨rfl, rfl⟩

end operations

def Granted (jobId owner : String) (e : Timestamp) (sys : LeaseSystem) : Prop :=
  e ≤ sys.manager.expiresAt sys.clock ∧ (e ≤ sys.clock ∨ Held sys.manager jobId owner e)

theorem expiresAt_mono {m : LeaseManager} {t t' : Timestamp} (h : t ≤ t') :
    m.expiresAt t ≤ m.expiresAt t' := Nat.add_le_add_right h _

section step

variable {sys sys' : LeaseSystem} {call : LeaseCall} {jobId owner : String} {e : Timestamp}

theorem next_eq_some_iff : sys.next call = some sys' ↔
    sys.clock ≤ call.now ∧ sys' = ⟨performLease sys.manager call, call.now⟩ := by
  unfold LeaseSystem.next
  split_ifs with hclock
  · simp [hclock, eq_comm]
  · simp [hclock]

theorem granted_of_grants (hstep : leaseSystem.step sys call sys')
    (hgrants : grants sys.manager call jobId owner = some e) : Granted jobId owner e sys' := by
  obtain ⟨_, rfl⟩ := next_eq_some_iff.mp hstep
  obtain ⟨hheld, rfl⟩ := held_of_grants hgrants
  refine ⟨?_, Or.inr hheld⟩
  simp [expiresAt]

theorem granted_of_step (hgranted : Granted jobId owner e sys)
    (hkept : call.op ≠ .release jobId owner) (hstep : leaseSystem.step sys call sys') :
    Granted jobId owner e sys' := by
  obtain ⟨hclock, rfl⟩ := next_eq_some_iff.mp hstep
  obtain ⟨hexpires, hheld⟩ := hgranted
  have hlater : e ≤ sys.manager.expiresAt call.now := Nat.le_trans hexpires (expiresAt_mono hclock)
  constructor
  · simpa [expiresAt] using hlater
  · rcases hheld with hover | hheld
    · exact Or.inl (Nat.le_trans hover hclock)
    · exact held_performLease hheld hlater hkept

end step

theorem succeeds_of_grants {m : LeaseManager} {call : LeaseCall} {jobId owner : String}
    {e : Timestamp} (h : grants m call jobId owner = some e) : succeeds m call jobId owner = true := by
  unfold succeeds
  split
  · next hop =>
    rw [grants, hop] at h
    cases h
  · rw [h]
    rfl

/-- In every run, from a grant to an owner until it gives the lease back: no call of another owner
on the job succeeds before the grant ends, so that the next grant to another starts after it. -/
theorem lease_exclusive {h₁ h₂ : History LeaseSystem LeaseCall} {before sys : LeaseSystem}
    {grant : LeaseCall} {jobId owner : String} {e : Timestamp}
    (hrun : leaseSystem.Run (h₁ ++ (before, grant) :: h₂) sys)
    (hgrants : grants before.manager grant jobId owner = some e)
    (hkept : Machine.Steps (fun _ call => call.op ≠ .release jobId owner) h₂) :
    ∀ call other, sys.clock ≤ call.now → other ≠ owner →
      (call.now < e → succeeds sys.manager call jobId other = false) ∧
      ∀ e', grants sys.manager call jobId other = some e' → e ≤ call.now := by
  intro call other hclock hother
  obtain ⟨after, _, hstep, hpath⟩ := hrun.split
  have hgranted : Granted jobId owner e sys := hpath.stable (P := Granted jobId owner e)
      (fun _ _ _ hgranted hkept hstep => granted_of_step hgranted hkept hstep) hkept
      (granted_of_grants hstep hgrants)
  have hexcluded : call.now < e → succeeds sys.manager call jobId other = false := by
    intro hbefore
    rcases hgranted.2 with hover | hheld
    · exact absurd hbefore (Nat.not_lt_of_le (Nat.le_trans hover hclock))
    · exact not_succeeds_of_held hheld hbefore hother
  refine ⟨hexcluded, fun e' hgrants' => Nat.le_of_not_lt fun hbefore => ?_⟩
  rw [succeeds_of_grants hgrants'] at hexcluded
  cases hexcluded hbefore

/-- A worker keeps its lease by a heartbeat, and another asks for it before the lease is over. -/
theorem heartbeat_excludes :
    let fresh : LeaseSystem := ⟨.empty, 0⟩
    let acquired : LeaseSystem := ⟨performLease fresh.manager ⟨0, .acquire "job" "a"⟩, 0⟩
    let extended : LeaseSystem :=
      ⟨performLease acquired.manager ⟨299999, .heartbeat "job" "a"⟩, 299999⟩
    succeeds extended.manager ⟨300000, .acquire "job" "b"⟩ "job" "b" = false := by
  intro fresh acquired extended
  have hacquired : leaseSystem.Run ([] ++ [(fresh, ⟨0, .acquire "job" "a"⟩)]) acquired :=
    .snoc (.start rfl) rfl
  have hrun : leaseSystem.Run (([] ++ [(fresh, ⟨0, .acquire "job" "a"⟩)]) ++
      [(acquired, ⟨299999, .heartbeat "job" "a"⟩)]) extended := .snoc hacquired rfl
  have hgrants : grants acquired.manager ⟨299999, .heartbeat "job" "a"⟩ "job" "a" =
      some 599999 := by decide +kernel
  exact (lease_exclusive hrun hgrants (Machine.steps_nil _) ⟨300000, .acquire "job" "b"⟩ "b"
    (by decide) (by decide)).1 (by decide)

end ShipyardCp.Properties
