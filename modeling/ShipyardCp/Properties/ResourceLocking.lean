import Mathlib.Data.List.Perm.Subperm
import ShipyardCp.Domain.ConcurrencyManager
import ShipyardCp.Lib.Transition

/-! Whether resource locks exclude each other until they expire or are given back, and whether expired
ones count for nothing. -/

namespace ShipyardCp.Properties

open Types Domain Lib Machine ResourceLocks

inductive LockOp where
  | acquireLock (params : AcquireLockParams)
  | acquireTaskLock (taskId jobId : String) (durationSeconds : Option ℚ)
  | releaseLock (resourceKey jobId : String)
  | releaseTaskLock (taskId jobId : String)
  | releaseLocksForJob (jobId : String)
  | isLocked (resourceKey : String)
  | isTaskLocked (taskId : String)
  | cleanupExpiredLocks

/-- The call of a task lock as the call of a lock that it is. -/
def LockOp.unwrapped : LockOp → LockOp
  | .acquireTaskLock taskId jobId durationSeconds =>
    .acquireLock ⟨buildTaskLockKey taskId, .task, jobId, taskId, durationSeconds⟩
  | .releaseTaskLock taskId jobId => .releaseLock (buildTaskLockKey taskId) jobId
  | .isTaskLocked taskId => .isLocked (buildTaskLockKey taskId)
  | op => op

/-- A call, at its instant and with the id for a lock that it may make. -/
structure LockCall where
  now : Timestamp
  lockId : String
  op : LockOp

inductive LockAnswer where
  | acquire (result : AcquireLockResult)
  | released (done : Bool)
  | count (n : Nat)
  | locked (held : Bool)

def performLock (s : ResourceLocks) (call : LockCall) : LockAnswer × ResourceLocks :=
  match call.op with
  | .acquireLock params => (s.acquireLock call.now call.lockId params).map .acquire id
  | .acquireTaskLock taskId jobId durationSeconds =>
    (s.acquireTaskLock call.now call.lockId taskId jobId durationSeconds).map .acquire id
  | .releaseLock resourceKey jobId => (s.releaseLock resourceKey jobId).map .released id
  | .releaseTaskLock taskId jobId => (s.releaseTaskLock taskId jobId).map .released id
  | .releaseLocksForJob jobId => (s.releaseLocksForJob jobId).map .count id
  | .isLocked resourceKey => (s.isLocked call.now resourceKey).map .locked id
  | .isTaskLocked taskId => (s.isTaskLocked call.now taskId).map .locked id
  | .cleanupExpiredLocks => (s.cleanupExpiredLocks call.now).map .count id

/-- The locks, and the instant of the last call. -/
structure LockSystem where
  locks : ResourceLocks
  clock : Timestamp

def LockSystem.next (sys : LockSystem) (call : LockCall) : Option LockSystem :=
  if sys.clock ≤ call.now then some ⟨(performLock sys.locks call).2, call.now⟩ else none

def lockRuns : Machine LockSystem LockCall :=
  .ofNext (fun sys => sys.locks.resourceLocks = .empty) LockSystem.next

def GrantsLock (lock : LockRecord) (sys : LockSystem) (call : LockCall) : Prop :=
  (performLock sys.locks call).1 = .acquire (.acquired lock)

/-- The call gives the lock back, as its owner. -/
def GivesBack (lock : LockRecord) (_ : LockSystem) (call : LockCall) : Prop :=
  match call.op.unwrapped with
  | .releaseLock resourceKey jobId => resourceKey = lock.resourceKey ∧ jobId = lock.ownerJobId
  | .releaseLocksForJob jobId => jobId = lock.ownerJobId
  | _ => False

def HeldLock (h : History LockSystem LockCall) (lock : LockRecord) (now : Timestamp) : Prop :=
  Since (GrantsLock lock) (GivesBack lock) h ∧ lock.isExpired now = false

/-- What the claims of jobs on keys come to, at one call of a run. -/
structure LockLaws (h : History LockSystem LockCall) (sys : LockSystem) (call : LockCall) : Prop where
  exclusive : ∀ now, sys.clock ≤ now → ∀ lock lock', HeldLock h lock now → HeldLock h lock' now →
    lock.resourceKey = lock'.resourceKey → lock = lock'
  acquires : ∀ params, call.op.unwrapped = .acquireLock params → ((∃ lock, GrantsLock lock sys call) ↔
      ¬∃ lock, HeldLock h lock call.now ∧ lock.resourceKey = params.resourceKey)
  keeps : ∀ lock, HeldLock h lock call.now →
    ((performLock sys.locks call).2.resourceLocks.get? lock.resourceKey = some lock ↔
      ¬GivesBack lock sys call)
  releases : ∀ resourceKey jobId, call.op.unwrapped = .releaseLock resourceKey jobId →
    ((performLock sys.locks call).1 = .released true ↔ ∃ lock, HeldLock h lock call.now ∧
      lock.resourceKey = resourceKey ∧ lock.ownerJobId = jobId)
  releasesAll : ∀ jobId, call.op.unwrapped = .releaseLocksForJob jobId →
    ∃ locks : List LockRecord, locks.Nodup ∧
      (∀ lock, lock ∈ locks ↔ HeldLock h lock call.now ∧ lock.ownerJobId = jobId) ∧
      (performLock sys.locks call).1 = .count locks.length
  locked : ∀ resourceKey, call.op.unwrapped = .isLocked resourceKey →
    ((performLock sys.locks call).1 = .locked true ↔
      ∃ lock, HeldLock h lock call.now ∧ lock.resourceKey = resourceKey)

/-- The recorded locks that an operation releases. -/
def releasedLocks (s : ResourceLocks) (op : LockOp) : List LockRecord :=
  match op.unwrapped with
  | .releaseLock resourceKey jobId =>
    (s.resourceLocks.get? resourceKey).toList.filter (·.ownerJobId = jobId)
  | .releaseLocksForJob jobId => s.resourceLocks.values.filter (·.ownerJobId = jobId)
  | _ => []

def ReleasesLive (sys : LockSystem) (call : LockCall) : Prop :=
  ∀ lock ∈ releasedLocks sys.locks call.op, lock.isExpired call.now = false

instance (sys : LockSystem) (call : LockCall) : Decidable (ReleasesLive sys call) :=
  inferInstanceAs (Decidable (∀ lock ∈ releasedLocks sys.locks call.op, _))

/-- What a call leaves: locks it grants and locks that were there; the latter unless they expired or are
given back. -/
structure LockEffect (sys : LockSystem) (call : LockCall) : Prop where
  only : ∀ key lock, (performLock sys.locks call).2.resourceLocks.get? key = some lock →
    GrantsLock lock sys call ∧ lock.resourceKey = key ∨
      sys.locks.resourceLocks.get? key = some lock ∧ ¬GivesBack lock sys call
  kept : ∀ lock, sys.locks.resourceLocks.get? lock.resourceKey = some lock →
    lock.isExpired call.now = false → ¬GivesBack lock sys call →
      (performLock sys.locks call).2.resourceLocks.get? lock.resourceKey = some lock
  granted : ∀ lock, GrantsLock lock sys call →
    (performLock sys.locks call).2.resourceLocks.get? lock.resourceKey = some lock ∧
      ∀ other, sys.locks.resourceLocks.get? lock.resourceKey = some other →
        other.isExpired call.now = true

section effects

variable {sys : LockSystem} {now : Timestamp} {lockId resourceKey jobId key : String}
  {params : AcquireLockParams} {lock : LockRecord}

theorem get?_cleanupExpiredLocks_eq_some {s : ResourceLocks} :
    (s.cleanupExpiredLocks now).2.resourceLocks.get? key = some lock ↔
      s.resourceLocks.get? key = some lock ∧ lock.isExpired now = false := by
  rw [cleanupExpiredLocks, InsertionMap.get?_keep, Option.filter_eq_some_iff, Bool.not_eq_true']

theorem acquireLock_cases (s : ResourceLocks) (now : Timestamp) (lockId : String)
    (params : AcquireLockParams) :
    (∃ existing, s.resourceLocks.get? params.resourceKey = some existing ∧
      existing.isExpired now = false ∧
      (s.acquireLock now lockId params).1 = .conflict existing.ownerJobId existing.expiresAt ∧
      (s.acquireLock now lockId params).2.resourceLocks =
        (s.cleanupExpiredLocks now).2.resourceLocks) ∨
    ∃ lock, lock.resourceKey = params.resourceKey ∧
      (∀ other, s.resourceLocks.get? params.resourceKey = some other → other.isExpired now = true) ∧
      (s.acquireLock now lockId params).1 = .acquired lock ∧
      (s.acquireLock now lockId params).2.resourceLocks =
        (s.cleanupExpiredLocks now).2.resourceLocks.set params.resourceKey lock := by
  unfold acquireLock
  dsimp only
  cases hfound : (s.cleanupExpiredLocks now).2.resourceLocks.get? params.resourceKey with
  | some existing =>
    obtain ⟨hstored, hlive⟩ := get?_cleanupExpiredLocks_eq_some.mp hfound
    exact Or.inl ⟨existing, hstored, hlive, rfl, rfl⟩
  | none =>
    refine Or.inr ⟨_, rfl, fun other hother => ?_, rfl, rfl⟩
    by_contra hlive
    rw [Bool.not_eq_true] at hlive
    have hkept := get?_cleanupExpiredLocks_eq_some.mpr ⟨hother, hlive⟩
    rw [hfound] at hkept
    cases hkept

theorem lockEffect_acquireLock : LockEffect sys ⟨now, lockId, .acquireLock params⟩ := by
  have hgives : ∀ lock, ¬GivesBack lock sys ⟨now, lockId, .acquireLock params⟩ := fun _ => id
  have hanswer : ∀ lock, GrantsLock lock sys ⟨now, lockId, .acquireLock params⟩ ↔
      (sys.locks.acquireLock now lockId params).1 = .acquired lock :=
    fun _ => LockAnswer.acquire.injEq _ _ ▸ Iff.rfl
  have hafter : (performLock sys.locks ⟨now, lockId, .acquireLock params⟩).2 =
      (sys.locks.acquireLock now lockId params).2 := rfl
  rcases acquireLock_cases sys.locks now lockId params with
    ⟨existing, hstored, hlive, hconflict, hlocks⟩ | ⟨lock, hkey, hfree, hgranted, hlocks⟩
  · constructor
    · intro key lock hlock
      rw [hafter, hlocks, get?_cleanupExpiredLocks_eq_some] at hlock
      exact Or.inr ⟨hlock.1, hgives lock⟩
    · intro lock hlock hunexpired _
      rw [hafter, hlocks, get?_cleanupExpiredLocks_eq_some]
      exact ⟨hlock, hunexpired⟩
    · intro lock hgrants
      rw [hanswer, hconflict] at hgrants
      cases hgrants
  · constructor
    · intro key found hfound
      rw [hafter, hlocks, InsertionMap.get?_set] at hfound
      split_ifs at hfound with hsame
      · obtain rfl := Option.some.inj hfound
        exact Or.inl ⟨(hanswer _).mpr hgranted, hkey.trans hsame.symm⟩
      · rw [get?_cleanupExpiredLocks_eq_some] at hfound
        exact Or.inr ⟨hfound.1, hgives found⟩
    · intro found hfound hunexpired _
      have hother : found.resourceKey ≠ params.resourceKey := by
        intro hsame
        rw [hsame] at hfound
        rw [hfree found hfound] at hunexpired
        cases hunexpired
      rw [hafter, hlocks, InsertionMap.get?_set_of_ne _ _ hother, get?_cleanupExpiredLocks_eq_some]
      exact ⟨hfound, hunexpired⟩
    · intro found hgrants
      rw [hanswer, hgranted] at hgrants
      obtain rfl := AcquireLockResult.acquired.inj hgrants
      rw [hafter, hlocks, hkey, InsertionMap.get?_set_self]
      exact ⟨rfl, hfree⟩

theorem releaseLock_eq_true_iff {s : ResourceLocks} : (s.releaseLock resourceKey jobId).1 = true ↔
    ∃ lock, s.resourceLocks.get? resourceKey = some lock ∧ lock.ownerJobId = jobId := by
  unfold releaseLock
  cases hfound : s.resourceLocks.get? resourceKey with
  | none => simp
  | some found =>
    dsimp only
    split_ifs with hother
    · simpa using hother
    · simpa using hother

theorem get?_releaseLock_eq_some {s : ResourceLocks} :
    (s.releaseLock resourceKey jobId).2.resourceLocks.get? key = some lock ↔
      s.resourceLocks.get? key = some lock ∧ ¬(key = resourceKey ∧ lock.ownerJobId = jobId) := by
  unfold releaseLock
  cases hfound : s.resourceLocks.get? resourceKey with
  | none =>
    have hother : s.resourceLocks.get? key = some lock → key ≠ resourceKey := by
      rintro hlock rfl
      rw [hfound] at hlock
      cases hlock
    exact ⟨fun hlock => ⟨hlock, fun h => hother hlock h.1⟩, And.left⟩
  | some found =>
    have hsame : s.resourceLocks.get? key = some lock → key = resourceKey → lock = found := by
      rintro hlock rfl
      exact Option.some.inj (hlock.symm.trans hfound)
    dsimp only
    split_ifs with howner
    · refine ⟨fun hlock => ⟨hlock, ?_⟩, And.left⟩
      rintro ⟨hkey, hown⟩
      rw [hsame hlock hkey] at hown
      exact howner hown
    · rw [ne_eq, not_not] at howner
      rw [InsertionMap.get?_delete]
      split_ifs with hkey
      · refine iff_of_false nofun ?_
        rintro ⟨hlock, hnot⟩
        rw [hsame hlock hkey] at hnot
        exact hnot ⟨hkey, howner⟩
      · exact ⟨fun hlock => ⟨hlock, fun h => hkey h.1⟩, And.left⟩

theorem lockEffect_releaseLock
    (hkeyed : ∀ key lock, sys.locks.resourceLocks.get? key = some lock → lock.resourceKey = key) :
    LockEffect sys ⟨now, lockId, .releaseLock resourceKey jobId⟩ := by
  have hafter : (performLock sys.locks ⟨now, lockId, .releaseLock resourceKey jobId⟩).2 =
      (sys.locks.releaseLock resourceKey jobId).2 := rfl
  constructor
  · intro key lock hlock
    rw [hafter, get?_releaseLock_eq_some] at hlock
    obtain ⟨hstored, hkept⟩ := hlock
    refine Or.inr ⟨hstored, ?_⟩
    rintro ⟨hkey, hown⟩
    exact hkept ⟨(hkeyed key lock hstored).symm.trans hkey.symm, hown.symm⟩
  · intro lock hstored _ hgives
    rw [hafter, get?_releaseLock_eq_some]
    exact ⟨hstored, fun h => hgives ⟨h.1.symm, h.2.symm⟩⟩
  · intro lock hgrants
    cases hgrants

theorem lockEffect_releaseLocksForJob : LockEffect sys ⟨now, lockId, .releaseLocksForJob jobId⟩ := by
  have hafter : ∀ key lock,
      (performLock sys.locks ⟨now, lockId, .releaseLocksForJob jobId⟩).2.resourceLocks.get? key =
        some lock ↔ sys.locks.resourceLocks.get? key = some lock ∧ lock.ownerJobId ≠ jobId := by
    intro key lock
    have hkeep : (performLock sys.locks ⟨now, lockId, .releaseLocksForJob jobId⟩).2.resourceLocks =
        sys.locks.resourceLocks.keep (·.ownerJobId ≠ jobId) := rfl
    rw [hkeep, InsertionMap.get?_keep, Option.filter_eq_some_iff, decide_eq_true_eq]
  constructor
  · intro key lock hlock
    obtain ⟨hstored, hother⟩ := (hafter key lock).mp hlock
    exact Or.inr ⟨hstored, fun hgives => hother (Eq.symm hgives)⟩
  · intro lock hstored _ hgives
    exact (hafter _ lock).mpr ⟨hstored, fun hown => hgives (Eq.symm hown)⟩
  · intro lock hgrants
    cases hgrants

theorem lockEffect_of_cleanup {call : LockCall}
    (hafter : (performLock sys.locks call).2 = (sys.locks.cleanupExpiredLocks call.now).2)
    (hgrants : ∀ lock, ¬GrantsLock lock sys call) (hgives : ∀ lock, ¬GivesBack lock sys call) :
    LockEffect sys call := by
  constructor
  · intro key lock hlock
    rw [hafter, get?_cleanupExpiredLocks_eq_some] at hlock
    exact Or.inr ⟨hlock.1, hgives lock⟩
  · intro lock hlock hunexpired _
    rw [hafter, get?_cleanupExpiredLocks_eq_some]
    exact ⟨hlock, hunexpired⟩
  · exact fun lock hlock => absurd hlock (hgrants lock)

theorem lockEffect
    (hkeyed : ∀ key lock, sys.locks.resourceLocks.get? key = some lock → lock.resourceKey = key)
    (call : LockCall) : LockEffect sys call := by
  obtain ⟨now, lockId, op⟩ := call
  cases op with
  | acquireLock params => exact lockEffect_acquireLock
  | acquireTaskLock taskId jobId durationSeconds =>
    have heffect : LockEffect sys ⟨now, lockId, .acquireLock
        ⟨buildTaskLockKey taskId, .task, jobId, taskId, durationSeconds⟩⟩ := lockEffect_acquireLock
    exact ⟨heffect.only, heffect.kept, heffect.granted⟩
  | releaseLock resourceKey jobId => exact lockEffect_releaseLock hkeyed
  | releaseTaskLock taskId jobId =>
    have heffect : LockEffect sys ⟨now, lockId, .releaseLock (buildTaskLockKey taskId) jobId⟩ :=
      lockEffect_releaseLock hkeyed
    exact ⟨heffect.only, heffect.kept, heffect.granted⟩
  | releaseLocksForJob jobId => exact lockEffect_releaseLocksForJob
  | isLocked resourceKey => exact lockEffect_of_cleanup rfl (fun _ => nofun) fun _ => id
  | isTaskLocked taskId => exact lockEffect_of_cleanup rfl (fun _ => nofun) fun _ => id
  | cleanupExpiredLocks => exact lockEffect_of_cleanup rfl (fun _ => nofun) fun _ => id

end effects

/-- The recorded locks are granted ones, under their keys; those that have not expired are the held
ones. -/
structure LockBooks (h : History LockSystem LockCall) (sys : LockSystem) : Prop where
  keyed : ∀ key lock, sys.locks.resourceLocks.get? key = some lock → lock.resourceKey = key
  granted : ∀ key lock, sys.locks.resourceLocks.get? key = some lock →
    Since (GrantsLock lock) (GivesBack lock) h
  stored : ∀ lock, HeldLock h lock sys.clock →
    sys.locks.resourceLocks.get? lock.resourceKey = some lock

section books

variable {h : History LockSystem LockCall} {sys sys' : LockSystem} {call : LockCall}
  {lock : LockRecord} {now : Timestamp}

theorem HeldLock.earlier (hheld : HeldLock h lock now) {before : Timestamp} (hle : before ≤ now) :
    HeldLock h lock before := by
  refine ⟨hheld.1, ?_⟩
  have hlive := hheld.2
  simp only [LockRecord.isExpired, decide_eq_false_iff_not] at hlive ⊢
  have hcast : (before : ℤ) ≤ now := by exact_mod_cast hle
  exact fun hexpired => hlive (Int.le_trans hexpired hcast)

theorem LockBooks.held_iff (hbooks : LockBooks h sys) (hclock : sys.clock ≤ now) :
    HeldLock h lock now ↔ sys.locks.resourceLocks.get? lock.resourceKey = some lock ∧
      lock.isExpired now = false :=
  ⟨fun hheld => ⟨hbooks.stored lock (hheld.earlier hclock), hheld.2⟩,
    fun ⟨hstored, hlive⟩ => ⟨hbooks.granted _ lock hstored, hlive⟩⟩

theorem lockBooks_start (hempty : sys.locks.resourceLocks = .empty) : LockBooks [] sys := by
  constructor
  · simp [hempty]
  · simp [hempty]
  · exact fun lock hheld => absurd hheld.1 not_since_nil

theorem LockBooks.step (hbooks : LockBooks h sys) (hstep : lockRuns.step sys call sys') :
    LockBooks (h ++ [(sys, call)]) sys' := by
  obtain ⟨hclock, hnext⟩ := Option.ite_none_right_eq_some.mp hstep
  obtain rfl := Option.some.inj hnext
  have heffect := lockEffect hbooks.keyed call
  constructor
  · intro key lock hlock
    rcases heffect.only key lock hlock with ⟨_, hkey⟩ | ⟨hstored, _⟩
    · exact hkey
    · exact hbooks.keyed key lock hstored
  · intro key lock hlock
    rw [since_snoc]
    rcases heffect.only key lock hlock with ⟨hgrants, _⟩ | ⟨hstored, hgives⟩
    · exact Or.inl hgrants
    · exact Or.inr ⟨hbooks.granted key lock hstored, hgives⟩
  · rintro lock ⟨hsince, hlive⟩
    rcases since_snoc.mp hsince with hgrants | ⟨hbefore, hgives⟩
    · exact (heffect.granted lock hgrants).1
    · have hstored := ((hbooks.held_iff hclock).mp ⟨hbefore, hlive⟩).1
      exact heffect.kept lock hstored hlive hgives

theorem LockBooks.mem_values_iff (hbooks : LockBooks h sys) : lock ∈ sys.locks.resourceLocks.values ↔
      sys.locks.resourceLocks.get? lock.resourceKey = some lock := by
  rw [InsertionMap.mem_values_iff]
  constructor
  · rintro ⟨key, hlock⟩
    rwa [hbooks.keyed key lock hlock]
  · exact fun hlock => ⟨_, hlock⟩

theorem LockBooks.nodup_values (hbooks : LockBooks h sys) : sys.locks.resourceLocks.values.Nodup := by
  have hkeys : sys.locks.resourceLocks.values.map (·.resourceKey) =
      sys.locks.resourceLocks.entries.map Prod.fst := by
    rw [InsertionMap.values, List.map_map]
    refine List.map_congr_left fun e he => ?_
    exact hbooks.keyed e.1 e.2 (sys.locks.resourceLocks.mem_entries_iff.mp he)
  exact List.Nodup.of_map _ (hkeys ▸ sys.locks.resourceLocks.nodupKeys)

theorem performLock_unwrapped (s : ResourceLocks) (call : LockCall) :
    performLock s call = performLock s ⟨call.now, call.lockId, call.op.unwrapped⟩ := by
  obtain ⟨now, lockId, op⟩ := call
  cases op <;> rfl

theorem LockBooks.acquires (hbooks : LockBooks h sys) (hclock : sys.clock ≤ call.now)
    {params : AcquireLockParams} (hop : call.op.unwrapped = .acquireLock params) :
    (∃ lock, GrantsLock lock sys call) ↔
      ¬∃ lock, HeldLock h lock call.now ∧ lock.resourceKey = params.resourceKey := by
  have hanswer : ∀ lock, GrantsLock lock sys call ↔
      (sys.locks.acquireLock call.now call.lockId params).1 = .acquired lock := by
    intro lock
    rw [GrantsLock, performLock_unwrapped, hop]
    exact LockAnswer.acquire.injEq _ _ ▸ Iff.rfl
  rcases acquireLock_cases sys.locks call.now call.lockId params with
    ⟨existing, hstored, hlive, hconflict, _⟩ | ⟨lock, hkey, hfree, hgranted, _⟩
  · have hsame := hbooks.keyed _ existing hstored
    refine iff_of_false ?_ (not_not.mpr ⟨existing, ?_, hsame⟩)
    · rintro ⟨lock, hlock⟩
      rw [hanswer, hconflict] at hlock
      cases hlock
    · rw [hbooks.held_iff hclock, hsame]
      exact ⟨hstored, hlive⟩
  · refine iff_of_true ⟨lock, (hanswer lock).mpr hgranted⟩ ?_
    rintro ⟨other, hheld, hother⟩
    obtain ⟨hstored, hlive⟩ := (hbooks.held_iff hclock).mp hheld
    rw [hfree other (hother ▸ hstored)] at hlive
    cases hlive

theorem LockBooks.keeps (hbooks : LockBooks h sys) (hclock : sys.clock ≤ call.now)
    (hheld : HeldLock h lock call.now) :
    (performLock sys.locks call).2.resourceLocks.get? lock.resourceKey = some lock ↔
      ¬GivesBack lock sys call := by
  have heffect := lockEffect hbooks.keyed call
  obtain ⟨hstored, hlive⟩ := (hbooks.held_iff hclock).mp hheld
  constructor
  · intro hkept
    rcases heffect.only _ lock hkept with ⟨hgrants, _⟩ | ⟨_, hgives⟩
    · have hexpired := (heffect.granted lock hgrants).2 lock hstored
      rw [hexpired] at hlive
      cases hlive
    · exact hgives
  · exact heffect.kept lock hstored hlive

theorem LockBooks.locked (hbooks : LockBooks h sys) (hclock : sys.clock ≤ call.now)
    {resourceKey : String} (hop : call.op.unwrapped = .isLocked resourceKey) :
    (performLock sys.locks call).1 = .locked true ↔
      ∃ lock, HeldLock h lock call.now ∧ lock.resourceKey = resourceKey := by
  have hanswer : (performLock sys.locks call).1 =
      .locked ((sys.locks.cleanupExpiredLocks call.now).2.resourceLocks.has resourceKey) := by
    rw [performLock_unwrapped, hop]
    rfl
  rw [hanswer, LockAnswer.locked.injEq, InsertionMap.has_eq_true_iff]
  constructor
  · rintro ⟨lock, hlock⟩
    obtain ⟨hstored, hlive⟩ := get?_cleanupExpiredLocks_eq_some.mp hlock
    have hkey := hbooks.keyed _ lock hstored
    exact ⟨lock, (hbooks.held_iff hclock).mpr ⟨hkey ▸ hstored, hlive⟩, hkey⟩
  · rintro ⟨lock, hheld, rfl⟩
    exact ⟨lock, get?_cleanupExpiredLocks_eq_some.mpr ((hbooks.held_iff hclock).mp hheld)⟩

theorem LockBooks.releases_iff (hbooks : LockBooks h sys) (hclock : sys.clock ≤ call.now)
    {resourceKey jobId : String} (hop : call.op.unwrapped = .releaseLock resourceKey jobId) :
    ((performLock sys.locks call).1 = .released true ↔ ∃ lock, HeldLock h lock call.now ∧
      lock.resourceKey = resourceKey ∧ lock.ownerJobId = jobId) ↔ ReleasesLive sys call := by
  have hanswer : (performLock sys.locks call).1 =
      .released (sys.locks.releaseLock resourceKey jobId).1 := by
    rw [performLock_unwrapped, hop]
    rfl
  have hmem : ∀ lock, lock ∈ releasedLocks sys.locks call.op ↔
      sys.locks.resourceLocks.get? resourceKey = some lock ∧ lock.ownerJobId = jobId := by
    intro lock
    rw [releasedLocks, hop, List.mem_filter, Option.mem_toList, decide_eq_true_eq]
  rw [hanswer, LockAnswer.released.injEq, releaseLock_eq_true_iff]
  constructor
  · intro hlaw lock hlock
    obtain ⟨hstored, howner⟩ := (hmem lock).mp hlock
    obtain ⟨held, hheld, hkey, _⟩ := hlaw.mp ⟨lock, hstored, howner⟩
    obtain ⟨hstored', hlive⟩ := (hbooks.held_iff hclock).mp hheld
    rw [hkey, hstored] at hstored'
    rw [Option.some.inj hstored']
    exact hlive
  · intro hreleases
    constructor
    · rintro ⟨lock, hstored, howner⟩
      have hkey := hbooks.keyed _ lock hstored
      have hlive := hreleases lock ((hmem lock).mpr ⟨hstored, howner⟩)
      exact ⟨lock, (hbooks.held_iff hclock).mpr ⟨hkey ▸ hstored, hlive⟩, hkey, howner⟩
    · rintro ⟨lock, hheld, rfl, howner⟩
      exact ⟨lock, ((hbooks.held_iff hclock).mp hheld).1, howner⟩

theorem LockBooks.releasesAll_iff (hbooks : LockBooks h sys) (hclock : sys.clock ≤ call.now)
    {jobId : String} (hop : call.op.unwrapped = .releaseLocksForJob jobId) :
    (∃ locks : List LockRecord, locks.Nodup ∧
      (∀ lock, lock ∈ locks ↔ HeldLock h lock call.now ∧ lock.ownerJobId = jobId) ∧
      (performLock sys.locks call).1 = .count locks.length) ↔ ReleasesLive sys call := by
  have hreleased : releasedLocks sys.locks call.op =
      sys.locks.resourceLocks.values.filter (·.ownerJobId = jobId) := by
    rw [releasedLocks, hop]
  have hanswer : (performLock sys.locks call).1 =
      .count (releasedLocks sys.locks call.op).length := by
    rw [performLock_unwrapped, hreleased, hop]
    rfl
  have hmem : ∀ lock, lock ∈ releasedLocks sys.locks call.op ↔
      sys.locks.resourceLocks.get? lock.resourceKey = some lock ∧ lock.ownerJobId = jobId := by
    intro lock
    rw [hreleased, List.mem_filter, hbooks.mem_values_iff, decide_eq_true_eq]
  rw [hanswer]
  constructor
  · rintro ⟨locks, hnodup, hlocks, hlength⟩ lock hlock
    have hsub : ∀ held ∈ locks, held ∈ releasedLocks sys.locks call.op := by
      intro held hheld
      obtain ⟨hheld, hown⟩ := (hlocks held).mp hheld
      exact (hmem held).mpr ⟨((hbooks.held_iff hclock).mp hheld).1, hown⟩
    have hperm := (List.Nodup.subperm hnodup hsub).perm_of_length_le (LockAnswer.count.inj hlength).le
    exact ((hlocks lock).mp (hperm.mem_iff.mpr hlock)).1.2
  · intro hreleases
    refine ⟨_, hreleased ▸ hbooks.nodup_values.filter _, fun lock => ?_, rfl⟩
    rw [hmem, hbooks.held_iff hclock]
    constructor
    · rintro ⟨hstored, howner⟩
      have hlive := hreleases lock ((hmem lock).mpr ⟨hstored, howner⟩)
      exact ⟨⟨hstored, hlive⟩, howner⟩
    · rintro ⟨⟨hstored, _⟩, howner⟩
      exact ⟨hstored, howner⟩

theorem lockLaws_iff (hbooks : LockBooks h sys) (hclock : sys.clock ≤ call.now) :
    LockLaws h sys call ↔ ReleasesLive sys call := by
  constructor
  · intro hlaws
    cases hop : call.op.unwrapped with
    | releaseLock resourceKey jobId =>
      exact (hbooks.releases_iff hclock hop).mp (hlaws.releases _ _ hop)
    | releaseLocksForJob jobId =>
      exact (hbooks.releasesAll_iff hclock hop).mp (hlaws.releasesAll _ hop)
    | _ =>
      rw [ReleasesLive, releasedLocks, hop]
      exact fun _ => nofun
  · intro hreleases
    constructor
    · intro now hnow lock lock' hheld hheld' hkey
      have hstored := ((hbooks.held_iff hnow).mp hheld).1
      have hstored' := ((hbooks.held_iff hnow).mp hheld').1
      rw [hkey, hstored'] at hstored
      exact (Option.some.inj hstored).symm
    · exact fun params hop => hbooks.acquires hclock hop
    · exact fun lock hheld => hbooks.keeps hclock hheld
    · exact fun _ _ hop => (hbooks.releases_iff hclock hop).mpr hreleases
    · exact fun _ hop => (hbooks.releasesAll_iff hclock hop).mpr hreleases
    · exact fun _ hop => hbooks.locked hclock hop

end books

/-- The locks of a run keep their laws at every call exactly when no job releases a lock of its own
that has expired before anyone cleaned it up. -/
theorem locks_lawful_iff {h : History LockSystem LockCall} {sys : LockSystem}
    (hrun : lockRuns.Run h sys) :
    Guarded LockLaws h ↔ Guarded (fun _ sys call => ReleasesLive sys call) h :=
  hrun.guarded_iff (I := LockBooks) (fun _ => lockBooks_start)
    (fun _ _ _ _ _ hbooks _ hstep => hbooks.step hstep)
    (fun _ _ _ _ _ hbooks hstep =>
      lockLaws_iff hbooks (Option.ite_none_right_eq_some.mp hstep).1)

def branchLock (jobId : String) (durationSeconds : ℚ) : LockOp :=
  .acquireLock ⟨"repo:main", .repoBranch, jobId, "task_0", some durationSeconds⟩

def playedLocks (calls : List LockCall) : Option (History LockSystem LockCall × LockSystem) :=
  replay LockSystem.next ⟨⟨none, .empty, fun _ => 0⟩, 0⟩ (calls.map fun call _ => some call)

theorem exists_lockRun {calls : List LockCall} {test : History LockSystem LockCall × LockSystem → Bool}
    (h : (playedLocks calls).any test = true) :
    ∃ h sys, lockRuns.Run h sys ∧ test (h, sys) = true :=
  exists_run_of_replay rfl h

/-- A lock expires, and another job takes the key and gives it back. -/
theorem expired_lock_passed_on : ∃ h sys, lockRuns.Run h sys ∧ h.length = 3 ∧ Guarded LockLaws h := by
  have hplayed : (playedLocks [⟨0, "lock_0", branchLock "job_0" 1⟩,
      ⟨1000, "lock_1", branchLock "job_1" 1⟩, ⟨1500, "", .releaseLocksForJob "job_1"⟩]).any
      (fun p => decide (p.1.length = 3) &&
        guardedAfter (fun _ sys call => decide (ReleasesLive sys call)) [] p.1) = true := by
    decide +kernel
  obtain ⟨h, sys, hrun, htest⟩ := exists_lockRun hplayed
  obtain ⟨hlength, hcheck⟩ := Bool.and_eq_true_iff.mp htest
  refine ⟨h, sys, hrun, of_decide_eq_true hlength, (locks_lawful_iff hrun).mpr ?_⟩
  intro h₁ s call h₂ heq
  exact of_decide_eq_true (guarded_of_check hcheck h₁ s call h₂ heq)

/-- A job releases its lock at the instant it expires, and is told that it had it. -/
theorem expired_lock_released : ¬∀ h sys, lockRuns.Run h sys → Guarded LockLaws h := by
  intro hall
  have hplayed : (playedLocks [⟨0, "lock_0", branchLock "job_0" 1⟩]).any (fun p =>
      !decide (ReleasesLive p.2 ⟨1000, "", .releaseLock "repo:main" "job_0"⟩) &&
        decide (p.2.clock ≤ 1000)) = true := by
    decide +kernel
  obtain ⟨h, sys, hrun, htest⟩ := exists_lockRun hplayed
  rw [Bool.and_eq_true, Bool.not_eq_true', decide_eq_false_iff_not, decide_eq_true_eq] at htest
  have hbooks : LockBooks h sys := by
    refine hrun.invariant (C := fun _ _ => True) (fun _ => lockBooks_start) ?_ (fun _ _ => trivial)
    exact fun _ _ _ _ _ _ hbooks _ hstep => hbooks.step hstep
  have hstep : lockRuns.step sys ⟨1000, "", .releaseLock "repo:main" "job_0"⟩ _ := if_pos htest.2
  have hlaws := hall _ _ (hrun.snoc hstep) h sys _ [] rfl
  exact htest.1 ((lockLaws_iff hbooks htest.2).mp hlaws)

end ShipyardCp.Properties
