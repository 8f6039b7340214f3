import ShipyardCp.Domain.SessionCalls

/-! The pool of warm sessions stands twice in the registry: as a flag on the records and as a set
of ids. Both say the same, and the sessions in the pool are fit for use, until a session in the pool
is drained, overwritten or removed by the periodic cleanup. -/

namespace ShipyardCp.Properties

open Domain Types Lib SessionRegistry KeyedMap Machine

/-- A call to the registry, the timers' among them. -/
inductive PoolOp where
  | call (op : RegistryOp)
  | updateHealthScore (sessionId : String) (success : Bool)
  | cleanupSessionsForTask (taskId : String) (reason : CleanupReason)
  | getStats

structure PoolCall where
  now : Timestamp
  op : PoolOp

def PoolCall.perform (r : SessionRegistry) (call : PoolCall) : SessionRegistry :=
  match call.op with
  | .call op => SessionRegistry.perform r ⟨call.now, op⟩
  | .updateHealthScore sessionId success => r.updateHealthScore sessionId success
  | .cleanupSessionsForTask taskId reason => (r.cleanupSessionsForTask call.now taskId reason).2
  | .getStats => (r.getStats call.now).2

def poolRuns : Machine SessionRegistry PoolCall :=
  .ofNext (fun r => ∃ config, r = .new config) fun r call => some (call.perform r)

/-- A session that may be handed out at once. -/
structure Warm (record : SessionRecord) : Prop where
  state : record.state = .idle ∨ record.state = .ready
  unleased : isTruthy record.leasedBy = false
  healthy : record.healthScore.isHealthy = true

/-- The set of ids is that of the records flagged, and the statistics have its size. -/
structure PoolTracked (r : SessionRegistry) : Prop where
  distinct : r.warmPoolSessions.Nodup
  ids : ∀ sessionId, sessionId ∈ r.warmPoolSessions ↔
    ∃ record, r.sessions.get? sessionId = some record ∧ record.inWarmPool = true
  size : r.warmPoolSize = r.warmPoolSessions.length

def PoolWarm (r : SessionRegistry) : Prop :=
  ∀ sessionId record, r.sessions.get? sessionId = some record → record.inWarmPool = true → Warm record

def PoolWarmBut (r : SessionRegistry) (exempt : String) : Prop :=
  ∀ sessionId record, r.sessions.get? sessionId = some record → record.inWarmPool = true →
    sessionId ≠ exempt → Warm record

/-- The pool is represented consistently, and its sessions are warm. -/
structure WarmPoolInvariant (r : SessionRegistry) : Prop where
  tracked : PoolTracked r
  warm : PoolWarm r

section changes

variable {r : SessionRegistry} {record record' : SessionRecord} {sessionId : String} {now : Timestamp}

theorem PoolTracked.put (h : PoolTracked r) (hget : r.sessions.get? sessionId = some record)
    (hid : record'.sessionId = sessionId) (hflag : record'.inWarmPool = record.inWarmPool) :
    PoolTracked (r.put record') where
  distinct := h.distinct
  ids key := by
    show key ∈ r.warmPoolSessions ↔ _
    rw [h.ids key, SessionRegistry.put, get?_put, hid]
    by_cases hkey : key = sessionId
    · simp [hkey, hget, hflag]
    · simp [hkey]
  size := h.size

theorem PoolTracked.add (h : PoolTracked r) (now : Timestamp) (sessionId : String) :
    PoolTracked (r.addToWarmPool now sessionId) := by
  unfold addToWarmPool
  cases hget : r.sessions.get? sessionId with
  | none => exact h
  | some record =>
    have hid := r.sessions.key_of_get? hget
    dsimp only
    split_ifs with hpooled hmem
    · exact h
    · obtain ⟨record₀, hget₀, hflag⟩ := (h.ids sessionId).mp hmem
      rw [hget] at hget₀
      rw [Option.some.inj hget₀] at hpooled
      exact absurd hflag hpooled
    · refine ⟨?_, fun key => ?_, rfl⟩
      · exact h.distinct.append (List.nodup_singleton _) (List.disjoint_singleton.mpr hmem)
      · rw [List.mem_append, List.mem_singleton, h.ids key, SessionRegistry.put, get?_put, hid]
        by_cases hkey : key = sessionId
        · simp [hkey]
        · simp [hkey]

theorem PoolTracked.remove (h : PoolTracked r) (sessionId : String) :
    PoolTracked (r.removeFromWarmPool sessionId) := by
  unfold removeFromWarmPool
  cases hget : r.sessions.get? sessionId with
  | none => exact h
  | some record =>
    have hid := r.sessions.key_of_get? hget
    dsimp only
    split_ifs with hpooled
    · exact h
    · refine ⟨h.distinct.erase _, fun key => ?_, rfl⟩
      rw [h.distinct.mem_erase_iff, h.ids key, SessionRegistry.put, get?_put, hid]
      by_cases hkey : key = sessionId
      · simp [hkey]
      · simp [hkey]

theorem PoolWarm.put_but (h : PoolWarm r) (record' : SessionRecord) :
    PoolWarmBut (r.put record') record'.sessionId := by
  intro key record hget hflag hkey
  rw [SessionRegistry.put, get?_put, if_neg hkey] at hget
  exact h key record hget hflag

theorem PoolWarm.put (h : PoolWarm r) (hwarm : record'.inWarmPool = true → Warm record') :
    PoolWarm (r.put record') := by
  intro key record hget hflag
  rw [SessionRegistry.put, get?_put] at hget
  split_ifs at hget with hkey
  · obtain rfl := Option.some.inj hget
    exact hwarm hflag
  · exact h key record hget hflag

theorem PoolWarmBut.remove (h : PoolWarmBut r sessionId) :
    PoolWarm (r.removeFromWarmPool sessionId) := by
  unfold removeFromWarmPool
  cases hget : r.sessions.get? sessionId with
  | none =>
    intro key record hkey hflag
    refine h key record hkey hflag ?_
    rintro rfl
    rw [hget] at hkey
    cases hkey
  | some record =>
    have hid := r.sessions.key_of_get? hget
    dsimp only
    split_ifs with hpooled
    · intro key record' hkey hflag
      refine h key record' hkey hflag ?_
      rintro rfl
      rw [hget] at hkey
      obtain rfl := Option.some.inj hkey
      rw [hflag] at hpooled
      cases hpooled
    · intro key record' hkey hflag
      simp only [SessionRegistry.put, get?_put, hid] at hkey
      split_ifs at hkey with heq
      · obtain rfl := Option.some.inj hkey
        cases hflag
      · exact h key record' hkey hflag heq

theorem PoolWarm.remove (h : PoolWarm r) (sessionId : String) :
    PoolWarm (r.removeFromWarmPool sessionId) :=
  PoolWarmBut.remove fun key record hget hflag _ => h key record hget hflag

theorem WarmPoolInvariant.remove (h : WarmPoolInvariant r) (sessionId : String) :
    WarmPoolInvariant (r.removeFromWarmPool sessionId) :=
  ⟨h.tracked.remove sessionId, h.warm.remove sessionId⟩

theorem WarmPoolInvariant.put_remove (h : WarmPoolInvariant r)
    (hget : r.sessions.get? sessionId = some record) (hid : record'.sessionId = sessionId)
    (hflag : record'.inWarmPool = record.inWarmPool) :
    WarmPoolInvariant ((r.put record').removeFromWarmPool sessionId) :=
  ⟨(h.tracked.put hget hid hflag).remove sessionId, (hid ▸ h.warm.put_but record').remove⟩

theorem WarmPoolInvariant.put (h : WarmPoolInvariant r)
    (hget : r.sessions.get? sessionId = some record) (hid : record'.sessionId = sessionId)
    (hflag : record'.inWarmPool = record.inWarmPool)
    (hwarm : record.inWarmPool = true → Warm record → Warm record') :
    WarmPoolInvariant (r.put record') :=
  ⟨h.tracked.put hget hid hflag, h.warm.put fun hpooled =>
    hwarm (hflag ▸ hpooled) (h.warm sessionId record hget (hflag ▸ hpooled))⟩

theorem WarmPoolInvariant.updateHealthScore (h : WarmPoolInvariant r) (sessionId : String)
    (success : Bool) : WarmPoolInvariant (r.updateHealthScore sessionId success) := by
  unfold SessionRegistry.updateHealthScore
  cases hget : r.sessions.get? sessionId with
  | none => exact h
  | some record =>
    have hid := r.sessions.key_of_get? hget
    dsimp only
    split_ifs with hunhealthy
    · exact h.put_remove hget hid rfl
    · exact h.put hget hid rfl fun _ hwarm => ⟨hwarm.state, hwarm.unleased, by simpa using hunhealthy⟩

theorem warm_of_isWarmPoolEligible {sessionTtlMs : Nat}
    (h : record.isWarmPoolEligible now sessionTtlMs = true) : Warm record := by
  unfold SessionRecord.isWarmPoolEligible at h
  split_ifs at h with hstate hleased hhealth hage
  refine ⟨?_, by simpa using hleased, by simpa using hhealth⟩
  rcases not_and_or.mp hstate with hidle | hready
  · exact Or.inl (not_not.mp hidle)
  · exact Or.inr (not_not.mp hready)

theorem WarmPoolInvariant.considerForWarmPool (h : WarmPoolInvariant r) (now : Timestamp)
    (sessionId : String) : WarmPoolInvariant (r.considerForWarmPool now sessionId) := by
  unfold SessionRegistry.considerForWarmPool
  cases hget : r.sessions.get? sessionId with
  | none => exact h
  | some record =>
    dsimp only
    split_ifs with hkeep
    · have hwarm := warm_of_isWarmPoolEligible (Bool.and_eq_true_iff.mp hkeep).2
      refine ⟨h.tracked.add now sessionId, ?_⟩
      unfold addToWarmPool
      rw [hget]
      dsimp only
      have hput : PoolWarm (r.put { record with inWarmPool := true, warmPoolEntryAt := some now }) :=
        h.warm.put fun _ => ⟨hwarm.state, hwarm.unleased, hwarm.healthy⟩
      split_ifs with hpooled
      · exact h.warm
      · exact hput
      · exact hput
    · exact h

end changes

section operations

variable {r : SessionRegistry} {record : SessionRecord} {sessionId : String}

theorem WarmPoolInvariant.leaseSession (h : WarmPoolInvariant r) (now : Timestamp)
    (sessionId jobId : String) : WarmPoolInvariant (r.leaseSession now sessionId jobId).2 := by
  unfold SessionRegistry.leaseSession
  cases hget : r.sessions.get? sessionId with
  | none => exact h
  | some record =>
    have hid := r.sessions.key_of_get? hget
    dsimp only
    split_ifs with hleased
    · exact h
    · exact h.put_remove hget hid rfl

theorem WarmPoolInvariant.releaseSession (h : WarmPoolInvariant r) (now : Timestamp)
    (sessionId jobId : String) : WarmPoolInvariant (r.releaseSession now sessionId jobId).2 := by
  unfold SessionRegistry.releaseSession
  cases hget : r.sessions.get? sessionId with
  | none => exact h
  | some record =>
    have hid := r.sessions.key_of_get? hget
    dsimp only
    split_ifs with hother
    · exact h
    · have hreleased : WarmPoolInvariant (r.put { record with
          leasedBy := none, leaseExpiresAt := none, state := .idle, lastActivityAt := now }) :=
        h.put hget hid rfl fun _ hwarm => ⟨Or.inl rfl, rfl, hwarm.healthy⟩
      exact (hreleased.updateHealthScore sessionId true).considerForWarmPool now sessionId

theorem WarmPoolInvariant.markSessionDead (h : WarmPoolInvariant r) (now : Timestamp)
    (sessionId : String) (error : Option String) (cleanupReason : Option CleanupReason) :
    WarmPoolInvariant (r.markSessionDead now sessionId error cleanupReason) := by
  unfold SessionRegistry.markSessionDead
  cases hget : r.sessions.get? sessionId with
  | none => exact h
  | some record =>
    have hid := r.sessions.key_of_get? hget
    have hdead : WarmPoolInvariant ((r.put { record with
        state := .dead, error, cleanupReason := some (cleanupReason.getD .taskFailed),
        lastActivityAt := now }).removeFromWarmPool sessionId) :=
      h.put_remove hget hid rfl
    exact hdead.updateHealthScore sessionId false

theorem WarmPoolInvariant.markSessionReady (h : WarmPoolInvariant r) (now : Timestamp)
    (sessionId : String) : WarmPoolInvariant (r.markSessionReady now sessionId) := by
  unfold SessionRegistry.markSessionReady
  cases hget : r.sessions.get? sessionId with
  | none => exact h
  | some record =>
    have hid := r.sessions.key_of_get? hget
    have hready : WarmPoolInvariant (r.put { record with state := .ready, lastActivityAt := now }) :=
      h.put hget hid rfl fun _ hwarm => ⟨Or.inr rfl, hwarm.unleased, hwarm.healthy⟩
    exact hready.considerForWarmPool now sessionId

theorem WarmPoolInvariant.mapValues (h : WarmPoolInvariant r) {f : SessionRecord → SessionRecord}
    (hf : ∀ record, (f record).sessionId = record.sessionId)
    (hflag : ∀ record, (f record).inWarmPool = record.inWarmPool)
    (hwarm : ∀ record, Warm record → f record = record) :
    WarmPoolInvariant { r with sessions := r.sessions.mapValues f hf } where
  tracked :=
    { distinct := h.tracked.distinct
      ids := fun key => by
        show key ∈ r.warmPoolSessions ↔ _
        rw [h.tracked.ids key, get?_mapValues]
        constructor
        · rintro ⟨record, hget, hpooled⟩
          exact ⟨f record, by rw [hget]; rfl, (hflag record).trans hpooled⟩
        · rintro ⟨_, hget, hpooled⟩
          obtain ⟨record, hrecord, rfl⟩ := Option.map_eq_some_iff.mp hget
          exact ⟨record, hrecord, (hflag record).symm.trans hpooled⟩
      size := h.tracked.size }
  warm key record' hget hpooled := by
    rw [get?_mapValues] at hget
    obtain ⟨record, hrecord, rfl⟩ := Option.map_eq_some_iff.mp hget
    have hkept := h.warm key record hrecord ((hflag record).symm.trans hpooled)
    rw [hwarm record hkept]
    exact hkept

theorem Warm.not_leaseExpired (h : Warm record) (now : Timestamp) :
    record.leaseExpired now = false := by
  rw [SessionRecord.leaseExpired, h.unleased, Bool.false_and]

theorem Warm.not_isOrphan (h : Warm record) (now : Timestamp) (leaseTtlMs : Nat) :
    record.isOrphan now leaseTtlMs = false := by
  have hactive : record.state ≠ .active := by
    intro hstate
    rcases h.state with hidle | hready
    · rw [hstate] at hidle; cases hidle
    · rw [hstate] at hready; cases hready
  have hinitializing : record.state ≠ .initializing := by
    intro hstate
    rcases h.state with hidle | hready
    · rw [hstate] at hidle; cases hidle
    · rw [hstate] at hready; cases hready
  simp [SessionRecord.isOrphan, h.not_leaseExpired now, hactive, hinitializing]

theorem WarmPoolInvariant.processOrphans (h : WarmPoolInvariant r) (now : Timestamp) :
    WarmPoolInvariant (r.processOrphans now) := by
  refine h.mapValues _ (fun record => ?_) fun record hwarm => ?_
  · unfold orphanProcessed
    split_ifs <;> rfl
  · rw [orphanProcessed, hwarm.not_isOrphan]
    rfl

theorem WarmPoolInvariant.findReusableSession (h : WarmPoolInvariant r) (now : Timestamp)
    (criteria : SessionSearchCriteria) :
    WarmPoolInvariant (r.findReusableSession now criteria).2 := by
  have hsearched : WarmPoolInvariant { r with
      sessions := r.sessions.mapValues (r.searched now criteria)
        (r.searched_sessionId now criteria) } := by
    refine h.mapValues _ (fun record => ?_) fun record hwarm => ?_
    · unfold searched SessionRecord.clearExpiredLease
      split_ifs <;> rfl
    · unfold searched SessionRecord.clearExpiredLease
      rw [hwarm.not_leaseExpired, if_neg Bool.false_ne_true, ite_self]
  unfold SessionRegistry.findReusableSession
  dsimp only
  split
  · exact hsearched
  · exact hsearched.remove _

theorem WarmPoolInvariant.getStats (h : WarmPoolInvariant r) (now : Timestamp) :
    WarmPoolInvariant (r.getStats now).2 :=
  ⟨⟨h.tracked.distinct, h.tracked.ids, rfl⟩, h.warm⟩

theorem WarmPoolInvariant.delete (h : WarmPoolInvariant r) {sessions : KeyedMap SessionRecord.sessionId}
    {gone : String → Prop} [DecidablePred gone]
    (hget : ∀ key, sessions.get? key = if gone key then none else r.sessions.get? key)
    (hgone : ∀ key, gone key → key ∉ r.warmPoolSessions) :
    WarmPoolInvariant { r with sessions } where
  tracked :=
    { distinct := h.tracked.distinct
      ids := fun key => by
        show key ∈ r.warmPoolSessions ↔ _
        by_cases hkey : gone key
        · simp [hget, hkey, hgone key hkey]
        · simp [hget, hkey, h.tracked.ids key]
      size := h.tracked.size }
  warm key record hrecord hpooled := by
    rw [hget] at hrecord
    split_ifs at hrecord with hkey
    exact h.warm key record hrecord hpooled

theorem not_mem_removeFromWarmPool (h : PoolTracked r) (sessionId : String) :
    sessionId ∉ (r.removeFromWarmPool sessionId).warmPoolSessions := by
  unfold removeFromWarmPool
  cases hget : r.sessions.get? sessionId with
  | none => simp [h.ids, hget]
  | some record =>
    dsimp only
    split_ifs with hpooled
    · rw [h.ids, hget]
      simpa using hpooled
    · exact fun hmem => (h.distinct.mem_erase_iff.mp hmem).1 rfl

theorem WarmPoolInvariant.deleteSession (h : WarmPoolInvariant r) (sessionId : String) :
    WarmPoolInvariant (r.deleteSession sessionId).2 := by
  unfold SessionRegistry.deleteSession
  cases hget : r.sessions.get? sessionId with
  | none => exact h
  | some record =>
    refine (h.remove sessionId).delete (fun key => get?_delete _ _ _) ?_
    rintro _ rfl
    exact not_mem_removeFromWarmPool h.tracked _

theorem WarmPoolInvariant.cleanupSessionsForTask (h : WarmPoolInvariant r) (now : Timestamp)
    (taskId : String) (reason : CleanupReason) :
    WarmPoolInvariant (r.cleanupSessionsForTask now taskId reason).2 := by
  unfold SessionRegistry.cleanupSessionsForTask
  generalize r.getSessionsForTask taskId = sessions
  induction sessions generalizing r with
  | nil => exact h
  | cons record sessions ih =>
    refine ih ?_
    dsimp only
    split_ifs
    · exact (h.markSessionDead now record.sessionId _ _).deleteSession record.sessionId
    · exact h.deleteSession record.sessionId

end operations

/-- The call drains, overwrites or clears away no session that is in the pool. -/
def LeavesPool (r : SessionRegistry) (call : PoolCall) : Prop :=
  match call.op with
  | .call (.createSessionRecord sessionId _) | .call (.markSessionDraining sessionId _) =>
    ∀ record, r.sessions.get? sessionId = some record → record.inWarmPool = false
  | .call .cleanup => ∀ record ∈ r.sessions.values,
    record.isExpired call.now r.config.sessionTtlMs = true → record.inWarmPool = false
  | _ => True

section steps

variable {r : SessionRegistry} {call : PoolCall}

theorem WarmPoolInvariant.createSessionRecord (h : WarmPoolInvariant r) (now : Timestamp)
    (sessionId : String) (criteria : SessionSearchCriteria)
    (hleaves : ∀ record, r.sessions.get? sessionId = some record → record.inWarmPool = false) :
    WarmPoolInvariant (r.createSessionRecord now sessionId criteria).2 := by
  refine ⟨⟨h.tracked.distinct, fun key => ?_, h.tracked.size⟩, h.warm.put nofun⟩
  show key ∈ r.warmPoolSessions ↔ _
  rw [h.tracked.ids, SessionRegistry.createSessionRecord, SessionRegistry.put, get?_put]
  by_cases hkey : key = sessionId
  · rw [if_pos hkey, hkey]
    refine iff_of_false ?_ ?_
    · rintro ⟨record, hget, hpooled⟩
      rw [hleaves record hget] at hpooled
      cases hpooled
    · rintro ⟨_, hget, hpooled⟩
      obtain rfl := Option.some.inj hget
      cases hpooled
  · rw [if_neg hkey]

theorem WarmPoolInvariant.markSessionDraining (h : WarmPoolInvariant r) (now : Timestamp)
    (sessionId : String) (reason : CleanupReason)
    (hleaves : ∀ record, r.sessions.get? sessionId = some record → record.inWarmPool = false) :
    WarmPoolInvariant (r.markSessionDraining now sessionId reason) := by
  unfold SessionRegistry.markSessionDraining
  cases hget : r.sessions.get? sessionId with
  | none => exact h
  | some record =>
    have hid := r.sessions.key_of_get? hget
    have hunpooled := hleaves record hget
    refine h.put hget hid rfl fun hpooled => ?_
    rw [hunpooled] at hpooled
    cases hpooled

theorem get?_cleanup (r : SessionRegistry) (now : Timestamp) (key : String) :
    (r.cleanup now).sessions.get? key =
      if key ∈ (r.sessions.values.filter
          (SessionRecord.isExpired · now r.config.sessionTtlMs)).map SessionRecord.sessionId
      then none else r.sessions.get? key :=
  get?_deleteAll _ _ _

theorem WarmPoolInvariant.cleanup (h : WarmPoolInvariant r) (now : Timestamp)
    (hleaves : ∀ record ∈ r.sessions.values,
      record.isExpired now r.config.sessionTtlMs = true → record.inWarmPool = false) :
    WarmPoolInvariant (r.cleanup now) := by
  refine h.delete (get?_cleanup r now) fun key hgone hmem => ?_
  obtain ⟨record, hget, hexpired⟩ := (r.sessions.mem_map_key_filter_iff _ _).mp hgone
  obtain ⟨record', hget', hpooled⟩ := (h.tracked.ids key).mp hmem
  have hsame := Option.some.inj (hget.symm.trans hget')
  have hvalue : record ∈ r.sessions.values := by
    rw [mem_values_iff, r.sessions.key_of_get? hget]
    exact hget
  rw [← hsame, hleaves record hvalue hexpired] at hpooled
  cases hpooled

theorem warmPoolInvariant_perform (h : WarmPoolInvariant r) (hleaves : LeavesPool r call) :
    WarmPoolInvariant (call.perform r) := by
  obtain ⟨now, op⟩ := call
  cases op with
  | call op =>
    cases op with
    | createSessionRecord sessionId criteria =>
      exact h.createSessionRecord now sessionId criteria hleaves
    | findReusableSession criteria => exact h.findReusableSession now criteria
    | getWarmPoolSession criteria => exact h
    | leaseSession sessionId jobId => exact h.leaseSession now sessionId jobId
    | releaseSession sessionId jobId => exact h.releaseSession now sessionId jobId
    | markSessionDead sessionId error cleanupReason =>
      exact h.markSessionDead now sessionId error cleanupReason
    | markSessionDraining sessionId reason => exact h.markSessionDraining now sessionId reason hleaves
    | markSessionReady sessionId => exact h.markSessionReady now sessionId
    | processOrphans => exact h.processOrphans now
    | cleanup => exact h.cleanup now hleaves
    | deleteSession sessionId => exact h.deleteSession sessionId
  | updateHealthScore sessionId success => exact h.updateHealthScore sessionId success
  | cleanupSessionsForTask taskId reason => exact h.cleanupSessionsForTask now taskId reason
  | getStats => exact h.getStats now

theorem leavesPool_of_invariant (h : WarmPoolInvariant r)
    (hafter : WarmPoolInvariant (call.perform r)) : LeavesPool r call := by
  have hunpooled : ∀ record : SessionRecord, (record.inWarmPool = true → False) →
      record.inWarmPool = false := fun _ hnot => Bool.eq_false_iff.mpr hnot
  obtain ⟨now, op⟩ := call
  cases op with
  | call op =>
    cases op with
    | createSessionRecord sessionId criteria =>
      refine fun record hget => hunpooled record fun hpooled => ?_
      have hmem := (h.tracked.ids sessionId).mpr ⟨record, hget, hpooled⟩
      obtain ⟨created, hcreated, hflag⟩ := (hafter.tracked.ids sessionId).mp hmem
      have hnew : ((r.createSessionRecord now sessionId criteria).2.sessions.get? sessionId) =
          some (r.createSessionRecord now sessionId criteria).1 := get?_put_self _ _
      obtain rfl := Option.some.inj (hnew.symm.trans hcreated)
      cases hflag
    | markSessionDraining sessionId reason =>
      refine fun record hget => hunpooled record fun hpooled => ?_
      have hid := r.sessions.key_of_get? hget
      let drained : SessionRecord :=
        { record with state := .draining, cleanupReason := some reason, lastActivityAt := now }
      have hdrained : (r.markSessionDraining now sessionId reason).sessions.get? sessionId =
          some drained := by
        rw [SessionRegistry.markSessionDraining, hget]
        dsimp only
        rw [SessionRegistry.put, get?_put, if_pos hid.symm]
      rcases (hafter.warm sessionId drained hdrained hpooled).state with hidle | hready
      · cases hidle
      · cases hready
    | cleanup =>
      refine fun record hvalue hexpired => hunpooled record fun hpooled => ?_
      have hget := r.sessions.mem_values_iff.mp hvalue
      have hmem := (h.tracked.ids record.sessionId).mpr ⟨record, hget, hpooled⟩
      obtain ⟨kept, hkept, _⟩ := (hafter.tracked.ids record.sessionId).mp hmem
      have hgone := (r.sessions.mem_map_key_filter_iff
        (SessionRecord.isExpired · now r.config.sessionTtlMs) _).mpr ⟨record, hget, hexpired⟩
      have hnone := get?_cleanup r now record.sessionId
      rw [if_pos hgone] at hnone
      cases hnone.symm.trans hkept
    | _ => exact trivial
  | _ => exact trivial

end steps

theorem warmPoolInvariant_new (config : SessionRegistryConfig) : WarmPoolInvariant (.new config) where
  tracked :=
    { distinct := List.nodup_nil
      ids := fun _ => ⟨fun hmem => absurd hmem List.not_mem_nil, fun ⟨_, hget, _⟩ => nomatch hget⟩
      size := rfl }
  warm _ _ hget := nomatch hget

/-- The pool is represented consistently in all states of a run, its sessions warm, if and only if
no call of the run drains, overwrites or clears away a session in the pool. -/
theorem warmPool_invariant_iff {h : History SessionRegistry PoolCall} {r : SessionRegistry}
    (hrun : poolRuns.Run h r) :
    (∀ s ∈ states h r, WarmPoolInvariant s) ↔ Machine.Steps LeavesPool h := by
  refine hrun.forall_states_iff (I := WarmPoolInvariant) ?_ (fun _ hinv => hinv) ?_ ?_
  · rintro r ⟨config, rfl⟩
    exact warmPoolInvariant_new config
  · rintro _ r call r' _ hinv hleaves hstep
    obtain rfl := Option.some.inj hstep
    exact warmPoolInvariant_perform hinv hleaves
  · rintro _ r call r' _ hinv hstep hafter
    obtain rfl := Option.some.inj hstep
    exact leavesPool_of_invariant hinv hafter

section examples

/-- A session of the task, the worker and the stage `dev` in a workspace. -/
def warmCriteria : SessionSearchCriteria where
  taskId := "task_1"
  workspaceRef := ⟨"host_path", "/work/shop"⟩
  logicalWorker := .codex
  stageBucket := .dev
  policyFingerprint := "policy"
  agentProfile := none

def shortLived : SessionRegistry := .new { sessionTtlMs := 1000, leaseTtlMs := 10 }

def withWarmSession : SessionRegistry :=
  ((PoolCall.mk 1 (.call (.markSessionReady "session"))).perform
    ((PoolCall.mk 0 (.call (.createSessionRecord "session" warmCriteria))).perform shortLived))

theorem run_withWarmSession : poolRuns.Run
    [(shortLived, ⟨0, .call (.createSessionRecord "session" warmCriteria)⟩),
      ((PoolCall.mk 0 (.call (.createSessionRecord "session" warmCriteria))).perform shortLived,
        ⟨1, .call (.markSessionReady "session")⟩)]
    withWarmSession := by
  have hstart : poolRuns.Run [] shortLived := .start ⟨_, rfl⟩
  exact (hstart.snoc rfl).snoc rfl

theorem last_mem_states (h : History SessionRegistry PoolCall) (r : SessionRegistry) :
    r ∈ states h r :=
  List.mem_append_right _ (List.mem_singleton.mpr rfl)

/-- A session that got ready is kept warm, and the pool is consistent. -/
theorem warmPool_holds_session : withWarmSession.warmPoolSessions = ["session"] ∧
    WarmPoolInvariant withWarmSession := by
  refine ⟨by decide +kernel, ?_⟩
  refine (warmPool_invariant_iff run_withWarmSession).mpr ?_ _ (last_mem_states _ _)
  rw [steps_cons, steps_cons]
  exact ⟨fun _ hget => (nomatch hget), trivial, steps_nil _⟩

/-- The periodic cleanup leaves in the pool the id of a session that it removes. -/
theorem cleanup_leaves_id : ¬∀ h r, poolRuns.Run h r → ∀ s ∈ states h r, WarmPoolInvariant s := by
  intro hall
  have hrun := run_withWarmSession.snoc (a := ⟨2000, .call .cleanup⟩) rfl
  have hinv := hall _ _ hrun _ (last_mem_states _ _)
  have hids := (hinv.tracked.ids "session").mp (by decide +kernel)
  obtain ⟨record, hget, _⟩ := hids
  have hnone : (((PoolCall.mk 2000 (.call .cleanup)).perform withWarmSession).sessions.get?
      "session") = none := by decide +kernel
  exact absurd (hnone.symm.trans hget) nofun

end examples

end ShipyardCp.Properties
