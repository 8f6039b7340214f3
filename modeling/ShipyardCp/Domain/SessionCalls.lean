import ShipyardCp.Domain.SessionRegistry
import ShipyardCp.Lib.Transition

/-! The calls of a session registry, and what each of them leaves of the record of a session. -/

namespace ShipyardCp.Domain

open Types Lib SessionRecord KeyedMap

inductive RegistryOp where
  | createSessionRecord (sessionId : String) (criteria : SessionSearchCriteria)
  | findReusableSession (criteria : SessionSearchCriteria)
  | getWarmPoolSession (criteria : SessionSearchCriteria)
  | leaseSession (sessionId jobId : String)
  | releaseSession (sessionId jobId : String)
  | markSessionDead (sessionId : String) (error : Option String)
      (cleanupReason : Option CleanupReason)
  | markSessionDraining (sessionId : String) (cleanupReason : CleanupReason)
  | markSessionReady (sessionId : String)
  | processOrphans
  | cleanup
  | deleteSession (sessionId : String)
  deriving DecidableEq

structure RegistryCall where
  now : Timestamp
  op : RegistryOp

namespace SessionRegistry

/-- The registry after a call. -/
def perform (r : SessionRegistry) (call : RegistryCall) : SessionRegistry :=
  match call.op with
  | .createSessionRecord sessionId criteria => (r.createSessionRecord call.now sessionId criteria).2
  | .findReusableSession criteria => (r.findReusableSession call.now criteria).2
  | .getWarmPoolSession _ => r
  | .leaseSession sessionId jobId => (r.leaseSession call.now sessionId jobId).2
  | .releaseSession sessionId jobId => (r.releaseSession call.now sessionId jobId).2
  | .markSessionDead sessionId error cleanupReason =>
    r.markSessionDead call.now sessionId error cleanupReason
  | .markSessionDraining sessionId cleanupReason =>
    r.markSessionDraining call.now sessionId cleanupReason
  | .markSessionReady sessionId => r.markSessionReady call.now sessionId
  | .processOrphans => r.processOrphans call.now
  | .cleanup => r.cleanup call.now
  | .deleteSession sessionId => (r.deleteSession sessionId).2

def returned (r : SessionRegistry) (call : RegistryCall) : Option SessionRecord :=
  match call.op with
  | .findReusableSession criteria => (r.findReusableSession call.now criteria).1
  | .getWarmPoolSession criteria => r.getWarmPoolSession call.now criteria
  | _ => none

def leases (r : SessionRegistry) (call : RegistryCall) (sessionId jobId : String) : Bool :=
  call.op = .leaseSession sessionId jobId && (r.leaseSession call.now sessionId jobId).1

def releases (r : SessionRegistry) (call : RegistryCall) (sessionId jobId : String) : Bool :=
  call.op = .releaseSession sessionId jobId && (r.releaseSession call.now sessionId jobId).1

end SessionRegistry

/-- A registry, and the time of the last call. -/
structure RegistrySystem where
  registry : SessionRegistry
  clock : Timestamp

def RegistrySystem.next (sys : RegistrySystem) (call : RegistryCall) : Option RegistrySystem :=
  if sys.clock ≤ call.now then some ⟨sys.registry.perform call, call.now⟩ else none

def registryRuns : Machine RegistrySystem RegistryCall :=
  .ofNext (fun sys => ∃ config, sys.registry = .new config) RegistrySystem.next

theorem RegistrySystem.next_eq_some_iff {sys sys' : RegistrySystem} {call : RegistryCall} :
    sys.next call = some sys' ↔
      sys.clock ≤ call.now ∧ sys' = ⟨sys.registry.perform call, call.now⟩ := by
  unfold RegistrySystem.next
  split_ifs with hclock
  · exact ⟨fun h => ⟨hclock, (Option.some.inj h).symm⟩, fun h => by rw [h.2]⟩
  · exact iff_of_false nofun fun h => hclock h.1

def RegistryOp.criteria? : RegistryOp → Option SessionSearchCriteria
  | .findReusableSession criteria => some criteria
  | .getWarmPoolSession criteria => some criteria
  | _ => none

namespace SessionRecord

def unpooled (record : SessionRecord) : SessionRecord :=
  { record with inWarmPool := false, warmPoolEntryAt := none }

/-- What a call leaves of a record that it keeps, the warm pool apart. -/
def afterCall (config : SessionRegistryConfig) (call : RegistryCall) (record : SessionRecord) :
    SessionRecord :=
  match call.op with
  | .findReusableSession criteria =>
    if (record.checkReuseEligibility call.now criteria criteria.profile config).isNone then
      record.clearExpiredLease call.now
    else record
  | .leaseSession sessionId jobId =>
    if sessionId = record.sessionId ∧ !record.isLeased call.now then
      { record with
        leasedBy := some jobId
        leaseExpiresAt := some (call.now + config.leaseTtlMs)
        state := .active
        lastActivityAt := call.now
        lastUsedAt := some call.now }
    else record
  | .releaseSession sessionId jobId =>
    if sessionId = record.sessionId ∧ record.leasedBy = some jobId then
      { record with
        leasedBy := none
        leaseExpiresAt := none
        state := .idle
        lastActivityAt := call.now
        healthScore := calculateHealthScore record.healthScore true config }
    else record
  | .markSessionDead sessionId error cleanupReason =>
    if sessionId = record.sessionId then
      { record with
        state := .dead
        error
        cleanupReason := some (cleanupReason.getD .taskFailed)
        lastActivityAt := call.now
        healthScore := calculateHealthScore record.healthScore false config }
    else record
  | .markSessionDraining sessionId cleanupReason =>
    if sessionId = record.sessionId then
      { record with
        state := .draining
        cleanupReason := some cleanupReason
        lastActivityAt := call.now }
    else record
  | .markSessionReady sessionId =>
    if sessionId = record.sessionId then
      { record with state := .ready, lastActivityAt := call.now }
    else record
  | .processOrphans => SessionRegistry.orphanProcessed call.now config.leaseTtlMs record
  | _ => record

end SessionRecord

/-- What a call leaves under an id of what is there, the warm pool apart. -/
def RegistryCall.leaves (call : RegistryCall) (r : SessionRegistry) (key : String) :
    Option SessionRecord :=
  match call.op with
  | .createSessionRecord sessionId criteria =>
    if key = sessionId then some (r.createSessionRecord call.now sessionId criteria).1
    else r.sessions.get? key
  | .cleanup =>
    (r.sessions.get? key).filter fun record => !record.isExpired call.now r.config.sessionTtlMs
  | .deleteSession sessionId => if key = sessionId then none else r.sessions.get? key
  | _ => (r.sessions.get? key).map (afterCall r.config call)

namespace SessionRegistry

/-- One registry has the records of the other changed by a function, the warm pool apart. -/
structure Changed (f : SessionRecord → SessionRecord) (r r' : SessionRegistry) : Prop where
  config : r'.config = r.config
  sessions : ∀ key, (r'.sessions.get? key).map unpooled =
    (r.sessions.get? key).map fun record => (f record).unpooled

section changed

variable {f g : SessionRecord → SessionRecord} {r r' r'' : SessionRegistry}
  {record record' : SessionRecord} {sessionId : String}

theorem Changed.congr (h : Changed f r r') (hfg : ∀ key record, r.sessions.get? key = some record →
      (f record).unpooled = (g record).unpooled) : Changed g r r' := by
  refine ⟨h.config, fun key => (h.sessions key).trans ?_⟩
  cases hget : r.sessions.get? key with
  | none => rfl
  | some record => exact congrArg some (hfg key record hget)

theorem Changed.trans (hf : Changed f r r') (hg : Changed g r' r'')
    (hpool : ∀ record, (g record.unpooled).unpooled = (g record).unpooled) :
    Changed (g ∘ f) r r'' := by
  refine ⟨hg.config.trans hf.config, fun key => ?_⟩
  have hstep : ∀ o : Option SessionRecord, (o.map fun record => (g record).unpooled) =
      (o.map unpooled).map fun record => (g record).unpooled := by
    intro o
    cases o with
    | none => rfl
    | some record => exact congrArg some (hpool record).symm
  rw [hg.sessions, hstep, hf.sessions, Option.map_map]
  refine congrArg (Option.map · (r.sessions.get? key)) (funext fun record => ?_)
  exact hpool (f record)

theorem changed_id_of_eq (hconfig : r'.config = r.config) (hsessions : r'.sessions = r.sessions) :
    Changed id r r' := ⟨hconfig, fun key => by rw [hsessions]; rfl⟩

theorem changed_self (sessionId : String)
    (hkept : ∀ record, r.sessions.get? sessionId = some record → f record = record)
    (hother : ∀ record, record.sessionId ≠ sessionId → f record = record) : Changed f r r := by
  refine (changed_id_of_eq rfl rfl).congr fun key record hget => ?_
  have hid := r.sessions.key_of_get? hget
  by_cases hkey : key = sessionId
  · rw [hkey] at hget
    rw [hkept record hget]
    rfl
  · rw [hother record (hid ▸ hkey)]
    rfl

theorem changed_self_of_none (hget : r.sessions.get? sessionId = none)
    (hother : ∀ record, record.sessionId ≠ sessionId → f record = record) : Changed f r r := by
  refine changed_self sessionId (fun record hsome => ?_) hother
  rw [hget] at hsome
  cases hsome

theorem changed_put {warmPoolSessions : List String} {warmPoolSize : Nat}
    (hget : r.sessions.get? sessionId = some record)
    (hrecord : record'.unpooled = (f record).unpooled)
    (hid : record'.sessionId = sessionId)
    (hother : ∀ record, record.sessionId ≠ sessionId → f record = record) :
    Changed f r { r.put record' with warmPoolSessions, warmPoolSize } := by
  refine ⟨rfl, fun key => ?_⟩
  simp only [put]
  rw [get?_put, hid]
  split_ifs with hkey
  · rw [hkey, hget, Option.map_some, Option.map_some, hrecord]
  · cases hkept : r.sessions.get? key with
    | none => rfl
    | some kept =>
      have hne : kept.sessionId ≠ sessionId := by
        rw [r.sessions.key_of_get? hkept]
        exact hkey
      rw [Option.map_some, Option.map_some, hother kept hne]

end changed

section warmPool

variable (r : SessionRegistry) (now : Timestamp) (sessionId : String) (success : Bool)

theorem changed_addToWarmPool : Changed id r (r.addToWarmPool now sessionId) := by
  unfold addToWarmPool
  cases hget : r.sessions.get? sessionId with
  | none => exact changed_id_of_eq rfl rfl
  | some record =>
    have hid := r.sessions.key_of_get? hget
    dsimp only
    split_ifs
    · exact changed_id_of_eq rfl rfl
    · exact changed_put hget rfl hid fun _ _ => rfl
    · exact changed_put hget rfl hid fun _ _ => rfl

theorem changed_removeFromWarmPool : Changed id r (r.removeFromWarmPool sessionId) := by
  unfold removeFromWarmPool
  cases hget : r.sessions.get? sessionId with
  | none => exact changed_id_of_eq rfl rfl
  | some record =>
    have hid := r.sessions.key_of_get? hget
    dsimp only
    split_ifs
    · exact changed_id_of_eq rfl rfl
    · exact changed_put hget rfl hid fun _ _ => rfl

theorem changed_considerForWarmPool : Changed id r (r.considerForWarmPool now sessionId) := by
  unfold considerForWarmPool
  cases hget : r.sessions.get? sessionId with
  | none => exact changed_id_of_eq rfl rfl
  | some record =>
    dsimp only
    split_ifs
    · exact r.changed_addToWarmPool now sessionId
    · exact changed_id_of_eq rfl rfl

def rescored (config : SessionRegistryConfig) (sessionId : String) (success : Bool)
    (record : SessionRecord) : SessionRecord :=
  if sessionId = record.sessionId then
    { record with healthScore := calculateHealthScore record.healthScore success config }
  else record

theorem unpooled_rescored (config : SessionRegistryConfig) (record : SessionRecord) :
    (rescored config sessionId success record.unpooled).unpooled =
      (rescored config sessionId success record).unpooled := by
  have hid : record.unpooled.sessionId = record.sessionId := rfl
  rw [rescored, rescored, hid]
  split_ifs <;> rfl

theorem changed_updateHealthScore :
    Changed (rescored r.config sessionId success) r (r.updateHealthScore sessionId success) := by
  have hother : ∀ record : SessionRecord, record.sessionId ≠ sessionId →
      rescored r.config sessionId success record = record := fun record hne => if_neg (Ne.symm hne)
  unfold updateHealthScore
  cases hget : r.sessions.get? sessionId with
  | none => exact changed_self_of_none hget hother
  | some record =>
    have hid := r.sessions.key_of_get? hget
    have hput : Changed (rescored r.config sessionId success) r
        (r.put { record with
          healthScore := calculateHealthScore record.healthScore success r.config }) := by
      refine changed_put hget ?_ hid hother
      rw [rescored, if_pos hid.symm]
    dsimp only
    split_ifs
    · exact hput.trans (changed_removeFromWarmPool _ sessionId) fun _ => rfl
    · exact hput

end warmPool

section calls

def freed (sessionId : String) (now : Timestamp) (record : SessionRecord) : SessionRecord :=
  if sessionId = record.sessionId then
    { record with
      leasedBy := none
      leaseExpiresAt := none
      state := .idle
      lastActivityAt := now }
  else record

/-- The session's record is marked dead. -/
def killed (sessionId : String) (now : Timestamp) (error : Option String)
    (cleanupReason : Option CleanupReason) (record : SessionRecord) : SessionRecord :=
  if sessionId = record.sessionId then
    { record with
      state := .dead
      error
      cleanupReason := some (cleanupReason.getD .taskFailed)
      lastActivityAt := now }
  else record

variable (r : SessionRegistry) (now : Timestamp) (sessionId : String)

theorem changed_findReusableSession (criteria : SessionSearchCriteria) :
    Changed (afterCall r.config ⟨now, .findReusableSession criteria⟩) r
      (r.findReusableSession now criteria).2 := by
  have hsearched : Changed (afterCall r.config ⟨now, .findReusableSession criteria⟩) r
      { r with
        sessions := r.sessions.mapValues (r.searched now criteria)
          (r.searched_sessionId now criteria) } := by
    refine ⟨rfl, fun key => ?_⟩
    rw [get?_mapValues, Option.map_map]
    rfl
  unfold findReusableSession
  dsimp only
  split
  · exact hsearched
  · exact hsearched.trans (changed_removeFromWarmPool _ _) fun _ => rfl

theorem changed_leaseSession (jobId : String) :
    Changed (afterCall r.config ⟨now, .leaseSession sessionId jobId⟩) r
      (r.leaseSession now sessionId jobId).2 := by
  have hother : ∀ record : SessionRecord, record.sessionId ≠ sessionId →
      record.afterCall r.config ⟨now, .leaseSession sessionId jobId⟩ = record :=
    fun record hne => if_neg fun h => hne h.1.symm
  unfold leaseSession
  cases hget : r.sessions.get? sessionId with
  | none => exact changed_self_of_none hget hother
  | some record =>
    have hid := r.sessions.key_of_get? hget
    dsimp only
    split_ifs with hleased
    · refine changed_self sessionId (fun kept hkept => ?_) hother
      obtain rfl : record = kept := Option.some.inj (hget.symm.trans hkept)
      exact if_neg fun h => by simp [hleased] at h
    · have hafter : record.afterCall r.config ⟨now, .leaseSession sessionId jobId⟩ = { record with
          leasedBy := some jobId
          leaseExpiresAt := some (now + r.config.leaseTtlMs)
          state := .active
          lastActivityAt := now
          lastUsedAt := some now } := if_pos ⟨hid.symm, by simpa using hleased⟩
      have hput : Changed _ r (r.put { record with
          leasedBy := some jobId
          leaseExpiresAt := some (now + r.config.leaseTtlMs)
          state := .active
          lastActivityAt := now
          lastUsedAt := some now }) :=
        changed_put hget (congrArg unpooled hafter.symm) hid hother
      exact hput.trans (changed_removeFromWarmPool _ _) fun _ => rfl

theorem changed_releaseSession (jobId : String) :
    Changed (afterCall r.config ⟨now, .releaseSession sessionId jobId⟩) r
      (r.releaseSession now sessionId jobId).2 := by
  have hother : ∀ record : SessionRecord, record.sessionId ≠ sessionId →
      record.afterCall r.config ⟨now, .releaseSession sessionId jobId⟩ = record :=
    fun record hne => if_neg fun h => hne h.1.symm
  unfold releaseSession
  cases hget : r.sessions.get? sessionId with
  | none => exact changed_self_of_none hget hother
  | some record =>
    have hid := r.sessions.key_of_get? hget
    dsimp only
    split_ifs with hleased
    · refine changed_self sessionId (fun kept hkept => ?_) hother
      obtain rfl : record = kept := Option.some.inj (hget.symm.trans hkept)
      exact if_neg fun h => hleased h.2
    · have hput : Changed (freed sessionId now) r (r.put { record with
          leasedBy := none
          leaseExpiresAt := none
          state := .idle
          lastActivityAt := now }) :=
        changed_put hget (congrArg unpooled (if_pos hid.symm).symm) hid
          fun record hne => if_neg (Ne.symm hne)
      have hscored := hput.trans (changed_updateHealthScore _ sessionId true)
        (unpooled_rescored sessionId true _)
      refine (hscored.trans (changed_considerForWarmPool _ now sessionId) fun _ => rfl).congr ?_
      intro key kept hkept
      have hkey := r.sessions.key_of_get? hkept
      by_cases hsame : sessionId = kept.sessionId
      · rw [← hkey, ← hsame, hget] at hkept
        obtain rfl := Option.some.inj hkept
        have hjob : record.leasedBy = some jobId := not_not.mp hleased
        simp only [Function.comp_apply, freed, rescored, afterCall, hsame, hjob,
          and_self, if_true, id_eq]
        rfl
      · simp only [Function.comp_apply, freed, rescored, afterCall, hsame, false_and, if_false, id_eq]

theorem changed_markSessionDead (error : Option String) (cleanupReason : Option CleanupReason) :
    Changed (afterCall r.config ⟨now, .markSessionDead sessionId error cleanupReason⟩)
      r (r.markSessionDead now sessionId error cleanupReason) := by
  unfold markSessionDead
  cases hget : r.sessions.get? sessionId with
  | none => exact changed_self_of_none hget fun record hne => if_neg (Ne.symm hne)
  | some record =>
    have hid := r.sessions.key_of_get? hget
    have hput : Changed (killed sessionId now error cleanupReason) r (r.put { record with
        state := .dead
        error
        cleanupReason := some (cleanupReason.getD .taskFailed)
        lastActivityAt := now }) :=
      changed_put hget (congrArg unpooled (if_pos hid.symm).symm) hid
        fun record hne => if_neg (Ne.symm hne)
    have hremoved := hput.trans (changed_removeFromWarmPool _ sessionId) fun _ => rfl
    refine (hremoved.trans (changed_updateHealthScore _ sessionId false)
      (unpooled_rescored sessionId false _)).congr ?_
    intro key kept _
    rw [hremoved.config]
    by_cases hsame : sessionId = kept.sessionId
    · simp only [Function.comp_apply, killed, rescored, afterCall, hsame, if_true, id_eq]
    · simp only [Function.comp_apply, killed, rescored, afterCall, if_neg hsame, id_eq]

theorem changed_markSessionDraining (cleanupReason : CleanupReason) :
    Changed (afterCall r.config ⟨now, .markSessionDraining sessionId cleanupReason⟩) r
      (r.markSessionDraining now sessionId cleanupReason) := by
  unfold markSessionDraining
  cases hget : r.sessions.get? sessionId with
  | none => exact changed_self_of_none hget fun record hne => if_neg (Ne.symm hne)
  | some record =>
    have hid := r.sessions.key_of_get? hget
    exact changed_put hget (congrArg unpooled (if_pos hid.symm).symm) hid
      fun record hne => if_neg (Ne.symm hne)

theorem changed_markSessionReady : Changed (afterCall r.config ⟨now, .markSessionReady sessionId⟩) r
      (r.markSessionReady now sessionId) := by
  unfold markSessionReady
  cases hget : r.sessions.get? sessionId with
  | none => exact changed_self_of_none hget fun record hne => if_neg (Ne.symm hne)
  | some record =>
    have hid := r.sessions.key_of_get? hget
    have hput : Changed (afterCall r.config ⟨now, .markSessionReady sessionId⟩) r
        (r.put { record with state := .ready, lastActivityAt := now }) :=
      changed_put hget (congrArg unpooled (if_pos hid.symm).symm) hid
        fun record hne => if_neg (Ne.symm hne)
    exact hput.trans (changed_considerForWarmPool _ now sessionId) fun _ => rfl

theorem config_perform (call : RegistryCall) : (r.perform call).config = r.config := by
  obtain ⟨now, op⟩ := call
  cases op with
  | createSessionRecord sessionId criteria => rfl
  | findReusableSession criteria => exact (r.changed_findReusableSession now criteria).config
  | getWarmPoolSession criteria => rfl
  | leaseSession sessionId jobId => exact (r.changed_leaseSession now sessionId jobId).config
  | releaseSession sessionId jobId => exact (r.changed_releaseSession now sessionId jobId).config
  | markSessionDead sessionId error cleanupReason =>
    exact (r.changed_markSessionDead now sessionId error cleanupReason).config
  | markSessionDraining sessionId cleanupReason =>
    exact (r.changed_markSessionDraining now sessionId cleanupReason).config
  | markSessionReady sessionId => exact (r.changed_markSessionReady now sessionId).config
  | processOrphans => rfl
  | cleanup => rfl
  | deleteSession sessionId =>
    simp only [perform, deleteSession]
    cases r.sessions.get? sessionId with
    | none => rfl
    | some record => exact (r.changed_removeFromWarmPool sessionId).config

theorem get?_perform (call : RegistryCall) (key : String) :
    ((r.perform call).sessions.get? key).map unpooled = (call.leaves r key).map unpooled := by
  have hmap : ∀ {f : SessionRecord → SessionRecord} {r' : SessionRegistry}, Changed f r r' →
      (r'.sessions.get? key).map unpooled = ((r.sessions.get? key).map f).map unpooled := by
    intro f r' h
    rw [h.sessions, Option.map_map]
    rfl
  obtain ⟨now, op⟩ := call
  cases op with
  | createSessionRecord sessionId criteria =>
    simp only [perform, RegistryCall.leaves, createSessionRecord, put, get?_put]
  | findReusableSession criteria => exact hmap (r.changed_findReusableSession now criteria)
  | getWarmPoolSession criteria =>
    refine hmap ((changed_id_of_eq rfl rfl).congr fun _ _ _ => rfl)
  | leaseSession sessionId jobId => exact hmap (r.changed_leaseSession now sessionId jobId)
  | releaseSession sessionId jobId => exact hmap (r.changed_releaseSession now sessionId jobId)
  | markSessionDead sessionId error cleanupReason =>
    exact hmap (r.changed_markSessionDead now sessionId error cleanupReason)
  | markSessionDraining sessionId cleanupReason =>
    exact hmap (r.changed_markSessionDraining now sessionId cleanupReason)
  | markSessionReady sessionId => exact hmap (r.changed_markSessionReady now sessionId)
  | processOrphans =>
    simp only [perform, processOrphans, get?_mapValues, RegistryCall.leaves]
    rfl
  | cleanup =>
    simp only [perform, cleanup, RegistryCall.leaves, get?_deleteAll]
    congr 1
    simp only [mem_map_key_filter_iff]
    cases hget : r.sessions.get? key with
    | none => exact if_neg fun ⟨_, hnone, _⟩ => nomatch hnone
    | some record =>
      cases hexpired : record.isExpired now r.config.sessionTtlMs with
      | true =>
        rw [if_pos ⟨record, rfl, hexpired⟩, Option.filter_some, hexpired]
        rfl
      | false =>
        have hkept : ¬∃ kept, some record = some kept ∧
            kept.isExpired now r.config.sessionTtlMs = true := by
          rintro ⟨kept, hkept, hgone⟩
          obtain rfl := Option.some.inj hkept
          rw [hexpired] at hgone
          cases hgone
        rw [if_neg hkept, Option.filter_some, hexpired]
        rfl
  | deleteSession sessionId =>
    simp only [perform, deleteSession, RegistryCall.leaves]
    cases hget : r.sessions.get? sessionId with
    | none =>
      split_ifs with hkey
      · rw [hkey, hget]
      · rfl
    | some record =>
      have hremoved := (r.changed_removeFromWarmPool sessionId).sessions key
      dsimp only
      rw [get?_delete]
      split_ifs
      · rfl
      · exact hremoved

theorem get?_perform_eq_some {call : RegistryCall} {key : String} {record' : SessionRecord}
    (h : (r.perform call).sessions.get? key = some record') :
    (∃ criteria, call.op = .createSessionRecord key criteria ∧
      record'.unpooled = (r.createSessionRecord call.now key criteria).1.unpooled) ∨
    ∃ record, r.sessions.get? key = some record ∧
      record'.unpooled = (record.afterCall r.config call).unpooled := by
  have hleaves := r.get?_perform call key
  rw [h, Option.map_some] at hleaves
  obtain ⟨left, hleft, hsame⟩ := Option.map_eq_some_iff.mp hleaves.symm
  rw [← hsame]
  have hmap : ∀ {f : SessionRecord → SessionRecord}, (r.sessions.get? key).map f = some left →
      ∃ record, r.sessions.get? key = some record ∧ left.unpooled = (f record).unpooled := by
    intro f hmap
    obtain ⟨record, hget, rfl⟩ := Option.map_eq_some_iff.mp hmap
    exact ⟨record, hget, rfl⟩
  obtain ⟨now, op⟩ := call
  cases op with
  | createSessionRecord sessionId criteria =>
    simp only [RegistryCall.leaves] at hleft
    split_ifs at hleft with hkey
    · subst hkey
      rw [← Option.some.inj hleft]
      exact Or.inl ⟨criteria, rfl, rfl⟩
    · exact Or.inr ⟨left, hleft, rfl⟩
  | cleanup => exact Or.inr ⟨left, (Option.filter_eq_some_iff.mp hleft).1, rfl⟩
  | deleteSession sessionId =>
    simp only [RegistryCall.leaves] at hleft
    split_ifs at hleft
    exact Or.inr ⟨left, hleft, rfl⟩
  | _ => exact Or.inr (hmap hleft)

end calls

section leases

variable {r : SessionRegistry} {call : RegistryCall} {sessionId jobId : String}

theorem leases_eq_true_iff : r.leases call sessionId jobId = true ↔
    call.op = .leaseSession sessionId jobId ∧ ∃ record,
      r.sessions.get? sessionId = some record ∧ record.isLeased call.now = false := by
  rw [leases, Bool.and_eq_true, decide_eq_true_iff]
  refine and_congr_right fun _ => ?_
  unfold leaseSession
  cases r.sessions.get? sessionId with
  | none => simp
  | some record => cases hleased : record.isLeased call.now <;> simp [hleased]

theorem releases_eq_true_iff : r.releases call sessionId jobId = true ↔
    call.op = .releaseSession sessionId jobId ∧ ∃ record,
      r.sessions.get? sessionId = some record ∧ record.leasedBy = some jobId := by
  rw [releases, Bool.and_eq_true, decide_eq_true_iff]
  refine and_congr_right fun _ => ?_
  unfold releaseSession
  cases r.sessions.get? sessionId with
  | none => simp
  | some record => by_cases hleased : record.leasedBy = some jobId <;> simp [hleased]

end leases

section searches

variable {r : SessionRegistry} {call : RegistryCall} {record' : SessionRecord}

theorem healthScore_afterCall {criteria : SessionSearchCriteria}
    (h : call.op.criteria? = some criteria) (config : SessionRegistryConfig)
    (record : SessionRecord) : (record.afterCall config call).healthScore = record.healthScore := by
  obtain ⟨now, op⟩ := call
  cases op with
  | findReusableSession criteria =>
    simp only [afterCall, clearExpiredLease]
    split_ifs <;> rfl
  | getWarmPoolSession criteria => rfl
  | _ => cases h

theorem returned_eq_some (h : r.returned call = some record') :
    ∃ criteria record, call.op.criteria? = some criteria ∧
      r.sessions.get? record'.sessionId = some record ∧
      r.isEligible call.now criteria record = true ∧
      record'.unpooled = (record.afterCall r.config call).unpooled ∧
      (call.op = .getWarmPoolSession criteria →
        r.config.enableWarmPool = true ∧ record'.sessionId ∈ r.warmPoolSessions) := by
  obtain ⟨now, op⟩ := call
  cases op with
  | findReusableSession criteria =>
    have hchanged := (r.changed_findReusableSession now criteria).sessions
    simp only [returned, findReusableSession] at h
    simp only [findReusableSession] at hchanged
    cases hbest : (rankCandidates now ((r.sessions.values.filter (r.isEligible now criteria)).map
        (clearExpiredLease · now))).head? with
    | none =>
      rw [hbest] at h
      cases h
    | some selected =>
      simp only [hbest] at h hchanged
      have hcandidate := (List.mem_insertionSort _).mp (List.mem_of_mem_head? hbest)
      obtain ⟨record, hrecord, hselected⟩ := List.mem_map.mp hcandidate
      obtain ⟨hmem, heligible⟩ := List.mem_filter.mp hrecord
      have hselectedId : selected.sessionId = record.sessionId := by
        rw [← hselected]
        unfold clearExpiredLease
        split_ifs <;> rfl
      have hid : record'.sessionId = record.sessionId := (key_of_get? _ h).trans hselectedId
      have hget := r.sessions.mem_values_iff.mp hmem
      have hsame := hchanged selected.sessionId
      rw [h, hselectedId, hget] at hsame
      refine ⟨criteria, record, rfl, hid ▸ hget, heligible, Option.some.inj hsame, ?_⟩
      intro hop
      cases hop
  | getWarmPoolSession criteria =>
    simp only [returned, getWarmPoolSession] at h
    split_ifs at h with hdisabled
    have heligible := List.find?_some h
    obtain ⟨sessionId, hpool, hget⟩ := List.mem_filterMap.mp (List.mem_of_find?_eq_some h)
    have hid := r.sessions.key_of_get? hget
    refine ⟨criteria, record', rfl, hid ▸ hget, heligible, rfl, fun _ => ⟨?_, hid ▸ hpool⟩⟩
    simpa using hdisabled
  | _ => cases h

end searches

def isPooled (r : SessionRegistry) (key : String) : Bool := (r.sessions.get? key).any inWarmPool

/-- One registry does not keep a session warm that the other does not. -/
structure NotPooled (key : String) (r r' : SessionRegistry) : Prop where
  ids : key ∈ r'.warmPoolSessions → key ∈ r.warmPoolSessions
  marked : r'.isPooled key = true → r.isPooled key = true

section notPooled

variable {r r' r'' : SessionRegistry} {key sessionId : String} {record record' : SessionRecord}

theorem NotPooled.refl (r : SessionRegistry) : NotPooled key r r := ⟨id, id⟩

theorem NotPooled.trans (h : NotPooled key r r') (h' : NotPooled key r' r'') :
    NotPooled key r r'' := ⟨h.ids ∘ h'.ids, h.marked ∘ h'.marked⟩

theorem notPooled_put {warmPoolSessions : List String} {warmPoolSize : Nat}
    (hget : r.sessions.get? sessionId = some record) (hid : record'.sessionId = record.sessionId)
    (hmarked : record'.inWarmPool = true → record.inWarmPool = true)
    (hids : key ∈ warmPoolSessions → key ∈ r.warmPoolSessions) :
    NotPooled key r { r.put record' with warmPoolSessions, warmPoolSize } := by
  refine ⟨hids, fun h => ?_⟩
  simp only [isPooled, put] at h ⊢
  rw [get?_put, hid, r.sessions.key_of_get? hget] at h
  split_ifs at h with hkey
  · rw [hkey, hget]
    exact hmarked h
  · exact h

theorem notPooled_removeFromWarmPool (r : SessionRegistry) (sessionId : String) :
    NotPooled key r (r.removeFromWarmPool sessionId) := by
  unfold removeFromWarmPool
  cases hget : r.sessions.get? sessionId with
  | none => exact .refl r
  | some record =>
    dsimp only
    split_ifs
    · exact .refl r
    · exact notPooled_put hget rfl nofun List.mem_of_mem_erase

theorem notPooled_considerForWarmPool (r : SessionRegistry) (now : Timestamp)
    (hne : key ≠ sessionId) : NotPooled key r (r.considerForWarmPool now sessionId) := by
  unfold considerForWarmPool addToWarmPool
  cases hget : r.sessions.get? sessionId with
  | none => exact .refl r
  | some record =>
    have hid := r.sessions.key_of_get? hget
    dsimp only
    split_ifs with hfit hmarked hin
    · exact .refl r
    · refine ⟨fun h => h, fun h => ?_⟩
      simp only [isPooled, put] at h ⊢
      rw [get?_put_of_ne _ (hid.symm ▸ hne)] at h
      exact h
    · refine ⟨fun h => ?_, fun h => ?_⟩
      · rcases List.mem_append.mp h with h | h
        · exact h
        · exact absurd (List.mem_singleton.mp h) hne
      · simp only [isPooled, put] at h ⊢
        rw [get?_put_of_ne _ (hid.symm ▸ hne)] at h
        exact h
    · exact .refl r

theorem notPooled_updateHealthScore (r : SessionRegistry) (sessionId : String) (success : Bool) :
    NotPooled key r (r.updateHealthScore sessionId success) := by
  unfold updateHealthScore
  cases hget : r.sessions.get? sessionId with
  | none => exact .refl r
  | some record =>
    have hput : NotPooled key r (r.put { record with
        healthScore := calculateHealthScore record.healthScore success r.config }) :=
      notPooled_put hget rfl id id
    dsimp only
    split_ifs
    · exact hput.trans (notPooled_removeFromWarmPool _ sessionId)
    · exact hput

theorem notPooled_perform {call : RegistryCall}
    (hreleases : ∀ jobId, r.releases call key jobId = false)
    (hready : call.op ≠ .markSessionReady key) : NotPooled key r (r.perform call) := by
  obtain ⟨now, op⟩ := call
  cases op with
  | createSessionRecord sessionId criteria =>
    refine ⟨id, fun h => ?_⟩
    simp only [isPooled, perform, createSessionRecord, put] at h ⊢
    rw [get?_put] at h
    split_ifs at h
    · cases h
    · exact h
  | findReusableSession criteria =>
    have hsearched : NotPooled key r { r with
        sessions := r.sessions.mapValues (r.searched now criteria)
          (r.searched_sessionId now criteria) } := by
      have hmarked : ∀ record, (r.searched now criteria record).inWarmPool = record.inWarmPool := by
        intro record
        unfold searched clearExpiredLease
        split_ifs <;> rfl
      refine ⟨id, fun h => ?_⟩
      simp only [isPooled, get?_mapValues, Option.any_map] at h
      simpa only [isPooled, Function.comp_def, hmarked] using h
    simp only [perform, findReusableSession]
    split
    · exact hsearched
    · exact hsearched.trans (notPooled_removeFromWarmPool _ _)
  | getWarmPoolSession criteria => exact .refl r
  | leaseSession sessionId jobId =>
    simp only [perform, leaseSession]
    cases hget : r.sessions.get? sessionId with
    | none => exact .refl r
    | some record =>
      dsimp only
      split_ifs
      · exact .refl r
      · have hput : NotPooled key r (r.put { record with
            leasedBy := some jobId
            leaseExpiresAt := some (now + r.config.leaseTtlMs)
            state := .active
            lastActivityAt := now
            lastUsedAt := some now }) := notPooled_put hget rfl id id
        exact hput.trans (notPooled_removeFromWarmPool _ sessionId)
  | releaseSession sessionId jobId =>
    have hrefused := hreleases jobId
    simp only [releases, releaseSession] at hrefused
    simp only [perform, releaseSession]
    cases hget : r.sessions.get? sessionId with
    | none => exact .refl r
    | some record =>
      dsimp only
      split_ifs with hleased
      · exact .refl r
      · have hne : key ≠ sessionId := by
          rintro rfl
          rw [hget] at hrefused
          simp [hleased] at hrefused
        have hput : NotPooled key r (r.put { record with
            leasedBy := none
            leaseExpiresAt := none
            state := .idle
            lastActivityAt := now }) := notPooled_put hget rfl id id
        exact (hput.trans (notPooled_updateHealthScore _ sessionId true)).trans
          (notPooled_considerForWarmPool _ now hne)
  | markSessionDead sessionId error cleanupReason =>
    simp only [perform, markSessionDead]
    cases hget : r.sessions.get? sessionId with
    | none => exact .refl r
    | some record =>
      have hput : NotPooled key r (r.put { record with
          state := .dead
          error
          cleanupReason := some (cleanupReason.getD .taskFailed)
          lastActivityAt := now }) := notPooled_put hget rfl id id
      exact (hput.trans (notPooled_removeFromWarmPool _ sessionId)).trans
        (notPooled_updateHealthScore _ sessionId false)
  | markSessionDraining sessionId cleanupReason =>
    simp only [perform, markSessionDraining]
    cases hget : r.sessions.get? sessionId with
    | none => exact .refl r
    | some record => exact notPooled_put hget rfl id id
  | markSessionReady sessionId =>
    simp only [perform, markSessionReady]
    cases hget : r.sessions.get? sessionId with
    | none => exact .refl r
    | some record =>
      have hne : key ≠ sessionId := fun h => hready (h ▸ rfl)
      have hput : NotPooled key r (r.put { record with state := .ready, lastActivityAt := now }) :=
        notPooled_put hget rfl id id
      exact hput.trans (notPooled_considerForWarmPool _ now hne)
  | processOrphans =>
    have hmarked : ∀ record : SessionRecord,
        (orphanProcessed now r.config.leaseTtlMs record).inWarmPool = record.inWarmPool := by
      intro record
      unfold orphanProcessed
      split_ifs <;> rfl
    refine ⟨id, fun h => ?_⟩
    simp only [perform, processOrphans, isPooled, get?_mapValues, Option.any_map] at h
    simpa only [isPooled, Function.comp_def, hmarked] using h
  | cleanup =>
    refine ⟨id, fun h => ?_⟩
    simp only [perform, cleanup, isPooled, get?_deleteAll] at h
    split_ifs at h
    · cases h
    · exact h
  | deleteSession sessionId =>
    simp only [perform, deleteSession]
    cases hget : r.sessions.get? sessionId with
    | none => exact .refl r
    | some record =>
      have hremoved : NotPooled key r _ := notPooled_removeFromWarmPool r sessionId
      refine ⟨hremoved.ids, fun h => hremoved.marked ?_⟩
      simp only [isPooled, get?_delete] at h
      split_ifs at h
      · cases h
      · exact h

end notPooled

end SessionRegistry

end ShipyardCp.Domain
