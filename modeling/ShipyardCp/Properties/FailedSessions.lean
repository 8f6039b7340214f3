import ShipyardCp.Domain.SessionExecutor
import ShipyardCp.Properties.SessionLeases

/-! Whether the executor hands out a session again in which a job failed, what it leaves leased when it
returns, and which jobs run in one session at a time. -/

namespace ShipyardCp.Properties

open Types Domain Lib SessionExecutor SessionRegistry SessionRecord Machine

def UsesSession (sessionId : String) (e : SessionExecution) : Prop :=
  e.session = some sessionId ∧ (e.phase = .writing ∨ e.phase = .running)

/-- The session in which an execution fails or throws with a step, and its job. -/
def failsIn? (s : SessionExecutor) (step : SessionStep) : Option (String × String) :=
  let failed := fun k => (s.executions[k]?).bind fun e => e.session.map fun id => (id, e.jobId)
  match step.action with
  | .written k false => failed k
  | .ran k false _ => failed k
  | .collected k false => failed k
  | _ => none

/-- The session that a step leases, and the job that it leases it to. -/
def leasesTo? (s : SessionExecutor) (step : SessionStep) : Option (String × String) :=
  match step.action with
  | .execute jobId criteria =>
    (s.registry.reuseSession step.now jobId criteria).1.map fun id => (id, jobId)
  | .created k (some sessionId) => (s.executions[k]?).map fun e => (sessionId, e.jobId)
  | _ => none

def FailedIn (sessionId jobId : String) (h : History SessionExecutor SessionStep) : Prop :=
  Machine.Occurs (fun s step => failsIn? s step = some (sessionId, jobId)) h

def LeasesUnfailed (h : History SessionExecutor SessionStep) (s : SessionExecutor)
    (step : SessionStep) : Prop :=
  ∀ sessionId jobId other, FailedIn sessionId jobId h →
    leasesTo? s step = some (sessionId, other) → other = jobId

/-- The job of an execution that returns with a step holds no lease. -/
def ReturnsFreed (s s' : SessionExecutor) : Prop :=
  ∀ (k : Nat) (e e' : SessionExecution), s.executions[k]? = some e → e.phase ≠ .returned →
    s'.executions[k]? = some e' → e'.phase = .returned →
    ∀ sessionId record, s'.registry.sessions.get? sessionId = some record →
      record.leasedBy ≠ some e'.jobId

/-- A job that runs under an unexpired lease is alone in its session. -/
def RunsAlone (s : SessionExecutor) : Prop :=
  ∀ (i j : Nat) (a b : SessionExecution) (sessionId : String) (record : SessionRecord),
    s.executions[i]? = some a → s.executions[j]? = some b → UsesSession sessionId a →
    a.phase = .running → UsesSession sessionId b →
    s.registry.sessions.get? sessionId = some record → record.leasedBy = some a.jobId →
    record.isLeased s.clock = true → b.jobId = a.jobId

/-- Sessions in which a job failed are not leased to another, jobs give up their leases, and do not
share sessions. -/
structure SessionsKeptApart (h : History SessionExecutor SessionStep) (s : SessionExecutor) :
    Prop where
  unfailed : Machine.EveryStep sessionExecutors (fun h s step _ => LeasesUnfailed h s step) h
  freed : Machine.EveryStep sessionExecutors (fun _ s _ s' => ReturnsFreed s s') h
  alone : RunsAlone s

def AtRest (record : SessionRecord) : Prop := record.state = .dead ∧ record.leasedBy = none

def SessionSpent (s : SessionExecutor) (k : Nat) : Prop :=
  ∀ e ∈ s.executions[k]?, ∀ sessionId ∈ e.session,
    ∀ record ∈ s.registry.sessions.get? sessionId, AtRest record

/-- The search of a job meets no session that an execution still uses after its lease has run out, and
none of which an execution that failed still collects the artifacts. -/
def SearchesApart (s : SessionExecutor) (now : Timestamp) (criteria : SessionSearchCriteria) : Prop :=
  ∀ e ∈ s.executions, ∀ sessionId ∈ e.session,
    ∀ record ∈ s.registry.sessions.get? sessionId, record.Fits criteria →
      (UsesSession sessionId e → record.leaseExpired now = false) ∧
      ∀ error, e.phase ≠ .collecting false error

/-- A job with a name begins while no execution of it is under way and its search meets no session that
is not to be had, the server creates sessions with new ids, and what throws has no session left. -/
def ExecutesApart (s : SessionExecutor) (step : SessionStep) : Prop :=
  match step.action with
  | .execute jobId criteria => jobId ≠ "" ∧
    (∀ e ∈ s.executions, e.jobId = jobId → e.phase = .returned) ∧ SearchesApart s step.now criteria
  | .created _ (some sessionId) => s.registry.sessions.get? sessionId = none ∧
    ∀ e ∈ s.executions, e.session ≠ some sessionId
  | .written k false => SessionSpent s k
  | .collected k false => SessionSpent s k
  | _ => True

section registry

variable {r : SessionRegistry} {now : Timestamp} {key sessionId jobId : String}
  {record' : SessionRecord}

def SameHolder (record record' : SessionRecord) : Prop :=
  record'.leasedBy = record.leasedBy ∧ record'.state = record.state

theorem sameHolder_of_unpooled {record : SessionRecord} (h : record'.unpooled = record.unpooled) :
    SameHolder record record' := by
  have hleased : record'.unpooled.leasedBy = record.unpooled.leasedBy := by rw [h]
  have hstate : record'.unpooled.state = record.unpooled.state := by rw [h]
  exact ⟨hleased, hstate⟩

theorem holder_perform {op : RegistryOp} (h : (r.perform ⟨now, op⟩).sessions.get? key = some record')
    (hop : ∀ criteria, op ≠ .createSessionRecord key criteria) :
    ∃ record, r.sessions.get? key = some record ∧ record.sessionId = key ∧
      SameHolder (record.afterCall r.config ⟨now, op⟩) record' := by
  rcases r.get?_perform_eq_some h with ⟨criteria, hcreated, _⟩ | ⟨record, hget, hsame⟩
  · exact absurd hcreated (hop criteria)
  · exact ⟨record, hget, r.sessions.key_of_get? hget, sameHolder_of_unpooled hsame⟩

theorem holder_findReusableSession {criteria : SessionSearchCriteria}
    (h : (r.findReusableSession now criteria).2.sessions.get? key = some record') :
    ∃ record, r.sessions.get? key = some record ∧ (SameHolder record record' ∨
      r.isEligible now criteria record = true ∧ record.leaseExpired now = true ∧
        record'.leasedBy = none) := by
  have hafter : (r.perform ⟨now, .findReusableSession criteria⟩).sessions.get? key = some record' := h
  obtain ⟨record, hget, _, hleased, hstate⟩ := holder_perform hafter nofun
  refine ⟨record, hget, ?_⟩
  simp only [afterCall, clearExpiredLease] at hleased hstate
  split_ifs at hleased hstate with heligible hexpired
  · exact Or.inr ⟨heligible, hexpired, hleased⟩
  · exact Or.inl ⟨hleased, hstate⟩
  · exact Or.inl ⟨hleased, hstate⟩

theorem holder_leaseSession
    (h : (r.leaseSession now sessionId jobId).2.sessions.get? key = some record') :
    ∃ record, r.sessions.get? key = some record ∧
      ((key = sessionId → record.isLeased now = true) ∧ SameHolder record record' ∨
        key = sessionId ∧ record.isLeased now = false ∧ record'.leasedBy = some jobId) := by
  have hafter : (r.perform ⟨now, .leaseSession sessionId jobId⟩).sessions.get? key = some record' := h
  obtain ⟨record, hget, hid, hleased, hstate⟩ := holder_perform hafter nofun
  refine ⟨record, hget, ?_⟩
  simp only [afterCall] at hleased hstate
  split_ifs at hleased hstate with hfree
  · exact Or.inr ⟨by rw [hfree.1, hid], by simpa using hfree.2, hleased⟩
  · refine Or.inl ⟨fun hkey => ?_, hleased, hstate⟩
    by_contra hnot
    exact hfree ⟨by rw [← hkey, hid], by simpa using hnot⟩

theorem holder_releaseSession
    (h : (r.releaseSession now sessionId jobId).2.sessions.get? key = some record') :
    ∃ record, r.sessions.get? key = some record ∧
      ((key = sessionId → record.leasedBy ≠ some jobId) ∧ SameHolder record record' ∨
        key = sessionId ∧ record.leasedBy = some jobId ∧ record'.leasedBy = none) := by
  have hafter : (r.perform ⟨now, .releaseSession sessionId jobId⟩).sessions.get? key = some record' := h
  obtain ⟨record, hget, hid, hleased, hstate⟩ := holder_perform hafter nofun
  refine ⟨record, hget, ?_⟩
  simp only [afterCall] at hleased hstate
  split_ifs at hleased hstate with hreleases
  · exact Or.inr ⟨by rw [hreleases.1, hid], hreleases.2, hleased⟩
  · refine Or.inl ⟨fun hkey hheld => hreleases ⟨?_, hheld⟩, hleased, hstate⟩
    rw [← hkey, hid]

theorem holder_markSessionDead {error : Option String} {reason : Option CleanupReason}
    (h : (r.markSessionDead now sessionId error reason).sessions.get? key = some record') :
    ∃ record, r.sessions.get? key = some record ∧ record'.leasedBy = record.leasedBy ∧
      (record'.state = .dead ∨ key ≠ sessionId ∧ record'.state = record.state) := by
  have hafter : (r.perform ⟨now, .markSessionDead sessionId error reason⟩).sessions.get? key = some record' := h
  obtain ⟨record, hget, hid, hleased, hstate⟩ := holder_perform hafter nofun
  refine ⟨record, hget, ?_⟩
  simp only [afterCall] at hleased hstate
  split_ifs at hleased hstate with hmarked
  · exact ⟨hleased, Or.inl hstate⟩
  · refine ⟨hleased, Or.inr ⟨?_, hstate⟩⟩
    rintro rfl
    exact hmarked hid.symm

theorem holder_processOrphans (h : (r.processOrphans now).sessions.get? key = some record') :
    ∃ record, r.sessions.get? key = some record ∧ (SameHolder record record' ∨ AtRest record') := by
  have hafter : (r.perform ⟨now, .processOrphans⟩).sessions.get? key = some record' := h
  obtain ⟨record, hget, _, hleased, hstate⟩ := holder_perform hafter nofun
  refine ⟨record, hget, ?_⟩
  simp only [afterCall, orphanProcessed] at hleased hstate
  split_ifs at hleased hstate
  · exact Or.inr ⟨hstate, hleased⟩
  · exact Or.inl ⟨hleased, hstate⟩

theorem holder_cleanup (h : (r.cleanup now).sessions.get? key = some record') :
    ∃ record, r.sessions.get? key = some record ∧ SameHolder record record' := by
  have hafter : (r.perform ⟨now, .cleanup⟩).sessions.get? key = some record' := h
  obtain ⟨record, hget, _, hsame⟩ := holder_perform hafter nofun
  exact ⟨record, hget, hsame⟩

theorem holder_addSession {criteria : SessionSearchCriteria}
    (h : (r.addSession now sessionId jobId criteria).sessions.get? key = some record') :
    key = sessionId ∧ record'.leasedBy = some jobId ∨
      key ≠ sessionId ∧ ∃ record, r.sessions.get? key = some record ∧ SameHolder record record' := by
  unfold addSession at h
  set leased := ((r.createSessionRecord now sessionId criteria).2.leaseSession now sessionId jobId).2
  have hafter : (leased.perform ⟨now, .markSessionReady sessionId⟩).sessions.get? key =
    some record' := h
  obtain ⟨record, hget, hid, hleased, hstate⟩ := holder_perform hafter nofun
  obtain ⟨before, hbefore, hlease⟩ := holder_leaseSession hget
  simp only [afterCall] at hleased hstate
  simp only [createSessionRecord, put] at hbefore
  rw [KeyedMap.get?_put] at hbefore
  split_ifs at hbefore with hkey
  · left
    subst hkey
    obtain rfl := Option.some.inj hbefore
    rcases hlease with ⟨hheld, _⟩ | ⟨_, _, hjob⟩
    · cases hheld rfl
    · refine ⟨rfl, ?_⟩
      split_ifs at hleased
      · exact hleased.trans hjob
      · exact hleased.trans hjob
  · right
    have hready : ¬sessionId = record.sessionId := fun hsession => hkey (by rw [hsession, hid])
    rw [if_neg hready] at hleased hstate
    rcases hlease with ⟨_, hsame⟩ | ⟨hcontra, _⟩
    · exact ⟨hkey, before, hbefore, hleased.trans hsame.1, hstate.trans hsame.2⟩
    · exact absurd hcontra hkey

theorem reuseSession_eq_some {criteria : SessionSearchCriteria}
    (h : (r.reuseSession now jobId criteria).1 = some sessionId) :
    (∃ record, r.sessions.get? sessionId = some record ∧ r.isEligible now criteria record = true) ∧
    ∀ record', (r.reuseSession now jobId criteria).2.sessions.get? sessionId = some record' →
      record'.leasedBy = some jobId := by
  unfold reuseSession at h ⊢
  cases hfound : (r.findReusableSession now criteria).1 with
  | none =>
    simp only [hfound] at h
    cases h
  | some session =>
    simp only [hfound] at h ⊢
    have hreturned : r.returned ⟨now, .findReusableSession criteria⟩ = some session := hfound
    obtain ⟨_, record, hcriteria, hget, heligible, _⟩ := returned_eq_some hreturned
    obtain rfl := Option.some.inj hcriteria
    split_ifs at h with hleases
    obtain rfl := Option.some.inj h
    refine ⟨⟨record, hget, heligible⟩, fun record' hget' => ?_⟩
    obtain ⟨before, hbefore, hcase⟩ := holder_leaseSession hget'
    rcases hcase with ⟨hheld, _⟩ | ⟨_, _, hjob⟩
    · unfold leaseSession at hleases
      rw [hbefore] at hleases
      simp [hheld rfl] at hleases
    · exact hjob

theorem holder_reuseSession {criteria : SessionSearchCriteria}
    (h : (r.reuseSession now jobId criteria).2.sessions.get? key = some record') :
    ∃ record, r.sessions.get? key = some record ∧ (SameHolder record record' ∨
      r.isEligible now criteria record = true ∧ (record'.leasedBy = none ∨
        (r.reuseSession now jobId criteria).1 = some key ∧ record'.leasedBy = some jobId)) := by
  unfold reuseSession at h ⊢
  cases hfound : (r.findReusableSession now criteria).1 with
  | none =>
    simp only [hfound] at h ⊢
    obtain ⟨record, hget, hsame | ⟨heligible, _, hcleared⟩⟩ := holder_findReusableSession h
    · exact ⟨record, hget, Or.inl hsame⟩
    · exact ⟨record, hget, Or.inr ⟨heligible, Or.inl hcleared⟩⟩
  | some session =>
    simp only [hfound] at h ⊢
    obtain ⟨searched, hsearched, hlease⟩ := holder_leaseSession h
    obtain ⟨record, hget, hfind⟩ := holder_findReusableSession hsearched
    refine ⟨record, hget, ?_⟩
    rcases hlease with ⟨_, hsame⟩ | ⟨rfl, hfree, hjob⟩
    · rcases hfind with hfind | ⟨heligible, _, hcleared⟩
      · exact Or.inl ⟨hsame.1.trans hfind.1, hsame.2.trans hfind.2⟩
      · exact Or.inr ⟨heligible, Or.inl (hsame.1.trans hcleared)⟩
    · have hreturned : r.returned ⟨now, .findReusableSession criteria⟩ = some session := hfound
      obtain ⟨_, found, hcriteria, hfoundGet, heligible, _⟩ := returned_eq_some hreturned
      obtain rfl := Option.some.inj hcriteria
      obtain rfl := Option.some.inj (hfoundGet.symm.trans hget)
      refine Or.inr ⟨heligible, Or.inr ⟨?_, hjob⟩⟩
      unfold leaseSession
      rw [hsearched]
      simp [hfree]

end registry

/-- Leases name jobs that use the session, jobs that use a session hold it or find it at rest, and an
open execution is the only one of its job. -/
structure SessionsInvariant (r : SessionRegistry) (executions : List SessionExecution) : Prop where
  named : ∀ e ∈ executions, e.jobId ≠ ""
  fresh : ∀ e ∈ executions, e.phase = .creating → e.session = none
  holders : ∀ sessionId record jobId, r.sessions.get? sessionId = some record →
    record.leasedBy = some jobId → ∃ e ∈ executions, UsesSession sessionId e ∧ e.jobId = jobId
  users : ∀ e ∈ executions, ∀ sessionId record, UsesSession sessionId e →
    r.sessions.get? sessionId = some record → record.leasedBy = some e.jobId ∨ AtRest record
  single : ∀ (i j : Nat) (a b : SessionExecution), executions[i]? = some a →
    executions[j]? = some b → a.phase ≠ .returned → b.phase ≠ .returned → a.jobId = b.jobId → i = j

/-- The session of an execution is free, and dead or about to be marked so. -/
structure Spoiled (r : SessionRegistry) (executions : List SessionExecution) (sessionId : String) :
    Prop where
  used : ∃ e ∈ executions, e.session = some sessionId
  free : ∀ record ∈ r.sessions.get? sessionId, record.leasedBy = none
  retired : ∀ record ∈ r.sessions.get? sessionId, record.state = .dead ∨
    ∃ e ∈ executions, e.session = some sessionId ∧ ∃ error, e.phase = .collecting false error

section apart

variable {s s' : SessionExecutor} {now : Timestamp} {criteria : SessionSearchCriteria}
  {record : SessionRecord} {sessionId : String}

theorem leaseExpired_of_free (h : record.leasedBy = none) : record.leaseExpired now = false := by
  unfold leaseExpired
  rw [h]
  rfl

theorem not_eligible_of_atRest (r : SessionRegistry) (h : AtRest record) :
    r.isEligible now criteria record = false := by
  refine Bool.eq_false_iff.mpr fun heligible => ?_
  obtain ⟨_, hexpired | ⟨_, hstate, _⟩⟩ :=
    checkReuseEligibility_eq_none_iff.mp (Option.isNone_iff_eq_none.mp heligible)
  · rw [leaseExpired_of_free h.2] at hexpired
    cases hexpired
  · rw [h.1] at hstate
    rcases hstate with hstate | hstate
    · cases hstate
    · cases hstate

theorem not_eligible_of_used {e : SessionExecution}
    (hinv : SessionsInvariant s.registry s.executions) (hapart : SearchesApart s now criteria)
    (he : e ∈ s.executions) (huses : UsesSession sessionId e)
    (hget : s.registry.sessions.get? sessionId = some record) :
    s.registry.isEligible now criteria record = false := by
  rcases hinv.users e he sessionId record huses hget with hheld | hrest
  · refine Bool.eq_false_iff.mpr fun heligible => ?_
    obtain ⟨hfits, hcase⟩ :=
      checkReuseEligibility_eq_none_iff.mp (Option.isNone_iff_eq_none.mp heligible)
    have hlive := (hapart e he sessionId huses.1 record hget hfits).1 huses
    rcases hcase with hexpired | ⟨hunnamed, _⟩
    · rw [hlive] at hexpired
      cases hexpired
    · rw [hheld] at hunnamed
      simp [isTruthy, hinv.named e he] at hunnamed
  · exact not_eligible_of_atRest _ hrest

theorem not_eligible_of_spoiled (hspoiled : Spoiled s.registry s.executions sessionId)
    (hapart : SearchesApart s now criteria)
    (hget : s.registry.sessions.get? sessionId = some record) :
    s.registry.isEligible now criteria record = false := by
  have hfree := hspoiled.free record hget
  rcases hspoiled.retired record hget with hdead | ⟨e, he, hsession, error, hphase⟩
  · exact not_eligible_of_atRest _ ⟨hdead, hfree⟩
  · refine Bool.eq_false_iff.mpr fun heligible => ?_
    obtain ⟨hfits, _⟩ := checkReuseEligibility_eq_none_iff.mp (Option.isNone_iff_eq_none.mp heligible)
    exact (hapart e he sessionId hsession record hget hfits).2 error hphase

end apart

def QuietAt (sessionId : String) (r r' : SessionRegistry) : Prop :=
  ∀ record', r'.sessions.get? sessionId = some record' →
    ∃ record, r.sessions.get? sessionId = some record ∧ (record'.leasedBy = record.leasedBy ∧
      (record'.state = record.state ∨ record'.state = .dead) ∨ AtRest record')

def Quiet (r r' : SessionRegistry) : Prop := ∀ sessionId, QuietAt sessionId r r'

section invariant

variable {s s' : SessionExecutor} {r r' : SessionRegistry} {now : Timestamp} {k : Nat}
  {executions : List SessionExecution} {e : SessionExecution} {sessionId : String}

theorem quiet_markSessionDead {error : Option String} {reason : Option CleanupReason} :
    Quiet r (r.markSessionDead now sessionId error reason) := by
  intro key record' hget
  obtain ⟨record, hbefore, hleased, hstate | ⟨_, hstate⟩⟩ := holder_markSessionDead hget
  · exact ⟨record, hbefore, Or.inl ⟨hleased, Or.inr hstate⟩⟩
  · exact ⟨record, hbefore, Or.inl ⟨hleased, Or.inl hstate⟩⟩

theorem quiet_processOrphans : Quiet r (r.processOrphans now) := by
  intro key record' hget
  obtain ⟨record, hbefore, hsame | hrest⟩ := holder_processOrphans hget
  · exact ⟨record, hbefore, Or.inl ⟨hsame.1, Or.inl hsame.2⟩⟩
  · exact ⟨record, hbefore, Or.inr hrest⟩

theorem quiet_cleanup : Quiet r (r.cleanup now) := by
  intro key record' hget
  obtain ⟨record, hbefore, hsame⟩ := holder_cleanup hget
  exact ⟨record, hbefore, Or.inl ⟨hsame.1, Or.inl hsame.2⟩⟩

theorem SessionsInvariant.quiet (hinv : SessionsInvariant r executions) (hquiet : Quiet r r') :
    SessionsInvariant r' executions := by
  refine ⟨hinv.named, hinv.fresh, fun sessionId record' jobId hget' hheld => ?_,
    fun e he sessionId record' huses hget' => ?_, hinv.single⟩
  · obtain ⟨record, hget, ⟨hleased, _⟩ | hrest⟩ := hquiet sessionId record' hget'
    · exact hinv.holders sessionId record jobId hget (hleased ▸ hheld)
    · rw [hrest.2] at hheld
      cases hheld
  · obtain ⟨record, hget, ⟨hleased, hstate⟩ | hrest⟩ := hquiet sessionId record' hget'
    · rcases hinv.users e he sessionId record huses hget with hheld | hrest
      · exact Or.inl (hleased.trans hheld)
      · refine Or.inr ⟨?_, hleased.trans hrest.2⟩
        rcases hstate with hsame | hdead
        · exact hsame.trans hrest.1
        · exact hdead
    · exact Or.inr hrest

theorem Spoiled.quiet (hspoiled : Spoiled r executions sessionId)
    (hquiet : QuietAt sessionId r r') : Spoiled r' executions sessionId := by
  refine ⟨hspoiled.used, fun record' hget' => ?_, fun record' hget' => ?_⟩
  · obtain ⟨record, hget, ⟨hleased, _⟩ | hrest⟩ := hquiet record' hget'
    · exact hleased.trans (hspoiled.free record hget)
    · exact hrest.2
  · obtain ⟨record, hget, ⟨_, hsame | hdead⟩ | hrest⟩ := hquiet record' hget'
    · rw [hsame]
      exact hspoiled.retired record hget
    · exact Or.inl hdead
    · exact Or.inl hrest.1

theorem SessionsInvariant.setPhase {phase : ExecutePhase}
    (hinv : SessionsInvariant s.registry s.executions) (hget : s.executions[k]? = some e)
    (hopen : e.phase ≠ .returned) (hphase : phase ≠ .creating)
    (huses : ∀ sessionId, UsesSession sessionId { e with phase } → UsesSession sessionId e)
    (hleaves : ∀ sessionId record', UsesSession sessionId e →
      r'.sessions.get? sessionId = some record' → record'.leasedBy = some e.jobId →
      UsesSession sessionId { e with phase })
    (hregistry : ∀ sessionId record', r'.sessions.get? sessionId = some record' →
      ∃ record, s.registry.sessions.get? sessionId = some record ∧ (SameHolder record record' ∨
        record.leasedBy = some e.jobId ∧ record'.leasedBy = none ∧
          ¬UsesSession sessionId { e with phase })) :
    SessionsInvariant r' (s.setPhase k phase) := by
  have hafter : ∀ {m : Nat} {a' : SessionExecution}, (s.setPhase k phase)[m]? = some a' →
      ∃ a, s.executions[m]? = some a ∧ a'.jobId = a.jobId ∧
        (a'.phase = .creating → a' = a) ∧ (a'.phase ≠ .returned → a.phase ≠ .returned) ∧
        (m ≠ k ∧ a' = a ∨ m = k ∧ a' = { e with phase }) := by
    intro m a' ha'
    obtain ⟨a, ha, ⟨hne, rfl⟩ | ⟨rfl, rfl⟩⟩ := modify_eq_some ha'
    · exact ⟨a', ha, rfl, fun _ => rfl, id, Or.inl ⟨hne, rfl⟩⟩
    · obtain rfl := Option.some.inj (hget.symm.trans ha)
      exact ⟨e, ha, rfl, fun h => absurd h hphase, fun _ => hopen, Or.inr ⟨rfl, rfl⟩⟩
  refine ⟨fun a' ha' => ?_, fun a' ha' hcreating => ?_, fun sessionId record' jobId hget' hheld => ?_,
    fun a' ha' sessionId record' huses' hget' => ?_, fun i j a' b' ha' hb' hopenA hopenB hsame => ?_⟩
  · obtain ⟨m, hm⟩ := List.mem_iff_getElem?.mp ha'
    obtain ⟨a, ha, hjob, _⟩ := hafter hm
    rw [hjob]
    exact hinv.named a (List.mem_of_getElem? ha)
  · obtain ⟨m, hm⟩ := List.mem_iff_getElem?.mp ha'
    obtain ⟨a, ha, _, hkept, _⟩ := hafter hm
    obtain rfl := hkept hcreating
    exact hinv.fresh a' (List.mem_of_getElem? ha) hcreating
  · obtain ⟨record, hbefore, ⟨hleased, _⟩ | ⟨_, hfreed, _⟩⟩ := hregistry sessionId record' hget'
    · obtain ⟨a, ha, husesA, rfl⟩ := hinv.holders sessionId record jobId hbefore (hleased ▸ hheld)
      obtain ⟨m, hm⟩ := List.mem_iff_getElem?.mp ha
      by_cases hkey : m = k
      · subst hkey
        obtain rfl := Option.some.inj (hget.symm.trans hm)
        exact ⟨_, List.mem_of_getElem? (modify_self hget),
          hleaves sessionId record' husesA hget' hheld, rfl⟩
      · exact ⟨a, List.mem_of_getElem? (modify_of_ne hkey hm), husesA, rfl⟩
    · rw [hfreed] at hheld
      cases hheld
  · obtain ⟨m, hm⟩ := List.mem_iff_getElem?.mp ha'
    obtain ⟨a, ha, hjob, _, _, hwhich⟩ := hafter hm
    have husesA : UsesSession sessionId a := by
      rcases hwhich with ⟨_, rfl⟩ | ⟨rfl, rfl⟩
      · exact huses'
      · obtain rfl := Option.some.inj (hget.symm.trans ha)
        exact huses sessionId huses'
    obtain ⟨record, hbefore, hcase⟩ := hregistry sessionId record' hget'
    have husers := hinv.users a (List.mem_of_getElem? ha) sessionId record husesA hbefore
    rcases hcase with ⟨hleased, hstate⟩ | ⟨hheld, _, hgone⟩
    · rw [hjob, hleased, AtRest, hleased, hstate]
      exact husers
    · rcases husers with hheldA | hrest
      · have hsame : a.jobId = e.jobId := Option.some.inj (hheldA.symm.trans hheld)
        have hopenA : a.phase ≠ .returned := by
          rcases husesA.2 with hphaseA | hphaseA
          · rw [hphaseA]
            nofun
          · rw [hphaseA]
            nofun
        have hkey := hinv.single m k a e ha hget hopenA hopen hsame
        rcases hwhich with ⟨hne, _⟩ | ⟨_, rfl⟩
        · exact absurd hkey hne
        · exact absurd huses' hgone
      · rw [hrest.2] at hheld
        cases hheld
  · obtain ⟨a, ha, hjobA, _, hopenA', _⟩ := hafter ha'
    obtain ⟨b, hb, hjobB, _, hopenB', _⟩ := hafter hb'
    exact hinv.single i j a b ha hb (hopenA' hopenA) (hopenB' hopenB)
      (hjobA.symm.trans (hsame.trans hjobB))

theorem SessionsInvariant.execute {jobId : String} {criteria : SessionSearchCriteria}
    (hinv : SessionsInvariant s.registry s.executions)
    (hapart : ExecutesApart s ⟨now, .execute jobId criteria⟩) :
    SessionsInvariant (s.execute now jobId criteria).registry
      (s.execute now jobId criteria).executions := by
  obtain ⟨hname, hidle, hsearch⟩ := hapart
  set began : SessionExecution := ⟨jobId, criteria, (s.registry.reuseSession now jobId criteria).1,
    if (s.registry.reuseSession now jobId criteria).1.isSome then .writing else .creating⟩ with hbegan
  have hexecutions : (s.execute now jobId criteria).executions = s.executions ++ [began] := rfl
  have hafter : ∀ {e'}, e' ∈ (s.execute now jobId criteria).executions →
      e' ∈ s.executions ∨ e' = began := by
    intro e' he'
    rw [hexecutions] at he'
    exact (List.mem_append.mp he').imp_right List.mem_singleton.mp
  refine ⟨fun e' he' => ?_, fun e' he' hcreating => ?_,
    fun sessionId record' holder hget' hheld => ?_,
    fun e' he' sessionId record' huses hget' => ?_, fun i j a b ha hb hopenA hopenB hsame => ?_⟩
  · rcases hafter he' with he | rfl
    · exact hinv.named e' he
    · exact hname
  · rcases hafter he' with he | rfl
    · exact hinv.fresh e' he hcreating
    · simp only [hbegan] at hcreating
      split_ifs at hcreating with hsome
      exact Option.not_isSome_iff_eq_none.mp hsome
  · rw [hexecutions]
    obtain ⟨record, hget, hsame | ⟨_, hfreed | ⟨hreused, hjob⟩⟩⟩ := holder_reuseSession hget'
    · obtain ⟨e, he, huses, hjob⟩ := hinv.holders sessionId record holder hget (hsame.1 ▸ hheld)
      exact ⟨e, List.mem_append_left _ he, huses, hjob⟩
    · rw [hfreed] at hheld
      cases hheld
    · refine ⟨began, List.mem_append_right _ (List.mem_singleton.mpr rfl), ⟨hreused, Or.inl ?_⟩,
        Option.some.inj (hjob.symm.trans hheld)⟩
      simp only [hbegan]
      rw [hreused]
      rfl
  · rcases hafter he' with he | rfl
    · obtain ⟨record, hget, hsame | ⟨heligible, _⟩⟩ := holder_reuseSession hget'
      · rw [hsame.1, AtRest, hsame.1, hsame.2]
        exact hinv.users e' he sessionId record huses hget
      · rw [not_eligible_of_used hinv hsearch he huses hget] at heligible
        cases heligible
    · exact Or.inl ((reuseSession_eq_some huses.1).2 record' hget')
  · have hindex : ∀ {m : Nat} {c : SessionExecution},
        (s.execute now jobId criteria).executions[m]? = some c →
        s.executions[m]? = some c ∨ m = s.executions.length ∧ c = began := by
      intro m c hc
      rw [hexecutions, List.getElem?_append] at hc
      split_ifs at hc with hlt
      · exact Or.inl hc
      · have hin : m - s.executions.length < 1 := (List.getElem?_eq_some_iff.mp hc).1
        exact Or.inr ⟨by omega, List.mem_singleton.mp (List.mem_of_getElem? hc)⟩
    have hother : ∀ {m : Nat} {c : SessionExecution}, s.executions[m]? = some c →
        c.phase ≠ .returned → c.jobId ≠ jobId := fun hc hopen hjob =>
      hopen (hidle _ (List.mem_of_getElem? hc) hjob)
    rcases hindex ha with ha | ⟨hi, rfl⟩
    · rcases hindex hb with hb | ⟨hj, rfl⟩
      · exact hinv.single i j a b ha hb hopenA hopenB hsame
      · exact absurd hsame (hother ha hopenA)
    · rcases hindex hb with hb | ⟨hj, rfl⟩
      · exact absurd hsame.symm (hother hb hopenB)
      · exact hi.trans hj.symm

theorem SessionsInvariant.created (hinv : SessionsInvariant s.registry s.executions)
    (hget : s.executions[k]? = some e) (hphase : e.phase = .creating)
    (hnew : ∀ a ∈ s.executions, a.session ≠ some sessionId) :
    SessionsInvariant (s.registry.addSession now sessionId e.jobId e.criteria)
      (s.executions.modify k fun e => { e with session := some sessionId, phase := .writing }) := by
  set began : SessionExecution → SessionExecution :=
    fun e => { e with session := some sessionId, phase := .writing }
  have hafter : ∀ {m : Nat} {a' : SessionExecution}, (s.executions.modify k began)[m]? = some a' →
      ∃ a, s.executions[m]? = some a ∧ a'.jobId = a.jobId ∧
        (a'.phase ≠ .returned → a.phase ≠ .returned) ∧ (m ≠ k ∧ a' = a ∨ m = k ∧ a' = began e) := by
    intro m a' ha'
    obtain ⟨a, ha, ⟨hne, rfl⟩ | ⟨rfl, rfl⟩⟩ := modify_eq_some ha'
    · exact ⟨a', ha, rfl, id, Or.inl ⟨hne, rfl⟩⟩
    · obtain rfl := Option.some.inj (hget.symm.trans ha)
      refine ⟨e, ha, rfl, fun _ => ?_, Or.inr ⟨rfl, rfl⟩⟩
      rw [hphase]
      nofun
  refine ⟨fun a' ha' => ?_, fun a' ha' hcreating => ?_, fun key record' jobId hget' hheld => ?_,
    fun a' ha' key record' huses hget' => ?_, fun i j a' b' ha' hb' hopenA hopenB hsame => ?_⟩
  · obtain ⟨m, hm⟩ := List.mem_iff_getElem?.mp ha'
    obtain ⟨a, ha, hjob, _⟩ := hafter hm
    rw [hjob]
    exact hinv.named a (List.mem_of_getElem? ha)
  · obtain ⟨m, hm⟩ := List.mem_iff_getElem?.mp ha'
    obtain ⟨a, ha, _, _, ⟨_, rfl⟩ | ⟨_, rfl⟩⟩ := hafter hm
    · exact hinv.fresh a' (List.mem_of_getElem? ha) hcreating
    · cases hcreating
  · rcases holder_addSession hget' with ⟨rfl, hjob⟩ | ⟨_, record, hbefore, hleased, _⟩
    · exact ⟨began e, List.mem_of_getElem? (modify_self hget),
        ⟨rfl, Or.inl rfl⟩, Option.some.inj (hjob.symm.trans hheld)⟩
    · obtain ⟨a, ha, husesA, hjob⟩ := hinv.holders key record jobId hbefore (hleased ▸ hheld)
      obtain ⟨m, hm⟩ := List.mem_iff_getElem?.mp ha
      refine ⟨a, List.mem_of_getElem? (modify_of_ne ?_ hm), husesA, hjob⟩
      rintro rfl
      obtain rfl := Option.some.inj (hget.symm.trans hm)
      have hnone := hinv.fresh e ha hphase
      rw [husesA.1] at hnone
      cases hnone
  · obtain ⟨m, hm⟩ := List.mem_iff_getElem?.mp ha'
    obtain ⟨a, ha, _, _, ⟨_, rfl⟩ | ⟨_, rfl⟩⟩ := hafter hm
    · have hmem := List.mem_of_getElem? ha
      rcases holder_addSession hget' with ⟨rfl, _⟩ | ⟨_, record, hbefore, hleased, hstate⟩
      · exact absurd huses.1 (hnew a' hmem)
      · rw [hleased, AtRest, hleased, hstate]
        exact hinv.users a' hmem key record huses hbefore
    · rcases holder_addSession hget' with ⟨_, hjob⟩ | ⟨hne, _⟩
      · exact Or.inl hjob
      · exact absurd (Option.some.inj huses.1).symm hne
  · obtain ⟨a, ha, hjobA, hopenA', _⟩ := hafter ha'
    obtain ⟨b, hb, hjobB, hopenB', _⟩ := hafter hb'
    exact hinv.single i j a b ha hb (hopenA' hopenA) (hopenB' hopenB)
      (hjobA.symm.trans (hsame.trans hjobB))

theorem UsesSession.notReturned (h : UsesSession sessionId e) : e.phase ≠ .returned := by
  rcases h.2 with hphase | hphase
  · rw [hphase]
    nofun
  · rw [hphase]
    nofun

theorem SessionsInvariant.leave {phase : ExecutePhase}
    (hinv : SessionsInvariant s.registry s.executions) (hget : s.executions[k]? = some e)
    (hopen : e.phase ≠ .returned)
    (hphase : phase ≠ .creating ∧ phase ≠ .writing ∧ phase ≠ .running)
    (hleft : ∀ sessionId record', UsesSession sessionId e →
      r'.sessions.get? sessionId = some record' → record'.leasedBy ≠ some e.jobId)
    (hregistry : ∀ sessionId record', r'.sessions.get? sessionId = some record' →
      ∃ record, s.registry.sessions.get? sessionId = some record ∧ (SameHolder record record' ∨
        record.leasedBy = some e.jobId ∧ record'.leasedBy = none)) :
    SessionsInvariant r' (s.setPhase k phase) := by
  have hgone : ∀ sessionId, ¬UsesSession sessionId { e with phase } := fun sessionId huses =>
    huses.2.elim hphase.2.1 hphase.2.2
  refine hinv.setPhase hget hopen hphase.1 (fun sessionId huses => absurd huses (hgone sessionId))
    (fun sessionId record' huses hget' hheld =>
      absurd hheld (hleft sessionId record' huses hget'))
    (fun sessionId record' hget' => ?_)
  obtain ⟨record, hbefore, hcase⟩ := hregistry sessionId record' hget'
  exact ⟨record, hbefore, hcase.imp_right fun hfreed => ⟨hfreed.1, hfreed.2, hgone sessionId⟩⟩

variable {action : SessionAction}

theorem sessionsInvariant_perform
    (hinv : SessionsInvariant s.registry s.executions) (hapart : ExecutesApart s ⟨now, action⟩)
    (h : s.perform now action = some s') : SessionsInvariant s'.registry s'.executions := by
  cases action with
  | execute jobId criteria =>
    obtain rfl := Option.some.inj h
    exact hinv.execute hapart
  | created k created? =>
    obtain ⟨e, hget, hphase, ⟨_, rfl⟩ | ⟨sessionId, rfl, rfl⟩⟩ := created_eq_some h
    · refine hinv.leave hget (by rw [hphase]; nofun) ⟨nofun, nofun, nofun⟩
        (fun sessionId record' huses _ => ?_) (fun _ record hget' => ⟨record, hget', Or.inl ⟨rfl, rfl⟩⟩)
      have hnone := hinv.fresh e (List.mem_of_getElem? hget) hphase
      rw [huses.1] at hnone
      cases hnone
    · exact hinv.created hget hphase hapart.2
  | written k ok =>
    obtain ⟨e, sessionId, hget, hphase, hsession, rfl⟩ := written_eq_some h
    have hopen : e.phase ≠ .returned := by
      rw [hphase]
      nofun
    cases ok with
    | true =>
      refine hinv.setPhase hget hopen nofun (fun key huses => ⟨huses.1, Or.inl hphase⟩)
        (fun key record' huses _ _ => ⟨huses.1, Or.inr rfl⟩)
        (fun _ record hget' => ⟨record, hget', Or.inl ⟨rfl, rfl⟩⟩)
    | false =>
      refine hinv.leave hget hopen ⟨nofun, nofun, nofun⟩ (fun key record' huses hget' => ?_)
        (fun _ record hget' => ⟨record, hget', Or.inl ⟨rfl, rfl⟩⟩)
      rw [(hapart e hget key huses.1 record' hget').2]
      nofun
  | ran k success error =>
    obtain ⟨e, sessionId, hget, hphase, hsession, rfl⟩ := ran_eq_some h
    refine hinv.leave hget (by rw [hphase]; nofun) ⟨nofun, nofun, nofun⟩
      (fun key record' huses hget' => ?_) (fun key record' hget' => ?_)
    · obtain ⟨record, _, ⟨hother, hleased, _⟩ | ⟨_, _, hfreed⟩⟩ := holder_releaseSession hget'
      · rw [hleased]
        exact hother (Option.some.inj (huses.1.symm.trans hsession))
      · rw [hfreed]
        nofun
    · obtain ⟨record, hbefore, ⟨_, hsame⟩ | ⟨_, hheld, hfreed⟩⟩ := holder_releaseSession hget'
      · exact ⟨record, hbefore, Or.inl hsame⟩
      · exact ⟨record, hbefore, Or.inr ⟨hheld, hfreed⟩⟩
  | collected k ok =>
    obtain ⟨e, sessionId, success, error, hget, hphase, hsession, rfl⟩ := collected_eq_some h
    have hleft : SessionsInvariant s.registry (s.setPhase k .returned) := by
      refine hinv.leave hget (by rw [hphase]; nofun) ⟨nofun, nofun, nofun⟩
        (fun key record' huses _ => ?_) (fun _ record hget' => ⟨record, hget', Or.inl ⟨rfl, rfl⟩⟩)
      have huses' := huses.2
      rw [hphase] at huses'
      exact huses'.elim nofun nofun
    dsimp only
    split_ifs
    · exact hleft.quiet quiet_markSessionDead
    · exact hleft
  | cancelled sessionId error =>
    obtain rfl := Option.some.inj h
    exact hinv.quiet quiet_markSessionDead
  | processOrphans =>
    obtain rfl := Option.some.inj h
    exact hinv.quiet quiet_processOrphans
  | cleanup =>
    obtain rfl := Option.some.inj h
    exact hinv.quiet quiet_cleanup

theorem Spoiled.modify {f : SessionExecution → SessionExecution}
    (hspoiled : Spoiled r s.executions sessionId) (hget : s.executions[k]? = some e)
    (hsession : e.session = some sessionId → (f e).session = some sessionId)
    (hcollecting : e.session = some sessionId → ∀ error, e.phase = .collecting false error →
      ∀ record, r.sessions.get? sessionId = some record → record.state = .dead) :
    Spoiled r (s.executions.modify k f) sessionId := by
  refine ⟨?_, hspoiled.free, fun record hrecord => ?_⟩
  · obtain ⟨a, ha, hin⟩ := hspoiled.used
    obtain ⟨m, hm⟩ := List.mem_iff_getElem?.mp ha
    by_cases hkey : m = k
    · subst hkey
      obtain rfl := Option.some.inj (hget.symm.trans hm)
      exact ⟨f e, List.mem_of_getElem? (modify_self hget), hsession hin⟩
    · exact ⟨a, List.mem_of_getElem? (modify_of_ne hkey hm), hin⟩
  · rcases hspoiled.retired record hrecord with hdead | ⟨a, ha, hin, error, hphase⟩
    · exact Or.inl hdead
    · obtain ⟨m, hm⟩ := List.mem_iff_getElem?.mp ha
      by_cases hkey : m = k
      · subst hkey
        obtain rfl := Option.some.inj (hget.symm.trans hm)
        exact Or.inl (hcollecting hin error hphase record hrecord)
      · exact Or.inr ⟨a, List.mem_of_getElem? (modify_of_ne hkey hm), hin, error, hphase⟩

theorem spoiled_perform
    (hinv : SessionsInvariant s.registry s.executions) (hapart : ExecutesApart s ⟨now, action⟩)
    (hspoiled : Spoiled s.registry s.executions sessionId) (h : s.perform now action = some s') :
    Spoiled s'.registry s'.executions sessionId := by
  cases action with
  | execute jobId criteria =>
    obtain rfl := Option.some.inj h
    have hquiet : QuietAt sessionId s.registry (s.registry.reuseSession now jobId criteria).2 := by
      intro record' hget'
      obtain ⟨record, hget, hsame | ⟨heligible, _⟩⟩ := holder_reuseSession hget'
      · exact ⟨record, hget, Or.inl ⟨hsame.1, Or.inl hsame.2⟩⟩
      · rw [not_eligible_of_spoiled hspoiled hapart.2.2 hget] at heligible
        cases heligible
    obtain ⟨hused, hfree, hretired⟩ := hspoiled.quiet hquiet
    refine ⟨?_, hfree, fun record hget => ?_⟩
    · obtain ⟨e, he, hin⟩ := hused
      exact ⟨e, List.mem_append_left _ he, hin⟩
    · refine (hretired record hget).imp_right ?_
      rintro ⟨e, he, hcollecting⟩
      exact ⟨e, List.mem_append_left _ he, hcollecting⟩
  | created k created? =>
    obtain ⟨e, hget, hphase, hcase⟩ := created_eq_some h
    have hnot : e.session ≠ some sessionId := by
      rw [hinv.fresh e (List.mem_of_getElem? hget) hphase]
      nofun
    rcases hcase with ⟨_, rfl⟩ | ⟨created, rfl, rfl⟩
    · exact hspoiled.modify hget id fun hin => absurd hin hnot
    · have hne : sessionId ≠ created := by
        rintro rfl
        obtain ⟨a, ha, hin⟩ := hspoiled.used
        exact hapart.2 a ha hin
      refine (hspoiled.quiet fun record' hget' => ?_).modify hget (fun hin => absurd hin hnot)
        fun hin => absurd hin hnot
      rcases holder_addSession hget' with ⟨hkey, _⟩ | ⟨_, record, hbefore, hleased, hstate⟩
      · exact absurd hkey hne
      · exact ⟨record, hbefore, Or.inl ⟨hleased, Or.inl hstate⟩⟩
  | written k ok =>
    obtain ⟨e, _, hget, hphase, _, rfl⟩ := written_eq_some h
    refine hspoiled.modify hget id fun _ error hcollecting => ?_
    rw [hphase] at hcollecting
    cases hcollecting
  | ran k success error =>
    obtain ⟨e, _, hget, hphase, _, rfl⟩ := ran_eq_some h
    refine (hspoiled.quiet fun record' hget' => ?_).modify hget id fun _ error hcollecting => ?_
    · obtain ⟨record, hbefore, ⟨_, hleased, hstate⟩ | ⟨_, hheld, _⟩⟩ := holder_releaseSession hget'
      · exact ⟨record, hbefore, Or.inl ⟨hleased, Or.inl hstate⟩⟩
      · rw [hspoiled.free record hbefore] at hheld
        cases hheld
    · rw [hphase] at hcollecting
      cases hcollecting
  | collected k ok =>
    obtain ⟨e, held, success, error, hget, hphase, hsession, rfl⟩ := collected_eq_some h
    dsimp only
    split_ifs with hmarks
    · refine (hspoiled.quiet (quiet_markSessionDead _)).modify hget id fun hin _ _ record' hget' => ?_
      obtain ⟨_, _, _, hdead | ⟨hne, _⟩⟩ := holder_markSessionDead hget'
      · exact hdead
      · exact absurd (Option.some.inj (hin.symm.trans hsession)) hne
    · refine hspoiled.modify hget id fun hin error' hcollecting record hrecord => ?_
      rw [hphase] at hcollecting
      obtain ⟨rfl, _⟩ := ExecutePhase.collecting.inj hcollecting
      have hfails : ok = false := by simpa using hmarks
      subst hfails
      exact (hapart e hget sessionId hin record hrecord).1
  | cancelled sessionId error =>
    obtain rfl := Option.some.inj h
    exact hspoiled.quiet (quiet_markSessionDead _)
  | processOrphans =>
    obtain rfl := Option.some.inj h
    exact hspoiled.quiet (quiet_processOrphans _)
  | cleanup =>
    obtain rfl := Option.some.inj h
    exact hspoiled.quiet (quiet_cleanup _)

theorem spoiled_of_fails {jobId : String}
    (hinv : SessionsInvariant s.registry s.executions) (hapart : ExecutesApart s ⟨now, action⟩)
    (hfails : failsIn? s ⟨now, action⟩ = some (sessionId, jobId))
    (h : s.perform now action = some s') : Spoiled s'.registry s'.executions sessionId := by
  have hheld : ∀ {k : Nat} {e : SessionExecution}, s.executions[k]? = some e →
      ((s.executions[k]?).bind fun e => e.session.map fun id => (id, e.jobId)) =
        some (sessionId, jobId) → e.session = some sessionId := by
    intro k e hget hsome
    rw [hget] at hsome
    obtain ⟨id, hin, hpair⟩ := Option.map_eq_some_iff.mp hsome
    rw [← (Prod.mk.inj hpair).1]
    exact hin
  have hspent : ∀ {k : Nat} {e : SessionExecution}, s.executions[k]? = some e →
      e.session = some sessionId → SessionSpent s k →
      Spoiled s.registry (s.setPhase k .returned) sessionId := fun {k} {e} hget hin hspent =>
    ⟨⟨_, List.mem_of_getElem? (modify_self hget), hin⟩,
      fun record hrecord => (hspent e hget sessionId hin record hrecord).2,
      fun record hrecord => Or.inl (hspent e hget sessionId hin record hrecord).1⟩
  cases action with
  | written k ok =>
    obtain ⟨e, _, hget, _, _, rfl⟩ := written_eq_some h
    cases ok with
    | true => cases hfails
    | false => exact hspent hget (hheld hget hfails) hapart
  | ran k success error =>
    obtain ⟨e, used, hget, hphase, hsession, rfl⟩ := ran_eq_some h
    cases success with
    | true => cases hfails
    | false =>
      have hin := hheld hget hfails
      obtain rfl := Option.some.inj (hin.symm.trans hsession)
      have hafter := List.mem_of_getElem? (modify_self (k := k)
        (f := fun e => { e with phase := .collecting false error }) hget)
      refine ⟨⟨_, hafter, hin⟩, fun record' hget' => ?_,
        fun _ _ => Or.inr ⟨_, hafter, hin, error, rfl⟩⟩
      obtain ⟨record, hbefore, ⟨hother, hleased, _⟩ | ⟨_, _, hfreed⟩⟩ := holder_releaseSession hget'
      · rcases hinv.users e (List.mem_of_getElem? hget) sessionId record ⟨hin, Or.inr hphase⟩
          hbefore with hheld | hrest
        · exact absurd hheld (hother rfl)
        · exact hleased.trans hrest.2
      · exact hfreed
  | collected k ok =>
    obtain ⟨e, held, success, error, hget, _, _, rfl⟩ := collected_eq_some h
    cases ok with
    | true => cases hfails
    | false => exact hspent hget (hheld hget hfails) hapart
  | execute jobId criteria => cases hfails
  | created k created? => cases hfails
  | _ => cases hfails

end invariant

section runs

variable {h : History SessionExecutor SessionStep} {s s' : SessionExecutor} {step : SessionStep}

/-- The invariant holds, and the sessions in which jobs failed are spoiled. -/
structure FailedSpoiled (h : History SessionExecutor SessionStep) (s : SessionExecutor) : Prop where
  sessions : SessionsInvariant s.registry s.executions
  spoiled : ∀ sessionId jobId, FailedIn sessionId jobId h → Spoiled s.registry s.executions sessionId

theorem failedSpoiled_of_init (hinit : sessionExecutors.init s) : FailedSpoiled [] s := by
  obtain ⟨config, hregistry, hexecutions⟩ := hinit
  have hnone : ∀ sessionId, s.registry.sessions.get? sessionId = none := by
    intro sessionId
    rw [hregistry]
    rfl
  refine ⟨⟨?_, ?_, ?_, ?_, ?_⟩, ?_⟩
  · simp [hexecutions]
  · simp [hexecutions]
  · simp [hnone]
  · simp [hexecutions]
  · simp [hexecutions]
  · rintro sessionId jobId ⟨q, hq, _⟩
    cases hq

theorem failedSpoiled_snoc (hinv : FailedSpoiled h s) (hapart : ExecutesApart s step)
    (hnext : s.next step = some s') : FailedSpoiled (h ++ [(s, step)]) s' := by
  obtain ⟨performed, hperformed, rfl⟩ := next_eq_some hnext
  have hsessions := sessionsInvariant_perform hinv.sessions hapart hperformed
  have hspoiled : ∀ sessionId jobId, FailedIn sessionId jobId (h ++ [(s, step)]) →
      Spoiled performed.registry performed.executions sessionId := by
    rintro sessionId jobId ⟨q, hq, hfails⟩
    rcases List.mem_append.mp hq with hq | hq
    · exact spoiled_perform hinv.sessions hapart (hinv.spoiled sessionId jobId ⟨q, hq, hfails⟩)
        hperformed
    · obtain rfl := List.mem_singleton.mp hq
      exact spoiled_of_fails hinv.sessions hapart hfails hperformed
  exact ⟨hsessions, hspoiled⟩

theorem leasesUnfailed_of_spoiled (hinv : FailedSpoiled h s) (hapart : ExecutesApart s step) :
    LeasesUnfailed h s step := by
  intro sessionId jobId other hfailed hleases
  have hspoiled := hinv.spoiled sessionId jobId hfailed
  obtain ⟨now, action⟩ := step
  exfalso
  cases action with
  | execute jobId criteria =>
    obtain ⟨found, hfound, hpair⟩ := Option.map_eq_some_iff.mp hleases
    obtain ⟨rfl, _⟩ := Prod.mk.inj hpair
    obtain ⟨record, hget, heligible⟩ := (reuseSession_eq_some hfound).1
    rw [not_eligible_of_spoiled hspoiled hapart.2.2 hget] at heligible
    cases heligible
  | created k created? =>
    cases created? with
    | none => cases hleases
    | some created =>
      obtain ⟨e, _, hpair⟩ := Option.map_eq_some_iff.mp hleases
      obtain ⟨rfl, _⟩ := Prod.mk.inj hpair
      obtain ⟨a, ha, hin⟩ := hspoiled.used
      exact hapart.2 a ha hin
  | _ => cases hleases

theorem returnsFreed_of_inv (hinv : SessionsInvariant s.registry s.executions)
    (hinv' : SessionsInvariant s'.registry s'.executions) (hnext : s.next step = some s') :
    ReturnsFreed s s' := by
  obtain ⟨performed, hperformed, rfl⟩ := next_eq_some hnext
  intro k e e' hget hopen hget' hreturned sessionId record hrecord hheld
  rcases executions_perform hperformed with
    ⟨l, hadded⟩ | ⟨m, a, f, ha, hopenA, hjobA, hchanged⟩
  · have hlt : k < s.executions.length := (List.getElem?_eq_some_iff.mp hget).1
    have hsame : performed.executions[k]? = some e := by
      rw [hadded, List.getElem?_append_left hlt, hget]
    obtain rfl := Option.some.inj (hsame.symm.trans hget')
    exact hopen hreturned
  · have hbefore : ∀ {i : Nat} {b : SessionExecution}, performed.executions[i]? = some b →
        b.phase ≠ .returned →
        ∃ c, s.executions[i]? = some c ∧ c.phase ≠ .returned ∧ c.jobId = b.jobId := by
      intro i b hb hopenB
      rw [hchanged] at hb
      obtain ⟨c, hc, ⟨_, rfl⟩ | ⟨rfl, rfl⟩⟩ := modify_eq_some hb
      · exact ⟨b, hc, hopenB, rfl⟩
      · obtain rfl := Option.some.inj (ha.symm.trans hc)
        exact ⟨a, hc, hopenA, hjobA.symm⟩
    have hjob : e'.jobId = e.jobId := by
      have hget'' : performed.executions[k]? = some e' := hget'
      rw [hchanged] at hget''
      obtain ⟨c, hc, ⟨_, rfl⟩ | ⟨rfl, rfl⟩⟩ := modify_eq_some hget''
      · rw [Option.some.inj (hget.symm.trans hc)]
      · rw [← Option.some.inj (ha.symm.trans hc), hjobA, Option.some.inj (ha.symm.trans hget)]
    obtain ⟨b, hb, huses, hsame⟩ := hinv'.holders sessionId record e'.jobId hrecord hheld
    obtain ⟨i, hi⟩ := List.mem_iff_getElem?.mp hb
    obtain ⟨c, hc, hopenC, hjobC⟩ := hbefore hi huses.notReturned
    have hkey := hinv.single i k c e hc hget hopenC hopen (hjobC.trans (hsame.trans hjob))
    subst hkey
    obtain rfl := Option.some.inj (hi.symm.trans hget')
    exact huses.notReturned hreturned

theorem runsAlone_of_inv (hinv : SessionsInvariant s.registry s.executions) : RunsAlone s := by
  intro i j a b sessionId record _ hb _ _ huses hget hheld _
  rcases hinv.users b (List.mem_of_getElem? hb) sessionId record huses hget with hheldB | hrest
  · exact Option.some.inj (hheldB.symm.trans hheld)
  · rw [hrest.2] at hheld
    cases hheld

theorem failedSpoiled (hrun : sessionExecutors.Run h s) (hapart : Machine.Steps ExecutesApart h) :
    FailedSpoiled h s := by
  refine hrun.invariant (I := FailedSpoiled) ?_ ?_ hapart
  · exact fun s hinit => failedSpoiled_of_init hinit
  · exact fun h s step s' _ _ hinv hstep hnext => failedSpoiled_snoc hinv hstep hnext

/-- In every run whose searches and failures keep apart, no session in which a job failed is leased to
another, jobs that return hold no session, and jobs run alone. -/
theorem failed_sessions_retired (hrun : sessionExecutors.Run h s)
    (hapart : Machine.Steps ExecutesApart h) : SessionsKeptApart h s := by
  refine ⟨hrun.everyStep (fun h s step s' hrun hbefore hstep hnext => ?_) hapart,
    hrun.everyStep (fun h s step s' hrun hbefore hstep hnext => ?_) hapart,
    runsAlone_of_inv (failedSpoiled hrun hapart).sessions⟩
  · exact leasesUnfailed_of_spoiled (failedSpoiled hrun hbefore) hstep
  · have hinv := failedSpoiled hrun hbefore
    exact returnsFreed_of_inv hinv.sessions (failedSpoiled_snoc hinv hstep hnext).sessions hnext

end runs

/-- A call begins while no other is open, sessions are new, and nothing throws. -/
def executesAlone (s : SessionExecutor) (step : SessionStep) : Bool :=
  match step.action with
  | .execute jobId _ => jobId ≠ "" && s.executions.all fun e => e.phase = .returned
  | .created _ (some sessionId) => (s.registry.sessions.get? sessionId).isNone &&
    s.executions.all fun e => e.session ≠ some sessionId
  | .written _ ok => ok
  | .collected _ ok => ok
  | _ => true

theorem executesApart_of_executesAlone {s : SessionExecutor} {step : SessionStep}
    (h : executesAlone s step = true) : ExecutesApart s step := by
  obtain ⟨now, action⟩ := step
  cases action with
  | execute jobId criteria =>
    simp only [executesAlone, Bool.and_eq_true, decide_eq_true_iff, List.all_eq_true] at h
    refine ⟨h.1, fun e he _ => h.2 e he, fun e he sessionId _ record _ _ => ?_⟩
    have hreturned := h.2 e he
    refine ⟨fun huses => absurd hreturned huses.notReturned, fun error => ?_⟩
    rw [hreturned]
    nofun
  | created k created? =>
    cases created? with
    | none => trivial
    | some sessionId =>
      simp only [executesAlone, Bool.and_eq_true, decide_eq_true_iff, List.all_eq_true] at h
      exact ⟨Option.isNone_iff_eq_none.mp h.1, h.2⟩
  | written k ok =>
    obtain rfl : ok = true := h
    trivial
  | collected k ok =>
    obtain rfl : ok = true := h
    trivial
  | _ => trivial

theorem exists_sessionRun {steps : List SessionStep}
    {test : History SessionExecutor SessionStep × SessionExecutor → Bool}
    (h : (replay next ⟨shortLeases, [], 0⟩ (steps.map fun step _ => some step)).any test = true) :
    ∃ h s, sessionExecutors.Run h s ∧ test (h, s) = true :=
  exists_run_of_replay ⟨_, rfl, rfl⟩ h

def hasFailedIn (sessionId jobId : String)
    (p : History SessionExecutor SessionStep × SessionExecutor) : Bool :=
  p.1.any fun q => failsIn? q.1 q.2 = some (sessionId, jobId)

theorem failedIn_of_hasFailedIn {sessionId jobId : String}
    {p : History SessionExecutor SessionStep × SessionExecutor}
    (h : hasFailedIn sessionId jobId p = true) : FailedIn sessionId jobId p.1 := by
  obtain ⟨q, hq, hfails⟩ := List.any_eq_true.mp h
  exact ⟨q, hq, of_decide_eq_true hfails⟩

/-- A job uses the session of another and fails in it, and a third is given its own. -/
theorem failed_session_retired : ∃ h s, sessionExecutors.Run h s ∧ FailedIn "session" "b" h ∧
    SessionsKeptApart h s := by
  have hplayed : (replay next ⟨shortLeases, [], 0⟩
      ([⟨0, .execute "a" devCriteria⟩, ⟨1, .created 0 (some "session")⟩, ⟨2, .written 0 true⟩,
        ⟨3, .ran 0 true none⟩, ⟨4, .collected 0 true⟩, ⟨5, .execute "b" devCriteria⟩,
        ⟨6, .written 1 true⟩, ⟨7, .ran 1 false (some "timeout")⟩, ⟨8, .collected 1 true⟩,
        ⟨9, .execute "c" devCriteria⟩, ⟨10, .created 2 (some "other")⟩].map
        fun step _ => some step)).any
      (fun p => p.1.all (fun q => executesAlone q.1 q.2) && hasFailedIn "session" "b" p) = true := by
    decide +kernel
  obtain ⟨h, s, hrun, htest⟩ := exists_sessionRun hplayed
  obtain ⟨halone, hfailed⟩ := Bool.and_eq_true_iff.mp htest
  have hapart : Machine.Steps ExecutesApart h := fun q hq =>
    executesApart_of_executesAlone (List.all_eq_true.mp halone q hq)
  exact ⟨h, s, hrun, failedIn_of_hasFailedIn hfailed, failed_sessions_retired hrun hapart⟩

/-- A session in which a job failed is leased to another while its artifacts are collected, a job whose
files are not written returns with its lease, and a job runs in a session that another runs in whose
lease has run out. -/
theorem failed_session_leased : (¬∀ h s, sessionExecutors.Run h s →
      sessionExecutors.EveryStep (fun h s step _ => LeasesUnfailed h s step) h) ∧
    (¬∀ h s, sessionExecutors.Run h s →
      sessionExecutors.EveryStep (fun _ s _ s' => ReturnsFreed s s') h) ∧
    ¬∀ h s, sessionExecutors.Run h s → RunsAlone s := by
  refine ⟨fun hall => ?_, fun hall => ?_, fun hall => ?_⟩
  · let step : SessionStep := ⟨4, .execute "b" devCriteria⟩
    have hplayed : (replay next ⟨shortLeases, [], 0⟩
        ([⟨0, .execute "a" devCriteria⟩, ⟨1, .created 0 (some "session")⟩, ⟨2, .written 0 true⟩,
          ⟨3, .ran 0 false (some "timeout")⟩].map fun step _ => some step)).any
        (fun p => hasFailedIn "session" "a" p &&
          (leasesTo? p.2 step = some ("session", "b") && (p.2.next step).isSome)) = true := by
      decide +kernel
    obtain ⟨h, s, hrun, htest⟩ := exists_sessionRun hplayed
    obtain ⟨hfailed, hleases⟩ := Bool.and_eq_true_iff.mp htest
    obtain ⟨hleased, hsome⟩ := Bool.and_eq_true_iff.mp hleases
    obtain ⟨s', hnext⟩ := Option.isSome_iff_exists.mp hsome
    have hunfailed := hall _ _ (hrun.snoc hnext) h s step [] s' rfl hnext
    exact absurd (hunfailed "session" "a" "b" (failedIn_of_hasFailedIn hfailed)
      (of_decide_eq_true hleased)) (by decide)
  · let step : SessionStep := ⟨2, .written 0 false⟩
    let began : SessionExecution := ⟨"a", devCriteria, some "session", .writing⟩
    have hplayed : (replay next ⟨shortLeases, [], 0⟩
        ([⟨0, .execute "a" devCriteria⟩, ⟨1, .created 0 (some "session")⟩].map
          fun step _ => some step)).any
        (fun p => p.2.executions[0]? = some began &&
          (p.2.next step).any fun s' => s'.executions[0]? = some { began with phase := .returned } &&
            (s'.registry.sessions.get? "session").any fun record => record.leasedBy = some "a") =
        true := by
      decide +kernel
    obtain ⟨h, s, hrun, htest⟩ := exists_sessionRun hplayed
    obtain ⟨hbegan, hafter⟩ := Bool.and_eq_true_iff.mp htest
    obtain ⟨s', hnext, hreturns⟩ := (Option.any_eq_true _ _).mp hafter
    obtain ⟨hreturned, hheld⟩ := Bool.and_eq_true_iff.mp hreturns
    obtain ⟨record, hget, hleased⟩ := (Option.any_eq_true _ _).mp hheld
    have hfreed := hall _ _ (hrun.snoc hnext) h s step [] s' rfl hnext
    exact hfreed 0 began _ (of_decide_eq_true hbegan) nofun (of_decide_eq_true hreturned) rfl
      "session" record hget (of_decide_eq_true hleased)
  · let first : SessionExecution := ⟨"a", devCriteria, some "session", .running⟩
    let second : SessionExecution := ⟨"b", devCriteria, some "session", .running⟩
    have hplayed : (replay next ⟨shortLeases, [], 0⟩
        ([⟨0, .execute "a" devCriteria⟩, ⟨1, .created 0 (some "session")⟩, ⟨2, .written 0 true⟩,
          ⟨12, .execute "b" devCriteria⟩, ⟨13, .written 1 true⟩].map fun step _ => some step)).any
        (fun p => p.2.executions[0]? = some first && (p.2.executions[1]? = some second &&
          (p.2.registry.sessions.get? "session").any fun record =>
            record.leasedBy = some "b" && record.isLeased p.2.clock)) = true := by
      decide +kernel
    obtain ⟨h, s, hrun, htest⟩ := exists_sessionRun hplayed
    obtain ⟨hfirst, hrest⟩ := Bool.and_eq_true_iff.mp htest
    obtain ⟨hsecond, hleased⟩ := Bool.and_eq_true_iff.mp hrest
    obtain ⟨record, hget, hheld⟩ := (Option.any_eq_true _ _).mp hleased
    obtain ⟨hjob, hlive⟩ := Bool.and_eq_true_iff.mp hheld
    exact absurd (hall h s hrun 1 0 second first "session" record (of_decide_eq_true hsecond)
      (of_decide_eq_true hfirst) ⟨rfl, Or.inr rfl⟩ rfl ⟨rfl, Or.inr rfl⟩ hget
      (of_decide_eq_true hjob) hlive) (by decide)

end ShipyardCp.Properties
