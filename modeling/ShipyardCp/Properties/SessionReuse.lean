import ShipyardCp.Domain.SessionCalls

/-! Whether a session that is dead or drains is used again. -/

namespace ShipyardCp.Properties

open Types Domain Lib SessionRecord SessionRegistry RegistrySystem Machine

def isRetired (record : SessionRecord) : Bool := record.state = .dead || record.state = .draining

def recordMeets (p : SessionRecord → Bool) (r : SessionRegistry) (sessionId : String) : Bool :=
  (r.sessions.get? sessionId).any p

def creates (sessionId : String) (call : RegistryCall) : Bool :=
  match call.op with
  | .createSessionRecord id _ => id = sessionId
  | _ => false

/-- The record that the session has was dead or drained at some time. -/
def Retired (sessionId : String) (h : History RegistrySystem RegistryCall)
    (sys : RegistrySystem) : Prop :=
  recordMeets isRetired sys.registry sessionId = true ∨
    Machine.Since (fun sys call => (recordMeets isRetired sys.registry sessionId &&
        !creates sessionId call) = true)
      (fun _ call => creates sessionId call = true) h

/-- The call neither hands out, leases nor keeps warm a session that was retired, and hands out no
session that is not healthy. -/
structure NeverReused (h : History RegistrySystem RegistryCall) (sys : RegistrySystem)
    (call : RegistryCall) : Prop where
  returned : ∀ record, sys.registry.returned call = some record → ¬Retired record.sessionId h sys
  leased : ∀ sessionId jobId, Retired sessionId h sys →
    sys.registry.leases call sessionId jobId = false
  pooled : ∀ sessionId, Retired sessionId h sys →
    SessionRegistry.NotPooled sessionId sys.registry (sys.registry.perform call)
  healthy : ∀ record, sys.registry.returned call = some record → record.healthScore.isHealthy = true

def ExpiredFit (now : Timestamp) (criteria : SessionSearchCriteria) (record : SessionRecord) : Prop :=
  record.Fits criteria → record.leaseExpired now = true →
    isRetired record = false ∧ record.healthScore.isHealthy = true

/-- A retired session is leased when a lease is asked for, not by the job that releases it, and not
marked ready; a search meets no retired or unhealthy session whose lease has run out. -/
def ReuseSafe (sys : RegistrySystem) (call : RegistryCall) : Prop :=
  match call.op with
  | .leaseSession sessionId _ => ∀ record, sys.registry.sessions.get? sessionId = some record →
    isRetired record = true → record.isLeased call.now = true
  | .releaseSession sessionId jobId => ∀ record,
    sys.registry.sessions.get? sessionId = some record → isRetired record = true →
      record.leasedBy ≠ some jobId
  | .markSessionReady sessionId => ∀ record,
    sys.registry.sessions.get? sessionId = some record → isRetired record = false
  | .findReusableSession criteria => ∀ record ∈ sys.registry.sessions.values,
    ExpiredFit call.now criteria record
  | .getWarmPoolSession criteria => sys.registry.config.enableWarmPool = true →
    ∀ sessionId ∈ sys.registry.warmPoolSessions, ∀ record,
      sys.registry.sessions.get? sessionId = some record → ExpiredFit call.now criteria record
  | _ => True

section step

variable {sys sys' : RegistrySystem} {call : RegistryCall} {record : SessionRecord}
  {sessionId : String}

theorem isRetired_afterCall (hsafe : ReuseSafe sys call)
    (hget : sys.registry.sessions.get? sessionId = some record) (hretired : isRetired record = true) :
    isRetired (record.afterCall sys.registry.config call) = true := by
  have hid := sys.registry.sessions.key_of_get? hget
  obtain ⟨now, op⟩ := call
  cases op with
  | findReusableSession criteria =>
    simp only [afterCall]
    split_ifs with heligible
    · unfold clearExpiredLease
      split_ifs with hexpired
      · have heligible := Option.isNone_iff_eq_none.mp heligible
        have hfits := (checkReuseEligibility_eq_none_iff.mp heligible).1
        have hmem : record ∈ sys.registry.sessions.values :=
          sys.registry.sessions.mem_values_iff.mpr (hid ▸ hget)
        have hlive := (hsafe record hmem hfits hexpired).1
        rw [hretired] at hlive
        cases hlive
      · exact hretired
    · exact hretired
  | leaseSession id jobId =>
    simp only [afterCall]
    split_ifs with hleases
    · have hleased := hsafe record (by rw [hleases.1, hid, hget]) hretired
      rw [hleased] at hleases
      cases hleases.2
    · exact hretired
  | releaseSession id jobId =>
    simp only [afterCall]
    split_ifs with hreleases
    · exact absurd hreleases.2 (hsafe record (by rw [hreleases.1, hid, hget]) hretired)
    · exact hretired
  | markSessionDead id error cleanupReason =>
    simp only [afterCall]
    split_ifs
    · rfl
    · exact hretired
  | markSessionDraining id cleanupReason =>
    simp only [afterCall]
    split_ifs
    · rfl
    · exact hretired
  | markSessionReady id =>
    simp only [afterCall]
    split_ifs with hready
    · have hlive := hsafe record (by rw [hready, hid, hget])
      rw [hretired] at hlive
      cases hlive
    · exact hretired
  | processOrphans =>
    simp only [afterCall, orphanProcessed]
    split_ifs
    · rfl
    · exact hretired
  | createSessionRecord id criteria => exact hretired
  | getWarmPoolSession criteria => exact hretired
  | cleanup => exact hretired
  | deleteSession id => exact hretired

theorem isRetired_eq_of_unpooled {record record' : SessionRecord}
    (h : record'.unpooled = record.unpooled) : isRetired record' = isRetired record := by
  have hstate : record'.unpooled.state = record.unpooled.state := congrArg state h
  exact congrArg (fun state => decide (state = SessionRecordState.dead) ||
    decide (state = SessionRecordState.draining)) hstate

def RestsRetired (r : SessionRegistry) (sessionId : String) : Prop :=
  ∀ record, r.sessions.get? sessionId = some record → isRetired record = true

theorem restsRetired_perform (hsafe : ReuseSafe sys call)
    (hrests : RestsRetired sys.registry sessionId) (hcreates : creates sessionId call = false) :
    RestsRetired (sys.registry.perform call) sessionId := by
  intro record' hget'
  rcases sys.registry.get?_perform_eq_some hget' with ⟨criteria, hop, _⟩ | ⟨record, hget, hsame⟩
  · simp [creates, hop] at hcreates
  · rw [isRetired_eq_of_unpooled hsame]
    exact isRetired_afterCall hsafe hget (hrests record hget)

def AllRest (h : History RegistrySystem RegistryCall) (sys : RegistrySystem) : Prop :=
  ∀ sessionId, Retired sessionId h sys → RestsRetired sys.registry sessionId

theorem allRest_snoc {h : History RegistrySystem RegistryCall} (hrest : AllRest h sys)
    (hsafe : ReuseSafe sys call) (hnext : sys.next call = some sys') :
    AllRest (h ++ [(sys, call)]) sys' := by
  obtain ⟨_, rfl⟩ := next_eq_some_iff.mp hnext
  rintro sessionId (hnow | hsince)
  · intro record hget
    rw [recordMeets, hget, Option.any_some] at hnow
    exact hnow
  · rcases since_snoc.mp hsince with hstarts | ⟨hbefore, hkept⟩
    · obtain ⟨hretired, hcreates⟩ := Bool.and_eq_true_iff.mp hstarts
      exact restsRetired_perform hsafe (hrest sessionId (Or.inl hretired)) (by simpa using hcreates)
    · exact restsRetired_perform hsafe (hrest sessionId (Or.inr hbefore)) (by simpa using hkept)

theorem returned_fit (hsafe : ReuseSafe sys call)
    (hreturned : sys.registry.returned call = some record) :
    ∃ found, sys.registry.sessions.get? record.sessionId = some found ∧
      isRetired found = false ∧ record.healthScore.isHealthy = true := by
  obtain ⟨criteria, found, hcriteria, hget, heligible, hsame, hpool⟩ := returned_eq_some hreturned
  obtain ⟨hfits, hkind⟩ := checkReuseEligibility_eq_none_iff.mp
    (Option.isNone_iff_eq_none.mp heligible)
  have hhealth : record.healthScore = found.healthScore := by
    have hunpooled : record.unpooled.healthScore =
        (found.afterCall sys.registry.config call).unpooled.healthScore :=
      congrArg healthScore hsame
    exact hunpooled.trans (healthScore_afterCall hcriteria _ found)
  rw [hhealth]
  refine ⟨found, hget, ?_⟩
  rcases hkind with hexpired | ⟨_, hstate, hhealthy, _⟩
  · have hfit : ExpiredFit call.now criteria found := by
      obtain ⟨now, op⟩ := call
      cases op with
      | findReusableSession searched =>
        obtain rfl : searched = criteria := Option.some.inj hcriteria
        refine hsafe found (sys.registry.sessions.mem_values_iff.mpr ?_)
        rw [sys.registry.sessions.key_of_get? hget]
        exact hget
      | getWarmPoolSession searched =>
        obtain rfl : searched = criteria := Option.some.inj hcriteria
        obtain ⟨henabled, hin⟩ := hpool rfl
        exact hsafe henabled _ hin found hget
      | _ => cases hcriteria
    exact hfit hfits hexpired
  · refine ⟨?_, hhealthy⟩
    rcases hstate with hstate | hstate
    · simp [isRetired, hstate]
    · simp [isRetired, hstate]

theorem leases_eq_false (hsafe : ReuseSafe sys call) (hrests : RestsRetired sys.registry sessionId)
    (jobId : String) : sys.registry.leases call sessionId jobId = false := by
  refine Bool.eq_false_iff.mpr fun hleases => ?_
  obtain ⟨hop, record, hget, hfree⟩ := leases_eq_true_iff.mp hleases
  rw [ReuseSafe, hop] at hsafe
  rw [hsafe record hget (hrests record hget)] at hfree
  cases hfree

theorem notPooled_of_safe (hsafe : ReuseSafe sys call)
    (hrests : RestsRetired sys.registry sessionId) :
    SessionRegistry.NotPooled sessionId sys.registry (sys.registry.perform call) := by
  by_cases hready : call.op = .markSessionReady sessionId
  · have hperform : sys.registry.perform call = sys.registry.markSessionReady call.now sessionId := by
      rw [perform, hready]
    rw [ReuseSafe, hready] at hsafe
    rw [hperform, markSessionReady]
    cases hget : sys.registry.sessions.get? sessionId with
    | none => exact .refl sys.registry
    | some record =>
      have hlive := hsafe record hget
      rw [hrests record hget] at hlive
      cases hlive
  · refine notPooled_perform (fun jobId => ?_) hready
    refine Bool.eq_false_iff.mpr fun hreleases => ?_
    obtain ⟨hop, record, hget, hleased⟩ := releases_eq_true_iff.mp hreleases
    rw [ReuseSafe, hop] at hsafe
    exact hsafe record hget (hrests record hget) hleased

theorem neverReused_of_safe {h : History RegistrySystem RegistryCall} (hrest : AllRest h sys)
    (hsafe : ReuseSafe sys call) : NeverReused h sys call := by
  refine ⟨fun record hreturned hretired => ?_,
    fun sessionId jobId hretired => leases_eq_false hsafe (hrest sessionId hretired) jobId,
    fun sessionId hretired => notPooled_of_safe hsafe (hrest sessionId hretired),
    fun record hreturned => ?_⟩
  · obtain ⟨found, hget, hlive, _⟩ := returned_fit hsafe hreturned
    rw [hrest _ hretired found hget] at hlive
    cases hlive
  · obtain ⟨_, _, _, hhealthy⟩ := returned_fit hsafe hreturned
    exact hhealthy

end step

/-- In every run whose calls are safe, no call uses a session that was retired, and no search hands
out one that is not healthy. -/
theorem retired_neverReused {h : History RegistrySystem RegistryCall} {sys : RegistrySystem}
    (hrun : registryRuns.Run h sys) (hsafe : Machine.Steps ReuseSafe h) :
    registryRuns.EveryStep (fun h sys call _ => NeverReused h sys call) h := by
  refine hrun.everyStep (fun h sys call sys' hrun hbefore hcall hnext => ?_) hsafe
  have hrest : AllRest h sys := by
    refine hrun.invariant (I := AllRest) ?_ ?_ hbefore
    · rintro sys ⟨config, hsys⟩ sessionId (hnow | hsince)
      · rw [recordMeets, hsys] at hnow
        cases hnow
      · exact absurd hsince not_since_nil
    · exact fun h sys call sys' _ _ hrest hcall hnext => allRest_snoc hrest hcall hnext
  exact neverReused_of_safe hrest hcall

def allFit (sys : RegistrySystem) (call : RegistryCall) : Bool :=
  sys.registry.sessions.values.all fun record =>
    !isRetired record && record.healthScore.isHealthy ||
      call.op.criteria?.isSome && !record.leaseExpired call.now

theorem reuseSafe_of_allFit {sys : RegistrySystem} {call : RegistryCall}
    (h : allFit sys call = true) : ReuseSafe sys call := by
  have hfit : ∀ sessionId record, sys.registry.sessions.get? sessionId = some record →
      isRetired record = false ∧ record.healthScore.isHealthy = true ∨
        call.op.criteria?.isSome = true ∧ record.leaseExpired call.now = false := by
    intro sessionId record hget
    have hmem : record ∈ sys.registry.sessions.values := by
      rw [KeyedMap.mem_values_iff, sys.registry.sessions.key_of_get? hget]
      exact hget
    simpa using List.all_eq_true.mp h record hmem
  have hsearch : ∀ criteria sessionId record, sys.registry.sessions.get? sessionId = some record →
      ExpiredFit call.now criteria record := by
    intro criteria sessionId record hget _ hexpired
    rcases hfit sessionId record hget with hlive | ⟨_, hlive⟩
    · exact hlive
    · rw [hexpired] at hlive
      cases hlive
  obtain ⟨now, op⟩ := call
  have hother : op.criteria? = none → ∀ sessionId record,
      sys.registry.sessions.get? sessionId = some record → isRetired record = false := by
    intro hnone sessionId record hget
    rcases hfit sessionId record hget with hlive | ⟨hsome, _⟩
    · exact hlive.1
    · simp [hnone] at hsome
  cases op with
  | findReusableSession criteria =>
    exact fun record hmem => hsearch criteria _ record (sys.registry.sessions.mem_values_iff.mp hmem)
  | getWarmPoolSession criteria =>
    exact fun _ sessionId _ record hget => hsearch criteria sessionId record hget
  | leaseSession sessionId jobId =>
    intro record hget hretired
    rw [hother rfl sessionId record hget] at hretired
    cases hretired
  | releaseSession sessionId jobId =>
    intro record hget hretired
    rw [hother rfl sessionId record hget] at hretired
    cases hretired
  | markSessionReady sessionId => exact hother rfl sessionId
  | _ => trivial

def devCriteria : SessionSearchCriteria where
  taskId := "task"
  workspaceRef := ⟨"local", "workspace"⟩
  logicalWorker := .codex
  stageBucket := .dev
  policyFingerprint := "policy"
  agentProfile := none

def shortLeases : SessionRegistry := .new { sessionTtlMs := 1000, leaseTtlMs := 10 }

theorem exists_registryRun {calls : List RegistryCall}
    {test : History RegistrySystem RegistryCall × RegistrySystem → Bool}
    (h : (replay next ⟨shortLeases, 0⟩ (calls.map fun call _ => some call)).any test = true) :
    ∃ h t, registryRuns.Run h t ∧ test (h, t) = true :=
  exists_run_of_replay ⟨_, rfl⟩ h

/-- A session is used and used again, and dies. -/
theorem reused_until_dead : ∃ h t, registryRuns.Run h t ∧
    recordMeets isRetired t.registry "session" = true ∧
    registryRuns.EveryStep (fun h sys call _ => NeverReused h sys call) h := by
  have hplayed : (replay next ⟨shortLeases, 0⟩
      ([⟨0, .createSessionRecord "session" devCriteria⟩, ⟨1, .markSessionReady "session"⟩,
        ⟨2, .leaseSession "session" "job"⟩, ⟨3, .releaseSession "session" "job"⟩,
        ⟨4, .findReusableSession devCriteria⟩, ⟨5, .markSessionDead "session" none none⟩,
        ⟨6, .findReusableSession devCriteria⟩].map fun call _ => some call)).any
      (fun p => p.1.all (fun q => allFit q.1 q.2) &&
        recordMeets isRetired p.2.registry "session") = true := by
    decide +kernel
  obtain ⟨h, t, hrun, htest⟩ := exists_registryRun hplayed
  obtain ⟨hfit, hdead⟩ := Bool.and_eq_true_iff.mp htest
  have hsafe : Machine.Steps ReuseSafe h := fun q hq =>
    reuseSafe_of_allFit (List.all_eq_true.mp hfit q hq)
  exact ⟨h, t, hrun, hdead, retired_neverReused hrun hsafe⟩

def returnsRetired (sys : RegistrySystem) (call : RegistryCall) : Bool :=
  (sys.registry.returned call).any fun record =>
    recordMeets isRetired sys.registry record.sessionId

/-- A session that died under a lease is handed out once the lease has run out. -/
theorem dead_session_returned : ¬∀ h t, registryRuns.Run h t →
    registryRuns.EveryStep (fun h sys call _ => NeverReused h sys call) h := by
  intro hall
  have hplayed : (replay next ⟨shortLeases, 0⟩
      ([⟨0, .createSessionRecord "session" devCriteria⟩, ⟨1, .markSessionReady "session"⟩,
        ⟨2, .leaseSession "session" "job"⟩, ⟨3, .markSessionDead "session" none none⟩,
        ⟨13, .findReusableSession devCriteria⟩].map fun call _ => some call)).any
      (fun p => p.1.any fun q => returnsRetired q.1 q.2) = true := by
    decide +kernel
  obtain ⟨h, t, hrun, htest⟩ := exists_registryRun hplayed
  obtain ⟨q, hq, hreturns⟩ := List.any_eq_true.mp htest
  have hnever : Machine.Steps (fun sys call => returnsRetired sys call = false) h := by
    refine hrun.steps_of_everyStep (fun h sys call _ _ _ hreused => ?_) (hall h t hrun)
    refine Bool.eq_false_iff.mpr fun hreturns => ?_
    obtain ⟨record, hreturned, hretired⟩ := (Option.any_eq_true _ _).mp hreturns
    exact hreused.returned record hreturned (Or.inl hretired)
  rw [hnever q hq] at hreturns
  cases hreturns

end ShipyardCp.Properties
