import ShipyardCp.Properties.SessionReuse

/-! Leases of sessions: no two jobs hold one session at a time, a job whose lease another job took
over does not give it back, and a search hands out only free sessions within its own bounds. -/

namespace ShipyardCp.Properties

open Types Domain Lib SessionRecord SessionRegistry RegistrySystem Machine

def leasesUntil (sessionId jobId : String) (e : Timestamp) (sys : RegistrySystem)
    (call : RegistryCall) : Bool :=
  sys.registry.leases call sessionId jobId && call.now + sys.registry.config.leaseTtlMs = e

def givenUp (sessionId jobId : String) (sys : RegistrySystem) (call : RegistryCall) : Bool :=
  sys.registry.releases call sessionId jobId ||
    (sys.registry.sessions.get? sessionId).isSome &&
      ((sys.registry.perform call).sessions.get? sessionId).isNone

def leaseEnds (sessionId jobId : String) (sys : RegistrySystem) (call : RegistryCall) : Bool :=
  givenUp sessionId jobId sys call || creates sessionId call

def LeaseHeld (ends : String → String → RegistrySystem → RegistryCall → Bool)
    (sessionId jobId : String) (e : Timestamp) (h : History RegistrySystem RegistryCall) : Prop :=
  Machine.Since (fun sys call => leasesUntil sessionId jobId e sys call = true)
    (fun sys call => ends sessionId jobId sys call = true) h

def LeasesExclusive (ends : String → String → RegistrySystem → RegistryCall → Bool)
    (h : History RegistrySystem RegistryCall) (sys : RegistrySystem) : Prop :=
  ∀ sessionId j₁ j₂ e₁ e₂ now, LeaseHeld ends sessionId j₁ e₁ h → LeaseHeld ends sessionId j₂ e₂ h →
    sys.clock ≤ now → now < e₁ → now < e₂ → j₁ = j₂

def TakenOver (sessionId jobId : String) (h : History RegistrySystem RegistryCall) : Prop :=
  Machine.Since
    (fun sys call => ∃ other, other ≠ jobId ∧ sys.registry.leases call sessionId other = true)
    (fun sys call => sys.registry.leases call sessionId jobId = true) h

/-- A job whose lease was taken over releases nothing, and a search hands out a session within its
bounds that no job holds. -/
structure LeaseRespected (h : History RegistrySystem RegistryCall) (sys : RegistrySystem)
    (call : RegistryCall) : Prop where
  refused : ∀ sessionId jobId, TakenOver sessionId jobId h →
    sys.registry.releases call sessionId jobId = false
  returned : ∀ record, sys.registry.returned call = some record →
    ∃ criteria, call.op.criteria? = some criteria ∧ record.Fits criteria ∧
      ∀ jobId e, LeaseHeld leaseEnds record.sessionId jobId e h → e ≤ call.now

def NamedJobs (_ : RegistrySystem) (call : RegistryCall) : Prop :=
  ∀ sessionId jobId, call.op = .leaseSession sessionId jobId → jobId ≠ ""

/-- A record's activity is past, and its lease ends within the time of a lease from its activity. -/
structure LeaseDated (config : SessionRegistryConfig) (clock : Timestamp)
    (record : SessionRecord) : Prop where
  past : record.lastActivityAt ≤ clock
  started : record.leaseExpiresAt.isSome = true → record.state ≠ .initializing
  within : ∀ e, record.leaseExpiresAt = some e → e ≤ record.lastActivityAt + config.leaseTtlMs

/-- What leases rest on: the record of the session names the job that holds it. -/
structure LeasesKept (h : History RegistrySystem RegistryCall) (sys : RegistrySystem) : Prop where
  held : ∀ sessionId jobId e, LeaseHeld leaseEnds sessionId jobId e h → sys.clock < e →
    ∃ record, sys.registry.sessions.get? sessionId = some record ∧
      record.leasedBy = some jobId ∧ record.leaseExpiresAt = some e
  named : ∀ sessionId record jobId, sys.registry.sessions.get? sessionId = some record →
    record.leasedBy = some jobId → jobId ≠ "" ∧ ¬TakenOver sessionId jobId h
  dated : ∀ sessionId record, sys.registry.sessions.get? sessionId = some record →
    LeaseDated sys.registry.config sys.clock record

section records

variable {config : SessionRegistryConfig} {call : RegistryCall} {record : SessionRecord}
  {clock e : Timestamp} {jobId : String}

theorem isLeased_eq_true (hname : jobId ≠ "") (hjob : record.leasedBy = some jobId)
    (he : record.leaseExpiresAt = some e) (hlive : call.now < e) :
    record.isLeased call.now = true := by
  have hpos : e ≠ 0 := Nat.ne_of_gt (Nat.zero_lt_of_lt hlive)
  simp [isLeased, hjob, he, isTruthy, hname, hlive, hpos]

theorem leaseExpired_eq_false (he : record.leaseExpiresAt = some e) (hlive : call.now < e) :
    record.leaseExpired call.now = false := by
  have hnot : ¬e < call.now := Nat.lt_asymm hlive
  simp [leaseExpired, he, hnot]

theorem isOrphan_eq_false (hdated : LeaseDated config clock record)
    (he : record.leaseExpiresAt = some e) (hlive : call.now < e) :
    record.isOrphan call.now config.leaseTtlMs = false := by
  have hwithin := hdated.within e he
  have hstarted := hdated.started (by rw [he]; rfl)
  have hactive : ¬call.now - record.lastActivityAt > config.leaseTtlMs * 2 := by
    unfold Timestamp at *
    omega
  simp [isOrphan, leaseExpired_eq_false he hlive, hactive, hstarted]

theorem lease_afterCall (hdated : LeaseDated config clock record) (hname : jobId ≠ "")
    (hjob : record.leasedBy = some jobId) (he : record.leaseExpiresAt = some e)
    (hlive : call.now < e) (hkept : call.op ≠ .releaseSession record.sessionId jobId) :
    (record.afterCall config call).leasedBy = some jobId ∧
    (record.afterCall config call).leaseExpiresAt = some e := by
  have hleased := isLeased_eq_true hname hjob he hlive
  have hexpired := leaseExpired_eq_false he hlive
  have horphan := isOrphan_eq_false hdated he hlive
  obtain ⟨now, op⟩ := call
  cases op with
  | findReusableSession criteria =>
    have hkept : record.clearExpiredLease now = record := if_neg (Bool.not_eq_true _ ▸ hexpired)
    simp only [afterCall, hkept, ite_self]
    exact ⟨hjob, he⟩
  | leaseSession sessionId other =>
    simp only [afterCall, hleased]
    split_ifs with hleases
    · cases hleases.2
    · exact ⟨hjob, he⟩
  | releaseSession sessionId other =>
    simp only [afterCall]
    split_ifs with hreleases
    · refine absurd ?_ hkept
      rw [hjob] at hreleases
      rw [hreleases.1, Option.some.inj hreleases.2]
    · exact ⟨hjob, he⟩
  | markSessionDead sessionId error cleanupReason =>
    simp only [afterCall]
    split_ifs
    · exact ⟨hjob, he⟩
    · exact ⟨hjob, he⟩
  | markSessionDraining sessionId cleanupReason =>
    simp only [afterCall]
    split_ifs
    · exact ⟨hjob, he⟩
    · exact ⟨hjob, he⟩
  | markSessionReady sessionId =>
    simp only [afterCall]
    split_ifs
    · exact ⟨hjob, he⟩
    · exact ⟨hjob, he⟩
  | processOrphans =>
    simp only [afterCall, orphanProcessed, horphan]
    exact ⟨hjob, he⟩
  | createSessionRecord sessionId criteria => exact ⟨hjob, he⟩
  | getWarmPoolSession criteria => exact ⟨hjob, he⟩
  | cleanup => exact ⟨hjob, he⟩
  | deleteSession sessionId => exact ⟨hjob, he⟩

theorem leasedBy_afterCall (h : (record.afterCall config call).leasedBy = some jobId) :
    call.op = .leaseSession record.sessionId jobId ∧ record.isLeased call.now = false ∨
    record.leasedBy = some jobId ∧ ∀ other, call.op = .leaseSession record.sessionId other →
        record.isLeased call.now = true := by
  obtain ⟨now, op⟩ := call
  cases op with
  | leaseSession sessionId other =>
    simp only [afterCall] at h
    split_ifs at h with hleases
    · obtain rfl := Option.some.inj h
      refine Or.inl ⟨by rw [hleases.1], by simpa using hleases.2⟩
    · refine Or.inr ⟨h, fun job hop => ?_⟩
      obtain ⟨hid, _⟩ := RegistryOp.leaseSession.inj hop
      by_contra hfree
      exact hleases ⟨hid, by simpa using hfree⟩
  | findReusableSession criteria =>
    simp only [afterCall, clearExpiredLease] at h
    split_ifs at h
    · exact Or.inr ⟨h, by simp⟩
    · exact Or.inr ⟨h, by simp⟩
  | releaseSession sessionId other =>
    simp only [afterCall] at h
    split_ifs at h
    exact Or.inr ⟨h, by simp⟩
  | markSessionDead _ _ _ | markSessionDraining _ _ | markSessionReady _ =>
    simp only [afterCall] at h
    split_ifs at h
    · exact Or.inr ⟨h, by simp⟩
    · exact Or.inr ⟨h, by simp⟩
  | processOrphans =>
    simp only [afterCall, orphanProcessed] at h
    split_ifs at h
    · cases h
    · exact Or.inr ⟨h, by simp⟩
  | createSessionRecord sessionId criteria => exact Or.inr ⟨h, by simp⟩
  | getWarmPoolSession criteria => exact Or.inr ⟨h, by simp⟩
  | cleanup => exact Or.inr ⟨h, by simp⟩
  | deleteSession sessionId => exact Or.inr ⟨h, by simp⟩

theorem leaseDated_afterCall (hdated : LeaseDated config clock record) (hclock : clock ≤ call.now) :
    LeaseDated config call.now (record.afterCall config call) := by
  have hkept : LeaseDated config call.now record :=
    ⟨hdated.past.trans hclock, hdated.started, hdated.within⟩
  have hactive : ∀ {record' : SessionRecord}, record'.lastActivityAt = call.now →
      record'.leaseExpiresAt = record.leaseExpiresAt → record'.state ≠ .initializing →
      LeaseDated config call.now record' := by
    intro record' hactivity hexpires hstate
    refine ⟨Nat.le_of_eq hactivity, fun _ => hstate, fun e he => ?_⟩
    rw [hexpires] at he
    rw [hactivity]
    exact (hdated.within e he).trans (Nat.add_le_add_right (hdated.past.trans hclock) _)
  have hfree : ∀ {record' : SessionRecord}, record'.lastActivityAt ≤ call.now →
      record'.leaseExpiresAt = none → LeaseDated config call.now record' := by
    intro record' hactivity hexpires
    refine ⟨hactivity, fun hsome => ?_, fun e he => ?_⟩
    · rw [hexpires] at hsome
      cases hsome
    · rw [hexpires] at he
      cases he
  obtain ⟨now, op⟩ := call
  cases op with
  | findReusableSession criteria =>
    simp only [afterCall, clearExpiredLease]
    split_ifs
    · exact hfree (Nat.le_refl now) rfl
    · exact hkept
    · exact hkept
  | leaseSession sessionId jobId =>
    simp only [afterCall]
    split_ifs
    · refine ⟨Nat.le_refl now, fun _ => by simp, fun e he => ?_⟩
      exact Nat.le_of_eq (Option.some.inj he).symm
    · exact hkept
  | releaseSession sessionId jobId =>
    simp only [afterCall]
    split_ifs
    · exact hfree (Nat.le_refl now) rfl
    · exact hkept
  | markSessionDead _ _ _ | markSessionDraining _ _ | markSessionReady _ =>
    simp only [afterCall]
    split_ifs
    · exact hactive rfl rfl (by simp)
    · exact hkept
  | processOrphans =>
    simp only [afterCall, orphanProcessed]
    split_ifs
    · exact hfree hkept.past rfl
    · exact hkept
  | createSessionRecord sessionId criteria => exact hkept
  | getWarmPoolSession criteria => exact hkept
  | cleanup => exact hkept
  | deleteSession sessionId => exact hkept

theorem leaseDated_of_unpooled {record record' : SessionRecord}
    (h : record'.unpooled = record.unpooled) (hdated : LeaseDated config clock record) :
    LeaseDated config clock record' := by
  have hactivity : record'.unpooled.lastActivityAt = record.unpooled.lastActivityAt := by rw [h]
  have hexpires : record'.unpooled.leaseExpiresAt = record.unpooled.leaseExpiresAt := by rw [h]
  have hstate : record'.unpooled.state = record.unpooled.state := by rw [h]
  refine ⟨?_, fun hsome => ?_, fun e he => ?_⟩
  · exact (Nat.le_of_eq hactivity).trans hdated.past
  · exact fun hinit => hdated.started (hexpires ▸ hsome) (hstate ▸ hinit)
  · exact (hdated.within e (hexpires ▸ he)).trans
      (Nat.add_le_add_right (Nat.le_of_eq hactivity.symm) _)

end records

section step

variable {h : History RegistrySystem RegistryCall} {sys sys' : RegistrySystem} {call : RegistryCall}

theorem leases_afterCall {sessionId jobId : String}
    (hleases : sys.registry.leases call sessionId jobId = true) :
    ∃ record, (sys.registry.perform call).sessions.get? sessionId = some record ∧
      record.leasedBy = some jobId ∧
      record.leaseExpiresAt = some (call.now + sys.registry.config.leaseTtlMs) := by
  obtain ⟨hop, found, hget, hfree⟩ := leases_eq_true_iff.mp hleases
  have hid := sys.registry.sessions.key_of_get? hget
  have hleaves := sys.registry.get?_perform call sessionId
  obtain ⟨now, op⟩ := call
  obtain rfl : op = .leaseSession sessionId jobId := hop
  have hafter : found.afterCall sys.registry.config ⟨now, .leaseSession sessionId jobId⟩ =
      { found with
        leasedBy := some jobId
        leaseExpiresAt := some (now + sys.registry.config.leaseTtlMs)
        state := .active
        lastActivityAt := now
        lastUsedAt := some now } := if_pos ⟨hid.symm, by simpa using hfree⟩
  simp only [RegistryCall.leaves, hget, Option.map_some, hafter] at hleaves
  obtain ⟨record, hrecord, hsame⟩ := Option.map_eq_some_iff.mp hleaves
  have hjob : record.unpooled.leasedBy = some jobId := by rw [hsame]; rfl
  have he : record.unpooled.leaseExpiresAt = some (now + sys.registry.config.leaseTtlMs) := by
    rw [hsame]
    rfl
  exact ⟨record, hrecord, hjob, he⟩

theorem held_afterCall (hkept : LeasesKept h sys) {sessionId jobId : String} {e : Timestamp}
    (hclock : sys.clock ≤ call.now) (hheld : LeaseHeld leaseEnds sessionId jobId e h)
    (hends : leaseEnds sessionId jobId sys call = false) (hlive : call.now < e) :
    ∃ record, (sys.registry.perform call).sessions.get? sessionId = some record ∧
      record.leasedBy = some jobId ∧ record.leaseExpiresAt = some e := by
  obtain ⟨found, hget, hjob, he⟩ := hkept.held sessionId jobId e hheld (Nat.lt_of_le_of_lt hclock hlive)
  obtain ⟨hname, _⟩ := hkept.named sessionId found jobId hget hjob
  have hid := sys.registry.sessions.key_of_get? hget
  simp only [leaseEnds, givenUp, hget, Option.isSome_some, Bool.true_and, Bool.or_eq_false_iff]
    at hends
  obtain ⟨⟨hrelease, hremains⟩, hreplaced⟩ := hends
  cases hafter : (sys.registry.perform call).sessions.get? sessionId with
  | none =>
    rw [hafter] at hremains
    cases hremains
  | some record =>
    rcases sys.registry.get?_perform_eq_some hafter with ⟨criteria, hop, _⟩ | ⟨before, hbefore, hsame⟩
    · simp [creates, hop] at hreplaced
    · obtain rfl : found = before := Option.some.inj (hget.symm.trans hbefore)
      have hnot : call.op ≠ .releaseSession found.sessionId jobId := by
        intro hop
        rw [hid] at hop
        have hreleases : sys.registry.releases call sessionId jobId = true :=
          releases_eq_true_iff.mpr ⟨hop, found, hget, hjob⟩
        rw [hreleases] at hrelease
        cases hrelease
      obtain ⟨hjob', he'⟩ :=
        lease_afterCall (hkept.dated sessionId found hget) hname hjob he hlive hnot
      have hrecordJob : record.unpooled.leasedBy = some jobId := by rw [hsame]; exact hjob'
      have hrecordExpires : record.unpooled.leaseExpiresAt = some e := by rw [hsame]; exact he'
      exact ⟨record, rfl, hrecordJob, hrecordExpires⟩

theorem leasesKept_snoc (hkept : LeasesKept h sys) (hnamed : NamedJobs sys call)
    (hnext : sys.next call = some sys') : LeasesKept (h ++ [(sys, call)]) sys' := by
  obtain ⟨hclock, rfl⟩ := next_eq_some_iff.mp hnext
  refine ⟨?_, ?_, ?_⟩
  · intro sessionId jobId e hheld hlive
    rcases since_snoc.mp hheld with hleases | ⟨hbefore, hends⟩
    · obtain ⟨hleases, hexpires⟩ := Bool.and_eq_true_iff.mp hleases
      obtain ⟨record, hget, hjob, he⟩ := leases_afterCall hleases
      rw [of_decide_eq_true hexpires] at he
      exact ⟨record, hget, hjob, he⟩
    · exact held_afterCall hkept hclock hbefore (by simpa using hends) hlive
  · intro sessionId record' jobId hget' hjob'
    rcases sys.registry.get?_perform_eq_some hget' with ⟨criteria, _, hsame⟩ | ⟨record, hget, hsame⟩
    · have hnone : record'.unpooled.leasedBy = some jobId := hjob'
      rw [hsame] at hnone
      cases hnone
    · have hid := sys.registry.sessions.key_of_get? hget
      have hafter : record'.unpooled.leasedBy = some jobId := hjob'
      rw [hsame] at hafter
      rcases leasedBy_afterCall hafter with ⟨hop, hfree⟩ | ⟨hjob, hnot⟩
      · refine ⟨hnamed _ _ hop, fun htaken => ?_⟩
        rw [hid] at hop
        rcases since_snoc.mp htaken with ⟨other, hne, hleases⟩ | ⟨_, hother⟩
        · have hop' := (leases_eq_true_iff.mp hleases).1
          exact hne (RegistryOp.leaseSession.inj (hop'.symm.trans hop)).2
        · exact hother (leases_eq_true_iff.mpr ⟨hop, record, hget, hfree⟩)
      · obtain ⟨hname, hheld⟩ := hkept.named sessionId record jobId hget hjob
        refine ⟨hname, fun htaken => ?_⟩
        rcases since_snoc.mp htaken with ⟨other, _, hleases⟩ | ⟨hbefore, _⟩
        · obtain ⟨hop, found, hfound, hfree⟩ := leases_eq_true_iff.mp hleases
          obtain rfl : record = found := Option.some.inj (hget.symm.trans hfound)
          rw [hnot other (hid ▸ hop)] at hfree
          cases hfree
        · exact hheld hbefore
  · intro sessionId record' hget'
    rw [sys.registry.config_perform]
    rcases sys.registry.get?_perform_eq_some hget' with ⟨criteria, _, hsame⟩ | ⟨record, hget, hsame⟩
    · refine leaseDated_of_unpooled hsame ⟨Nat.le_refl _, by rintro ⟨⟩, by rintro _ ⟨⟩⟩
    · exact leaseDated_of_unpooled hsame
        (leaseDated_afterCall (hkept.dated sessionId record hget) hclock)

theorem fits_of_returned {record found : SessionRecord} {criteria : SessionSearchCriteria}
    (hcriteria : call.op.criteria? = some criteria)
    (hsame : record.unpooled = (found.afterCall sys.registry.config call).unpooled)
    (hfits : found.Fits criteria) : record.Fits criteria := by
  have hafter : (found.afterCall sys.registry.config call).Fits criteria := by
    obtain ⟨now, op⟩ := call
    cases op with
    | findReusableSession searched =>
      simp only [afterCall, clearExpiredLease]
      split_ifs
      · exact ⟨hfits.1, hfits.2, hfits.3, hfits.4, hfits.5, hfits.6⟩
      · exact hfits
      · exact hfits
    | getWarmPoolSession searched => exact hfits
    | _ => cases hcriteria
  have hunpooled : (found.afterCall sys.registry.config call).unpooled.Fits criteria :=
    ⟨hafter.1, hafter.2, hafter.3, hafter.4, hafter.5, hafter.6⟩
  rw [← hsame] at hunpooled
  exact ⟨hunpooled.1, hunpooled.2, hunpooled.3, hunpooled.4, hunpooled.5, hunpooled.6⟩

theorem leaseRespected (hkept : LeasesKept h sys) (hclock : sys.clock ≤ call.now) :
    LeaseRespected h sys call := by
  refine ⟨fun sessionId jobId htaken => ?_, fun record hreturned => ?_⟩
  · refine Bool.eq_false_iff.mpr fun hreleases => ?_
    obtain ⟨_, found, hget, hjob⟩ := releases_eq_true_iff.mp hreleases
    exact (hkept.named sessionId found jobId hget hjob).2 htaken
  · obtain ⟨criteria, found, hcriteria, hget, heligible, hsame, _⟩ := returned_eq_some hreturned
    obtain ⟨hfits, hkind⟩ := checkReuseEligibility_eq_none_iff.mp
      (Option.isNone_iff_eq_none.mp heligible)
    refine ⟨criteria, hcriteria, fits_of_returned hcriteria hsame hfits, fun jobId e hheld => ?_⟩
    by_contra hlive
    rw [Nat.not_le] at hlive
    obtain ⟨before, hbefore, hjob, he⟩ := hkept.held _ jobId e hheld (Nat.lt_of_le_of_lt hclock hlive)
    obtain rfl : found = before := Option.some.inj (hget.symm.trans hbefore)
    rcases hkind with hexpired | ⟨hfree, _⟩
    · rw [leaseExpired_eq_false he hlive] at hexpired
      cases hexpired
    · have hname := (hkept.named _ found jobId hget hjob).1
      simp [hjob, isTruthy, hname] at hfree

end step

section runs

variable {h : History RegistrySystem RegistryCall} {sys : RegistrySystem}

theorem leasesKept (hrun : registryRuns.Run h sys) (hnamed : Machine.Steps NamedJobs h) :
    LeasesKept h sys := by
  refine hrun.invariant (I := LeasesKept) ?_ ?_ hnamed
  · rintro sys ⟨config, hsys⟩
    refine ⟨fun _ _ _ hheld => absurd hheld not_since_nil, ?_, ?_⟩
    · intro sessionId record jobId hget
      rw [hsys] at hget
      cases hget
    · intro sessionId record hget
      rw [hsys] at hget
      cases hget
  · exact fun h sys call sys' _ _ hkept hcall hnext => leasesKept_snoc hkept hcall hnext

theorem leasesExclusive_of_kept (hkept : LeasesKept h sys) : LeasesExclusive leaseEnds h sys := by
  intro sessionId j₁ j₂ e₁ e₂ now hheld₁ hheld₂ hclock hlive₁ hlive₂
  obtain ⟨record₁, hget₁, hjob₁, _⟩ :=
    hkept.held sessionId j₁ e₁ hheld₁ (Nat.lt_of_le_of_lt hclock hlive₁)
  obtain ⟨record₂, hget₂, hjob₂, _⟩ :=
    hkept.held sessionId j₂ e₂ hheld₂ (Nat.lt_of_le_of_lt hclock hlive₂)
  obtain rfl : record₁ = record₂ := Option.some.inj (hget₁.symm.trans hget₂)
  exact Option.some.inj (hjob₁.symm.trans hjob₂)

/-- In every run in which jobs have names, no two jobs hold a session at a time, a job whose lease
was taken over releases nothing, and a search hands out only free sessions that fit it. -/
theorem sessionLeases_exclusive (hrun : registryRuns.Run h sys) (hnamed : Machine.Steps NamedJobs h) :
    LeasesExclusive leaseEnds h sys ∧
    registryRuns.EveryStep (fun h sys call _ => LeaseRespected h sys call) h := by
  refine ⟨leasesExclusive_of_kept (leasesKept hrun hnamed), ?_⟩
  refine hrun.everyStep (fun h sys call sys' hrun hbefore _ hnext => ?_) hnamed
  exact leaseRespected (leasesKept hrun hbefore) (next_eq_some_iff.mp hnext).1

end runs

def namesJob (call : RegistryCall) : Bool :=
  match call.op with
  | .leaseSession _ jobId => jobId ≠ ""
  | _ => true

theorem namedJobs_of_namesJob {sys : RegistrySystem} {call : RegistryCall}
    (h : namesJob call = true) : NamedJobs sys call := by
  intro sessionId jobId hop
  simp only [namesJob, hop, decide_eq_true_iff] at h
  exact h

def holdsLease (ends : String → String → RegistrySystem → RegistryCall → Bool) (jobId : String)
    (e : Timestamp) (p : History RegistrySystem RegistryCall × RegistrySystem) : Bool :=
  sinceBool (leasesUntil "session" jobId e) (ends "session" jobId) p.1 && p.2.clock < e

theorem leaseHeld_of_holdsLease {ends : String → String → RegistrySystem → RegistryCall → Bool}
    {jobId : String} {e : Timestamp} {p : History RegistrySystem RegistryCall × RegistrySystem}
    (h : holdsLease ends jobId e p = true) :
    LeaseHeld ends "session" jobId e p.1 ∧ p.2.clock < e := by
  obtain ⟨hsince, hlive⟩ := Bool.and_eq_true_iff.mp h
  exact ⟨sinceBool_iff.mp hsince, of_decide_eq_true hlive⟩

/-- A lease is taken over at the instant it runs out. -/
theorem lease_taken_over : ∃ h t, registryRuns.Run h t ∧ LeaseHeld leaseEnds "session" "b" 20 h ∧
    LeasesExclusive leaseEnds h t ∧
    registryRuns.EveryStep (fun h sys call _ => LeaseRespected h sys call) h := by
  have hplayed : (replay next ⟨shortLeases, 0⟩
      ([⟨0, .createSessionRecord "session" devCriteria⟩, ⟨0, .leaseSession "session" "a"⟩,
        ⟨10, .leaseSession "session" "b"⟩, ⟨11, .releaseSession "session" "a"⟩,
        ⟨12, .findReusableSession devCriteria⟩].map fun call _ => some call)).any
      (fun p => p.1.all (fun q => namesJob q.2) && holdsLease leaseEnds "b" 20 p) = true := by
    decide +kernel
  obtain ⟨h, t, hrun, htest⟩ := exists_registryRun hplayed
  obtain ⟨hnames, hholds⟩ := Bool.and_eq_true_iff.mp htest
  have hnamed : Machine.Steps NamedJobs h := fun q hq =>
    namedJobs_of_namesJob (List.all_eq_true.mp hnames q hq)
  obtain ⟨hexclusive, hrespected⟩ := sessionLeases_exclusive hrun hnamed
  exact ⟨h, t, hrun, (leaseHeld_of_holdsLease hholds).1, hexclusive, hrespected⟩

/-- A new record for a session frees it while its lease runs, and so does a lease to a job without a
name. -/
theorem leased_twice :
    (¬∀ h t, registryRuns.Run h t → Machine.Steps NamedJobs h → LeasesExclusive givenUp h t) ∧
    ¬∀ h t, registryRuns.Run h t → LeasesExclusive leaseEnds h t := by
  constructor
  · intro hall
    have hplayed : (replay next ⟨shortLeases, 0⟩
        ([⟨0, .createSessionRecord "session" devCriteria⟩, ⟨0, .leaseSession "session" "a"⟩,
          ⟨1, .createSessionRecord "session" devCriteria⟩, ⟨1, .leaseSession "session" "b"⟩].map
          fun call _ => some call)).any
        (fun p => p.1.all (fun q => namesJob q.2) &&
          (holdsLease givenUp "a" 10 p && holdsLease givenUp "b" 11 p)) = true := by
      decide +kernel
    obtain ⟨h, t, hrun, htest⟩ := exists_registryRun hplayed
    obtain ⟨hnames, hholds⟩ := Bool.and_eq_true_iff.mp htest
    obtain ⟨ha, hb⟩ := Bool.and_eq_true_iff.mp hholds
    obtain ⟨heldA, hliveA⟩ := leaseHeld_of_holdsLease ha
    obtain ⟨heldB, hliveB⟩ := leaseHeld_of_holdsLease hb
    have hnamed : Machine.Steps NamedJobs h := fun q hq =>
      namedJobs_of_namesJob (List.all_eq_true.mp hnames q hq)
    exact absurd (hall h t hrun hnamed _ _ _ _ _ t.clock heldA heldB (Nat.le_refl _) hliveA hliveB)
      (by decide)
  · intro hall
    have hplayed : (replay next ⟨shortLeases, 0⟩
        ([⟨0, .createSessionRecord "session" devCriteria⟩, ⟨0, .leaseSession "session" ""⟩,
          ⟨1, .leaseSession "session" "b"⟩].map fun call _ => some call)).any
        (fun p => holdsLease leaseEnds "" 10 p && holdsLease leaseEnds "b" 11 p) = true := by
      decide +kernel
    obtain ⟨h, t, hrun, htest⟩ := exists_registryRun hplayed
    obtain ⟨ha, hb⟩ := Bool.and_eq_true_iff.mp htest
    obtain ⟨heldA, hliveA⟩ := leaseHeld_of_holdsLease ha
    obtain ⟨heldB, hliveB⟩ := leaseHeld_of_holdsLease hb
    exact absurd (hall h t hrun _ _ _ _ _ t.clock heldA heldB (Nat.le_refl _) hliveA hliveB)
      (by decide)

end ShipyardCp.Properties
