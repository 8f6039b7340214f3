import ShipyardCp.Properties.LeaseExclusion

/-! Whether an owner can go on with a lease that was marked as orphaned in its hands. -/

namespace ShipyardCp.Properties

open Types Domain Lib LeaseManager InsertionMap Machine

def marks (jobId owner : String) (sys : LeaseSystem) (call : LeaseCall) : Bool :=
  (call.op = .detectOrphan jobId || call.op = .checkAndMarkExpired) &&
    ((performLease sys.manager call).leases.get? jobId).any fun lease =>
      lease.leaseOwner = owner && lease.orphanedAt.isSome

def acquiredByOther (jobId owner : String) (sys : LeaseSystem) (call : LeaseCall) : Bool :=
  match call.op with
  | .acquire j o => j = jobId && o ≠ owner && (grants sys.manager call j o).isSome
  | _ => false

def Orphaned (jobId owner : String) (h : History LeaseSystem LeaseCall) : Prop :=
  Machine.Since (fun sys call => marks jobId owner sys call = true)
    (fun sys call => acquiredByOther jobId owner sys call = true) h

def StaysDead (h : History LeaseSystem LeaseCall) (sys : LeaseSystem) (call : LeaseCall) : Prop :=
  ∀ jobId owner, Orphaned jobId owner h → grants sys.manager call jobId owner = none

def NotReacquired (h : History LeaseSystem LeaseCall) (call : LeaseCall) : Prop :=
  ∀ jobId owner, Orphaned jobId owner h → call.op ≠ .acquire jobId owner

def Dead (m : LeaseManager) (jobId owner : String) : Prop :=
  ∀ lease, m.leases.get? jobId = some lease →
    lease.leaseOwner = owner ∧ lease.orphanedAt.isSome = true

def MarkedExpired (sys : LeaseSystem) : Prop :=
  ∀ jobId lease, sys.manager.leases.get? jobId = some lease → lease.orphanedAt.isSome = true →
    lease.leaseExpiresAt ≤ sys.clock

section operations

variable {m : LeaseManager} {call : LeaseCall} {jobId owner : String} {lease : Lease}

theorem performLease_get? (h : (performLease m call).leases.get? jobId = some lease) :
    (∃ o, call.op = .acquire jobId o ∧ grants m call jobId o ≠ none ∧ lease.orphanedAt = none) ∨
    (∃ found, m.leases.get? jobId = some found ∧
      ((∃ o, call.op = .heartbeat jobId o ∧ found.orphanedAt = none ∧ lease.orphanedAt = none) ∨
        lease = found ∨
        isLeaseExpired call.now found = true ∧ lease = markOrphaned call.now found)) := by
  obtain ⟨now, op⟩ := call
  cases op with
  | acquire j o =>
    cases hacquire : m.acquire now j o with
    | none =>
      simp only [performLease, hacquire, Option.map_none, Option.getD_none] at h
      exact Or.inr ⟨lease, h, Or.inr (Or.inl rfl)⟩
    | some granted =>
      obtain ⟨_, hgranted, hm⟩ := acquire_eq_some_iff.mp hacquire
      simp only [performLease, hacquire, Option.map_some, Option.getD_some, hm] at h
      by_cases hsame : jobId = j
      · subst hsame
        rw [get?_set_self] at h
        have hlease := Option.some.inj h
        refine Or.inl ⟨o, rfl, ?_, ?_⟩
        · simp [grants, hacquire]
        · rw [← hlease, hgranted]
      · rw [get?_set_of_ne _ _ hsame] at h
        exact Or.inr ⟨lease, h, Or.inr (Or.inl rfl)⟩
  | heartbeat j o =>
    cases hheartbeat : m.heartbeat now j o with
    | none =>
      simp only [performLease, hheartbeat, Option.map_none, Option.getD_none] at h
      exact Or.inr ⟨lease, h, Or.inr (Or.inl rfl)⟩
    | some granted =>
      obtain ⟨found, hfound, _, hunmarked, hgranted, hm⟩ := heartbeat_eq_some_iff.mp hheartbeat
      simp only [performLease, hheartbeat, Option.map_some, Option.getD_some, hm] at h
      by_cases hsame : jobId = j
      · subst hsame
        rw [get?_set_self] at h
        have hlease := Option.some.inj h
        refine Or.inr ⟨found, hfound, Or.inl ⟨o, rfl, hunmarked, ?_⟩⟩
        rw [← hlease, hgranted]
        exact hunmarked
      · rw [get?_set_of_ne _ _ hsame] at h
        exact Or.inr ⟨lease, h, Or.inr (Or.inl rfl)⟩
  | release j o =>
    simp only [performLease, release] at h
    split_ifs at h
    · rw [get?_delete] at h
      split_ifs at h
      exact Or.inr ⟨lease, h, Or.inr (Or.inl rfl)⟩
    · exact Or.inr ⟨lease, h, Or.inr (Or.inl rfl)⟩
  | detectOrphan j =>
    cases hdetect : m.detectOrphan now j with
    | none =>
      simp only [performLease, hdetect, Option.map_none, Option.getD_none] at h
      exact Or.inr ⟨lease, h, Or.inr (Or.inl rfl)⟩
    | some marked =>
      obtain ⟨found, hfound, hm⟩ := detectOrphan_eq_some hdetect
      simp only [performLease, hdetect, Option.map_some, Option.getD_some, hm] at h
      by_cases hsame : jobId = j
      · subst hsame
        rw [get?_set_self] at h
        have hexpired : isLeaseExpired now found = true := by
          by_contra hlive
          simp [detectOrphan, hfound, hlive] at hdetect
        exact Or.inr ⟨found, hfound, Or.inr (Or.inr ⟨hexpired, (Option.some.inj h).symm⟩)⟩
      · rw [get?_set_of_ne _ _ hsame] at h
        exact Or.inr ⟨lease, h, Or.inr (Or.inl rfl)⟩
  | checkAndMarkExpired =>
    simp only [performLease, checkAndMarkExpired, get?_mapValues] at h
    obtain ⟨found, hfound, hlease⟩ := Option.map_eq_some_iff.mp h
    refine Or.inr ⟨found, hfound, Or.inr ?_⟩
    split_ifs at hlease with hnew
    · simp only [newlyExpired, Bool.and_eq_true] at hnew
      exact Or.inr ⟨hnew.2, hlease.symm⟩
    · exact Or.inl hlease.symm

theorem markOrphaned_isSome (now : Timestamp) (lease : Lease) :
    (markOrphaned now lease).orphanedAt.isSome = true := by
  unfold markOrphaned
  split_ifs with hmarked
  · exact hmarked
  · rfl

theorem dead_performLease (hdead : Dead m jobId owner)
    (hacquire : ∀ o, call.op = .acquire jobId o → grants m call jobId o = none) :
    Dead (performLease m call) jobId owner := by
  intro lease hlease
  rcases performLease_get? hlease with ⟨o, hop, hgrants, _⟩ | ⟨found, hfound, hkind⟩
  · exact absurd (hacquire o hop) hgrants
  · obtain ⟨howner, hmarked⟩ := hdead found hfound
    rcases hkind with ⟨o, _, hunmarked, _⟩ | rfl | ⟨_, rfl⟩
    · rw [hunmarked] at hmarked
      cases hmarked
    · exact ⟨howner, hmarked⟩
    · refine ⟨?_, markOrphaned_isSome call.now found⟩
      rw [(markOrphaned_grant call.now found).1]
      exact howner

theorem grants_acquire_of_dead
    (hexpired : ∀ lease, m.leases.get? jobId = some lease → lease.leaseExpiresAt ≤ call.now)
    (hop : call.op = .acquire jobId owner) : grants m call jobId owner ≠ none := by
  have hacquire : m.acquire call.now jobId owner ≠ none := by
    intro hnone
    have hsome : m.acquire call.now jobId owner = some (_, _) := acquire_eq_some_iff.mpr
      ⟨fun existing hexisting => Or.inl (hexpired existing hexisting), rfl, rfl⟩
    rw [hnone] at hsome
    cases hsome
  simpa [grants, hop] using hacquire

theorem grants_of_dead (hdead : Dead m jobId owner) (hop : call.op ≠ .acquire jobId owner) :
    grants m call jobId owner = none := by
  obtain ⟨now, op⟩ := call
  cases op with
  | acquire j o =>
    have hother : ¬(j = jobId ∧ o = owner) := by
      rintro ⟨rfl, rfl⟩
      exact hop rfl
    simp [grants, hother]
  | heartbeat j o =>
    cases hheartbeat : m.heartbeat now j o with
    | none => simp [grants, hheartbeat]
    | some granted =>
      obtain ⟨found, hfound, _, hunmarked, _⟩ := heartbeat_eq_some_iff.mp hheartbeat
      have hother : ¬(j = jobId ∧ o = owner) := by
        rintro ⟨rfl, rfl⟩
        have hmarked := (hdead found hfound).2
        rw [hunmarked] at hmarked
        cases hmarked
      simp [grants, hother]
  | release j o => rfl
  | detectOrphan j => rfl
  | checkAndMarkExpired => rfl

end operations

section runs

variable {h : History LeaseSystem LeaseCall} {sys sys' : LeaseSystem} {call : LeaseCall}
  {jobId owner : String}

theorem markedExpired_of_step (hmarked : MarkedExpired sys)
    (hstep : leaseSystem.step sys call sys') : MarkedExpired sys' := by
  obtain ⟨hclock, rfl⟩ := next_eq_some_iff.mp hstep
  intro jobId lease hlease hsome
  rcases performLease_get? hlease with ⟨_, _, _, hunmarked⟩ | ⟨found, hfound, hkind⟩
  · rw [hunmarked] at hsome
    cases hsome
  · rcases hkind with ⟨_, _, _, hunmarked⟩ | rfl | ⟨hexpired, rfl⟩
    · rw [hunmarked] at hsome
      cases hsome
    · exact Nat.le_trans (hmarked jobId lease hfound hsome) hclock
    · rw [(markOrphaned_grant call.now found).2]
      exact of_decide_eq_true hexpired

theorem markedExpired_of_run (hrun : leaseSystem.Run h sys) : MarkedExpired sys := by
  refine hrun.stateInvariant (C := fun _ _ => True) ?_ ?_ (by simp [Machine.Steps])
  · intro s hinit jobId lease hlease
    have hempty : s.manager.leases = .empty := hinit
    rw [hempty] at hlease
    cases hlease
  · intro s a s' hmarked _ hstep
    exact markedExpired_of_step hmarked hstep

theorem dead_of_marks (hmarks : marks jobId owner sys call = true) :
    Dead (performLease sys.manager call) jobId owner := by
  intro lease hlease
  rw [marks, hlease, Bool.and_eq_true] at hmarks
  simpa using hmarks.2

theorem dead_of_step (hdead : ∀ jobId owner, Orphaned jobId owner h → Dead sys.manager jobId owner)
    (hnot : NotReacquired h call) (hstep : leaseSystem.step sys call sys') :
    ∀ jobId owner, Orphaned jobId owner (h ++ [(sys, call)]) → Dead sys'.manager jobId owner := by
  intro jobId owner horphaned
  obtain ⟨_, rfl⟩ := next_eq_some_iff.mp hstep
  rcases since_snoc.mp horphaned with hmarks | ⟨hbefore, hother⟩
  · exact dead_of_marks hmarks
  · refine dead_performLease (hdead jobId owner hbefore) fun o hop => ?_
    have hdifferent : o ≠ owner := by
      rintro rfl
      exact hnot jobId o hbefore hop
    by_contra hgrants
    apply hother
    simp [acquiredByOther, hop, hdifferent, Option.isSome_iff_ne_none, hgrants]

/-- In every run, no owner goes on with a lease orphaned in its hands exactly when none of them calls
acquire for it before another owner has acquired it. -/
theorem orphaned_staysDead_iff (hrun : leaseSystem.Run h sys) :
    Machine.Guarded StaysDead h ↔ Machine.Guarded (fun h _ call => NotReacquired h call) h := by
  refine Machine.Run.guarded_iff
    (I := fun h sys => ∀ jobId owner, Orphaned jobId owner h → Dead sys.manager jobId owner)
    ?_ ?_ ?_ hrun
  · intro s _ jobId owner horphaned
    exact absurd horphaned not_since_nil
  · intro h s a s' _ hdead hnot hstep
    exact dead_of_step hdead hnot hstep
  · intro h s a s' hrun hdead hstep
    have hclock := (next_eq_some_iff.mp hstep).1
    constructor
    · intro hstays jobId owner horphaned hop
      refine grants_acquire_of_dead (fun lease hlease => ?_) hop (hstays jobId owner horphaned)
      have hmarked := (hdead jobId owner horphaned lease hlease).2
      exact Nat.le_trans (markedExpired_of_run hrun jobId lease hlease hmarked) hclock
    · intro hnot jobId owner horphaned
      exact grants_of_dead (hdead jobId owner horphaned) (hnot jobId owner horphaned)

end runs

def LeaseSystem.after (sys : LeaseSystem) (call : LeaseCall) : LeaseSystem :=
  ⟨performLease sys.manager call, call.now⟩

theorem run_after {h : History LeaseSystem LeaseCall} {sys : LeaseSystem} (call : LeaseCall)
    (hrun : leaseSystem.Run h sys) (hclock : sys.clock ≤ call.now) :
    leaseSystem.Run (h ++ [(sys, call)]) (sys.after call) :=
  hrun.snoc (next_eq_some_iff.mpr ⟨hclock, rfl⟩)

/-- A worker whose lease was marked is refused its heartbeat, and another takes the job over. -/
theorem takeover_staysDead :
    let fresh : LeaseSystem := ⟨.empty, 0⟩
    let held := fresh.after ⟨0, .acquire "job" "a"⟩
    let marked := held.after ⟨300000, .detectOrphan "job"⟩
    let refused := marked.after ⟨300001, .heartbeat "job" "a"⟩
    Machine.Guarded StaysDead [(fresh, ⟨0, .acquire "job" "a"⟩),
      (held, ⟨300000, .detectOrphan "job"⟩), (marked, ⟨300001, .heartbeat "job" "a"⟩),
      (refused, ⟨300002, .acquire "job" "b"⟩)] := by
  intro fresh held marked refused
  have hheld := run_after ⟨0, .acquire "job" "a"⟩ (.start rfl : leaseSystem.Run [] fresh) (by decide)
  have hmarked := run_after ⟨300000, .detectOrphan "job"⟩ hheld (by decide)
  have hrefused := run_after ⟨300001, .heartbeat "job" "a"⟩ hmarked (by decide)
  have hrun := run_after ⟨300002, .acquire "job" "b"⟩ hrefused (by decide)
  apply (orphaned_staysDead_iff hrun).mpr
  simp only [guarded_snoc]
  refine ⟨⟨⟨⟨guarded_nil _, ?_⟩, ?_⟩, ?_⟩, ?_⟩
  · exact fun jobId owner horphaned => absurd horphaned not_since_nil
  · exact fun jobId owner _ => nofun
  · exact fun jobId owner _ => nofun
  · intro jobId owner horphaned hop
    obtain ⟨rfl, rfl⟩ : "job" = jobId ∧ "b" = owner := by simpa using hop
    have hsince := sinceBool_iff.mpr horphaned
    revert hsince
    decide +kernel

/-- A worker that finds its lease marked acquires the job anew, and goes on. -/
theorem owner_reacquires_orphan : ¬∀ h sys, leaseSystem.Run h sys → Machine.Guarded StaysDead h := by
  intro hall
  let fresh : LeaseSystem := ⟨.empty, 0⟩
  have hheld := run_after ⟨0, .acquire "job" "a"⟩ (.start rfl : leaseSystem.Run [] fresh) (by decide)
  have hmarked := run_after ⟨300000, .detectOrphan "job"⟩ hheld (by decide)
  have hrun := run_after ⟨300001, .acquire "job" "a"⟩ hmarked (by decide)
  have hstays := (guarded_snoc.mp (hall _ _ hrun)).2 "job" "a"
    (sinceBool_iff.mp (by decide +kernel))
  revert hstays
  decide +kernel

end ShipyardCp.Properties
