import ShipyardCp.Domain.ConcurrencyManager
import ShipyardCp.Lib.Transition

/-! Whether the running jobs of all workers together are the running jobs, and stay within both
limits. -/

namespace ShipyardCp.Properties

open Types Domain Lib ConcurrencyManager InsertionMap

inductive CapacityOp where
  | start (now : Timestamp) (jobId workerId : String) (stage : WorkerStage)
  | complete (jobId workerId : String)

/-- A job that is not running starts where it is accepted, and is completed for the worker with which
it was started. -/
def nextCapacity (m : ConcurrencyManager) (op : CapacityOp) : Option ConcurrencyManager :=
  match op with
  | .start now jobId workerId stage =>
    if m.canAccept workerId = .accepted ∧ m.counts jobId = false then
      some (m.recordStart now jobId workerId stage)
    else none
  | .complete jobId workerId =>
    if (m.activeJobs.get? jobId).all (·.workerId = workerId) then
      some (m.recordComplete jobId workerId)
    else none

def capacityRuns : Machine ConcurrencyManager CapacityOp :=
  .ofNext (fun m => m.activeJobs = .empty ∧ m.workerJobs = .empty) nextCapacity

/-- A job is in the set of a worker when it runs there, and no limit is exceeded. -/
structure CapacityBooks (m : ConcurrencyManager) : Prop where
  listed : ∀ jobId workerId, jobId ∈ m.activeOf workerId ↔
    ∃ record, m.activeJobs.get? jobId = some record ∧ record.workerId = workerId
  nodup : ∀ workerId, (m.activeOf workerId).Nodup
  withinGlobal : m.activeJobs.size ≤ m.maxConcurrentGlobal
  withinWorker : ∀ workerId, (m.activeOf workerId).length ≤ m.maxConcurrentPerWorker

section step

variable {m : ConcurrencyManager} {now : Timestamp} {jobId workerId : String} {stage : WorkerStage}

theorem capacityBooks_recordStart (hm : CapacityBooks m) (haccepts : m.canAccept workerId = .accepted)
    (hfresh : m.counts jobId = false) : CapacityBooks (m.recordStart now jobId workerId stage) := by
  obtain ⟨hglobal, hworker⟩ := canAccept_eq_accepted_iff.mp haccepts
  have hnone : m.activeJobs.get? jobId = none := by
    simpa [counts, has] using hfresh
  have hunlisted : ∀ workerId, jobId ∉ m.activeOf workerId := by
    intro workerId hmem
    obtain ⟨record, hrecord, _⟩ := (hm.listed jobId workerId).mp hmem
    rw [hnone] at hrecord
    cases hrecord
  have hadded : ∀ w, (m.recordStart now jobId workerId stage).activeOf w =
      if w = workerId then m.activeOf w ++ [jobId] else m.activeOf w := by
    intro w
    rw [activeOf_recordStart, if_neg (hunlisted workerId)]
    split_ifs with hw
    · rw [hw]
    · rfl
  have hactive : ∀ id, (m.recordStart now jobId workerId stage).activeJobs.get? id =
      if id = jobId then some ⟨jobId, workerId, stage, now⟩ else m.activeJobs.get? id :=
    fun id => get?_set _ _ _ _
  constructor
  · intro id w
    rw [hadded, hactive]
    by_cases hid : id = jobId
    · subst hid
      by_cases hw : w = workerId
      · simp [hw]
      · simp [hw, hunlisted w, Ne.symm hw]
    · rw [if_neg hid, ← hm.listed id w]
      split_ifs <;> simp [hid]
  · intro w
    rw [hadded]
    split_ifs with hw
    · rw [List.nodup_append]
      refine ⟨hm.nodup w, List.nodup_singleton _, fun a ha b hb => ?_⟩
      rw [List.mem_singleton.mp hb]
      rintro rfl
      exact hunlisted w ha
    · exact hm.nodup w
  · have hsize : (m.recordStart now jobId workerId stage).activeJobs.size = m.activeJobs.size + 1 :=
      m.activeJobs.size_set_of_get?_eq_none hnone
    rw [hsize]
    exact hglobal
  · intro w
    rw [hadded]
    split_ifs with hw
    · rw [hw, List.length_append]
      exact hworker
    · exact hm.withinWorker w

theorem capacityBooks_recordComplete (hm : CapacityBooks m)
    (hworker : (m.activeJobs.get? jobId).all (·.workerId = workerId) = true) :
    CapacityBooks (m.recordComplete jobId workerId) := by
  have hactive : ∀ id, (m.recordComplete jobId workerId).activeJobs.get? id =
      if id = jobId then none else m.activeJobs.get? id :=
    fun id => get?_delete _ _ _
  have hsublist : ∀ w, ((m.recordComplete jobId workerId).activeOf w).Sublist (m.activeOf w) := by
    intro w
    rw [activeOf_recordComplete]
    split_ifs
    · exact List.filter_sublist
    · exact List.Sublist.refl _
  constructor
  · intro id w
    rw [hactive, activeOf_recordComplete]
    by_cases hid : id = jobId
    · subst hid
      have hunlisted : w ≠ workerId → id ∉ m.activeOf w := by
        intro hw hmem
        obtain ⟨record, hrecord, hat⟩ := (hm.listed id w).mp hmem
        rw [hrecord] at hworker
        exact hw (hat.symm.trans (by simpa using hworker))
      rw [if_pos rfl]
      by_cases hw : w = workerId
      · simp [hw]
      · simp [hw, hunlisted hw]
    · rw [if_neg hid, ← hm.listed id w]
      split_ifs <;> simp [hid]
  · exact fun w => (hm.nodup w).sublist (hsublist w)
  · exact (m.activeJobs.size_delete_le jobId).trans hm.withinGlobal
  · exact fun w => (hsublist w).length_le.trans (hm.withinWorker w)

theorem capacityBooks_of_run {h : History ConcurrencyManager CapacityOp}
    (hrun : capacityRuns.Run h m) : CapacityBooks m := by
  refine hrun.stateInvariant (C := fun _ _ => True) ?_ ?_ (fun _ _ => trivial)
  · rintro m ⟨hactive, hworkers⟩
    have hempty : ∀ w, m.activeOf w = [] := by simp [activeOf, hworkers]
    constructor
    · simp [hempty, hactive]
    · simp [hempty]
    · rw [hactive]
      exact Nat.zero_le _
    · simp [hempty]
  · intro m op m' hm _ hstep
    cases op with
    | start now jobId workerId stage =>
      obtain ⟨⟨haccepts, hfresh⟩, hnext⟩ := Option.ite_none_right_eq_some.mp hstep
      rw [← Option.some.inj hnext]
      exact capacityBooks_recordStart hm haccepts hfresh
    | complete jobId workerId =>
      obtain ⟨hworker, hnext⟩ := Option.ite_none_right_eq_some.mp hstep
      rw [← Option.some.inj hnext]
      exact capacityBooks_recordComplete hm hworker

end step

/-- In every run the running jobs are those of all workers, each of one worker; both limits are kept;
and a job is refused exactly when a limit is reached. -/
theorem capacity_kept {h : History ConcurrencyManager CapacityOp} {m : ConcurrencyManager}
    (hrun : capacityRuns.Run h m) :
    (∀ jobId, m.counts jobId = true ↔ ∃ workerId, jobId ∈ m.activeOf workerId) ∧
    (∀ w w', w ≠ w' → (m.activeOf w).Disjoint (m.activeOf w')) ∧
    m.activeJobs.size ≤ m.maxConcurrentGlobal ∧
    (∀ workerId, (m.activeOf workerId).Nodup ∧
      (m.activeOf workerId).length ≤ m.maxConcurrentPerWorker) ∧
    ∀ workerId, m.canAccept workerId ≠ .accepted ↔ m.activeJobs.size = m.maxConcurrentGlobal ∨
        (m.activeOf workerId).length = m.maxConcurrentPerWorker := by
  have hm := capacityBooks_of_run hrun
  refine ⟨fun jobId => ?_, fun w w' hne id hid hid' => ?_, hm.withinGlobal,
    fun w => ⟨hm.nodup w, hm.withinWorker w⟩, fun w => ?_⟩
  · simp only [hm.listed, counts, has_eq_true_iff]
    constructor
    · rintro ⟨record, hrecord⟩
      exact ⟨_, record, hrecord, rfl⟩
    · rintro ⟨_, record, hrecord, _⟩
      exact ⟨record, hrecord⟩
  · obtain ⟨record, hrecord, hw⟩ := (hm.listed id w).mp hid
    obtain ⟨record', hrecord', hw'⟩ := (hm.listed id w').mp hid'
    obtain rfl := Option.some.inj (hrecord.symm.trans hrecord')
    exact hne (hw.symm.trans hw')
  · rw [Ne, canAccept_eq_accepted_iff]
    have hglobal := hm.withinGlobal
    have hworker := hm.withinWorker w
    omega

theorem exists_capacityRun {ops : List CapacityOp} {m : ConcurrencyManager}
    {test : History ConcurrencyManager CapacityOp × ConcurrencyManager → Bool}
    (hactive : m.activeJobs = .empty) (hworkers : m.workerJobs = .empty)
    (h : (Machine.replay nextCapacity m (ops.map fun op _ => some op)).any test = true) :
    ∃ h m, capacityRuns.Run h m ∧ test (h, m) = true :=
  Machine.exists_run_of_replay ⟨hactive, hworkers⟩ h

/-- Two workers run a job each, where one job a worker and two in all may run. -/
theorem two_workers_refused : ∃ h m, capacityRuns.Run h m ∧ m.activeOf "codex" = ["job_2"] ∧
    m.canAccept "opencode" ≠ .accepted := by
  have hplayed : (Machine.replay nextCapacity ⟨1, 2, .empty, .empty⟩
      ([.start 0 "job_0" "codex" .plan, .start 1 "job_1" "claude_code" .plan,
        .complete "job_0" "codex", .start 2 "job_2" "codex" .dev].map fun op _ => some op)).any
      (fun p => decide (p.2.activeOf "codex" = ["job_2"]) &&
        decide (p.2.activeJobs.size = p.2.maxConcurrentGlobal)) = true := by
    decide +kernel
  obtain ⟨h, m, hrun, htest⟩ := exists_capacityRun rfl rfl hplayed
  obtain ⟨hcodex, hfull⟩ := Bool.and_eq_true_iff.mp htest
  have hrefused := (capacity_kept hrun).2.2.2.2 "opencode"
  exact ⟨h, m, hrun, of_decide_eq_true hcodex, hrefused.mpr (Or.inl (of_decide_eq_true hfull))⟩

end ShipyardCp.Properties
