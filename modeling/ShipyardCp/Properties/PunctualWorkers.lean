import ShipyardCp.Properties.LeaseExclusion
import ShipyardCp.Store.Frame

/-! Whether a job that a scan finds orphaned is fenced off. -/

namespace ShipyardCp.Properties

open Types Domain Lib Store Machine

def overdue (env : Env) (s : ControlPlane) (task : Task) : Bool :=
  (activeJobForOrphanScan s task).any fun info => (detectOrphan env.now info.lease).isSome

/-- The call is a scan that reports the job of the task as an orphan. -/
def reports (call : Call) (s : ControlPlane) (taskId jobId : String) : Bool :=
  match call.op with
  | .scanForOrphans => (s.task? taskId).any fun task =>
    task.activeJobId = some jobId && overdue call.env s task
  | _ => false

/-- The call is a scan that chooses to retry the stage of the task. -/
def choosesRetry (call : Call) (s : ControlPlane) (taskId : String) (stage : WorkerStage) : Bool :=
  match call.op with
  | .scanForOrphans => (s.task? taskId).any fun task => overdue call.env s task &&
    (activeJobForOrphanScan s task).any fun info => info.action = .retry stage
  | _ => false

def getMaxRetriesForStage (stage : WorkerStage) : Nat :=
  min (getDefaultMaxRetries stage) maxRecoveryAttempts

/-- The job is lost: its heartbeats are rejected, its results change nothing, no scan reports it, and
its task is blocked or works on another job. -/
structure Fenced (s : ControlPlane) (taskId jobId : String) : Prop where
  revoked : ∀ env workerId, ∃ e, (heartbeat env jobId workerId).run s = .error e s
  settled : ∀ env result, result.jobId = jobId →
    (finalState (applyResult env taskId result) s).task? taskId = s.task? taskId
  unreported : ∀ env id, reports ⟨env, .scanForOrphans⟩ s id jobId = false
  replaced : ∃ task, s.task? taskId = some task ∧
    (task.state = .blocked ∨ ∃ other, task.activeJobId = some other ∧ other ≠ jobId)

/-- A job that a scan of the run reports is fenced from there on, and scans choose as many retries of
a stage as it allows at most. -/
structure OrphansFenced (h : History System Call) (sys : System) : Prop where
  fenced : ∀ h₁ before call h₂, h = h₁ ++ (before, call) :: h₂ → ∀ taskId jobId,
    reports call before.store taskId jobId = true →
      ∀ t ∈ Machine.states h₂ sys, Fenced t.store taskId jobId
  retried : ∀ taskId stage, (h.countP fun step => choosesRetry step.2 step.1.store taskId stage) ≤
    getMaxRetriesForStage stage

def noneOverdue (sys : System) (call : Call) : Bool :=
  match call.op with
  | .scanForOrphans => sys.store.tasks.values.all fun task => !overdue call.env sys.store task
  | _ => true

section scans

variable {sys sys' : System} {call : Call} {taskId jobId : String}

theorem not_overdue_of_noneOverdue {env : Env} {task : Task}
    (hnone : noneOverdue sys ⟨env, .scanForOrphans⟩ = true)
    (hstored : sys.store.task? taskId = some task) : overdue env sys.store task = false := by
  have hmem : task ∈ sys.store.tasks.values := by
    rw [sys.store.tasks.mem_values_iff, sys.store.task?_taskId hstored]
    exact hstored
  simpa using List.all_eq_true.mp hnone task hmem

theorem reports_of_noneOverdue (hnone : noneOverdue sys call = true) :
    reports call sys.store taskId jobId = false := by
  obtain ⟨env, op⟩ := call
  cases op with
  | scanForOrphans =>
    cases hstored : sys.store.task? taskId with
    | none => simp [reports, hstored]
    | some task => simp [reports, hstored, not_overdue_of_noneOverdue hnone hstored]
  | _ => rfl

theorem choosesRetry_of_noneOverdue {stage : WorkerStage} (hnone : noneOverdue sys call = true) :
    choosesRetry call sys.store taskId stage = false := by
  obtain ⟨env, op⟩ := call
  cases op with
  | scanForOrphans =>
    cases hstored : sys.store.task? taskId with
    | none => simp [choosesRetry, hstored]
    | some task => simp [choosesRetry, hstored, not_overdue_of_noneOverdue hnone hstored]
  | _ => rfl

theorem heartbeat_of_reports (hunmarked : sys.store.leaseManager.Unmarked)
    (hreports : reports call sys.store taskId jobId = true)
    (hstep : controlPlane.step sys call sys') (env : Env) :
    ∃ workerId response s, (heartbeat env jobId workerId).run sys'.store = .ok response s := by
  obtain ⟨_, rfl⟩ := step_iff.mp hstep
  obtain ⟨scanEnv, op⟩ := call
  cases op with
  | scanForOrphans =>
    obtain ⟨task, _, hactive⟩ := (Option.any_eq_true _ _).mp hreports
    rw [Bool.and_eq_true, decide_eq_true_eq] at hactive
    obtain ⟨info, hinfo, _⟩ := (Option.any_eq_true _ _).mp hactive.2
    obtain ⟨jobId', job, hactive', hjob, hlease⟩ := leased_of_activeJobForOrphanScan hinfo
    obtain rfl : jobId' = jobId := Option.some.inj (hactive'.symm.trans hactive.1)
    have hbeside : SameBeside sys.store (sys.perform ⟨scanEnv, .scanForOrphans⟩).store :=
      sameBeside_perform rfl
    obtain ⟨lease, m, hbeat, _⟩ := LeaseManager.heartbeat_of_unmarked env.now hlease
      (hunmarked jobId' info.lease hlease)
    let after := (sys.perform ⟨scanEnv, .scanForOrphans⟩).store
    refine ⟨info.lease.leaseOwner, ⟨jobId', lease.leaseExpiresAt,
      after.leaseManager.nextHeartbeatDueAt env.now, lease.lastHeartbeatAt⟩,
      { after with leaseManager := m }, ?_⟩
    suffices wp (heartbeat env jobId' info.lease.leaseOwner) (· = .ok ⟨jobId', lease.leaseExpiresAt,
      after.leaseManager.nextHeartbeatDueAt env.now, lease.lastHeartbeatAt⟩
      { after with leaseManager := m }) after from this
    simp [heartbeat, after, hbeside.jobs, hbeside.leaseManager, hjob, hbeat]
  | _ => cases hreports

theorem reports_of_overdue (hoverdue : noneOverdue sys call = false) :
    ∃ taskId jobId, reports call sys.store taskId jobId = true := by
  obtain ⟨env, op⟩ := call
  cases op with
  | scanForOrphans =>
    obtain ⟨task, hmem, hfound⟩ := List.all_eq_false.mp hoverdue
    have hlate : overdue env sys.store task = true := by simpa using hfound
    obtain ⟨info, hinfo, _⟩ := (Option.any_eq_true _ _).mp hlate
    obtain ⟨jobId, _, hactive, _, _⟩ := leased_of_activeJobForOrphanScan hinfo
    have hstored : sys.store.task? task.taskId = some task := sys.store.tasks.mem_values_iff.mp hmem
    exact ⟨task.taskId, jobId, by simp [reports, hstored, hactive, hlate]⟩
  | _ => cases hoverdue

theorem not_fenced_of_reports {h : History System Call} (hrun : controlPlane.Run h sys)
    {p : System × Call} (hp : p ∈ h) (hreports : reports p.2 p.1.store taskId jobId = true) :
    ¬OrphansFenced h sys := by
  intro hfenced
  obtain ⟨h₁, h₂, rfl⟩ := List.append_of_mem hp
  obtain ⟨t, hrun₁, hstep, hpath⟩ := hrun.split
  have hlost := hfenced.fenced h₁ p.1 p.2 h₂ rfl taskId jobId hreports t hpath.mem_states
  obtain ⟨workerId, response, s, hbeat⟩ :=
    heartbeat_of_reports (unmarked_leaseInvariant.of_run hrun₁) hreports hstep p.2.env
  obtain ⟨e, hrejected⟩ := hlost.revoked p.2.env workerId
  rw [hrejected] at hbeat
  cases hbeat

end scans

section runs

variable {h : History System Call} {sys : System}

/-- Orphans are fenced in a run exactly when its scans find none. -/
theorem orphans_fenced_iff (hrun : controlPlane.Run h sys) : OrphansFenced h sys ↔
    Machine.Steps (fun sys call => noneOverdue sys call = true) h := by
  constructor
  · intro hfenced p hp
    by_contra hoverdue
    obtain ⟨taskId, jobId, hreports⟩ := reports_of_overdue (Bool.not_eq_true _ ▸ hoverdue)
    exact not_fenced_of_reports hrun hp hreports hfenced
  · intro hnone
    constructor
    · rintro h₁ before call h₂ rfl taskId jobId hreports
      rw [reports_of_noneOverdue (hnone (before, call) (by simp))] at hreports
      cases hreports
    · intro taskId stage
      have hzero : (h.countP fun step => choosesRetry step.2 step.1.store taskId stage) = 0 := by
        refine List.countP_eq_zero.mpr fun p hp => ?_
        rw [choosesRetry_of_noneOverdue (hnone p hp)]
        exact Bool.false_ne_true
      rw [hzero]
      exact Nat.zero_le _

def scanLine (now : Timestamp) : System → Option Call :=
  fun _ => some ⟨{ sampleEnv "scan" with now := now }, .scanForOrphans⟩

def scannedScript (now : Timestamp) : Script :=
  [line "0" (.createTask sampleRequest), dispatchLine "0" .plan, settleLine submitted, scanLine now]

def lists (sys : System) : Bool :=
  sys.store.tasks.values.any fun task => (activeJobForOrphanScan sys.store task).isSome

theorem punctual_plan_fenced : ∃ h sys, controlPlane.Run h sys ∧
    (h.getLast?.any fun step => lists step.1) = true ∧ OrphansFenced h sys := by
  obtain ⟨h, sys, hrun, htest⟩ := exists_run_of_play (scannedScript 1000)
    (fun p => (p.1.getLast?.any fun step => lists step.1) &&
      p.1.all fun step => noneOverdue step.1 step.2) (by decide +kernel)
  rw [Bool.and_eq_true, List.all_eq_true] at htest
  exact ⟨h, sys, hrun, htest.1, (orphans_fenced_iff hrun).mpr htest.2⟩

/-- A plan whose worker was silent for a quarter of an hour is reported and not fenced. -/
theorem silent_plan_not_fenced : ¬∀ h sys, controlPlane.Run h sys → OrphansFenced h sys := by
  intro hall
  obtain ⟨h, sys, hrun, htest⟩ := exists_run_of_play (scannedScript 900000)
    (fun p => p.1.any fun step => reports step.2 step.1.store "task_0" "job_0")
    (by decide +kernel)
  obtain ⟨p, hp, hreports⟩ := List.any_eq_true.mp htest
  exact not_fenced_of_reports hrun hp hreports (hall h sys hrun)

end runs

/-! Whether a worker that sends its heartbeats in time can be taken for an orphan. -/

/-- The instant by which the next heartbeat for the job is due, as told by the call: the grant of its
lease counts as a first heartbeat, and an answered heartbeat names the instant. -/
def dueTimes (jobId : String) (sys : System) (call : Call) : List Timestamp :=
  match call.op with
  | .beginDispatch taskId request =>
    match returned? (beginDispatch call.env taskId request) sys.store with
    | none => []
    | some d =>
      if d.job.jobId = jobId then [sys.store.leaseManager.nextHeartbeatDueAt call.env.now] else []
  | .heartbeat id workerId =>
    match returned? (heartbeat call.env id workerId) sys.store with
    | none => []
    | some response => if response.jobId = jobId then [response.nextHeartbeatDueAt] else []
  | _ => []

def WithinDue (jobId : String) (before : History System Call) (call : Call) : Prop :=
  InTime (deadline (dueTimes jobId) before) call.env.now

instance (jobId : String) (before : History System Call) (call : Call) :
    Decidable (WithinDue jobId before call) :=
  inferInstanceAs (Decidable (InTime _ _))

def Timely (due : Option Timestamp) (lease : Lease) : Prop :=
  ∃ t, lease.lastHeartbeatAt = some t ∧ lease.leaseExpiresAt = t + 300 * 1000 ∧
    due = some (t + 60 * 1000)

def TimelyLeases (h : History System Call) (m : LeaseManager) : Prop :=
  ∀ jobId lease, m.leases.get? jobId = some lease → Timely (deadline (dueTimes jobId) h) lease

theorem config_leaseInvariant : LeaseInvariant fun m => m.config = defaultLeaseConfig where
  empty := rfl
  acquire m m' now jobId owner lease hconfig hacquire := by
    obtain ⟨_, _, rfl⟩ := acquire_eq_some_iff.mp hacquire
    exact hconfig
  heartbeat m m' now jobId owner lease hconfig hbeat := by
    obtain ⟨_, _, _, _, _, rfl⟩ := heartbeat_eq_some_iff.mp hbeat
    exact hconfig
  release m jobId owner hconfig := by
    unfold LeaseManager.release
    split_ifs <;> exact hconfig

section steps

variable {h : History System Call} {sys sys' : System} {call : Call}

theorem TimelyLeases.release {m : LeaseManager} (hm : TimelyLeases h m) (jobId owner : String) :
    TimelyLeases h (m.release jobId owner) := by
  intro id lease hlease
  unfold LeaseManager.release at hlease
  split_ifs at hlease
  · rw [InsertionMap.get?_delete] at hlease
    split_ifs at hlease
    exact hm id lease hlease
  · exact hm id lease hlease

theorem TimelyLeases.set {m : LeaseManager} {jobId : String} {lease : Lease} (now : Timestamp)
    (hm : TimelyLeases h m) (hconfig : m.config = defaultLeaseConfig)
    (htold : dueTimes jobId sys call = [m.nextHeartbeatDueAt now])
    (hsilent : ∀ id, id ≠ jobId → dueTimes id sys call = [])
    (hbeat : lease.lastHeartbeatAt = some now) (hexpires : lease.leaseExpiresAt = m.expiresAt now) :
    TimelyLeases (h ++ [(sys, call)]) { m with leases := m.leases.set jobId lease } := by
  intro id found hfound
  rw [InsertionMap.get?_set] at hfound
  split_ifs at hfound with hid
  · obtain rfl := Option.some.inj hfound
    subst hid
    rw [deadline_snoc, htold]
    exact ⟨now, hbeat, by rw [hexpires, LeaseManager.expiresAt, hconfig]; rfl,
      by rw [LeaseManager.nextHeartbeatDueAt, hconfig]; rfl⟩
  · rw [deadline_snoc_of_nil (hsilent id hid)]
    exact hm id found hfound

theorem TimelyLeases.of_silent {m : LeaseManager} (hm : TimelyLeases h m)
    (hsilent : ∀ id, dueTimes id sys call = []) : TimelyLeases (h ++ [(sys, call)]) m := by
  intro id lease hlease
  rw [deadline_snoc_of_nil (hsilent id)]
  exact hm id lease hlease

theorem timely_beginDispatch (hconfig : sys.store.leaseManager.config = defaultLeaseConfig)
    (hm : TimelyLeases h sys.store.leaseManager) (env : Env) (taskId : String)
    (request : DispatchRequest) :
    TimelyLeases (h ++ [(sys, ⟨env, .beginDispatch taskId request⟩)])
      (finalState (beginDispatch env taskId request) sys.store).leaseManager := by
  have hwp : wp (beginDispatch env taskId request) (returnsOrThrows
      (fun d s' => ∃ owner lease, sys.store.leaseManager.acquire env.now d.job.jobId owner =
        some (lease, s'.leaseManager))
      fun s' => s'.leaseManager = sys.store.leaseManager) sys.store :=
    wp_beginDispatch (fun _ => rfl) (fun _ _ _ _ _ _ => rfl)
      fun d lease leases workerType _ _ hacquire => ⟨workerType.text, lease, hacquire⟩
  unfold wp at hwp
  unfold finalState
  cases hrun : (beginDispatch env taskId request).run sys.store with
  | error e s' =>
    rw [hrun] at hwp
    have hsame : s'.leaseManager = sys.store.leaseManager := hwp
    dsimp only
    rw [hsame]
    exact hm.of_silent fun id => by simp [dueTimes, returned?, hrun]
  | ok d s' =>
    rw [hrun] at hwp
    obtain ⟨owner, lease, hacquire⟩ := hwp
    obtain ⟨_, hlease, hleases⟩ := acquire_eq_some_iff.mp hacquire
    dsimp only
    rw [hleases]
    refine hm.set env.now hconfig ?_ (fun id hne => ?_) (by rw [hlease]) (by rw [hlease])
    · simp [dueTimes, returned?, hrun]
    · simp [dueTimes, returned?, hrun, hne.symm]

theorem timely_heartbeat (hconfig : sys.store.leaseManager.config = defaultLeaseConfig)
    (hm : TimelyLeases h sys.store.leaseManager) (env : Env) (jobId workerId : String) :
    TimelyLeases (h ++ [(sys, ⟨env, .heartbeat jobId workerId⟩)])
      (finalState (heartbeat env jobId workerId) sys.store).leaseManager := by
  have hwp : wp (heartbeat env jobId workerId) (fun
      | .ok response s' => (∃ lease, sys.store.leaseManager.heartbeat env.now jobId workerId =
          some (lease, s'.leaseManager)) ∧ response.jobId = jobId ∧
          response.nextHeartbeatDueAt = sys.store.leaseManager.nextHeartbeatDueAt env.now
      | .error _ s' => s'.leaseManager = sys.store.leaseManager) sys.store :=
    wp_heartbeat (fun _ => rfl) fun lease leases hbeat => ⟨⟨lease, hbeat⟩, rfl, rfl⟩
  unfold wp at hwp
  unfold finalState
  cases hrun : (heartbeat env jobId workerId).run sys.store with
  | error e s' =>
    rw [hrun] at hwp
    have hsame : s'.leaseManager = sys.store.leaseManager := hwp
    dsimp only
    rw [hsame]
    exact hm.of_silent fun id => by simp [dueTimes, returned?, hrun]
  | ok response s' =>
    rw [hrun] at hwp
    obtain ⟨⟨lease, hbeat⟩, hjob, hdue⟩ := hwp
    obtain ⟨found, _, _, _, hlease, hleases⟩ := heartbeat_eq_some_iff.mp hbeat
    dsimp only
    rw [hleases]
    refine hm.set env.now hconfig ?_ (fun id hne => ?_) (by rw [hlease]) (by rw [hlease])
    · simp [dueTimes, returned?, hrun, hjob, hdue]
    · simp [dueTimes, returned?, hrun, hjob, hne.symm]

theorem timelyLeases_of_run (hrun : controlPlane.Run h sys) :
    TimelyLeases h sys.store.leaseManager := by
  induction hrun with
  | start hfresh =>
    obtain ⟨_, _, _, rfl⟩ := hfresh
    intro jobId lease hlease
    cases hlease
  | @snoc h sys call sys' hbefore hstep ih =>
    have hconfig := config_leaseInvariant.of_run hbefore
    obtain ⟨env, op⟩ := call
    cases op with
    | beginDispatch taskId request =>
      obtain ⟨_, rfl⟩ := step_iff.mp hstep
      have hstore : (sys.perform ⟨env, .beginDispatch taskId request⟩).store = _ :=
        sys.beginDispatch_store env taskId request
      rw [hstore]
      exact timely_beginDispatch hconfig ih env taskId request
    | heartbeat jobId workerId =>
      obtain ⟨_, rfl⟩ := step_iff.mp hstep
      exact timely_heartbeat hconfig ih env jobId workerId
    | _ =>
      exact (leaseManager_of_step (fun m jobId owner hm => hm.release jobId owner) hstep (by simp)
        (by simp) ih).of_silent fun _ => rfl

end steps

variable {h : History System Call} {sys : System} {jobId taskId : String}

theorem detectOrphan_of_timely {due : Option Timestamp} {lease : Lease} {now : Timestamp}
    (htimely : Timely due lease) (hnow : InTime due now) : detectOrphan now lease = none := by
  obtain ⟨t, hbeat, hexpires, hdue⟩ := htimely
  have hlimit : (now : ℕ) ≤ t + 60 * 1000 := hnow _ hdue
  have hheld : ¬lease.leaseExpiresAt < now := by
    rw [hexpires]
    exact Nat.not_lt.mpr (hlimit.trans (Nat.add_le_add_left (by decide) t))
  have hfresh : ¬heartbeatThresholdMs + t < now := by
    rw [heartbeatThresholdMs, Nat.add_comm]
    exact Nat.not_lt.mpr (hlimit.trans (Nat.add_le_add_left (by decide) t))
  simp [detectOrphan, hheld, hbeat, hfresh]

theorem reports_of_withinDue (hrun : controlPlane.Run h sys) {call : Call}
    (hdue : WithinDue jobId h call) (taskId : String) :
    reports call sys.store taskId jobId = false := by
  obtain ⟨env, op⟩ := call
  by_contra hreports
  rw [Bool.not_eq_false] at hreports
  cases op with
  | scanForOrphans =>
    obtain ⟨task, _, hlisted⟩ := (Option.any_eq_true _ _).mp hreports
    rw [Bool.and_eq_true, decide_eq_true_eq] at hlisted
    obtain ⟨info, hinfo, hdetected⟩ := (Option.any_eq_true _ _).mp hlisted.2
    obtain ⟨jobId', _, hactive, _, hlease⟩ := leased_of_activeJobForOrphanScan hinfo
    obtain rfl : jobId' = jobId := Option.some.inj (hactive.symm.trans hlisted.1)
    have htimely := timelyLeases_of_run hrun jobId' info.lease hlease
    rw [detectOrphan_of_timely htimely hdue] at hdetected
    cases hdetected
  | _ => cases hreports

/-- No scan reports a job at an instant up to the due time told last, whatever calls came before. So,
while the clock does not go back and each heartbeat that is answered comes by the due time before it,
no scan of a run reports the job, up to the due time at its end. -/
theorem punctual_worker_unreported (hrun : controlPlane.Run h sys) (jobId : String) :
    Guarded (fun before sys call => WithinDue jobId before call →
      ∀ taskId, reports call sys.store taskId jobId = false) h ∧
    ((h.map fun p => p.2.env.now).Pairwise (· ≤ ·) →
      Guarded (fun before sys call => dueTimes jobId sys call ≠ [] → WithinDue jobId before call) h →
      ∀ t, (∀ p ∈ h, p.2.env.now ≤ t) → InTime (deadline (dueTimes jobId) h) t →
        ∀ p ∈ h, ∀ taskId, reports p.2 p.1.store taskId jobId = false) := by
  have hscans : Guarded (fun before sys call => WithinDue jobId before call →
      ∀ taskId, reports call sys.store taskId jobId = false) h := by
    rintro h₁ sys₁ call h₂ rfl hdue taskId
    obtain ⟨_, hbefore, _, _⟩ := hrun.split
    exact reports_of_withinDue hbefore hdue taskId
  refine ⟨hscans, fun hclock hpunctual t ht hlast p hp taskId => ?_⟩
  have hall : Guarded (fun before _ call => WithinDue jobId before call) h :=
    guarded_inTime hclock hpunctual ht hlast
  obtain ⟨h₁, h₂, rfl⟩ := List.append_of_mem hp
  exact hscans h₁ p.1 p.2 h₂ rfl (hall h₁ p.1 p.2 h₂ rfl) taskId

def beatLine (now : Timestamp) : System → Option Call :=
  fun _ => some ⟨{ sampleEnv "beat" with now := now }, .heartbeat "job_0" "codex"⟩

/-- A planner sends each heartbeat at the instant it is due; scans fall on these instants and one
between. -/
def punctualScript : Script :=
  [line "0" (.createTask sampleRequest), dispatchLine "0" .plan, settleLine submitted,
    scanLine 60000, beatLine 60000, scanLine 90000, beatLine 120000, scanLine 180000]

theorem punctual_planner_unreported : ∃ h sys, controlPlane.Run h sys ∧
    deadline (dueTimes "job_0") h = some 180000 ∧ lists sys = true ∧
    ∀ p ∈ h, ∀ taskId, reports p.2 p.1.store taskId "job_0" = false := by
  obtain ⟨h, sys, hrun, htest⟩ := exists_run_of_play punctualScript
    (fun p => decide (deadline (dueTimes "job_0") p.1 = some 180000) && lists p.2 &&
      decide ((p.1.map fun q : System × Call => q.2.env.now).Pairwise (· ≤ ·)) &&
      decide (∀ q ∈ p.1, q.2.env.now ≤ 180000) &&
      guardedAfter (fun before sys call => decide (dueTimes "job_0" sys call ≠ [] →
        WithinDue "job_0" before call)) [] p.1) (by decide +kernel)
  simp only [Bool.and_eq_true, decide_eq_true_eq] at htest
  obtain ⟨⟨⟨⟨hdue, hlists⟩, hclock⟩, hinstants⟩, hcheck⟩ := htest
  refine ⟨h, sys, hrun, hdue, hlists, (punctual_worker_unreported hrun "job_0").2 hclock ?_ 180000
    hinstants ?_⟩
  · intro h₁ s call h₂ heq
    exact of_decide_eq_true (guarded_of_check hcheck h₁ s call h₂ heq)
  · rintro due hlast
    rw [hdue] at hlast
    exact (Option.some.inj hlast).le

end ShipyardCp.Properties
