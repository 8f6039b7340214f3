import ShipyardCp.Store.Wiring

/-! Whether a dispatch that throws gives back what it took: its lease, its slot and its pending job. -/

namespace ShipyardCp.Properties

open Types Domain Lib Store

/-- What is held under the id of a job. -/
@[ext] structure Holdings where
  lease : Option Lease
  slot : Option JobRecord
  workers : Set String
  pendingJob : Option WorkerJob

def holdings (s : ControlPlane) (jobId : String) : Holdings where
  lease := s.leaseManager.leases.get? jobId
  slot := s.concurrencyManager.activeJobs.get? jobId
  workers := {workerId | jobId ∈ s.concurrencyManager.activeOf workerId}
  pendingJob := (s.jobs.get? jobId).filter fun job => job.status = .pending

def Begins (sys : System) (call : Call) (d : PendingDispatch) : Prop :=
  ∃ taskId request, call.op = .beginDispatch taskId request ∧
    (sys.perform call).dispatching = sys.dispatching ++ [d]

/-- The two steps of a dispatch have changed nothing in the end: its own job holds what it held before
the first of them, and neither touches what another job holds. -/
structure Undone (begins : System × Call) (sys sys' : System) (jobId : String) : Prop where
  own : holdings sys'.store jobId = holdings begins.1.store jobId
  begun : ∀ id, id ≠ jobId →
    holdings (begins.1.perform begins.2).store id = holdings begins.1.store id
  settled : ∀ id, id ≠ jobId → holdings sys'.store id = holdings sys.store id

/-- A dispatch that throws, before it waits for its worker or after, changes no holdings. -/
def RollsBack (before : History System Call) (sys : System) (call : Call) (sys' : System) : Prop :=
  match call.op with
  | .beginDispatch _ _ =>
    sys.thrown? call ≠ none → ∀ id, holdings sys'.store id = holdings sys.store id
  | .settleDispatch d _ =>
    sys.thrown? call ≠ none → ∀ p ∈ before, Begins p.1 p.2 d → Undone p sys sys' d.job.jobId
  | _ => True

/-- The worker takes the job of a dispatch. -/
def takesJob (call : Call) : Bool :=
  match call.op with
  | .settleDispatch _ (.success _ _) => true
  | .settleDispatch _ _ => false
  | _ => true

section steps

variable {env : Env} {s : ControlPlane} {taskId : String} {request : DispatchRequest}

theorem holdings_of_thrown_begin (hthrown : thrown? (beginDispatch env taskId request) s ≠ none)
    (id : String) :
    holdings (finalState (beginDispatch env taskId request) s) id = holdings s id := by
  have hwp : wp (beginDispatch env taskId request)
      (onThrow fun s' => holdings s' id = holdings s id) s :=
    wp_beginDispatch (fun _ => rfl) (fun _ _ _ _ _ _ => rfl) fun _ _ _ _ _ _ _ => trivial
  exact wp_onThrow_iff.mp hwp hthrown

theorem throws_of_not_taken {d : PendingDispatch} {submission : SubmissionResult}
    (hnot : ∀ backend reason, submission ≠ .success backend reason) :
    thrown? (settleDispatch env d submission) s ≠ none := by
  rw [Ne, thrown?_eq_none_iff, ← wp_succeeds_iff]
  have hwp : wp (settleDispatch env d submission) (fun r => ¬Lib.succeeds r) s :=
    wp_settleDispatch (fun _ _ => id) (fun _ _ _ _ _ => id) (fun _ _ _ _ _ => id)
      fun backend reason hsub _ => absurd hsub (hnot backend reason)
  exact hwp

theorem returns_of_taken {d : PendingDispatch} (hwaiting : Waiting d)
    (backend : Option ExecutionBackend) (reason : Option String) :
    thrown? (settleDispatch env d (.success backend reason)) s = none := by
  rw [thrown?_eq_none_iff, ← wp_succeeds_iff]
  refine wp_settleDispatch (fun _ hnot => absurd rfl (hnot backend reason))
    (fun _ _ hsub => by cases hsub) (fun _ _ _ _ hstuck => ?_) fun _ _ _ _ => trivial
  rw [hwaiting.canDispatch] at hstuck
  cases hstuck

end steps

variable {h : History System Call} {sys sys' : System} {call : Call}

theorem begins_of_waiting (hrun : controlPlane.Run h sys) {d : PendingDispatch}
    (hd : d ∈ sys.dispatching) : ∃ p ∈ h, Begins p.1 p.2 d ∧
      p.1.store.jobs.get? d.job.jobId = none ∧ d.job.status = .pending := by
  induction hrun with
  | start hfresh =>
    obtain ⟨_, _, _, rfl⟩ := hfresh
    cases hd
  | @snoc h sys call sys' hbefore hstep ih =>
    have hearlier : d ∈ sys.dispatching → ∃ p ∈ h ++ [(sys, call)], Begins p.1 p.2 d ∧
        p.1.store.jobs.get? d.job.jobId = none ∧ d.job.status = .pending := fun hd =>
      have ⟨p, hp, hbegins⟩ := ih hd
      ⟨p, List.mem_append_left _ hp, hbegins⟩
    cases jobEffect_of_step hstep with
    | kept _ _ hdispatching _ => exact hearlier (hdispatching ▸ hd)
    | begun taskId request e hop hbegun hfresh _ hdispatching _ =>
      rw [hdispatching, List.mem_append, List.mem_singleton] at hd
      rcases hd with hd | rfl
      · exact hearlier hd
      · have hperform := (step_iff.mp hstep).2
        exact ⟨(sys, call), by simp, ⟨taskId, request, hop, hperform ▸ hdispatching⟩, hfresh,
          hbegun.status⟩
    | ended _ _ _ _ _ _ hdispatching _ =>
      rw [hdispatching] at hd
      exact hearlier (List.mem_of_mem_erase hd)
    | submitted _ _ _ _ _ _ hdispatching _ =>
      rw [hdispatching] at hd
      exact hearlier (List.mem_of_mem_erase hd)
    | polled _ _ _ _ _ _ _ _ hdispatching _ => exact hearlier (hdispatching ▸ hd)

theorem not_rollsBack_of_not_taken (hrun : controlPlane.Run h sys)
    (hstep : controlPlane.step sys call sys') (hnot : takesJob call = false) :
    ¬ RollsBack h sys call sys' := by
  obtain ⟨env, op⟩ := call
  cases op with
  | settleDispatch d submission =>
    have hfailed : ∀ backend reason, submission ≠ .success backend reason := by
      rintro backend reason rfl
      cases hnot
    intro hrolls
    obtain ⟨henabled, rfl⟩ := step_iff.mp hstep
    have hd : d ∈ sys.dispatching := by simpa [System.enabled] using henabled
    obtain ⟨p, hp, hbegins, hfresh, hstatus⟩ := begins_of_waiting hrun hd
    have hown := congrArg Holdings.pendingJob (hrolls (throws_of_not_taken hfailed) p hp hbegins).own
    have hjobs : (sys.perform ⟨env, .settleDispatch d submission⟩).store.jobs = sys.store.jobs := by
      cases jobEffect_of_step hstep with
      | kept hop => exact absurd rfl (hop d submission)
      | begun _ _ _ hop => cases hop
      | ended _ _ _ _ _ hjobs => exact hjobs
      | submitted e backend reason hop =>
        cases hop
        exact absurd rfl (hfailed backend reason)
      | polled _ _ _ hop => cases hop
    simp [holdings, hjobs, (wired_of_run hrun).waitingJob d hd, hfresh, hstatus] at hown
  | _ => cases hnot

theorem rollsBack_of_taken (hrun : controlPlane.Run h sys)
    (hstep : controlPlane.step sys call sys') (htakes : takesJob call = true) :
    RollsBack h sys call sys' := by
  obtain ⟨env, op⟩ := call
  obtain ⟨henabled, rfl⟩ := step_iff.mp hstep
  cases op with
  | beginDispatch taskId request =>
    intro hthrown id
    have hstore : (sys.perform ⟨env, .beginDispatch taskId request⟩).store = _ :=
      sys.beginDispatch_store env taskId request
    rw [hstore]
    exact holdings_of_thrown_begin hthrown id
  | settleDispatch d submission =>
    cases submission with
    | success backend reason =>
      have hd : d ∈ sys.dispatching := by simpa [System.enabled] using henabled
      exact fun hthrown => absurd
        (returns_of_taken ((wired_of_run hrun).waiting d hd) backend reason) hthrown
    | failure error => cases htakes
    | thrown message => cases htakes
  | _ => exact trivial

/-- Every dispatch of a run that throws is rolled back exactly when every submission of the run
succeeds. -/
theorem dispatches_atomic_iff (hrun : controlPlane.Run h sys) :
    controlPlane.EveryStep RollsBack h ↔ Machine.Steps (fun _ call => takesJob call = true) h := by
  constructor
  · refine hrun.steps_of_everyStep fun _ _ _ _ hbefore hstep hrolls => ?_
    by_contra hnot
    exact not_rollsBack_of_not_taken hbefore hstep (Bool.eq_false_iff.mpr hnot) hrolls
  · exact hrun.everyStep fun _ _ _ _ hbefore _ htakes hstep =>
      rollsBack_of_taken hbefore hstep htakes

def wrongStagesScript : Script :=
  [line "0" (.createTask sampleRequest), dispatchLine "0" .dev, dispatchLine "0" .plan,
    settleLine submitted, dispatchLine "1" .acceptance]

def thrownDispatches (h : History System Call) : Nat := (h.filter fun p => match p.2.op with
    | .beginDispatch _ _ => (p.1.thrown? p.2).isSome
    | _ => false).length

theorem wrong_stages_rolled_back : ∃ h sys, controlPlane.Run h sys ∧ thrownDispatches h = 2 ∧
    controlPlane.EveryStep RollsBack h := by
  obtain ⟨h, sys, hrun, htest⟩ := exists_run_of_play wrongStagesScript
    (fun p => decide (thrownDispatches p.1 = 2) && p.1.all fun step => takesJob step.2)
    (by decide +kernel)
  rw [Bool.and_eq_true, decide_eq_true_eq, List.all_eq_true] at htest
  exact ⟨h, sys, hrun, htest.1, (dispatches_atomic_iff hrun).mpr htest.2⟩

/-- A plan whose worker does not take the job keeps its lease, its slot and its pending job. -/
theorem refused_job_kept : ∃ h sys, controlPlane.Run h sys ∧
    ¬ controlPlane.EveryStep RollsBack h := by
  obtain ⟨h, sys, hrun, htest⟩ := exists_run_of_play
    [line "0" (.createTask sampleRequest), dispatchLine "0" .plan, settleLine (.failure none)]
    (fun p => p.1.any fun step => !takesJob step.2) (by decide +kernel)
  obtain ⟨⟨s, call⟩, hmem, hnot⟩ := List.any_eq_true.mp htest
  refine ⟨h, sys, hrun, fun hrolls => ?_⟩
  obtain ⟨h₁, h₂, rfl⟩ := List.append_of_mem hmem
  obtain ⟨s', hbefore, hstep, _⟩ := hrun.split
  exact not_rollsBack_of_not_taken hbefore hstep (by simpa using hnot) (hrolls _ _ _ _ s' rfl hstep)

end ShipyardCp.Properties
