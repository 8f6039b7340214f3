import ShipyardCp.Store.Application
import ShipyardCp.Store.Wiring

/-! Whether every slot that is taken belongs to a job some task is worked on by. -/

namespace ShipyardCp.Properties

open Types Domain Lib Store ConcurrencyManager ControlPlane Machine

def isActiveState : TaskState → Bool
  | .planning | .developing | .accepting => true
  | _ => false

def counted (s : ControlPlane) (jobId : String) : Bool := s.concurrencyManager.counts jobId

def WorkedOn (s : ControlPlane) (jobId : String) : Prop :=
  ∃ id task, s.task? id = some task ∧ task.activeJobId = some jobId ∧ isActiveState task.state = true

def SlotsHeld (sys : System) : Prop := ∀ jobId, counted sys.store jobId = true →
    (∃ d ∈ sys.dispatching, d.job.jobId = jobId) ∨ WorkedOn sys.store jobId

/-- Slots are held by jobs that are worked on. Between two dispatches the task of a counted job then
has it as its active job, so it occupies no other slot, and is in an active state. -/
structure SlotsConserved (sys : System) : Prop where
  held : SlotsHeld sys
  single : sys.dispatching = [] → ∀ jobId job task, counted sys.store jobId = true →
    sys.store.jobs.get? jobId = some job → sys.store.task? job.taskId = some task →
    task.activeJobId = some jobId ∧ isActiveState task.state = true

def occupies (s : ControlPlane) (task : Task) : Bool := task.activeJobId.any (counted s)

/-- The call gives a slot back before its job is left: every dispatch is accepted by its worker and
finds no other counted job at its task, and no task is taken from its counted job but by a result that
gives the slot back. -/
def slotSafe (sys : System) (call : Call) : Bool :=
  match call.op with
  | .recordTransition taskId event => (sys.store.task? taskId).all fun task =>
    !(event.taskId = taskId && event.fromState = task.state &&
      canTransition task.state event.toState && occupies sys.store task) ||
      isActiveState event.toState
  | .cancel taskId => (sys.store.task? taskId).all fun task =>
    isTerminal task.state || !occupies sys.store task
  | .settleDispatch d (.success _ _) => (sys.store.task? d.task.taskId).all fun task =>
    !occupies sys.store task
  | .settleDispatch _ _ => false
  | .applyResult _ _ | .settlePoll _ _ => (appliedResult? call sys.store).all fun r =>
    !(occupies sys.store r.task && r.blocksSlot)
  | .completeAcceptance taskId request => (sys.store.task? taskId).all fun task =>
    !(task.state = .accepting && (acceptanceRefusal call.env.now task request).isNone &&
      occupies sys.store task)
  | .scanForOrphans => sys.store.tasks.values.all fun task =>
    !((orphanBlock call.env sys.store task).isSome && occupies sys.store task)
  | _ => true

section wired

variable {sys : System} {id jobId : String} {task : Task}

theorem submitted_unique {s : ControlPlane} {id' : String} (h : Store.Submitted s id jobId)
    (h' : Store.Submitted s id' jobId) : id = id' := by
  obtain ⟨job, hjob, htask, _⟩ := h
  obtain ⟨job', hjob', htask', _⟩ := h'
  obtain rfl := Option.some.inj (hjob.symm.trans hjob')
  exact htask.symm.trans htask'

theorem not_submitted_of_waiting (hwired : Wired sys) {d : PendingDispatch}
    (hd : d ∈ sys.dispatching) : ¬Store.Submitted sys.store id d.job.jobId := by
  rintro ⟨job, hjob, _, hsub⟩
  obtain rfl := Option.some.inj ((hwired.waitingJob d hd).symm.trans hjob)
  rw [(hwired.waiting d hd).unsubmitted] at hsub
  cases hsub

theorem active_of_counted (hwired : Wired sys) (hheld : SlotsHeld sys)
    (hstored : sys.store.task? id = some task) (hactive : task.activeJobId = some jobId)
    (hcounted : counted sys.store jobId = true) : isActiveState task.state = true := by
  have hsubmitted := hwired.active id task jobId hstored hactive
  rcases hheld jobId hcounted with ⟨d, hd, rfl⟩ | ⟨id', task', hstored', hactive', hstate'⟩
  · exact absurd hsubmitted (not_submitted_of_waiting hwired hd)
  · obtain rfl := submitted_unique hsubmitted (hwired.active id' task' jobId hstored' hactive')
    obtain rfl := Option.some.inj (hstored.symm.trans hstored')
    exact hstate'

theorem occupies_iff {s : ControlPlane} : occupies s task = true ↔
    ∃ jobId, task.activeJobId = some jobId ∧ counted s jobId = true := by
  rw [occupies, Option.any_eq_true]

theorem occupies_of_counted {s : ControlPlane} (hactive : task.activeJobId = some jobId)
    (hcounted : counted s jobId = true) : occupies s task = true :=
  occupies_iff.mpr ⟨jobId, hactive, hcounted⟩

theorem slotsConserved_of_held (hwired : Wired sys) (hheld : SlotsHeld sys) : SlotsConserved sys := by
  refine ⟨hheld, fun hidle jobId job task hcounted hjob htask => ?_⟩
  rcases hheld jobId hcounted with ⟨d, hd, _⟩ | ⟨id, task', hstored, hactive, hstate⟩
  · rw [hidle] at hd
    cases hd
  · obtain ⟨job', hjob', hid, _⟩ := hwired.active id task' jobId hstored hactive
    obtain rfl := Option.some.inj (hjob.symm.trans hjob')
    rw [hid, hstored] at htask
    obtain rfl := Option.some.inj htask
    exact ⟨hactive, hstate⟩

end wired

section kept

variable {sys sys' : System} {call : Call} {id jobId : String} {task task' : Task}

theorem state_of_timedOut {now : Timestamp} {updatedTask : Task} {reason : String}
    (h : timedOut now task = some (updatedTask, reason)) : isActiveState task.state = false := by
  unfold timedOut at h
  cases hint : integrationTimedOut now task with
  | some t =>
    unfold integrationTimedOut at hint
    split at hint
    · cases hint
    · split_ifs at hint with hguard
      rw [hguard.1]
      rfl
  | none =>
    rw [hint] at h
    obtain ⟨t, hpub, _⟩ := Option.map_eq_some_iff.mp h
    unfold publishTimedOut at hpub
    split at hpub
    · cases hpub
    · split_ifs at hpub with hguard
      rw [hguard.1]
      rfl

theorem not_active_of_moved {event : StateTransitionEvent} (hmove : Moved call id task task' event)
    (hscan : call.op ≠ .scanForOrphans) (hstored : sys.store.task? id = some task)
    (hsafe : slotSafe sys call = true) (hoccupies : occupies sys.store task = true) :
    isActiveState task.state = false := by
  cases hmove with
  | cancelled hop hlive => simp [slotSafe, hop, hstored, hlive, hoccupies] at hsafe
  | incapable request missing hop hstage =>
    revert hstage
    cases task.state <;> simp [getAllowedDispatchStage, isActiveState]
  | accepted request hop hgates =>
    have hnone := (acceptanceRefusal_eq_none_iff hgates.accepting).mpr hgates
    simp [slotSafe, hop, hstored, hgates.accepting, hnone, hoccupies] at hsafe
  | integrating baseSha hop hstate => rw [hstate]; rfl
  | integrationEnded request moved toState reason hop hstate hended => rw [hstate]; rfl
  | publish request n moved toState input hop hstate hpublish => rw [hstate]; rfl
  | approved approvalToken hop hstate hvalid => rw [hstate]; rfl
  | published request hop hstate => rw [hstate]; rfl
  | timedOut updatedTask reason n hop htimed => exact state_of_timedOut htimed
  | orphaned resumeState reason n hop _ _ => exact absurd hop hscan

theorem workedOn_of_effect (hscan : call.op ≠ .scanForOrphans)
    (happly : appliesResult call.op = false) (hsafe : slotSafe sys call = true)
    (hcounted : counted sys.store jobId = true) (hstep : controlPlane.step sys call sys')
    (hworked : WorkedOn sys.store jobId) : WorkedOn sys'.store jobId := by
  obtain ⟨id, task, hstored, hactive, hstate⟩ := hworked
  have hoccupies := occupies_of_counted hactive hcounted
  have heffect := taskEffect_of_step hstep id
  rw [hstored] at heffect
  obtain ⟨task', htask'⟩ := heffect.isSome
  rw [htask'] at heffect
  generalize sys.store.log id = log, sys'.store.log id = log' at heffect
  refine ⟨id, task', htask', ?_⟩
  cases heffect with
  | kept => exact ⟨hactive, hstate⟩
  | recorded _ _ event hop hid hfrom hcan =>
    refine ⟨hactive, ?_⟩
    simpa [slotSafe, hop, hstored, hid, hfrom, hcan, hoccupies] using hsafe
  | moved _ _ _ event hmove =>
    rw [not_active_of_moved hmove hscan hstored hsafe hoccupies] at hstate
    cases hstate
  | patched _ _ _ hpatch =>
    obtain ⟨hsame, _, hstate'⟩ := hpatch.frame
    exact ⟨hsame.trans hactive, by rw [hstate']; exact hstate⟩
  | answered _ _ result job a happlied _ _ _ _ _ =>
    unfold appliedBy at happlied
    split at happlied
    · next heq => rw [heq] at happly; cases happly
    · next heq => rw [heq] at happly; cases happly
    · cases happlied
  | dispatched _ _ d backend reason hop _ hid _ =>
    simp [slotSafe, hop, hid, hstored, hoccupies] at hsafe
  | refused _ _ d error failure hop _ _ _ _ _ =>
    simp [slotSafe, hop] at hsafe

theorem workedOn_of_scan {env : Env} (hsafe : slotSafe sys ⟨env, .scanForOrphans⟩ = true)
    (hcounted : counted sys.store jobId = true) (hworked : WorkedOn sys.store jobId) :
    WorkedOn (sys.run (scanForOrphans env)).store jobId := by
  obtain ⟨id, task, hstored, hactive, hstate⟩ := hworked
  have hmem : task ∈ sys.store.tasks.values := by
    rw [sys.store.tasks.mem_values_iff, sys.store.task?_taskId hstored]
    exact hstored
  have hnone : orphanBlock env sys.store task = none := by
    simpa [occupies_of_counted hactive hcounted] using List.all_eq_true.mp hsafe task hmem
  have hchange := (finalState_scanForOrphans env sys.store).2 id
  dsimp only at hchange
  rw [hstored, Option.bind_some, hnone] at hchange
  exact ⟨id, task, hchange.1, hactive, hstate⟩

theorem workedOn_of_application (happly : appliesResult call.op = true)
    (hsafe : slotSafe sys call = true) (hcounted : counted sys.store jobId = true)
    (hcounted' : counted sys'.store jobId = true) (hstep : controlPlane.step sys call sys')
    (hworked : WorkedOn sys.store jobId) : WorkedOn sys'.store jobId := by
  have hchecked : ((appliedResult? call sys.store).all fun r =>
      !(occupies sys.store r.task && r.blocksSlot)) = true := by
    unfold slotSafe at hsafe
    unfold appliesResult at happly
    split at happly
    · next heq => rwa [heq] at hsafe
    · next heq => rwa [heq] at hsafe
    · cases happly
  have happlication := application_of_step happly hstep
  unfold Application at happlication
  obtain ⟨id, task, hstored, hactive, hstate⟩ := hworked
  cases happlied : appliedResult? call sys.store with
  | none =>
    rw [happlied] at happlication
    exact ⟨id, task, by rw [task?, happlication.1]; exact hstored, hactive, hstate⟩
  | some r =>
    rw [happlied] at happlication hchecked
    have htask' := happlication.task? id
    by_cases hid : id = r.task.taskId
    swap
    · rw [if_neg hid] at htask'
      exact ⟨id, task, htask'.trans hstored, hactive, hstate⟩
    rw [if_pos hid] at htask'
    obtain rfl : task = r.task := by
      rw [hid, happlication.stored] at hstored
      exact (Option.some.inj hstored).symm
    obtain rfl : jobId = r.job.jobId := Option.some.inj (hactive.symm.trans happlication.active)
    have hsound : (r.answer call.env).Sound r.result r.task r.job := resultAnswer_sound
    have hmoves : AnswerMove r.store r.task r.job r.result (r.answer call.env) := answerMove_delivery
    have heffect : AnswerEffect r.store r.task r.job r.result (r.answer call.env) :=
      answerEffect_delivery
    refine ⟨id, _, htask', (hsound.activeJobId _).trans hactive, ?_⟩
    have hkept : (r.answer call.env).release ≠ .leaseAndSlot := by
      intro hrelease
      rw [counted, happlication.concurrencyManager, if_pos hrelease,
        counts_recordComplete] at hcounted'
      simp at hcounted'
    have hslot : blocksSlot r.store r.task r.job r.result = false := by
      simpa [occupies_of_counted hactive hcounted, AppliedResult.blocksSlot] using hchecked
    rw [Ne, heffect.release, hslot, Bool.or_false] at hkept
    cases hmoves with
    | keeps _ hresumes _ _ => exact absurd hresumes hkept
    | resumes input _ _ hmove _ =>
      rw [ResultAnswer.resultTask, hmove, transitioned_state]
      cases r.job.stage <;> rfl
    | ends _ _ _ hresumes _ _ _ _ => exact absurd hresumes hkept

theorem workedOn_of_step (hsafe : slotSafe sys call = true)
    (hcounted : counted sys.store jobId = true) (hcounted' : counted sys'.store jobId = true)
    (hstep : controlPlane.step sys call sys') (hworked : WorkedOn sys.store jobId) :
    WorkedOn sys'.store jobId := by
  by_cases hscan : call.op = .scanForOrphans
  · obtain ⟨env, op⟩ := call
    obtain rfl : op = .scanForOrphans := hscan
    rw [(step_iff.mp hstep).2]
    exact workedOn_of_scan hsafe hcounted hworked
  cases happly : appliesResult call.op with
  | false => exact workedOn_of_effect hscan happly hsafe hcounted hstep hworked
  | true => exact workedOn_of_application happly hsafe hcounted hcounted' hstep hworked

end kept

section step

variable {sys sys' : System} {call : Call} {jobId : String}

theorem counted_of_step (hstep : controlPlane.step sys call sys')
    (hcounted' : counted sys'.store jobId = true) :
    counted sys.store jobId = true ∨ ∃ d ∈ sys'.dispatching, d.job.jobId = jobId := by
  unfold counted at hcounted' ⊢
  cases slotEffect_of_step hstep with
  | kept hmanager _ => exact Or.inl (by rwa [hmanager] at hcounted')
  | taken taskId request d workerId hbegun hdispatching hmanager =>
    rw [hmanager, counts_recordStart, Bool.or_eq_true, decide_eq_true_eq]
      at hcounted'
    rcases hcounted' with rfl | hcounted
    · exact Or.inr ⟨d, by simp [hdispatching], rfl⟩
    · exact Or.inl hcounted
  | given r _ _ hmanager =>
    rw [hmanager, counts_recordComplete, Bool.and_eq_true] at hcounted'
    exact Or.inl hcounted'.2

theorem waiting_or_begins {d : PendingDispatch} (hstep : controlPlane.step sys call sys')
    (hd : d ∈ sys'.dispatching) : d ∈ sys.dispatching ∨ ∃ taskId request,
      call.op = .beginDispatch taskId request ∧ sys'.dispatching = sys.dispatching ++ [d] := by
  cases jobEffect_of_step hstep with
  | kept _ _ hdispatching _ => exact Or.inl (by rwa [hdispatching] at hd)
  | begun taskId request e hop _ _ _ hdispatching _ =>
    rw [hdispatching, List.mem_append, List.mem_singleton] at hd
    rcases hd with hd | rfl
    · exact Or.inl hd
    · exact Or.inr ⟨taskId, request, hop, hdispatching⟩
  | ended e _ _ _ _ _ hdispatching _ =>
    rw [hdispatching] at hd
    exact Or.inl (List.mem_of_mem_erase hd)
  | submitted e _ _ _ _ _ hdispatching _ =>
    rw [hdispatching] at hd
    exact Or.inl (List.mem_of_mem_erase hd)
  | polled _ _ _ _ _ _ _ _ hdispatching _ => exact Or.inl (by rwa [hdispatching] at hd)

theorem waiting_counted_of_step (hwired : Wired sys)
    (hwaiting : ∀ d ∈ sys.dispatching, counted sys.store d.job.jobId = true)
    (hstep : controlPlane.step sys call sys') :
    ∀ d ∈ sys'.dispatching, counted sys'.store d.job.jobId = true := by
  intro d hd
  unfold counted at hwaiting ⊢
  rcases waiting_or_begins hstep hd with hd | ⟨taskId, request, hop, hbegins⟩
  · have hcounted := hwaiting d hd
    cases slotEffect_of_step hstep with
    | kept hmanager _ => rwa [hmanager]
    | taken _ _ _ _ _ _ hmanager =>
      rw [hmanager, counts_recordStart, hcounted, Bool.or_true]
    | given r _ happlied hmanager =>
      have hsubmitted := hwired.active _ _ _ happlied.stored happlied.active
      have hne : d.job.jobId ≠ r.job.jobId := fun heq =>
        not_submitted_of_waiting hwired hd (heq ▸ hsubmitted)
      simp [hmanager, counts_recordComplete, hcounted, hne]
  · cases slotEffect_of_step hstep with
    | kept _ hsame =>
      rw [hsame taskId request hop] at hbegins
      simp at hbegins
    | taken _ _ e _ _ hdispatching hmanager =>
      obtain rfl : e = d := by simpa [hdispatching] using hbegins
      rw [hmanager, counts_recordStart, decide_eq_true rfl, Bool.true_or]
    | given r happlied _ _ => simp [appliedResult?, handedOver?, hop] at happlied

theorem waiting_of_step {d : PendingDispatch} (hstep : controlPlane.step sys call sys')
    (hd : d ∈ sys.dispatching) :
    d ∈ sys'.dispatching ∨ ∃ submission, call.op = .settleDispatch d submission := by
  have herase : ∀ e submission, call.op = .settleDispatch e submission →
      sys'.dispatching = sys.dispatching.erase e →
      d ∈ sys'.dispatching ∨ ∃ submission, call.op = .settleDispatch d submission := by
    intro e submission hop hdispatching
    by_cases heq : d = e
    · exact Or.inr ⟨submission, heq ▸ hop⟩
    · exact Or.inl (by rw [hdispatching]; exact (List.mem_erase_of_ne heq).mpr hd)
  cases jobEffect_of_step hstep with
  | kept _ _ hdispatching _ => exact Or.inl (by rwa [hdispatching])
  | begun _ _ _ _ _ _ _ hdispatching _ => exact Or.inl (by simp [hdispatching, hd])
  | ended e submission hop _ _ _ hdispatching _ => exact herase e submission hop hdispatching
  | submitted e backend reason hop _ _ hdispatching _ => exact herase e _ hop hdispatching
  | polled _ _ _ _ _ _ _ _ hdispatching _ => exact Or.inl (by rwa [hdispatching])

theorem workedOn_of_submitted (hwired : Wired sys) {d : PendingDispatch}
    {submission : SubmissionResult} (hop : call.op = .settleDispatch d submission)
    (hsafe : slotSafe sys call = true) (hstep : controlPlane.step sys call sys') :
    WorkedOn sys'.store d.job.jobId := by
  obtain ⟨henabled, rfl⟩ := step_iff.mp hstep
  obtain ⟨env, op⟩ := call
  obtain rfl : op = .settleDispatch d submission := hop
  have hwaits := hwired.waiting d (by simpa [System.enabled] using henabled)
  cases submission with
  | failure _ => cases hsafe
  | thrown _ => cases hsafe
  | success backend reason =>
    refine ⟨d.task.taskId, transitioned env (dispatchedTask d) d.nextState.toTaskState, ?_, rfl, ?_⟩
    · rw [System.perform, hwaits.settle_success env sys backend reason, commit_task?]
      exact if_pos rfl
    · rw [transitioned_state, hwaits.nextState]
      cases d.request.targetStage <;> rfl

theorem held_of_step (hwired : Wired sys) (hheld : SlotsHeld sys)
    (hsafe : slotSafe sys call = true) (hstep : controlPlane.step sys call sys') :
    SlotsHeld sys' := by
  intro jobId hcounted'
  rcases counted_of_step hstep hcounted' with hcounted | hwaits
  · rcases hheld jobId hcounted with ⟨d, hd, rfl⟩ | hworked
    · rcases waiting_of_step hstep hd with hd' | ⟨submission, hop⟩
      · exact Or.inl ⟨d, hd', rfl⟩
      · exact Or.inr (workedOn_of_submitted hwired hop hsafe hstep)
    · exact Or.inr (workedOn_of_step hsafe hcounted hcounted' hstep hworked)
  · exact Or.inl hwaits

theorem active_of_occupies {task task' : Task} {id : String} (hwired' : Wired sys')
    (hheld' : SlotsHeld sys') (hslots : sys'.store.concurrencyManager = sys.store.concurrencyManager)
    (hoccupies : occupies sys.store task = true) (hstored' : sys'.store.task? id = some task')
    (hsame : task'.activeJobId = task.activeJobId) : isActiveState task'.state = true := by
  obtain ⟨jobId, hactive, hcounted⟩ := occupies_iff.mp hoccupies
  exact active_of_counted hwired' hheld' hstored' (hsame.trans hactive) (by rwa [counted, hslots])

theorem slotSafe_of_settled {env : Env} {d : PendingDispatch} {submission : SubmissionResult}
    (hwired : Wired sys) (hwired' : Wired sys') (hheld' : SlotsHeld sys')
    (hwaiting : ∀ d ∈ sys.dispatching, counted sys.store d.job.jobId = true)
    (hstep : controlPlane.step sys ⟨env, .settleDispatch d submission⟩ sys') :
    slotSafe sys ⟨env, .settleDispatch d submission⟩ = true := by
  obtain ⟨henabled, hsys'⟩ := step_iff.mp hstep
  have hd : d ∈ sys.dispatching := by simpa [System.enabled] using henabled
  have hkept : ∀ {jobId : String}, counted sys.store jobId = true →
      (∃ e ∈ sys'.dispatching, e.job.jobId = jobId) ∨ WorkedOn sys'.store jobId := by
    intro jobId hcounted
    refine hheld' jobId ?_
    rwa [counted, hsys', concurrencyManager_perform rfl]
  have hjobs := jobEffect_of_step hstep
  by_cases hsuccess : ∃ backend reason, submission = .success backend reason
  · obtain ⟨backend, reason, rfl⟩ := hsuccess
    cases hstored : sys.store.task? d.task.taskId with
    | none => simp [slotSafe, hstored]
    | some task =>
      cases hoccupies : occupies sys.store task with
      | false => simp [slotSafe, hstored, hoccupies]
      | true =>
        obtain ⟨jobId, hactive, hcounted⟩ := occupies_iff.mp hoccupies
        have hsubmitted := hwired.active _ _ _ hstored hactive
        have hsubmitted' := hsubmitted.step hwired hjobs
        rcases hkept hcounted with ⟨e, he, rfl⟩ | ⟨id, task', hstored', hactive', _⟩
        · exact absurd hsubmitted' (not_submitted_of_waiting hwired' he)
        · obtain rfl := submitted_unique hsubmitted' (hwired'.active _ _ _ hstored' hactive')
          have hdispatched : sys'.store.task? d.task.taskId =
              some (transitioned env (dispatchedTask d) d.nextState.toTaskState) := by
            rw [hsys', System.perform, (hwired.waiting d hd).settle_success env sys backend reason,
              commit_task?]
            exact if_pos rfl
          rw [hdispatched] at hstored'
          obtain rfl := Option.some.inj hstored'
          obtain rfl : d.job.jobId = jobId := Option.some.inj hactive'
          exact absurd hsubmitted (not_submitted_of_waiting hwired hd)
  · have hended : sys'.store.jobs = sys.store.jobs ∧ sys'.dispatching = sys.dispatching.erase d := by
      cases hjobs with
      | kept hop _ _ _ => exact absurd rfl (hop d submission)
      | begun _ _ _ hop => cases hop
      | ended e _ hop _ _ hsame hdispatching _ =>
        cases hop
        exact ⟨hsame, hdispatching⟩
      | submitted e backend reason hop =>
        cases hop
        exact absurd ⟨backend, reason, rfl⟩ hsuccess
      | polled _ _ _ hop => cases hop
    rcases hkept (hwaiting d hd) with ⟨e, he, hjob⟩ | ⟨id, task, hstored, hactive, _⟩
    · rw [hended.2] at he
      exact absurd hjob (hwired.mem_erase hd he).2
    · obtain ⟨job, hjob, htask, hsub⟩ := hwired'.active id task _ hstored hactive
      rw [hended.1] at hjob
      exact absurd ⟨job, hjob, htask, hsub⟩ (not_submitted_of_waiting hwired hd)

theorem slotSafe_of_application (hwired' : Wired sys') (hheld' : SlotsHeld sys')
    (happlication : Application call sys.store sys'.store) :
    ((appliedResult? call sys.store).all fun r =>
      !(occupies sys.store r.task && r.blocksSlot)) = true := by
  unfold Application at happlication
  cases happlied : appliedResult? call sys.store with
  | none => rfl
  | some r =>
    rw [happlied] at happlication
    simp only [Option.all_some, Bool.not_eq_true', Bool.and_eq_false_iff]
    by_contra! hboth
    obtain ⟨hoccupies, hblocks⟩ := hboth
    simp only [ne_eq, Bool.not_eq_false] at hoccupies hblocks
    have hsound : (r.answer call.env).Sound r.result r.task r.job := resultAnswer_sound
    have heffect : AnswerEffect r.store r.task r.job r.result (r.answer call.env) :=
      answerEffect_delivery
    have hslots : sys'.store.concurrencyManager = sys.store.concurrencyManager := by
      rw [happlication.concurrencyManager, if_neg]
      rw [heffect.release]
      simpa using fun _ => show Store.blocksSlot _ _ _ _ = true from hblocks
    have hstored' := happlication.task? r.task.taskId
    rw [if_pos rfl] at hstored'
    have hstate := active_of_occupies hwired' hheld' hslots hoccupies hstored' (hsound.activeJobId _)
    have hblocked : ((r.answer call.env).move.any fun move => move.1 = .blocked) = true :=
      heffect.blocks.trans (blocksTask_of_blocksSlot hblocks)
    obtain ⟨⟨toState, input⟩, hmove, hto⟩ := (Option.any_eq_true _ _).mp hblocked
    obtain rfl : toState = .blocked := by simpa using hto
    rw [ResultAnswer.resultTask, hmove, transitioned_state] at hstate
    cases hstate

theorem slotSafe_of_held (hwired : Wired sys) (hheld' : SlotsHeld sys')
    (hwaiting : ∀ d ∈ sys.dispatching, counted sys.store d.job.jobId = true)
    (hstep : controlPlane.step sys call sys') : slotSafe sys call = true := by
  have hwired' := hwired.step hstep
  obtain ⟨henabled, hsys'⟩ := step_iff.mp hstep
  obtain ⟨env, op⟩ := call
  have hleft : ∀ {id : String} {task task' : Task}, usesSlots op = false →
      occupies sys.store task = true → sys'.store.task? id = some task' →
      task'.activeJobId = task.activeJobId → isActiveState task'.state = true :=
    fun hop => active_of_occupies hwired' hheld' (hsys' ▸ concurrencyManager_perform hop)
  cases op with
  | recordTransition taskId event =>
    cases hstored : sys.store.task? taskId with
    | none => simp [slotSafe, hstored]
    | some task =>
      simp only [slotSafe, hstored, Option.all_some, Bool.or_eq_true, Bool.not_eq_true']
      by_cases hrecords : (decide (event.taskId = taskId) && decide (event.fromState = task.state) &&
          canTransition task.state event.toState && occupies sys.store task) = true
      swap
      · exact Or.inl (Bool.not_eq_true _ ▸ hrecords)
      simp only [Bool.and_eq_true, decide_eq_true_eq] at hrecords
      obtain ⟨⟨⟨hid, hfrom⟩, hcan⟩, hoccupies⟩ := hrecords
      have hrecorded : sys'.store.task? taskId = some (recorded env task event.toState) := by
        rw [hsys']
        change (finalState (recordTransition env taskId event) sys.store).task? taskId = _
        rw [finalState_recordTransition_of_valid env hstored hid hfrom hcan,
          commit_task?, ← sys.store.task?_taskId hstored]
        exact if_pos rfl
      exact Or.inr (hleft rfl hoccupies hrecorded rfl)
  | cancel taskId =>
    cases hstored : sys.store.task? taskId with
    | none => simp [slotSafe, hstored]
    | some task =>
      cases hlive : isTerminal task.state with
      | true => simp [slotSafe, hstored, hlive]
      | false =>
        cases hoccupies : occupies sys.store task with
        | false => simp [slotSafe, hstored, hoccupies]
        | true =>
          have hcancelled : sys'.store.task? taskId = some (transitioned env task .cancelled) := by
            rw [hsys']
            change (finalState (cancel env taskId) sys.store).task? taskId = _
            rw [finalState_cancel_of_live env hstored hlive, commit_task?,
              ← sys.store.task?_taskId hstored]
            exact if_pos rfl
          cases hleft rfl hoccupies hcancelled rfl
  | settleDispatch d submission => exact slotSafe_of_settled hwired hwired' hheld' hwaiting hstep
  | applyResult taskId result =>
    exact slotSafe_of_application hwired' hheld' (application_of_step rfl hstep)
  | settlePoll job outcome =>
    exact slotSafe_of_application hwired' hheld' (application_of_step rfl hstep)
  | completeAcceptance taskId request =>
    cases hstored : sys.store.task? taskId with
    | none => simp [slotSafe, hstored]
    | some task =>
      by_cases hstate : task.state = .accepting
      swap
      · simp [slotSafe, hstored, hstate]
      cases hrefusal : acceptanceRefusal env.now task request with
      | some message => simp [slotSafe, hstored, hrefusal]
      | none =>
        cases hoccupies : occupies sys.store task with
        | false => simp [slotSafe, hstored, hoccupies]
        | true =>
          have haccepted : sys'.store.task? taskId =
              some (transitioned env (acceptedCandidate env.now task request) .accepted) := by
            rw [hsys']
            change (finalState (completeAcceptance env taskId request) sys.store).task? taskId = _
            rw [finalState_completeAcceptance_of_none env hstored hstate hrefusal,
              commit_task?, ← sys.store.task?_taskId hstored]
            exact if_pos rfl
          cases hleft rfl hoccupies haccepted rfl
  | scanForOrphans =>
    refine List.all_eq_true.mpr fun task hmem => ?_
    have hstored : sys.store.task? task.taskId = some task := sys.store.tasks.mem_values_iff.mp hmem
    cases hblock : orphanBlock env sys.store task with
    | none => rfl
    | some block =>
      cases hoccupies : occupies sys.store task with
      | false => rfl
      | true =>
        have hchange := (finalState_scanForOrphans env sys.store).2 task.taskId
        dsimp only at hchange
        rw [hstored, Option.bind_some, hblock] at hchange
        obtain ⟨task', _, hsame, _, _, horphaned, _⟩ := hchange
        obtain rfl := Option.some.inj (hstored.symm.trans hsame)
        have horphaned' : sys'.store.task? task.taskId = some (orphanedTask env task block) := by
          rw [hsys']
          exact horphaned
        cases hleft rfl hoccupies horphaned' rfl
  | _ => rfl

end step

/-- Every slot that is taken belongs to a worked-on job in every state of a run exactly when every
call of the run gives back the slot of the job it leaves. -/
theorem slots_conserved_iff {h : History System Call} {sys : System} (hrun : controlPlane.Run h sys) :
    (∀ t ∈ states h sys, SlotsConserved t) ↔
      Machine.Steps (fun s call => slotSafe s call = true) h := by
  refine Machine.Run.forall_states_iff (I := fun s => Wired s ∧ SlotsHeld s ∧
    ∀ d ∈ s.dispatching, counted s.store d.job.jobId = true) ?_ ?_ ?_ ?_ hrun
  · intro s hfresh
    refine ⟨wired_of_fresh hfresh, ?_⟩
    obtain ⟨_, _, _, rfl⟩ := hfresh
    refine ⟨fun jobId hcounted => ?_, fun d hd => ?_⟩
    · cases hcounted
    · cases hd
  · rintro s ⟨hwired, hheld, _⟩
    exact slotsConserved_of_held hwired hheld
  · rintro _ s call s' _ ⟨hwired, hheld, hwaiting⟩ hsafe hstep
    exact ⟨hwired.step hstep, held_of_step hwired hheld hsafe hstep,
      waiting_counted_of_step hwired hwaiting hstep⟩
  · rintro _ s call s' _ ⟨hwired, _, hwaiting⟩ hstep hconserved
    exact slotSafe_of_held hwired hconserved.held hwaiting hstep

theorem accepting_slots_conserved : ∃ h sys, controlPlane.Run h sys ∧
    ((sys.store.task? "task_0").any fun task => task.state = .accepting) = true ∧
    ∀ t ∈ states h sys, SlotsConserved t := by
  obtain ⟨h, sys, hrun, htest⟩ := exists_run_of_play (acceptingScript sampleRequest)
    (fun p => ((p.2.store.task? "task_0").any fun task => task.state = .accepting) &&
      p.1.all fun step => slotSafe step.1 step.2) (by decide +kernel)
  rw [Bool.and_eq_true, List.all_eq_true] at htest
  exact ⟨h, sys, hrun, htest.1, (slots_conserved_iff hrun).mpr htest.2⟩

def refusedPlanScript : Script :=
  [line "0" (.createTask sampleRequest), dispatchLine "0" .plan, settleLine (.failure none)]

def leavesSlot (sys : System) : Bool := counted sys.store "job_0" && sys.dispatching.isEmpty &&
    sys.store.tasks.values.all fun task => task.activeJobId.isNone

/-- The slot of a job whose submission failed is not given back. -/
theorem slots_not_conserved :
    ¬∀ h sys, controlPlane.Run h sys → ∀ t ∈ states h sys, SlotsConserved t := by
  intro hall
  obtain ⟨h, sys, hrun, htest⟩ := exists_run_of_play refusedPlanScript (fun p => leavesSlot p.2)
    (by decide +kernel)
  simp only [leavesSlot, Bool.and_eq_true, List.isEmpty_iff, List.all_eq_true] at htest
  obtain ⟨⟨hcounted, hidle⟩, hinactive⟩ := htest
  have hlast : sys ∈ states h sys := by simp [states]
  rcases (hall h sys hrun sys hlast).held "job_0" hcounted with
    ⟨d, hd, _⟩ | ⟨id, task, hstored, hactive, _⟩
  · rw [hidle] at hd
    cases hd
  · have hmem : task ∈ sys.store.tasks.values := by
      rw [sys.store.tasks.mem_values_iff, sys.store.task?_taskId hstored]
      exact hstored
    have hnone := hinactive task hmem
    rw [hactive] at hnone
    cases hnone

end ShipyardCp.Properties
