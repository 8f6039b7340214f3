import ShipyardCp.Domain.WorkerExecutor

/-! The books of a worker executor: which submissions are accepted, to which workers each went, and
which jobs are active or failing over. Answers that come in order keep them. -/

namespace ShipyardCp.Domain

open Types Lib WorkerExecutor

def chainWorkers (requests : List AdapterRequest) (submission : Nat) : List WorkerType :=
  (requests.filter fun request =>
    request.submission = submission ∧ request.path ≠ .fallback).map (·.adapter.workerType)

def isSettled : Except String JobPollResult → Bool
  | .ok polled => polled.status = .succeeded && polled.result.isSome || polled.status = .failed
  | .error _ => false

def isLost : Except String JobPollResult → Bool
  | .ok polled => polled.status = .cancelled
  | .error _ => true

def startsFailover (e : WorkerExecutor) (activeJob : ActiveJob) : Except String JobPollResult → Bool
  | .ok polled => polled.status = .failed && e.config.enableFailover &&
    canFailover activeJob.job.stage && (e.failoverTarget activeJob).isSome
  | .error _ => false

def isCancelled : Except String CancelResult → Bool
  | .ok result => result.success
  | .error _ => false

/-- The answer is one that the call at this point keeps its books with. -/
def AnswersInOrder (e : WorkerExecutor) : ExecutorCall → AwaitedAnswer → Prop
  | .poll wait jobId activeJob, .poll answer =>
    (isSettled answer = true → ¬e.FailsOver jobId ∧ (e.activeJobs.get? jobId = some activeJob ∨
        e.activeJobs.get? jobId = none ∧ startsFailover e activeJob answer = false)) ∧
    (wait.isSome = true → isLost answer = true → e.activeJobs.get? jobId = none)
  | .failoverSubmit _ _ _ _ _, .submission answer => answer.isOk = true
  | .cancel wait jobId _, .cancellation answer =>
    (isCancelled answer = true → ¬e.FailsOver jobId) ∧
    (wait.isSome = true → isCancelled answer = false → e.activeJobs.get? jobId = none)
  | _, _ => True

def InOrder (e : WorkerExecutor) (step : ExecutorStep) : Prop :=
  ∀ call answer point, step.op = .resume call answer → e.calls.get? call = some point →
    AnswersInOrder e point answer

section chain

variable {requests : List AdapterRequest} {request : AdapterRequest} {submission : Nat}

def workerRank : WorkerType → Nat
  | .codex => 0
  | .claudeCode => 1
  | .googleAntigravity => 2

theorem workerRank_of_getFailoverWorker {stage : WorkerStage} {workerType next : WorkerType}
    (h : getFailoverWorker stage workerType = some next) :
    workerRank next = workerRank workerType + 1 := by
  cases stage with
  | plan =>
    cases workerType with
    | codex =>
      obtain rfl : WorkerType.claudeCode = next := Option.some.inj h
      rfl
    | claudeCode =>
      obtain rfl : WorkerType.googleAntigravity = next := Option.some.inj h
      rfl
    | googleAntigravity => cases h
  | dev => cases h
  | acceptance => cases h

def UpTo (requests : List AdapterRequest) (submission : Nat) (workerType : WorkerType) : Prop :=
  ∀ other ∈ chainWorkers requests submission, workerRank other ≤ workerRank workerType

theorem chainWorkers_append : chainWorkers (requests ++ [request]) submission =
    chainWorkers requests submission ++
      if request.submission = submission ∧ request.path ≠ .fallback then
        [request.adapter.workerType] else [] := by
  unfold chainWorkers
  rw [List.filter_append, List.map_append]
  congr 1
  by_cases hrequest : request.submission = submission ∧ request.path ≠ .fallback
  · rw [if_pos hrequest]
    simp [hrequest]
  · rw [if_neg hrequest, List.filter_cons, if_neg (by simpa using hrequest)]
    rfl

theorem chainWorkers_append_of_ne (h : request.submission ≠ submission) :
    chainWorkers (requests ++ [request]) submission = chainWorkers requests submission := by
  rw [chainWorkers_append, if_neg fun hboth => h hboth.1, List.append_nil]

theorem UpTo.append {workerType : WorkerType} (h : UpTo requests submission workerType)
    (hne : submission ≠ request.submission) : UpTo (requests ++ [request]) submission workerType := by
  unfold UpTo
  rwa [chainWorkers_append_of_ne hne.symm]

theorem oneJob_append (hrequests : ∀ r₁ ∈ requests, ∀ r₂ ∈ requests,
      r₁.submission = r₂.submission → r₁.job = r₂.job)
    (hjobs : ∀ r ∈ requests, r.submission = request.submission → r.job = request.job) :
    ∀ r₁ ∈ requests ++ [request], ∀ r₂ ∈ requests ++ [request],
      r₁.submission = r₂.submission → r₁.job = r₂.job := by
  intro r₁ hr₁ r₂ hr₂ hsame
  rcases List.mem_append.mp hr₁ with hold₁ | hnew₁
  · rcases List.mem_append.mp hr₂ with hold₂ | hnew₂
    · exact hrequests r₁ hold₁ r₂ hold₂ hsame
    · rw [List.mem_singleton.mp hnew₂] at hsame ⊢
      exact hjobs r₁ hold₁ hsame
  · rw [List.mem_singleton.mp hnew₁] at hsame ⊢
    rcases List.mem_append.mp hr₂ with hold₂ | hnew₂
    · exact (hjobs r₂ hold₂ hsame.symm).symm
    · rw [List.mem_singleton.mp hnew₂]

end chain

def Backed (e : WorkerExecutor) (activeJob : ActiveJob) : Prop := activeJob.submission ∈ e.accepted ∧
    ∃ request ∈ e.requests, request.submission = activeJob.submission ∧ request.job = activeJob.job

/-- What the books of an executor are kept by. -/
structure BooksKept (e : WorkerExecutor) : Prop where
  callsBegun : ∀ call point, e.calls.get? call = some point → call < e.nextCall
  acceptedBegun : ∀ submission ∈ e.accepted, submission < e.nextCall
  requestsBegun : ∀ request ∈ e.requests, request.submission < e.nextCall
  oneJob : ∀ r₁ ∈ e.requests, ∀ r₂ ∈ e.requests, r₁.submission = r₂.submission → r₁.job = r₂.job
  submitting : ∀ call job targetWorker adapter reason,
    e.calls.get? call = some (.submit job targetWorker adapter reason) → call ∉ e.accepted ∧
      chainWorkers e.requests call = [targetWorker] ∧
      ∃ request ∈ e.requests, request.submission = call ∧ request.job = job
  held : ∀ jobId activeJob, e.Holds jobId activeJob → activeJob.job.jobId = jobId ∧ Backed e activeJob
  reachedActive : ∀ jobId activeJob, e.activeJobs.get? jobId = some activeJob →
    ¬e.FailsOver jobId → UpTo e.requests activeJob.submission activeJob.workerType
  reached : ∀ call point failover, e.calls.get? call = some point → point.failover? = some failover →
    UpTo e.requests failover.activeJob.submission failover.reached
  nextWorker : ∀ call wait jobId activeJob nextWorker failed,
    e.calls.get? call = some (.failoverCancel wait jobId activeJob nextWorker failed) →
    getFailoverWorker activeJob.job.stage activeJob.workerType = some nextWorker
  active : ∀ jobId, e.FailsOver jobId → (e.activeJobs.get? jobId).isSome = true
  single : ∀ c₁ p₁ f₁ c₂ p₂ f₂, e.calls.get? c₁ = some p₁ → p₁.failover? = some f₁ →
    e.calls.get? c₂ = some p₂ → p₂.failover? = some f₂ → f₁.jobId = f₂.jobId → c₁ = c₂
  chain : ∀ submission, (chainWorkers e.requests submission).Nodup
  ended : ∀ jobId accepted answer, .waitForJob jobId accepted answer ∈ e.returned →
    (∀ submission ∈ accepted, submission ∈ e.accepted) ∧
    ∀ activeJob, e.Holds jobId activeJob → activeJob.submission ∉ accepted

def GoesOn (e : WorkerExecutor) (jobId : String) (activeJob : ActiveJob) : Prop :=
  ∃ heldJob, e.Holds jobId heldJob ∧ activeJob.submission = heldJob.submission ∧
    activeJob.job = heldJob.job

/-- A stretch that gives no job to an adapter and accepts no submission. What it makes active or fails
over goes on from what was there, it removes no job that another call fails over, and a job for which
it ends a wait is not active. -/
structure Unasking (e : WorkerExecutor) (call : Nat) (stretch : Stretch) : Prop where
  request : stretch.request = none
  accepts : stretch.accepts = false
  notSubmit : ∀ point, stretch.ending = .awaits point → point.isSubmit = false
  entries : ∀ jobId activeJob, stretch.activeJobs.get? jobId = some activeJob →
    e.activeJobs.get? jobId = some activeJob ∧
        (e.FailsOver jobId → (e.after call stretch).FailsOver jobId) ∨
      GoesOn e jobId activeJob ∧ UpTo e.requests activeJob.submission activeJob.workerType
  kept : ∀ c point failover, c ≠ call → e.calls.get? c = some point →
    point.failover? = some failover → (stretch.activeJobs.get? failover.jobId).isSome = true
  failover : ∀ point failover, stretch.ending = .awaits point → point.failover? = some failover →
    GoesOn e failover.jobId failover.activeJob ∧
      UpTo e.requests failover.activeJob.submission failover.reached ∧
      (stretch.activeJobs.get? failover.jobId).isSome = true ∧
      ∀ c other otherFailover, c ≠ call → e.calls.get? c = some other →
        other.failover? = some otherFailover → otherFailover.jobId ≠ failover.jobId
  nextWorker : ∀ wait jobId activeJob nextWorker failed,
    stretch.ending = .awaits (.failoverCancel wait jobId activeJob nextWorker failed) →
    getFailoverWorker activeJob.job.stage activeJob.workerType = some nextWorker
  waits : ∀ jobId accepted answer, stretch.ending = .returns (.waitForJob jobId accepted answer) →
    accepted = e.accepted ∧ stretch.activeJobs.get? jobId = none

section kept

variable {e : WorkerExecutor} {call : Nat} {stretch : Stretch} {jobId : String}
  {activeJob : ActiveJob}

theorem Holds.goesOn (h : e.Holds jobId activeJob) : GoesOn e jobId activeJob :=
  ⟨activeJob, h, rfl, rfl⟩

theorem Unasking.goesOn (h : Unasking e call stretch)
    (hholds : (e.after call stretch).Holds jobId activeJob) : GoesOn e jobId activeJob := by
  rcases hholds with hget | ⟨c, point, failover, hpoint, hfailover, rfl, rfl⟩
  · rcases h.entries jobId activeJob hget with ⟨hsame, _⟩ | ⟨hgoes, _⟩
    · exact Holds.goesOn (Or.inl hsame)
    · exact hgoes
  · rcases calls_after hpoint with ⟨_, hending⟩ | ⟨_, hold⟩
    · exact (h.failover point failover hending hfailover).1
    · exact Holds.goesOn (Or.inr ⟨c, point, failover, hold, hfailover, rfl, rfl⟩)

theorem mem_returned_after {answer : ExecutorReturn} (h : answer ∈ (e.after call stretch).returned) :
    answer ∈ e.returned ∨ stretch.ending = .returns answer := by
  simp only [after] at h
  cases hending : stretch.ending with
  | awaits point =>
    rw [hending] at h
    exact Or.inl h
  | returns other =>
    rw [hending] at h
    rcases List.mem_append.mp h with hold | hnew
    · exact Or.inl hold
    · rw [List.mem_singleton.mp hnew]
      exact Or.inr rfl

theorem BooksKept.begun (hkept : BooksKept e) : BooksKept { e with nextCall := e.nextCall + 1 } :=
  { hkept with
    callsBegun := fun c point hpoint => Nat.lt_succ_of_lt (hkept.callsBegun c point hpoint)
    acceptedBegun := fun c hc => Nat.lt_succ_of_lt (hkept.acceptedBegun c hc)
    requestsBegun := fun r hr => Nat.lt_succ_of_lt (hkept.requestsBegun r hr) }

theorem BooksKept.callsBegun_after (hkept : BooksKept e) (hcall : call < e.nextCall) {c : Nat}
    {point : ExecutorCall} (h : (e.after call stretch).calls.get? c = some point) :
    c < e.nextCall := by
  rcases calls_after h with ⟨rfl, _⟩ | ⟨_, hold⟩
  · exact hcall
  · exact hkept.callsBegun c point hold

theorem failsOver_after (h : e.FailsOver jobId) (hcall : ∀ point failover,
      e.calls.get? call = some point → point.failover? = some failover → failover.jobId ≠ jobId) :
    (e.after call stretch).FailsOver jobId := by
  obtain ⟨c, point, failover, hpoint, hfailover, hid⟩ := h
  by_cases hsame : c = call
  · exact absurd hid (hcall point failover (hsame ▸ hpoint) hfailover)
  · exact ⟨c, point, failover, calls_after_of_ne hsame hpoint, hfailover, hid⟩

theorem Unasking.booksKept (h : Unasking e call stretch) (hkept : BooksKept e)
    (hcall : call < e.nextCall) : BooksKept (e.after call stretch) := by
  have hrequests : (e.after call stretch).requests = e.requests := by
    simp [after, h.request]
  have haccepted : (e.after call stretch).accepted = e.accepted := by
    simp [after, h.accepts]
  have hactive : ∀ jobId, (e.after call stretch).FailsOver jobId →
      (stretch.activeJobs.get? jobId).isSome = true := by
    rintro jobId ⟨c, point, failover, hpoint, hfailover, rfl⟩
    rcases calls_after hpoint with ⟨_, hending⟩ | ⟨hne, hold⟩
    · exact (h.failover point failover hending hfailover).2.2.1
    · exact h.kept c point failover hne hold hfailover
  constructor
  · exact fun c point hpoint => hkept.callsBegun_after hcall hpoint
  · rw [haccepted]
    exact hkept.acceptedBegun
  · rw [hrequests]
    exact hkept.requestsBegun
  · rw [hrequests]
    exact hkept.oneJob
  · intro c job targetWorker adapter reason hpoint
    rw [hrequests, haccepted]
    rcases calls_after hpoint with ⟨_, hending⟩ | ⟨_, hold⟩
    · cases h.notSubmit _ hending
    · exact hkept.submitting c job targetWorker adapter reason hold
  · intro jobId activeJob hholds
    obtain ⟨heldJob, hheld, hsubmission, hjob⟩ := h.goesOn hholds
    obtain ⟨hid, hback⟩ := hkept.held jobId heldJob hheld
    rw [Backed, hrequests, haccepted, hjob, hsubmission]
    exact ⟨hid, hback⟩
  · intro jobId activeJob hget hnot
    rw [hrequests]
    rcases h.entries jobId activeJob hget with ⟨hsame, hfails⟩ | ⟨_, hreached⟩
    · exact hkept.reachedActive jobId activeJob hsame fun hbefore => hnot (hfails hbefore)
    · exact hreached
  · intro c point failover hpoint hfailover
    rw [hrequests]
    rcases calls_after hpoint with ⟨_, hending⟩ | ⟨_, hold⟩
    · exact (h.failover point failover hending hfailover).2.1
    · exact hkept.reached c point failover hold hfailover
  · intro c wait jobId activeJob nextWorker failed hpoint
    rcases calls_after hpoint with ⟨_, hending⟩ | ⟨_, hold⟩
    · exact h.nextWorker wait jobId activeJob nextWorker failed hending
    · exact hkept.nextWorker c wait jobId activeJob nextWorker failed hold
  · exact hactive
  · intro c₁ p₁ f₁ c₂ p₂ f₂ hp₁ hf₁ hp₂ hf₂ hsame
    rcases calls_after hp₁ with ⟨rfl, hending₁⟩ | ⟨hne₁, hold₁⟩
    · rcases calls_after hp₂ with ⟨rfl, _⟩ | ⟨hne₂, hold₂⟩
      · rfl
      · have hother := (h.failover p₁ f₁ hending₁ hf₁).2.2.2 c₂ p₂ f₂ hne₂ hold₂ hf₂
        exact absurd hsame.symm hother
    · rcases calls_after hp₂ with ⟨rfl, hending₂⟩ | ⟨_, hold₂⟩
      · have hother := (h.failover p₂ f₂ hending₂ hf₂).2.2.2 c₁ p₁ f₁ hne₁ hold₁ hf₁
        exact absurd hsame hother
      · exact hkept.single c₁ p₁ f₁ c₂ p₂ f₂ hold₁ hf₁ hold₂ hf₂ hsame
  · rw [hrequests]
    exact hkept.chain
  · intro jobId accepted answer hmem
    rw [haccepted]
    rcases mem_returned_after hmem with hold | hending
    · obtain ⟨hsubset, hfree⟩ := hkept.ended jobId accepted answer hold
      refine ⟨hsubset, fun activeJob hholds => ?_⟩
      obtain ⟨heldJob, hheld, hsubmission, _⟩ := h.goesOn hholds
      rw [hsubmission]
      exact hfree heldJob hheld
    · obtain ⟨rfl, hnone⟩ := h.waits jobId accepted answer hending
      refine ⟨fun _ hsubmission => hsubmission, fun activeJob hholds => ?_⟩
      rcases hholds with hget | ⟨c, point, failover, hpoint, hfailover, hid, _⟩
      · have hget : stretch.activeJobs.get? jobId = some activeJob := hget
        rw [hnone] at hget
        cases hget
      · have hsome := hactive jobId ⟨c, point, failover, hpoint, hfailover, hid⟩
        rw [hnone] at hsome
        cases hsome

theorem BooksKept.jobId_eq (hkept : BooksKept e) {otherId : String} {other : ActiveJob}
    (h : e.Holds jobId activeJob) (hother : e.Holds otherId other)
    (hsame : other.submission = activeJob.submission) : otherId = jobId := by
  obtain ⟨hid, _, r₁, hr₁, hsubmission₁, hjob₁⟩ := hkept.held jobId activeJob h
  obtain ⟨hotherId, _, r₂, hr₂, hsubmission₂, hjob₂⟩ := hkept.held otherId other hother
  have hjob := hkept.oneJob r₂ hr₂ r₁ hr₁ (by rw [hsubmission₁, hsubmission₂, hsame])
  rw [← hid, ← hotherId, ← hjob₁, ← hjob₂, hjob]

theorem Backed.append {e' : WorkerExecutor} (h : Backed e activeJob)
    (haccepted : ∀ submission ∈ e.accepted, submission ∈ e'.accepted)
    (hrequests : ∀ r ∈ e.requests, r ∈ e'.requests) : Backed e' activeJob := by
  obtain ⟨hmem, r, hr, hboth⟩ := h
  exact ⟨haccepted _ hmem, r, hrequests r hr, hboth⟩

def submittingStretch (e : WorkerExecutor) (job : WorkerJob) (targetWorker : WorkerType)
    (adapter : AdapterRef) (reason : Option String) (request : AdapterRequest) : Stretch where
  activeJobs := e.activeJobs
  request := some request
  ending := .awaits (.submit job targetWorker adapter reason)

variable {reason : Option String}

theorem failover_after_submitting {job : WorkerJob} {targetWorker : WorkerType}
    {adapter : AdapterRef} {request : AdapterRequest} {c : Nat}
    {point : ExecutorCall} {failover : Failover}
    (hpoint : (e.after call (submittingStretch e job targetWorker adapter reason request)).calls.get? c =
      some point) (hfailover : point.failover? = some failover) :
    e.calls.get? c = some point := by
  rcases calls_after hpoint with ⟨_, hending⟩ | ⟨_, hold⟩
  · cases hending
    cases hfailover
  · exact hold

theorem BooksKept.submitting_after (hkept : BooksKept e) (hcall : call < e.nextCall)
    {job : WorkerJob} {targetWorker : WorkerType} {adapter : AdapterRef}
    {request : AdapterRequest} (hplain : ∀ point, e.calls.get? call = some point →
      point.failover? = none)
    (hfresh : call ∉ e.accepted) (hsubmission : request.submission = call)
    (hjob : request.job = job) (hjobs : ∀ r ∈ e.requests, r.submission = call → r.job = job)
    (hchain : chainWorkers (e.requests ++ [request]) call = [targetWorker]) :
    BooksKept (e.after call (submittingStretch e job targetWorker adapter reason request)) := by
  have hother : ∀ submission, submission ≠ call →
      chainWorkers (e.requests ++ [request]) submission = chainWorkers e.requests submission := by
    intro submission hne
    exact chainWorkers_append_of_ne (hsubmission ▸ hne.symm)
  have hholds : ∀ jobId activeJob,
      (e.after call (submittingStretch e job targetWorker adapter reason request)).Holds jobId activeJob →
        e.Holds jobId activeJob := by
    rintro jobId activeJob (hget | ⟨c, point, failover, hpoint, hfailover, hrest⟩)
    · exact Or.inl hget
    · exact Or.inr ⟨c, point, failover, failover_after_submitting hpoint hfailover, hfailover, hrest⟩
  have hne : ∀ jobId activeJob, e.Holds jobId activeJob → activeJob.submission ≠ call := by
    intro jobId activeJob hheld hsame
    exact hfresh (hsame ▸ (hkept.held jobId activeJob hheld).2.1)
  constructor
  · exact fun c point hpoint => hkept.callsBegun_after hcall hpoint
  · exact hkept.acceptedBegun
  · intro r hr
    rcases List.mem_append.mp hr with hold | hnew
    · exact hkept.requestsBegun r hold
    · rw [List.mem_singleton.mp hnew, hsubmission]
      exact hcall
  · exact oneJob_append hkept.oneJob fun r hr hsame => by
      rw [hjob, hjobs r hr (hsame.trans hsubmission)]
  · intro c job' targetWorker' adapter' reason' hpoint
    rcases calls_after hpoint with ⟨rfl, hending⟩ | ⟨hc, hold⟩
    · cases hending
      exact ⟨hfresh, hchain, request, List.mem_append_right _ List.mem_cons_self, hsubmission, hjob⟩
    · obtain ⟨hfreshc, hchainc, r, hr, hboth⟩ :=
        hkept.submitting c job' targetWorker' adapter' reason' hold
      refine ⟨hfreshc, ?_, r, List.mem_append_left _ hr, hboth⟩
      exact (hother c hc).trans hchainc
  · intro jobId activeJob hheld
    obtain ⟨hid, hback⟩ := hkept.held jobId activeJob (hholds jobId activeJob hheld)
    exact ⟨hid, hback.append (fun _ hmem => hmem) fun r hr => List.mem_append_left _ hr⟩
  · intro jobId activeJob hget hnot
    have hbefore : ¬e.FailsOver jobId := fun hfails => hnot (failsOver_after hfails
      fun point failover hpoint hfailover => by cases (hplain point hpoint).symm.trans hfailover)
    exact (hkept.reachedActive jobId activeJob hget hbefore).append
      (hsubmission ▸ hne jobId activeJob (Or.inl hget))
  · intro c point failover hpoint hfailover
    have hold := failover_after_submitting hpoint hfailover
    exact (hkept.reached c point failover hold hfailover).append
      (hsubmission ▸ hne _ _ (Or.inr ⟨c, point, failover, hold, hfailover, rfl, rfl⟩))
  · intro c wait jobId activeJob nextWorker failed hpoint
    exact hkept.nextWorker c wait jobId activeJob nextWorker failed
      (failover_after_submitting hpoint rfl)
  · rintro jobId ⟨c, point, failover, hpoint, hfailover, hid⟩
    exact hkept.active jobId
      ⟨c, point, failover, failover_after_submitting hpoint hfailover, hfailover, hid⟩
  · intro c₁ p₁ f₁ c₂ p₂ f₂ hp₁ hf₁ hp₂ hf₂
    exact hkept.single c₁ p₁ f₁ c₂ p₂ f₂ (failover_after_submitting hp₁ hf₁) hf₁
      (failover_after_submitting hp₂ hf₂) hf₂
  · intro submission
    by_cases hsame : submission = call
    · rw [hsame]
      exact hchain ▸ List.nodup_singleton _
    · exact (hother submission hsame) ▸ hkept.chain submission
  · intro jobId accepted answer hmem
    obtain ⟨hsubset, hfree⟩ := hkept.ended jobId accepted answer hmem
    exact ⟨hsubset, fun activeJob hheld => hfree activeJob (hholds jobId activeJob hheld)⟩

theorem BooksKept.failoverCancelled_after (hkept : BooksKept e) {wait : Option JobWait}
    {nextWorker : WorkerType} {failed : JobPollResult}
    (hpoint : e.calls.get? call = some (.failoverCancel wait jobId activeJob nextWorker failed)) :
    BooksKept (e.after call (e.failoverCancelled wait jobId activeJob nextWorker failed)) := by
  let request : AdapterRequest := { submission := activeJob.submission, path := .failover,
                                    adapter := ⟨.external, nextWorker⟩, job := activeJob.job }
  have hheld : e.Holds jobId activeJob := Or.inr ⟨call, _, _, hpoint, rfl, rfl, rfl⟩
  have hback := (hkept.held jobId activeJob hheld).2
  have hnext := workerRank_of_getFailoverWorker
    (hkept.nextWorker call wait jobId activeJob nextWorker failed hpoint)
  have hreached : UpTo e.requests activeJob.submission activeJob.workerType :=
    hkept.reached call _ _ hpoint rfl
  have hchain : chainWorkers (e.requests ++ [request]) activeJob.submission =
      chainWorkers e.requests activeJob.submission ++ [nextWorker] := by
    rw [chainWorkers_append, if_pos ⟨rfl, nofun⟩]
  have hother : ∀ submission, submission ≠ activeJob.submission →
      chainWorkers (e.requests ++ [request]) submission = chainWorkers e.requests submission :=
    fun submission hne => chainWorkers_append_of_ne hne.symm
  -- the call is in the same failover before and after
  have hbefore : ∀ c point failover,
      (e.after call (e.failoverCancelled wait jobId activeJob nextWorker failed)).calls.get? c =
        some point → point.failover? = some failover →
      ∃ before beforeFailover, e.calls.get? c = some before ∧
        before.failover? = some beforeFailover ∧ beforeFailover.jobId = failover.jobId ∧
        beforeFailover.activeJob = failover.activeJob ∧ (c = call ∧ failover.reached = nextWorker ∨
          c ≠ call ∧ before = point ∧ beforeFailover = failover) := by
    intro c point failover hafter hfailover
    rcases calls_after hafter with ⟨rfl, hending⟩ | ⟨hne, hold⟩
    · cases hending
      obtain rfl := Option.some.inj hfailover
      exact ⟨_, _, hpoint, rfl, rfl, rfl, Or.inl ⟨rfl, rfl⟩⟩
    · exact ⟨point, failover, hold, hfailover, rfl, rfl, Or.inr ⟨hne, rfl, rfl⟩⟩
  have hholds : ∀ id held,
      (e.after call (e.failoverCancelled wait jobId activeJob nextWorker failed)).Holds id held →
        e.Holds id held := by
    rintro id held (hget | ⟨c, point, failover, hafter, hfailover, rfl, rfl⟩)
    · exact Or.inl hget
    · obtain ⟨before, beforeFailover, hold, hof, hid, hjob, _⟩ :=
        hbefore c point failover hafter hfailover
      exact Or.inr ⟨c, before, beforeFailover, hold, hof, hid, hjob⟩
  constructor
  · exact fun c point hafter => hkept.callsBegun_after (hkept.callsBegun call _ hpoint) hafter
  · exact hkept.acceptedBegun
  · intro r hr
    rcases List.mem_append.mp hr with hold | hnew
    · exact hkept.requestsBegun r hold
    · rw [List.mem_singleton.mp hnew]
      exact hkept.acceptedBegun _ hback.1
  · obtain ⟨r, hr, hsubmission, hjob⟩ := hback.2
    exact oneJob_append hkept.oneJob fun other hother hsame =>
      (hkept.oneJob other hother r hr (hsame.trans hsubmission.symm)).trans hjob
  · intro c job targetWorker adapter reason hafter
    rcases calls_after hafter with ⟨_, hending⟩ | ⟨_, hold⟩
    · cases hending
    · obtain ⟨hfresh, hchainc, r, hr, hboth⟩ :=
        hkept.submitting c job targetWorker adapter reason hold
      have hne : c ≠ activeJob.submission := by
        rintro rfl
        exact hfresh hback.1
      exact ⟨hfresh, (hother c hne).trans hchainc, r, List.mem_append_left _ hr, hboth⟩
  · intro id held hafter
    obtain ⟨hid, hbacked⟩ := hkept.held id held (hholds id held hafter)
    exact ⟨hid, hbacked.append (fun _ hmem => hmem) fun r hr => List.mem_append_left _ hr⟩
  · intro id held hget hnot
    have hnotCall : id ≠ jobId := by
      rintro rfl
      exact hnot ⟨call, _, _, by rw [get?_calls_after, if_pos rfl]; rfl, rfl, rfl⟩
    have hne : held.submission ≠ activeJob.submission := by
      intro hsame
      exact hnotCall (hkept.jobId_eq hheld (Or.inl hget) hsame)
    have hnotBefore : ¬e.FailsOver id := by
      refine fun hfails => hnot (failsOver_after hfails fun point failover hold hfailover => ?_)
      obtain rfl := Option.some.inj (hpoint.symm.trans hold)
      obtain rfl := Option.some.inj hfailover
      exact Ne.symm hnotCall
    exact (hkept.reachedActive id held hget hnotBefore).append hne
  · intro c point failover hafter hfailover
    obtain ⟨before, beforeFailover, hold, hof, hid, hjob, hcase⟩ :=
      hbefore c point failover hafter hfailover
    rcases hcase with ⟨rfl, hnextReached⟩ | ⟨hne, _, rfl⟩
    · rw [hpoint] at hold
      obtain rfl := Option.some.inj hold
      obtain rfl := Option.some.inj hof
      rw [← hjob, hnextReached]
      intro other hmem
      have hmem : other ∈ chainWorkers (e.requests ++ [request]) activeJob.submission := hmem
      rw [hchain, List.mem_append, List.mem_singleton] at hmem
      rcases hmem with hold | rfl
      · have hle := hreached other hold
        omega
      · exact le_rfl
    · have hneSubmission : beforeFailover.activeJob.submission ≠ activeJob.submission := by
        intro hsame
        have hids := hkept.jobId_eq hheld
          (Or.inr ⟨c, before, beforeFailover, hold, hof, rfl, rfl⟩) hsame
        exact hne (hkept.single c before beforeFailover call _ _ hold hof hpoint rfl hids)
      exact (hkept.reached c before beforeFailover hold hof).append hneSubmission
  · intro c wait' id held nextWorker' failed' hafter
    rcases calls_after hafter with ⟨_, hending⟩ | ⟨_, hold⟩
    · cases hending
    · exact hkept.nextWorker c wait' id held nextWorker' failed' hold
  · rintro id ⟨c, point, failover, hafter, hfailover, rfl⟩
    obtain ⟨before, beforeFailover, hold, hof, hid, _⟩ := hbefore c point failover hafter hfailover
    exact hkept.active failover.jobId ⟨c, before, beforeFailover, hold, hof, hid⟩
  · intro c₁ p₁ f₁ c₂ p₂ f₂ hp₁ hf₁ hp₂ hf₂ hsame
    obtain ⟨b₁, g₁, hold₁, hof₁, hid₁, _⟩ := hbefore c₁ p₁ f₁ hp₁ hf₁
    obtain ⟨b₂, g₂, hold₂, hof₂, hid₂, _⟩ := hbefore c₂ p₂ f₂ hp₂ hf₂
    exact hkept.single c₁ b₁ g₁ c₂ b₂ g₂ hold₁ hof₁ hold₂ hof₂ (by rw [hid₁, hid₂, hsame])
  · intro submission
    by_cases hsame : submission = activeJob.submission
    · have hnodup : (chainWorkers (e.requests ++ [request]) activeJob.submission).Nodup := by
        rw [hchain, List.nodup_append]
        refine ⟨hkept.chain _, List.nodup_singleton _, fun other hold worker hworker => ?_⟩
        rw [List.mem_singleton.mp hworker]
        rintro rfl
        have hle := hreached _ hold
        omega
      rw [hsame]
      exact hnodup
    · exact (hother submission hsame) ▸ hkept.chain submission
  · intro id accepted answer hmem
    obtain ⟨hsubset, hfree⟩ := hkept.ended id accepted answer hmem
    exact ⟨hsubset, fun held hafter => hfree held (hholds id held hafter)⟩

theorem BooksKept.accepted_after (hkept : BooksKept e) {job : WorkerJob}
    {targetWorker : WorkerType} {adapter : AdapterRef}
    {answer : ExecutorReturn} (hanswer : ∀ id accepted a, answer ≠ .waitForJob id accepted a)
    (hpoint : e.calls.get? call = some (.submit job targetWorker adapter reason))
    (hjob : activeJob.job = job) (hworker : activeJob.workerType = targetWorker)
    (hsubmission : activeJob.submission = call) {stretch : Stretch}
    (hstretch : stretch = ⟨e.activeJobs.set job.jobId activeJob, none, true, .returns answer⟩) :
    BooksKept (e.after call stretch) := by
  subst hstretch
  obtain ⟨hfresh, hchain, request, hrequest, hown, hownJob⟩ :=
    hkept.submitting call job targetWorker adapter reason hpoint
  have hrequests : (e.after call ⟨e.activeJobs.set job.jobId activeJob, none, true,
      .returns answer⟩).requests = e.requests := by
    simp [after]
  have hcalls : ∀ c point, (e.after call ⟨e.activeJobs.set job.jobId activeJob, none, true,
      .returns answer⟩).calls.get? c = some point → c ≠ call ∧ e.calls.get? c = some point := by
    intro c point hafter
    rcases calls_after hafter with ⟨_, hending⟩ | hold
    · cases hending
    · exact hold
  have hget : ∀ id held, (e.activeJobs.set job.jobId activeJob).get? id = some held →
      id = job.jobId ∧ held = activeJob ∨ id ≠ job.jobId ∧ e.activeJobs.get? id = some held := by
    intro id held hset
    rw [InsertionMap.get?_set] at hset
    split_ifs at hset with hid
    · exact Or.inl ⟨hid, (Option.some.inj hset).symm⟩
    · exact Or.inr ⟨hid, hset⟩
  have hholds : ∀ id held, (e.after call ⟨e.activeJobs.set job.jobId activeJob, none, true,
      .returns answer⟩).Holds id held → id = job.jobId ∧ held = activeJob ∨ e.Holds id held := by
    rintro id held (hset | ⟨c, point, failover, hafter, hrest⟩)
    · rcases hget id held hset with hnew | ⟨_, hold⟩
      · exact Or.inl hnew
      · exact Or.inr (Or.inl hold)
    · exact Or.inr (Or.inr ⟨c, point, failover, (hcalls c point hafter).2, hrest⟩)
  have hbacked : ∀ held, Backed e held → Backed (e.after call ⟨e.activeJobs.set job.jobId activeJob,
      none, true, .returns answer⟩) held := by
    intro held hback
    refine hback.append (fun _ hmem => List.mem_append_left _ hmem) fun r hr => ?_
    rw [hrequests]
    exact hr
  constructor
  · exact fun c point hafter => hkept.callsBegun c point (hcalls c point hafter).2
  · intro submission hmem
    rcases List.mem_append.mp hmem with hold | hnew
    · exact hkept.acceptedBegun submission hold
    · rw [List.mem_singleton.mp hnew]
      exact hkept.callsBegun call _ hpoint
  · rw [hrequests]
    exact hkept.requestsBegun
  · rw [hrequests]
    exact hkept.oneJob
  · intro c job' targetWorker' adapter' reason' hafter
    obtain ⟨hne, hold⟩ := hcalls c _ hafter
    obtain ⟨hfreshc, hrest⟩ := hkept.submitting c job' targetWorker' adapter' reason' hold
    rw [hrequests]
    refine ⟨?_, hrest⟩
    intro hmem
    rcases List.mem_append.mp hmem with hmem | hmem
    · exact hfreshc hmem
    · exact hne (List.mem_singleton.mp hmem)
  · intro id held hafter
    rcases hholds id held hafter with ⟨rfl, rfl⟩ | hold
    · refine ⟨by rw [hjob], ?_, request, ?_, ?_, ?_⟩
      · rw [hsubmission]
        exact List.mem_append_right _ List.mem_cons_self
      · rw [hrequests]
        exact hrequest
      · rw [hown, hsubmission]
      · rw [hownJob, hjob]
    · obtain ⟨hid, hback⟩ := hkept.held id held hold
      exact ⟨hid, hbacked held hback⟩
  · intro id held hset hnot
    rw [hrequests]
    rcases hget id held hset with ⟨_, rfl⟩ | ⟨_, hold⟩
    · rw [hsubmission, hworker, UpTo, hchain]
      intro other hmem
      rw [List.mem_singleton.mp hmem]
    · refine hkept.reachedActive id held hold fun hfails => hnot (failsOver_after hfails ?_)
      intro point failover hpoint' hfailover
      obtain rfl := Option.some.inj (hpoint.symm.trans hpoint')
      cases hfailover
  · intro c point failover hafter hfailover
    rw [hrequests]
    exact hkept.reached c point failover (hcalls c point hafter).2 hfailover
  · intro c wait id held nextWorker failed hafter
    exact hkept.nextWorker c wait id held nextWorker failed (hcalls c _ hafter).2
  · rintro id ⟨c, point, failover, hafter, hrest⟩
    have hbefore := hkept.active id ⟨c, point, failover, (hcalls c point hafter).2, hrest⟩
    have hset : ((e.activeJobs.set job.jobId activeJob).get? id).isSome = true := by
      rw [InsertionMap.get?_set]
      split_ifs
      · rfl
      · exact hbefore
    exact hset
  · intro c₁ p₁ f₁ c₂ p₂ f₂ hp₁ hf₁ hp₂ hf₂
    exact hkept.single c₁ p₁ f₁ c₂ p₂ f₂ (hcalls c₁ p₁ hp₁).2 hf₁ (hcalls c₂ p₂ hp₂).2 hf₂
  · rw [hrequests]
    exact hkept.chain
  · intro id accepted a hmem
    have hold : .waitForJob id accepted a ∈ e.returned := by
      rcases mem_returned_after hmem with hold | hending
      · exact hold
      · exact absurd (StretchEnd.returns.inj hending) (hanswer id accepted a)
    obtain ⟨hsubset, hfree⟩ := hkept.ended id accepted a hold
    refine ⟨fun submission hmem => List.mem_append_left _ (hsubset submission hmem), ?_⟩
    intro held hafter
    rcases hholds id held hafter with ⟨_, rfl⟩ | hheld
    · rw [hsubmission]
      exact fun hmem => hfresh (hsubset call hmem)
    · exact hfree held hheld

end kept

end ShipyardCp.Domain
