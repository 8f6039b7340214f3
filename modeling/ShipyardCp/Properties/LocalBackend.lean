import ShipyardCp.Properties.ExecutorBookkeeping

/-! Which backends the adapters of a job belong to over the runs of the worker executor, and from which
adapter the submissions and results that it reports come. -/

namespace ShipyardCp.Properties

open Types Lib Domain WorkerExecutor StretchEnd Machine InsertionMap

def Confined (e : WorkerExecutor) : Prop :=
  ∀ r ∈ e.requests, r.path = .primary → r.adapter.backend = .lmstudio →
    e.config.backendRouter.canFallbackToExternal r.job.stage = false →
    ∀ r' ∈ e.requests, r'.submission = r.submission → r'.adapter.backend = .lmstudio

/-- The response is the answer of an adapter, with its backend, or the executor asked no adapter. -/
def Submitted (h : History WorkerExecutor ExecutorStep) (response : JobSubmissionResult) : Prop :=
  ∃ p ∈ h, (∃ call job targetWorker adapter reason result,
      p.2.op = .resume call (.submission (.ok result)) ∧
      p.1.calls.get? call = some (.submit job targetWorker adapter reason) ∧
      response = { result with
        executionBackend := some adapter.backend, fallbackReason := response.fallbackReason }) ∨
    ∃ job workerType, p.2.op = .submitJob job workerType ∧
      (p.1.submitJob p.1.nextCall job workerType).ending = .returns (.submitJob (.ok response))

/-- The result is one with which an adapter answered a poll of the job, with its backend. -/
def Produced (h : History WorkerExecutor ExecutorStep) (jobId : String) (result : BackendResult) :
    Prop :=
  ∃ p ∈ h, ∃ call wait activeJob polled produced, p.2.op = .resume call (.poll (.ok polled)) ∧
    p.1.calls.get? call = some (.poll wait jobId activeJob) ∧ polled.result = some produced ∧
    result = { produced with executionBackend := some activeJob.adapter.backend }

/-- What a call returns names the backend that it comes from. -/
def Reports (h : History WorkerExecutor ExecutorStep) : ExecutorReturn → Prop
  | .submitJob (.ok response) => Submitted h response
  | .pollJob jobId (.ok polled) => ∀ result, polled.result = some result → Produced h jobId result
  | .waitForJob jobId _ (.ok result) => Produced h jobId result
  | _ => True

/-- Submissions stay in the backend that they were routed to, and what is reported names the backend
that it comes from. -/
structure LocalConfinement (h : History WorkerExecutor ExecutorStep) (e : WorkerExecutor) : Prop where
  confined : ∀ s ∈ states h e, Confined s
  reported : ∀ answer ∈ e.returned, Reports h answer

/-- The step carries no failover over from LM Studio, unless the stage has fallback. -/
def KeepsBackend (e : WorkerExecutor) (step : ExecutorStep) : Prop :=
  ∀ call answer wait jobId activeJob nextWorker failed, step.op = .resume call answer →
    e.calls.get? call = some (.failoverCancel wait jobId activeJob nextWorker failed) →
    activeJob.adapter.backend = .lmstudio →
    e.config.backendRouter.canFallbackToExternal activeJob.job.stage = true

/-- The active job that a call works on. -/
def callJob? : ExecutorCall → Option ActiveJob
  | .poll _ _ activeJob => some activeJob
  | .failoverCancel _ _ activeJob _ _ => some activeJob
  | .failoverSubmit _ _ activeJob _ _ => some activeJob
  | _ => none

/-- The submission of the job went to the backend, to LM Studio first if at all. -/
def Traced (e : WorkerExecutor) (submission : Nat) (job : WorkerJob) (backend : ExecutionBackend) :
    Prop :=
  (∃ r ∈ e.requests, r.submission = submission ∧ r.adapter.backend = backend ∧
    (backend = .lmstudio → r.path = .primary)) ∧
  ∀ r ∈ e.requests, r.submission = submission → r.job = job

def JobTraced (e : WorkerExecutor) (activeJob : ActiveJob) : Prop :=
  Traced e activeJob.submission activeJob.job activeJob.adapter.backend ∧
    activeJob.executionBackend = activeJob.adapter.backend

/-- What is known of the submissions under way, active or polled. -/
structure RequestsTraced (e : WorkerExecutor) : Prop where
  callsBegun : ∀ call point, e.calls.get? call = some point → call < e.nextCall
  requestsBegun : ∀ r ∈ e.requests, r.submission < e.nextCall
  submitting : ∀ call job targetWorker adapter reason,
    e.calls.get? call = some (.submit job targetWorker adapter reason) →
    Traced e call job adapter.backend
  active : ∀ jobId activeJob, e.activeJobs.get? jobId = some activeJob → JobTraced e activeJob
  calls : ∀ call point activeJob, e.calls.get? call = some point →
    callJob? point = some activeJob → JobTraced e activeJob
  failover : ∀ call wait jobId activeJob nextWorker failed,
    e.calls.get? call = some (.failoverSubmit wait jobId activeJob nextWorker failed) →
    Traced e activeJob.submission activeJob.job .external

section traced

variable {e e' : WorkerExecutor} {call : Nat} {stretch : Stretch} {submission : Nat}
  {job : WorkerJob} {backend : ExecutionBackend} {activeJob : ActiveJob}

def AsksForJob (e : WorkerExecutor) (stretch : Stretch) : Prop :=
  ∀ r, stretch.request = some r → ∀ r' ∈ e.requests, r'.submission = r.submission → r'.job = r.job

theorem mem_requests_after {r : AdapterRequest} : r ∈ (e.after call stretch).requests ↔
    r ∈ e.requests ∨ stretch.request = some r := by
  unfold after
  rw [List.mem_append, Option.mem_toList]

theorem Traced.after (h : Traced e submission job backend) (hasks : AsksForJob e stretch) :
    Traced (e.after call stretch) submission job backend := by
  obtain ⟨⟨r, hr, hsubmission, hbackend⟩, hjob⟩ := h
  refine ⟨⟨r, mem_requests_after.mpr (Or.inl hr), hsubmission, hbackend⟩, ?_⟩
  intro r' hr' hsame
  rcases mem_requests_after.mp hr' with hold | hnew
  · exact hjob r' hold hsame
  · rw [← hasks r' hnew r hr (hsubmission.trans hsame.symm)]
    exact hjob r hr hsubmission

theorem traced_request {r : AdapterRequest} (hasks : AsksForJob e stretch)
    (hrequest : stretch.request = some r) (hpath : r.adapter.backend = .lmstudio → r.path = .primary) :
    Traced (e.after call stretch) r.submission r.job r.adapter.backend := by
  refine ⟨⟨r, mem_requests_after.mpr (Or.inr hrequest), rfl, rfl, hpath⟩, ?_⟩
  intro r' hr' hsame
  rcases mem_requests_after.mp hr' with hold | hnew
  · exact hasks r hrequest r' hold hsame
  · rw [Option.some.inj (hnew.symm.trans hrequest)]

theorem JobTraced.after (h : JobTraced e activeJob) (hasks : AsksForJob e stretch) :
    JobTraced (e.after call stretch) activeJob :=
  ⟨h.1.after hasks, h.2⟩

theorem RequestsTraced.after (h : RequestsTraced e) (hcall : call < e.nextCall)
    (hasks : AsksForJob e stretch)
    (hbegun : ∀ r, stretch.request = some r → r.submission < e.nextCall)
    (hactive : ∀ jobId activeJob, stretch.activeJobs.get? jobId = some activeJob →
      JobTraced e activeJob)
    (hsubmit : ∀ job targetWorker adapter reason,
      stretch.ending = .awaits (.submit job targetWorker adapter reason) →
      Traced (e.after call stretch) call job adapter.backend)
    (hpoint : ∀ point activeJob, stretch.ending = .awaits point →
      callJob? point = some activeJob → JobTraced e activeJob)
    (hfailover : ∀ wait jobId activeJob nextWorker failed,
      stretch.ending = .awaits (.failoverSubmit wait jobId activeJob nextWorker failed) →
      Traced (e.after call stretch) activeJob.submission activeJob.job .external) :
    RequestsTraced (e.after call stretch) where
  callsBegun := by
    intro c point hget
    rcases calls_after hget with ⟨rfl, _⟩ | ⟨_, hold⟩
    · exact hcall
    · exact h.callsBegun c point hold
  requestsBegun := by
    intro r hr
    rcases mem_requests_after.mp hr with hold | hnew
    · exact h.requestsBegun r hold
    · exact hbegun r hnew
  submitting := by
    intro c job targetWorker adapter reason hget
    rcases calls_after hget with ⟨rfl, hending⟩ | ⟨_, hold⟩
    · exact hsubmit job targetWorker adapter reason hending
    · exact (h.submitting c job targetWorker adapter reason hold).after hasks
  active := fun jobId activeJob hget => (hactive jobId activeJob hget).after hasks
  calls := by
    intro c point activeJob hget hjob
    rcases calls_after hget with ⟨rfl, hending⟩ | ⟨_, hold⟩
    · exact (hpoint point activeJob hending hjob).after hasks
    · exact (h.calls c point activeJob hold hjob).after hasks
  failover := by
    intro c wait jobId activeJob nextWorker failed hget
    rcases calls_after hget with ⟨rfl, hending⟩ | ⟨_, hold⟩
    · exact hfailover wait jobId activeJob nextWorker failed hending
    · exact (h.failover c wait jobId activeJob nextWorker failed hold).after hasks

def awaitsSubmission : ExecutorCall → Bool
  | .submit _ _ _ _ => true
  | .failoverSubmit _ _ _ _ _ => true
  | _ => false

/-- A stretch that asks no adapter to take a job. -/
structure AsksNone (e : WorkerExecutor) (stretch : Stretch) : Prop where
  request : stretch.request = none
  active : ∀ jobId activeJob, stretch.activeJobs.get? jobId = some activeJob → JobTraced e activeJob
  point : ∀ point, stretch.ending = .awaits point → awaitsSubmission point = false ∧
    ∀ activeJob, callJob? point = some activeJob → JobTraced e activeJob

theorem AsksNone.requests (h : AsksNone e stretch) :
    (e.after call stretch).requests = e.requests := by
  unfold after
  rw [h.request]
  exact List.append_nil _

theorem AsksNone.requestsTraced (h : AsksNone e stretch) (htraced : RequestsTraced e)
    (hcall : call < e.nextCall) : RequestsTraced (e.after call stretch) := by
  apply htraced.after hcall
  · intro r hr
    rw [h.request] at hr
    cases hr
  · intro r hr
    rw [h.request] at hr
    cases hr
  · exact h.active
  · intro job targetWorker adapter reason hending
    cases (h.point _ hending).1
  · exact fun point activeJob hending hjob => (h.point point hending).2 activeJob hjob
  · intro wait jobId activeJob nextWorker failed hending
    cases (h.point _ hending).1

theorem AsksNone.confined_iff (h : AsksNone e stretch) :
    Confined (e.after call stretch) ↔ Confined e := by
  unfold Confined
  rw [h.requests]
  exact Iff.rfl

end traced

section stretches

variable {e : WorkerExecutor} {call : Nat} {jobId : String} {activeJob : ActiveJob}
  {wait : Option JobWait} {jobs : InsertionMap String ActiveJob}

theorem RequestsTraced.delete (h : RequestsTraced e) (removed : String) :
    ∀ id activeJob, (e.activeJobs.delete removed).get? id = some activeJob → JobTraced e activeJob := by
  intro id activeJob hget
  rw [get?_delete] at hget
  split_ifs at hget
  exact h.active id activeJob hget

theorem asksNone_pollEnds {answer : Except String JobPollResult}
    (hjobs : ∀ id activeJob, jobs.get? id = some activeJob → JobTraced e activeJob) :
    AsksNone e (e.pollEnds jobs wait jobId answer) where
  request := rfl
  active := hjobs
  point := by
    intro point hending
    rcases pollEnds_ending e jobs wait jobId answer with ⟨w, hw⟩ | hw | ⟨_, _, a, hw⟩
    · rw [hw] at hending
      obtain rfl := awaits.inj hending
      exact ⟨rfl, fun activeJob hjob => by cases hjob⟩
    · rw [hw] at hending
      cases hending
    · rw [hw] at hending
      cases hending

variable {now : Timestamp}

theorem asksNone_cancelEnds {answer : Except String CancelResult}
    (hjobs : ∀ id activeJob, jobs.get? id = some activeJob → JobTraced e activeJob) :
    AsksNone e (e.cancelEnds now jobs wait jobId answer) where
  request := rfl
  active := hjobs
  point := by
    intro point hending
    cases wait with
    | none => cases hending
    | some w => cases answer <;> cases hending

theorem asksNone_pollJob (h : RequestsTraced e) : AsksNone e (e.pollJob wait jobId) := by
  unfold pollJob
  cases hget : e.activeJobs.get? jobId with
  | none => exact asksNone_pollEnds h.active
  | some activeJob =>
    refine ⟨rfl, h.active, ?_⟩
    intro point hending
    obtain rfl := awaits.inj hending
    refine ⟨rfl, fun other hjob => ?_⟩
    obtain rfl := Option.some.inj hjob
    exact h.active jobId activeJob hget

theorem asksNone_cancelJob (h : RequestsTraced e) : AsksNone e (e.cancelJob now wait jobId) := by
  unfold cancelJob
  cases hget : e.activeJobs.get? jobId with
  | none => exact asksNone_cancelEnds h.active
  | some activeJob =>
    refine ⟨rfl, h.active, ?_⟩
    intro point hending
    obtain rfl := awaits.inj hending
    exact ⟨rfl, fun other hjob => by cases hjob⟩

theorem asksNone_waitRound (h : RequestsTraced e) {w : JobWait} :
    AsksNone e (e.waitRound now jobId w) := by
  unfold waitRound
  split_ifs
  · exact asksNone_cancelJob h
  · exact asksNone_pollJob h

theorem asksNone_tryFailover (h : RequestsTraced e) (hactiveTraced : JobTraced e activeJob)
    {failed : JobPollResult} : AsksNone e (e.tryFailover wait jobId activeJob failed) := by
  unfold tryFailover
  cases e.failoverTarget activeJob with
  | none => exact asksNone_pollEnds (h.delete jobId)
  | some nextWorker =>
    refine ⟨rfl, h.active, ?_⟩
    intro point hending
    obtain rfl := awaits.inj hending
    refine ⟨rfl, fun other hjob => ?_⟩
    obtain rfl := Option.some.inj hjob
    exact hactiveTraced

theorem asksNone_polled (h : RequestsTraced e) (hactiveTraced : JobTraced e activeJob)
    {answer : Except String JobPollResult} : AsksNone e (e.polled wait jobId activeJob answer) := by
  unfold polled
  cases answer with
  | error error => exact asksNone_pollEnds h.active
  | ok polled =>
    dsimp only
    split_ifs
    · exact asksNone_pollEnds (h.delete jobId)
    · exact asksNone_tryFailover h hactiveTraced
    · exact asksNone_pollEnds (h.delete jobId)
    · exact asksNone_pollEnds h.active

theorem asksNone_failoverSubmitted (h : RequestsTraced e) {nextWorker : WorkerType}
    {failed : JobPollResult} (hactiveTraced : JobTraced e activeJob)
    (hexternal : Traced e activeJob.submission activeJob.job .external)
    {answer : Except String JobSubmissionResult} :
    AsksNone e (e.failoverSubmitted wait jobId activeJob nextWorker failed answer) := by
  unfold failoverSubmitted
  cases answer with
  | error error => exact asksNone_pollEnds h.active
  | ok submission =>
    dsimp only
    cases submission.acceptedId with
    | none =>
      have hnext : JobTraced e { activeJob with workerType := nextWorker } := hactiveTraced
      exact asksNone_tryFailover h hnext
    | some externalJobId =>
      apply asksNone_pollEnds
      intro id other hget
      rw [get?_set] at hget
      split_ifs at hget
      · obtain rfl := Option.some.inj hget
        exact ⟨hexternal, rfl⟩
      · exact h.active id other hget

theorem asksNone_cancelled (h : RequestsTraced e)
    {answer : Except String CancelResult} : AsksNone e (e.cancelled now wait jobId answer) := by
  unfold cancelled
  cases answer with
  | error error => exact asksNone_cancelEnds h.active
  | ok result =>
    dsimp only
    split_ifs
    · exact asksNone_cancelEnds (h.delete jobId)
    · exact asksNone_cancelEnds h.active

theorem asksNone_rejects (h : RequestsTraced e) {answer : Except String JobSubmissionResult} :
    AsksNone e (e.stays (.returns (.submitJob answer))) := by
  refine ⟨rfl, h.active, ?_⟩
  intro point hending
  cases hending

end stretches

section steps

variable {e e' : WorkerExecutor} {step : ExecutorStep} {call : Nat} {stretch : Stretch}
  {carried : Option ActiveJob}

/-- What a stretch asks of the adapters, and the active job that it carries over to another
worker. -/
inductive Asks (e : WorkerExecutor) (call : Nat) : Stretch → Option ActiveJob → Prop
  | nothing {stretch : Stretch} : AsksNone e stretch → Asks e call stretch none
  | primary {job : WorkerJob} {targetWorker : WorkerType} {adapter : AdapterRef}
      {reason : Option String} : (∀ r ∈ e.requests, r.submission ≠ call) →
      Asks e call ⟨e.activeJobs, some ⟨call, .primary, adapter, job⟩, false,
        .awaits (.submit job targetWorker adapter reason)⟩ none
  | fallback {job : WorkerJob} {targetWorker : WorkerType} {reason : Option String} :
      Traced e call job .lmstudio →
      e.config.backendRouter.canFallbackToExternal job.stage = true →
      Asks e call ⟨e.activeJobs, some ⟨call, .fallback, ⟨.external, targetWorker⟩, job⟩, false,
        .awaits (.submit job targetWorker ⟨.external, targetWorker⟩ reason)⟩ none
  | failover {wait : Option JobWait} {jobId : String} {activeJob : ActiveJob}
      {nextWorker : WorkerType} {failed : JobPollResult} : JobTraced e activeJob →
      Asks e call (e.failoverCancelled wait jobId activeJob nextWorker failed) (some activeJob)

theorem traced_submission_begun (h : RequestsTraced e) {submission : Nat} {job : WorkerJob}
    {backend : ExecutionBackend} (htraced : Traced e submission job backend) :
    submission < e.nextCall := by
  obtain ⟨⟨r, hr, rfl, _⟩, _⟩ := htraced
  exact h.requestsBegun r hr

theorem Asks.requestsTraced (h : Asks e call stretch carried) (htraced : RequestsTraced e)
    (hcall : call < e.nextCall) : RequestsTraced (e.after call stretch) := by
  cases h with
  | nothing hnone => exact hnone.requestsTraced htraced hcall
  | @primary job targetWorker adapter reason hfresh =>
    have hasks : AsksForJob e ⟨e.activeJobs, some ⟨call, .primary, adapter, job⟩, false,
        .awaits (.submit job targetWorker adapter reason)⟩ := by
      intro r hr r' hr' hsame
      obtain rfl := Option.some.inj hr
      exact absurd hsame (hfresh r' hr')
    apply htraced.after hcall hasks
    · intro r hr
      obtain rfl := Option.some.inj hr
      exact hcall
    · exact htraced.active
    · intro job' targetWorker' adapter' reason' hending
      cases hending
      exact traced_request hasks rfl fun _ => rfl
    · intro point activeJob hending hjob
      obtain rfl := awaits.inj hending
      cases hjob
    · intro wait jobId activeJob nextWorker failed hending
      cases hending
  | @fallback job targetWorker reason hlocal _ =>
    have hasks : AsksForJob e ⟨e.activeJobs, some ⟨call, .fallback, ⟨.external, targetWorker⟩, job⟩,
        false, .awaits (.submit job targetWorker ⟨.external, targetWorker⟩ reason)⟩ := by
      intro r hr r' hr' hsame
      obtain rfl := Option.some.inj hr
      exact hlocal.2 r' hr' hsame
    apply htraced.after hcall hasks
    · intro r hr
      obtain rfl := Option.some.inj hr
      exact hcall
    · exact htraced.active
    · intro job' targetWorker' adapter' reason' hending
      cases hending
      exact traced_request hasks rfl nofun
    · intro point activeJob hending hjob
      obtain rfl := awaits.inj hending
      cases hjob
    · intro wait jobId activeJob nextWorker failed hending
      cases hending
  | @failover wait jobId activeJob nextWorker failed hactiveTraced =>
    have hasks : AsksForJob e (e.failoverCancelled wait jobId activeJob nextWorker failed) := by
      intro r hr r' hr' hsame
      obtain rfl := Option.some.inj hr
      exact hactiveTraced.1.2 r' hr' hsame
    apply htraced.after hcall hasks
    · intro r hr
      obtain rfl := Option.some.inj hr
      exact traced_submission_begun htraced hactiveTraced.1
    · exact htraced.active
    · intro job targetWorker adapter reason hending
      cases hending
    · intro point other hending hjob
      obtain rfl := awaits.inj hending
      obtain rfl := Option.some.inj hjob
      exact hactiveTraced
    · intro wait' jobId' other nextWorker' failed' hending
      cases hending
      exact traced_request hasks rfl nofun

theorem Asks.confined_iff (h : Asks e call stretch carried) (hconfined : Confined e) :
    Confined (e.after call stretch) ↔ ∀ activeJob, carried = some activeJob →
      activeJob.adapter.backend = .lmstudio →
      e.config.backendRouter.canFallbackToExternal activeJob.job.stage = true := by
  cases h with
  | nothing hnone =>
    rw [hnone.confined_iff]
    exact iff_of_true hconfined fun activeJob hcarried => by cases hcarried
  | @primary job targetWorker adapter reason hfresh =>
    refine iff_of_true ?_ fun activeJob hcarried => by cases hcarried
    intro r hr hpath hlocal hnever r' hr' hsame
    rcases mem_requests_after.mp hr with hold | hnew
    · rcases mem_requests_after.mp hr' with hold' | hnew'
      · exact hconfined r hold hpath hlocal hnever r' hold' hsame
      · obtain rfl := Option.some.inj hnew'
        exact absurd hsame.symm (hfresh r hold)
    · obtain rfl := Option.some.inj hnew
      rcases mem_requests_after.mp hr' with hold' | hnew'
      · exact absurd hsame (hfresh r' hold')
      · obtain rfl := Option.some.inj hnew'
        exact hlocal
  | @fallback job targetWorker reason htraced hfallback =>
    refine iff_of_true ?_ fun activeJob hcarried => by cases hcarried
    intro r hr hpath hlocal hnever r' hr' hsame
    rcases mem_requests_after.mp hr with hold | hnew
    · rcases mem_requests_after.mp hr' with hold' | hnew'
      · exact hconfined r hold hpath hlocal hnever r' hold' hsame
      · obtain rfl := Option.some.inj hnew'
        rw [htraced.2 r hold hsame.symm] at hnever
        exact absurd (hfallback.symm.trans hnever) nofun
    · obtain rfl := Option.some.inj hnew
      cases hpath
  | @failover wait jobId activeJob nextWorker failed hactiveTraced =>
    obtain ⟨⟨⟨asked, hasked, hsubmission, hbackend, hprimary⟩, hjob⟩, _⟩ := hactiveTraced
    constructor
    · intro hafter other hcarried hlocal
      obtain rfl := Option.some.inj hcarried
      by_contra hnever
      rw [Bool.not_eq_true, ← hjob asked hasked hsubmission] at hnever
      have hexternal := hafter asked (mem_requests_after.mpr (Or.inl hasked)) (hprimary hlocal)
        (hbackend.trans hlocal) hnever _ (mem_requests_after.mpr (Or.inr rfl)) hsubmission.symm
      cases hexternal
    · intro hkeeps r hr hpath hlocal hnever r' hr' hsame
      rcases mem_requests_after.mp hr with hold | hnew
      · rcases mem_requests_after.mp hr' with hold' | hnew'
        · exact hconfined r hold hpath hlocal hnever r' hold' hsame
        · obtain rfl := Option.some.inj hnew'
          have hexternal : asked.adapter.backend = .lmstudio :=
            hconfined r hold hpath hlocal hnever asked hasked (hsubmission.trans hsame)
          have hfallback := hkeeps activeJob rfl (hbackend.symm.trans hexternal)
          rw [hjob r hold hsame.symm] at hnever
          exact absurd (hfallback.symm.trans hnever) nofun
      · obtain rfl := Option.some.inj hnew
        cases hpath

theorem requestsTraced_begun (h : RequestsTraced e) :
    RequestsTraced { e with nextCall := e.nextCall + 1 } where
  callsBegun := fun call point hget => Nat.lt_succ_of_lt (h.callsBegun call point hget)
  requestsBegun := fun r hr => Nat.lt_succ_of_lt (h.requestsBegun r hr)
  submitting := h.submitting
  active := h.active
  calls := h.calls
  failover := h.failover

theorem requestsTraced_empty (config : WorkerExecutorConfig) (adapters : List AdapterRef) :
    RequestsTraced (.empty config adapters) := by
  constructor
  · intro call point hget
    cases hget
  · intro r hr
    cases hr
  · intro call job targetWorker adapter reason hget
    cases hget
  · intro jobId activeJob hget
    cases hget
  · intro call point activeJob hget
    cases hget
  · intro call wait jobId activeJob nextWorker failed hget
    cases hget

theorem asks_submitJob (h : RequestsTraced e) (hfresh : ∀ r ∈ e.requests, r.submission ≠ call)
    (job : WorkerJob) (workerType : Option WorkerType) :
    Asks e call (e.submitJob call job workerType) none := by
  unfold submitJob
  dsimp only
  split
  · exact .nothing (asksNone_rejects h)
  · split_ifs
    · exact .primary hfresh
    · exact .nothing (asksNone_rejects h)

theorem asks_submitted (h : RequestsTraced e) {job : WorkerJob} {targetWorker : WorkerType}
    {adapter : AdapterRef} {reason : Option String} {now : Timestamp}
    (htraced : Traced e call job adapter.backend) (answer : Except String JobSubmissionResult) :
    Asks e call (e.submitted now call job targetWorker adapter reason answer) none := by
  unfold submitted
  cases answer with
  | error error => exact .nothing (asksNone_rejects h)
  | ok result =>
    dsimp only
    split_ifs with hfallback
    · obtain ⟨_, hlocal, hstage, _⟩ := hfallback
      rw [hlocal] at htraced
      exact .fallback htraced hstage
    · split
      · refine .nothing ⟨rfl, ?_, ?_⟩
        · intro id other hget
          rw [get?_set] at hget
          split_ifs at hget
          · obtain rfl := Option.some.inj hget
            exact ⟨htraced, rfl⟩
          · exact h.active id other hget
        · intro point hending
          cases hending
      · exact .nothing (asksNone_rejects h)

theorem asks_resume (h : RequestsTraced e) {now : Timestamp} {point : ExecutorCall}
    {answer : AwaitedAnswer} (hpoint : e.calls.get? call = some point)
    (hresume : e.resume now call point answer = some stretch) :
    ∃ carried, Asks e call stretch carried ∧ ∀ activeJob, carried = some activeJob ↔
      ∃ wait jobId nextWorker failed,
        point = .failoverCancel wait jobId activeJob nextWorker failed := by
  cases resumes_of_resume hresume with
  | @submit job targetWorker adapter reason answer =>
    exact ⟨none, asks_submitted h (h.submitting call job targetWorker adapter reason hpoint) answer,
      fun activeJob => by simp⟩
  | @poll _ _ activeJob _ =>
    exact ⟨none, .nothing (asksNone_polled h (h.calls call _ activeJob hpoint rfl)),
      fun activeJob => by simp⟩
  | @failoverCancel _ _ activeJob _ _ _ =>
    exact ⟨some activeJob, .failover (h.calls call _ activeJob hpoint rfl),
      fun other => by simp⟩
  | @failoverSubmit wait jobId activeJob nextWorker failed _ =>
    exact ⟨none, .nothing (asksNone_failoverSubmitted h (h.calls call _ activeJob hpoint rfl)
      (h.failover call wait jobId activeJob nextWorker failed hpoint)), fun activeJob => by simp⟩
  | @cancel _ _ activeJob _ =>
    exact ⟨none, .nothing (asksNone_cancelled h), fun activeJob => by simp⟩
  | sleep =>
    exact ⟨none, .nothing (asksNone_waitRound h), fun activeJob => by simp⟩

theorem asks_begins (h : RequestsTraced e) (hbegins : WorkerExecutor.Begins e step stretch) :
    Asks { e with nextCall := e.nextCall + 1 } e.nextCall stretch none := by
  have hbegun := requestsTraced_begun h
  cases hbegins with
  | submitJob _ =>
    exact asks_submitJob hbegun (fun r hr => Nat.ne_of_lt (h.requestsBegun r hr)) _ _
  | @pollJob jobId _ =>
    have hnone : AsksNone { e with nextCall := e.nextCall + 1 }
        (pollJob { e with nextCall := e.nextCall + 1 } none jobId) :=
      asksNone_pollJob hbegun
    exact .nothing hnone
  | @cancelJob jobId _ =>
    have hnone : AsksNone { e with nextCall := e.nextCall + 1 }
        (cancelJob { e with nextCall := e.nextCall + 1 } step.now none jobId) :=
      asksNone_cancelJob hbegun
    exact .nothing hnone
  | @waitForJob jobId timeoutMs _ =>
    have hnone : AsksNone { e with nextCall := e.nextCall + 1 }
        (waitForJob { e with nextCall := e.nextCall + 1 } step.now jobId timeoutMs) :=
      asksNone_waitRound hbegun
    exact .nothing hnone

theorem traced_next (h : RequestsTraced e) (hstep : e.next step = some e') :
    RequestsTraced e' ∧ (Confined e → (Confined e' ↔ KeepsBackend e step)) := by
  rcases next_eq_some hstep with ⟨stretch, hbegins, rfl⟩ |
    ⟨call, answer, point, stretch, hop, hpoint, hresume, rfl⟩
  · have hasks := asks_begins h hbegins
    refine ⟨hasks.requestsTraced (requestsTraced_begun h) (Nat.lt_succ_self _), fun hconfined => ?_⟩
    have hconfined₀ : Confined { e with nextCall := e.nextCall + 1 } := hconfined
    refine (hasks.confined_iff hconfined₀).trans (iff_of_true (fun activeJob hcarried => ?_) ?_)
    · cases hcarried
    · intro call answer wait jobId activeJob nextWorker failed hop
      exact absurd hop (hbegins.op_ne call answer)
  · obtain ⟨carried, hasks, hcarried⟩ := asks_resume h hpoint hresume
    refine ⟨hasks.requestsTraced h (h.callsBegun call point hpoint), fun hconfined => ?_⟩
    refine (hasks.confined_iff hconfined).trans ⟨fun hkeeps => ?_, fun hkeeps activeJob hactive => ?_⟩
    · intro call' answer' wait jobId activeJob nextWorker failed hop' hpoint'
      cases hop.symm.trans hop'
      obtain rfl := Option.some.inj (hpoint.symm.trans hpoint')
      exact hkeeps activeJob ((hcarried activeJob).mpr ⟨wait, jobId, nextWorker, failed, rfl⟩)
    · obtain ⟨wait, jobId, nextWorker, failed, rfl⟩ := (hcarried activeJob).mp hactive
      exact hkeeps call answer wait jobId activeJob nextWorker failed hop hpoint

end steps

section reports

variable {e : WorkerExecutor} {h : History WorkerExecutor ExecutorStep} {jobId : String}
  {wait : Option JobWait} {jobs : InsertionMap String ActiveJob}

def Polled (h : History WorkerExecutor ExecutorStep) (jobId : String) (polled : JobPollResult) :
    Prop :=
  ∀ result, polled.result = some result → Produced h jobId result

def failedPoll? : ExecutorCall → Option (String × JobPollResult)
  | .failoverCancel _ jobId _ _ failed => some (jobId, failed)
  | .failoverSubmit _ jobId _ _ failed => some (jobId, failed)
  | _ => none

def EndsReported (h : History WorkerExecutor ExecutorStep) : StretchEnd → Prop
  | .returns answer => Reports h answer
  | .awaits point => ∀ jobId failed, failedPoll? point = some (jobId, failed) → Polled h jobId failed

theorem Submitted.append {response : JobSubmissionResult} (hsubmitted : Submitted h response)
    (later : History WorkerExecutor ExecutorStep) : Submitted (h ++ later) response := by
  obtain ⟨p, hp, hof⟩ := hsubmitted
  exact ⟨p, List.mem_append_left _ hp, hof⟩

theorem Produced.append {result : BackendResult} (hproduced : Produced h jobId result)
    (later : History WorkerExecutor ExecutorStep) : Produced (h ++ later) jobId result := by
  obtain ⟨p, hp, hof⟩ := hproduced
  exact ⟨p, List.mem_append_left _ hp, hof⟩

theorem Reports.append {answer : ExecutorReturn} (hreports : Reports h answer)
    (later : History WorkerExecutor ExecutorStep) : Reports (h ++ later) answer := by
  cases answer with
  | submitJob answer =>
    cases answer with
    | error error => trivial
    | ok response => exact Submitted.append hreports later
  | pollJob jobId answer =>
    cases answer with
    | error error => trivial
    | ok polled => exact fun result hresult => (hreports result hresult).append later
  | cancelJob jobId answer => trivial
  | waitForJob jobId accepted answer =>
    cases answer with
    | error error => trivial
    | ok result => exact Produced.append hreports later

theorem endsReported_pollEnds {answer : Except String JobPollResult}
    (hpolled : ∀ polled, answer = .ok polled → Polled h jobId polled) :
    EndsReported h (e.pollEnds jobs wait jobId answer).ending := by
  cases wait with
  | none =>
    cases answer with
    | error error => trivial
    | ok polled => exact hpolled polled rfl
  | some w =>
    cases answer with
    | error error => trivial
    | ok polled =>
      have hresult := hpolled polled rfl
      obtain ⟨externalJobId, status, progress, result, error⟩ := polled
      have hsleeps : EndsReported h (.awaits (.sleep jobId w)) := fun _ _ hfailed => by cases hfailed
      cases status with
      | queued => exact hsleeps
      | running => exact hsleeps
      | blocked => exact hsleeps
      | failed => trivial
      | cancelled => trivial
      | succeeded =>
        cases result with
        | none => exact hsleeps
        | some result => exact hresult result rfl

theorem endsReported_pollJob : EndsReported h (e.pollJob wait jobId).ending := by
  unfold pollJob
  cases e.activeJobs.get? jobId with
  | none =>
    apply endsReported_pollEnds
    intro polled hanswer result hresult
    obtain rfl := Except.ok.inj hanswer
    cases hresult
  | some activeJob => exact fun _ _ hfailed => by cases hfailed

theorem endsReported_cancelEnds {now : Timestamp} {answer : Except String CancelResult} :
    EndsReported h (e.cancelEnds now jobs wait jobId answer).ending := by
  cases wait with
  | none => trivial
  | some w => cases answer <;> trivial

theorem endsReported_cancelJob {now : Timestamp} :
    EndsReported h (e.cancelJob now wait jobId).ending := by
  unfold cancelJob
  cases e.activeJobs.get? jobId with
  | none => exact endsReported_cancelEnds
  | some activeJob => exact fun _ _ hfailed => by cases hfailed

theorem endsReported_waitRound {now : Timestamp} {w : JobWait} :
    EndsReported h (e.waitRound now jobId w).ending := by
  unfold waitRound
  split_ifs
  · exact endsReported_cancelJob
  · exact endsReported_pollJob

theorem endsReported_tryFailover {activeJob : ActiveJob} {failed : JobPollResult}
    (hpolled : Polled h jobId failed) :
    EndsReported h (e.tryFailover wait jobId activeJob failed).ending := by
  unfold tryFailover
  cases e.failoverTarget activeJob with
  | none =>
    apply endsReported_pollEnds
    intro polled hanswer
    obtain rfl := Except.ok.inj hanswer
    exact hpolled
  | some nextWorker =>
    intro id polled hfailed
    cases hfailed
    exact hpolled

theorem endsReported_polled {activeJob : ActiveJob} {answer : Except String JobPollResult}
    (hpolled : ∀ polled, answer = .ok polled → Polled h jobId (stamped activeJob polled)) :
    EndsReported h (e.polled wait jobId activeJob answer).ending := by
  unfold polled
  cases answer with
  | error error => exact endsReported_pollEnds fun polled hanswer => by cases hanswer
  | ok polled =>
    have hstamped := hpolled polled rfl
    have hends : ∀ jobs : InsertionMap String ActiveJob, EndsReported h
        (e.pollEnds jobs wait jobId (.ok (stamped activeJob polled))).ending := by
      intro jobs
      apply endsReported_pollEnds
      intro other hanswer
      obtain rfl := Except.ok.inj hanswer
      exact hstamped
    dsimp only
    split_ifs
    · exact hends _
    · exact endsReported_tryFailover hstamped
    · exact hends _
    · exact hends _

theorem endsReported_failoverSubmitted {activeJob : ActiveJob} {nextWorker : WorkerType}
    {failed : JobPollResult} (hpolled : Polled h jobId failed)
    {answer : Except String JobSubmissionResult} :
    EndsReported h (e.failoverSubmitted wait jobId activeJob nextWorker failed answer).ending := by
  unfold failoverSubmitted
  cases answer with
  | error error => exact endsReported_pollEnds fun polled hanswer => by cases hanswer
  | ok submission =>
    dsimp only
    cases submission.acceptedId with
    | none => exact endsReported_tryFailover hpolled
    | some externalJobId =>
      apply endsReported_pollEnds
      intro polled hanswer result hresult
      obtain rfl := Except.ok.inj hanswer
      cases hresult

theorem endsReported_cancelled {now : Timestamp} {answer : Except String CancelResult} :
    EndsReported h (e.cancelled now wait jobId answer).ending := by
  unfold cancelled
  cases answer with
  | error error => exact endsReported_cancelEnds
  | ok result =>
    dsimp only
    split_ifs
    · exact endsReported_cancelEnds
    · exact endsReported_cancelEnds

/-- What calls have returned is reported, and so are the failed polls of failovers under way. -/
structure ReportsKept (h : History WorkerExecutor ExecutorStep) (e : WorkerExecutor) : Prop where
  returned : ∀ answer ∈ e.returned, Reports h answer
  calls : ∀ call point jobId failed, e.calls.get? call = some point →
    failedPoll? point = some (jobId, failed) → Polled h jobId failed

theorem ReportsKept.append (hkept : ReportsKept h e) (later : History WorkerExecutor ExecutorStep) :
    ReportsKept (h ++ later) e where
  returned := fun answer hmem => (hkept.returned answer hmem).append later
  calls := fun call point id failed hget hfailed result hresult =>
    (hkept.calls call point id failed hget hfailed result hresult).append later

theorem ReportsKept.after (hkept : ReportsKept h e) {call : Nat} {stretch : Stretch}
    (hends : EndsReported h stretch.ending) : ReportsKept h (e.after call stretch) where
  returned := by
    intro answer hmem
    rcases mem_returned_after hmem with hold | hending
    · exact hkept.returned answer hold
    · rw [hending] at hends
      exact hends
  calls := by
    intro c point id failed hget hfailed
    rcases calls_after hget with ⟨_, hending⟩ | ⟨_, hold⟩
    · rw [hending] at hends
      exact hends id failed hfailed
    · exact hkept.calls c point id failed hold hfailed

theorem endsReported_submitJob {job : WorkerJob} {workerType : Option WorkerType} {call : Nat}
    (hsubmitted : ∀ response, (e.submitJob call job workerType).ending =
      .returns (.submitJob (.ok response)) → Submitted h response) :
    EndsReported h (e.submitJob call job workerType).ending := by
  unfold submitJob at hsubmitted ⊢
  dsimp only at hsubmitted ⊢
  split at hsubmitted
  · exact hsubmitted _ rfl
  · split_ifs at hsubmitted ⊢
    · exact fun _ _ hfailed => by cases hfailed
    · exact hsubmitted _ rfl

theorem endsReported_submitted {job : WorkerJob} {targetWorker : WorkerType} {adapter : AdapterRef}
    {reason : Option String} {now : Timestamp} {call : Nat}
    {answer : Except String JobSubmissionResult}
    (hsubmitted : ∀ result fallbackReason, answer = .ok result → Submitted h { result with
      executionBackend := some adapter.backend, fallbackReason }) :
    EndsReported h (e.submitted now call job targetWorker adapter reason answer).ending := by
  unfold submitted
  cases answer with
  | error error => trivial
  | ok result =>
    dsimp only
    split_ifs
    · exact fun _ _ hfailed => by cases hfailed
    · split
      · exact hsubmitted result _ rfl
      · exact hsubmitted result _ rfl

variable {e' : WorkerExecutor} {step : ExecutorStep}

theorem reportsKept_next (hkept : ReportsKept h e) (htraced : RequestsTraced e)
    (hstep : e.next step = some e') : ReportsKept (h ++ [(e, step)]) e' := by
  have hbefore := hkept.append [(e, step)]
  have hlast : (e, step) ∈ h ++ [(e, step)] := List.mem_append_right _ List.mem_cons_self
  rcases next_eq_some hstep with ⟨stretch, hbegins, rfl⟩ |
    ⟨call, answer, point, stretch, hop, hpoint, hresume, rfl⟩
  · have hends : EndsReported (h ++ [(e, step)]) stretch.ending := by
      cases hbegins with
      | submitJob hop =>
        exact endsReported_submitJob fun response hending =>
          ⟨_, hlast, Or.inr ⟨_, _, hop, hending⟩⟩
      | pollJob _ => exact endsReported_pollJob
      | cancelJob _ => exact endsReported_cancelJob
      | waitForJob _ => exact endsReported_waitRound
    have hafter : ReportsKept (h ++ [(e, step)]) (e.after e.nextCall stretch) := hbefore.after hends
    exact ⟨hafter.returned, hafter.calls⟩
  · apply hbefore.after
    cases resumes_of_resume hresume with
    | @submit job targetWorker adapter reason _ =>
      apply endsReported_submitted
      rintro result fallbackReason rfl
      exact ⟨_, hlast, Or.inl ⟨call, job, targetWorker, adapter, reason, result, hop, hpoint, rfl⟩⟩
    | @poll wait _ activeJob _ =>
      apply endsReported_polled
      rintro polled rfl result hresult
      obtain ⟨produced, hproduced, rfl⟩ := Option.map_eq_some_iff.mp hresult
      have hbackend := (htraced.calls call _ activeJob hpoint rfl).2
      refine ⟨_, hlast, call, wait, activeJob, polled, produced, hop, hpoint, hproduced, ?_⟩
      rw [hbackend]
    | @failoverCancel _ jobId _ _ failed _ =>
      intro id polled hfailed
      cases hfailed
      exact hbefore.calls call _ jobId failed hpoint rfl
    | @failoverSubmit _ jobId _ _ failed _ =>
      exact endsReported_failoverSubmitted (hbefore.calls call _ jobId failed hpoint rfl)
    | cancel =>
      exact endsReported_cancelled
    | sleep =>
      exact endsReported_waitRound

end reports

section runs

variable {h : History WorkerExecutor ExecutorStep} {e : WorkerExecutor}

theorem reports_of_run (hrun : executorRuns.Run h e) : ∀ answer ∈ e.returned, Reports h answer := by
  have hboth : ReportsKept h e ∧ RequestsTraced e := by
    refine hrun.invariant (C := fun _ _ => True) (I := fun h e => ReportsKept h e ∧ RequestsTraced e)
      ?_ ?_ fun _ _ => trivial
    · rintro s ⟨config, adapters, rfl⟩
      constructor
      · constructor
        · intro answer hmem
          cases hmem
        · intro call point id failed hget
          cases hget
      · exact requestsTraced_empty config adapters
    · intro h s step s' _ _ hkept _ hstep
      exact ⟨reportsKept_next hkept.1 hkept.2 hstep, (traced_next hkept.2 hstep).1⟩
  exact hboth.1.returned

/-- In every run, what is reported names the backend that it comes from; and submissions stay in the
backend that they were routed to exactly when no step carries one over from LM Studio. -/
theorem localConfinement_iff (hrun : executorRuns.Run h e) :
    LocalConfinement h e ↔ Machine.Steps KeepsBackend h := by
  have hconfined : (∀ s ∈ states h e, Confined s) ↔ Machine.Steps KeepsBackend h := by
    refine hrun.forall_states_iff (I := fun s => RequestsTraced s ∧ Confined s) ?_ ?_ ?_ ?_
    · rintro s ⟨config, adapters, rfl⟩
      refine ⟨requestsTraced_empty config adapters, fun r hr => ?_⟩
      cases hr
    · exact fun s hboth => hboth.2
    · intro h s step s' _ hboth hkeeps hstep
      obtain ⟨htraced, hiff⟩ := traced_next hboth.1 hstep
      exact ⟨htraced, (hiff hboth.2).mpr hkeeps⟩
    · intro h s step s' _ hboth hstep hafter
      exact ((traced_next hboth.1 hstep).2 hboth.2).mp hafter
  rw [← hconfined]
  exact ⟨fun hkept => hkept.confined, fun hall => ⟨hall, reports_of_run hrun⟩⟩

end runs

section replay

def localPlans (adapters : List AdapterRef) : WorkerExecutor :=
  .empty ⟨true, ⟨true, [.codex], [.plan], .medium, []⟩⟩ adapters

theorem exists_localRun {adapters : List AdapterRef} {ops : List ExecutorOp}
    {test : History WorkerExecutor ExecutorStep × WorkerExecutor → Bool}
    (h : (replay next (localPlans adapters) (ops.map fun op _ => some ⟨0, op⟩)).any test = true) :
    ∃ h e, executorRuns.Run h e ∧ test (h, e) = true :=
  exists_run_of_replay ⟨_, _, rfl⟩ h

/-- Checks that no failover is carried out. -/
def carriesNone (e : WorkerExecutor) (step : ExecutorStep) : Bool :=
  match step.op with
  | .resume call _ =>
    match e.calls.get? call with
    | some (.failoverCancel _ _ _ _ _) => false
    | _ => true
  | _ => true

theorem keepsBackend_of_carriesNone {e : WorkerExecutor} {step : ExecutorStep}
    (h : carriesNone e step = true) : KeepsBackend e step := by
  intro call answer wait jobId activeJob nextWorker failed hop hpoint
  unfold carriesNone at h
  rw [hop] at h
  dsimp only at h
  rw [hpoint] at h
  cases h

/-- A plan fails in LM Studio, and there is no worker to fail over to. -/
theorem plan_stays_local : ∃ h e, executorRuns.Run h e ∧
    e.requests = [⟨0, .primary, ⟨.lmstudio, .codex⟩, planJob⟩] ∧ LocalConfinement h e := by
  have hplayed : (replay next (localPlans [⟨.lmstudio, .codex⟩])
      ([.submitJob planJob none, .resume 0 (takes "a"), .pollJob "job",
        .resume 1 (polls .failed)].map fun op _ => some ⟨0, op⟩)).any
      (fun p => p.1.all (fun q => carriesNone q.1 q.2) &&
        decide (p.2.requests = [⟨0, .primary, ⟨.lmstudio, .codex⟩, planJob⟩])) = true := by
    decide +kernel
  obtain ⟨h, e, hrun, htest⟩ := exists_localRun hplayed
  obtain ⟨hnone, hrequests⟩ := Bool.and_eq_true_iff.mp htest
  have hsteps : Machine.Steps KeepsBackend h := fun q hq =>
    keepsBackend_of_carriesNone (List.all_eq_true.mp hnone q hq)
  exact ⟨h, e, hrun, of_decide_eq_true hrequests, (localConfinement_iff hrun).mpr hsteps⟩

/-- A plan that fails in LM Studio fails over to an external adapter. -/
theorem plan_fails_over_outside : ¬∀ h e, executorRuns.Run h e → LocalConfinement h e := by
  intro hall
  have hplayed : (replay next (localPlans [⟨.lmstudio, .codex⟩, ⟨.external, .claudeCode⟩])
      ([.submitJob planJob none, .resume 0 (takes "a"), .pollJob "job", .resume 1 (polls .failed),
        .resume 1 (.cancellation (.error "gone"))].map fun op _ => some ⟨0, op⟩)).any
      (fun p => decide (p.2.requests = [⟨0, .primary, ⟨.lmstudio, .codex⟩, planJob⟩,
          ⟨0, .failover, ⟨.external, .claudeCode⟩, planJob⟩] ∧
        p.2.config.backendRouter.canFallbackToExternal .plan = false)) = true := by
    decide +kernel
  obtain ⟨h, e, hrun, htest⟩ := exists_localRun hplayed
  obtain ⟨hrequests, hnever⟩ := of_decide_eq_true htest
  have hconfined : Confined e := (hall h e hrun).confined e (by simp [states])
  unfold Confined at hconfined
  rw [hrequests] at hconfined
  have hlocal := hconfined _ List.mem_cons_self rfl rfl hnever
    ⟨0, .failover, ⟨.external, .claudeCode⟩, planJob⟩ (by simp) rfl
  cases hlocal

end replay

end ShipyardCp.Properties
