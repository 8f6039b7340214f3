import ShipyardCp.Domain.RuntimeBridge
import ShipyardCp.Domain.WorkerPolicy

/-! The executor that gives jobs to the adapters of workers, polls and cancels them, and fails over to
another worker. A call is known by its number; between two of its awaits it runs undisturbed. -/

namespace ShipyardCp.Domain

open Types Lib

structure BackendRouterConfig where
  enabled : Bool
  routeWorkers : List WorkerType
  allowedStages : List WorkerStage
  maxRisk : RiskLevel
  fallbackStages : List WorkerStage

structure BackendRoute where
  executionBackend : ExecutionBackend
  fallbackReason : Option String := none
  blockedReason : Option String := none

def riskRank : RiskLevel → Nat
  | .low => 0
  | .medium => 1
  | .high => 2

namespace BackendRouterConfig

variable (config : BackendRouterConfig)

def canFallbackToExternal (stage : WorkerStage) : Bool := stage ∈ config.fallbackStages

def route (job : WorkerJob) (workerType : WorkerType) (hasAdapter : ExecutionBackend → Bool) :
    BackendRoute :=
  let eligible := workerType ∈ config.routeWorkers ∧ job.stage ∈ config.allowedStages ∧
    riskRank job.riskLevel ≤ riskRank config.maxRisk
  if !config.enabled ∨ ¬eligible then { executionBackend := .external }
  else if hasAdapter .lmstudio then { executionBackend := .lmstudio }
  else if job.stage ∈ config.fallbackStages ∧ hasAdapter .external then
    { executionBackend := .external, fallbackReason := some "lmstudio_adapter_unavailable" }
  else
    { executionBackend := .lmstudio
      blockedReason := some "WORKER_BACKEND_UNAVAILABLE: LM Studio adapter is unavailable" }

end BackendRouterConfig

/-- A registered adapter. -/
structure AdapterRef where
  backend : ExecutionBackend
  workerType : WorkerType
  deriving DecidableEq

inductive SubmissionStatus where
  | queued | running | failed | rejected
  deriving DecidableEq

structure JobSubmissionResult where
  success : Bool
  externalJobId : Option String := none
  status : SubmissionStatus
  error : Option String := none
  executionBackend : Option ExecutionBackend := none
  fallbackReason : Option String := none
  deriving DecidableEq

/-- The result of a worker, with the backend that it is said to come from. -/
structure BackendResult where
  result : WorkerResult
  executionBackend : Option ExecutionBackend := none
  deriving DecidableEq

structure JobPollResult where
  externalJobId : String
  status : PollStatus
  progress : Option Nat := none
  result : Option BackendResult := none
  error : Option String := none
  deriving DecidableEq

inductive CancelStatus where
  | cancelled | alreadyCompleted | notFound | failed
  deriving DecidableEq

structure CancelResult where
  success : Bool
  status : CancelStatus
  error : Option String := none
  deriving DecidableEq

/-- An active job; `submission` is the number of the `submitJob` call that it goes back to. -/
structure ActiveJob where
  job : WorkerJob
  externalJobId : String
  workerType : WorkerType
  submittedAt : Timestamp
  failoverCount : Nat
  adapter : AdapterRef
  executionBackend : ExecutionBackend
  submission : Nat
  deriving DecidableEq

/-- A `waitForJob` call: when it began, and after what time it gives up. -/
structure JobWait where
  startTime : Timestamp
  timeout : Nat

/-- Where a call awaits. A poll or a cancellation is a call of its own or part of a wait. -/
inductive ExecutorCall where
  | submit (job : WorkerJob) (targetWorker : WorkerType) (adapter : AdapterRef)
      (fallbackReason : Option String)
  | poll (wait : Option JobWait) (jobId : String) (activeJob : ActiveJob)
  | failoverCancel (wait : Option JobWait) (jobId : String) (activeJob : ActiveJob)
      (nextWorker : WorkerType) (failed : JobPollResult)
  | failoverSubmit (wait : Option JobWait) (jobId : String) (activeJob : ActiveJob)
      (nextWorker : WorkerType) (failed : JobPollResult)
  | cancel (wait : Option JobWait) (jobId : String) (activeJob : ActiveJob)
  | sleep (jobId : String) (wait : JobWait)

/-- What a call returns or throws. A wait that ends also notes the submissions accepted by then. -/
inductive ExecutorReturn where
  | submitJob (answer : Except String JobSubmissionResult)
  | pollJob (jobId : String) (answer : Except String JobPollResult)
  | cancelJob (jobId : String) (answer : Except String CancelResult)
  | waitForJob (jobId : String) (accepted : List Nat) (answer : Except String BackendResult)
  deriving DecidableEq

inductive SubmissionPath where
  | primary | fallback | failover
  deriving DecidableEq

/-- A job given to an adapter, on behalf of a submission. -/
structure AdapterRequest where
  submission : Nat
  path : SubmissionPath
  adapter : AdapterRef
  job : WorkerJob
  deriving DecidableEq

structure WorkerExecutorConfig where
  enableFailover : Bool
  backendRouter : BackendRouterConfig

def JOB_TIMEOUT_MS : Nat := 600000

/-- The executor, with the calls under way, the submissions accepted and the jobs given to adapters
so far, and what calls have returned. -/
structure WorkerExecutor where
  config : WorkerExecutorConfig
  adapters : List AdapterRef
  activeJobs : InsertionMap String ActiveJob
  calls : InsertionMap Nat ExecutorCall
  nextCall : Nat
  accepted : List Nat
  requests : List AdapterRequest
  returned : List ExecutorReturn

/-- Where a stretch of a call ends. -/
inductive StretchEnd where
  | awaits (call : ExecutorCall)
  | returns (answer : ExecutorReturn)

/-- What a call does between two awaits: the active jobs it leaves, the job it gives to an adapter,
and whether its submission is accepted. -/
structure Stretch where
  activeJobs : InsertionMap String ActiveJob
  request : Option AdapterRequest := none
  accepts : Bool := false
  ending : StretchEnd

def JobSubmissionResult.acceptedId (submission : JobSubmissionResult) : Option String :=
  submission.externalJobId.filter fun id => submission.success && id ≠ ""

namespace WorkerExecutor

def empty (config : WorkerExecutorConfig) (adapters : List AdapterRef) : WorkerExecutor where
  config := config
  adapters := adapters
  activeJobs := .empty
  calls := .empty
  nextCall := 0
  accepted := []
  requests := []
  returned := []

variable (e : WorkerExecutor)

def hasAdapter (workerType : WorkerType) (backend : ExecutionBackend) : Bool :=
  (⟨backend, workerType⟩ : AdapterRef) ∈ e.adapters

def stays (ending : StretchEnd) : Stretch := { activeJobs := e.activeJobs, ending }

/-- `pollJob` has answered: the caller has it, or the wait that it is part of goes on or ends. -/
def pollEnds (activeJobs : InsertionMap String ActiveJob) (wait : Option JobWait) (jobId : String)
    (answer : Except String JobPollResult) : Stretch :=
  let returns := fun answer => StretchEnd.returns (.waitForJob jobId e.accepted answer)
  { activeJobs
    ending :=
      match wait, answer with
      | none, answer => .returns (.pollJob jobId answer)
      | some _, .error error => returns (.error error)
      | some wait, .ok polled =>
        match polled.status, polled.result with
        | .succeeded, some result => returns (.ok result)
        | .failed, _ => returns (.error (polled.error.getD s!"Job {jobId} failed"))
        | .cancelled, _ => returns (.error s!"Job {jobId} was cancelled")
        | _, _ => .awaits (.sleep jobId wait) }

def pollJob (wait : Option JobWait) (jobId : String) : Stretch :=
  match e.activeJobs.get? jobId with
  | none => e.pollEnds e.activeJobs wait jobId
      (.ok { externalJobId := jobId, status := .failed, error := some "Job not found in active jobs" })
  | some activeJob => e.stays (.awaits (.poll wait jobId activeJob))

def failoverTarget (activeJob : ActiveJob) : Option WorkerType :=
  (getFailoverWorker activeJob.job.stage activeJob.workerType).filter fun workerType =>
    e.hasAdapter workerType .external

/-- `tryFailover` up to the cancellation of the current job, or the end of the failed poll. -/
def tryFailover (wait : Option JobWait) (jobId : String) (activeJob : ActiveJob)
    (failed : JobPollResult) : Stretch :=
  match e.failoverTarget activeJob with
  | none => e.pollEnds (e.activeJobs.delete jobId) wait jobId (.ok failed)
  | some nextWorker => e.stays (.awaits (.failoverCancel wait jobId activeJob nextWorker failed))

def stamped (activeJob : ActiveJob) (polled : JobPollResult) : JobPollResult :=
  { polled with result := polled.result.map fun result =>
      { result with executionBackend := some activeJob.executionBackend } }

/-- The rest of `pollJob` when the adapter has answered. -/
def polled (wait : Option JobWait) (jobId : String) (activeJob : ActiveJob)
    (answer : Except String JobPollResult) : Stretch :=
  match answer with
  | .error error => e.pollEnds e.activeJobs wait jobId (.error error)
  | .ok polled =>
    let result := stamped activeJob polled
    if result.status = .succeeded ∧ result.result.isSome then
      e.pollEnds (e.activeJobs.delete jobId) wait jobId (.ok result)
    else if result.status = .failed then
      if e.config.enableFailover && canFailover activeJob.job.stage then
        e.tryFailover wait jobId activeJob result
      else e.pollEnds (e.activeJobs.delete jobId) wait jobId (.ok result)
    else e.pollEnds e.activeJobs wait jobId (.ok result)

/-- `tryFailover` when the current job is cancelled, or could not be. -/
def failoverCancelled (wait : Option JobWait) (jobId : String) (activeJob : ActiveJob)
    (nextWorker : WorkerType) (failed : JobPollResult) : Stretch :=
  { activeJobs := e.activeJobs
    request := some { submission := activeJob.submission, path := .failover,
                      adapter := ⟨.external, nextWorker⟩, job := activeJob.job }
    ending := .awaits (.failoverSubmit wait jobId activeJob nextWorker failed) }

/-- `tryFailover` when the next worker has answered the submission. -/
def failoverSubmitted (wait : Option JobWait) (jobId : String) (activeJob : ActiveJob)
    (nextWorker : WorkerType) (failed : JobPollResult)
    (answer : Except String JobSubmissionResult) : Stretch :=
  match answer with
  | .error error => e.pollEnds e.activeJobs wait jobId (.error error)
  | .ok submission =>
    match submission.acceptedId with
    | some externalJobId =>
      let next := { activeJob with
        externalJobId, workerType := nextWorker, adapter := ⟨.external, nextWorker⟩,
        executionBackend := .external, failoverCount := activeJob.failoverCount + 1 }
      e.pollEnds (e.activeJobs.set jobId next) wait jobId
        (.ok { externalJobId, status := .running, progress := some 0 })
    | none => e.tryFailover wait jobId { activeJob with workerType := nextWorker } failed

/-- `cancelJob` has answered: the caller has it, or the wait that timed out throws. -/
def cancelEnds (now : Timestamp) (activeJobs : InsertionMap String ActiveJob)
    (wait : Option JobWait) (jobId : String) (answer : Except String CancelResult) : Stretch :=
  { activeJobs
    ending :=
      match wait, answer with
      | none, answer => .returns (.cancelJob jobId answer)
      | some _, .error error => .returns (.waitForJob jobId e.accepted (.error error))
      | some wait, .ok _ => .returns (.waitForJob jobId e.accepted
          (.error s!"Job {jobId} timed out after {now - wait.startTime}ms")) }

def cancelJob (now : Timestamp) (wait : Option JobWait) (jobId : String) : Stretch :=
  match e.activeJobs.get? jobId with
  | none => e.cancelEnds now e.activeJobs wait jobId
      (.ok { success := false, status := .notFound, error := some "Job not found in active jobs" })
  | some activeJob => e.stays (.awaits (.cancel wait jobId activeJob))

/-- The rest of `cancelJob` when the adapter has answered. -/
def cancelled (now : Timestamp) (wait : Option JobWait) (jobId : String)
    (answer : Except String CancelResult) : Stretch :=
  match answer with
  | .ok result =>
    if result.success then e.cancelEnds now (e.activeJobs.delete jobId) wait jobId answer
    else e.cancelEnds now e.activeJobs wait jobId answer
  | .error _ => e.cancelEnds now e.activeJobs wait jobId answer

/-- One round of the loop of `waitForJob`. -/
def waitRound (now : Timestamp) (jobId : String) (wait : JobWait) : Stretch :=
  if now - wait.startTime > wait.timeout then e.cancelJob now (some wait) jobId
  else e.pollJob (some wait) jobId

def waitForJob (now : Timestamp) (jobId : String) (timeoutMs : Option Nat) : Stretch :=
  e.waitRound now jobId ⟨now, timeoutMs.getD JOB_TIMEOUT_MS⟩

def rejection (error : String) (executionBackend : ExecutionBackend) : JobSubmissionResult where
  success := false
  status := .rejected
  error := some error
  executionBackend := some executionBackend

/-- `submitJob` up to the submission to the adapter that the router chooses. -/
def submitJob (call : Nat) (job : WorkerJob) (workerType : Option WorkerType) : Stretch :=
  let targetWorker := workerType.getD (getDefaultWorker job.stage)
  let route := e.config.backendRouter.route job targetWorker (e.hasAdapter targetWorker)
  match route.blockedReason with
  | some reason => e.stays (.returns (.submitJob (.ok (rejection reason route.executionBackend))))
  | none =>
    if e.hasAdapter targetWorker route.executionBackend then
      let adapter : AdapterRef := ⟨route.executionBackend, targetWorker⟩
      { activeJobs := e.activeJobs
        request := some { submission := call, path := .primary, adapter, job }
        ending := .awaits (.submit job targetWorker adapter route.fallbackReason) }
    else
      e.stays (.returns (.submitJob (.ok (rejection
        s!"No adapter registered for worker type: {targetWorker.text}" route.executionBackend))))

/-- The rest of `submitJob` when the adapter has answered: another submission on the external
backend, or the end. -/
def submitted (now : Timestamp) (call : Nat) (job : WorkerJob) (targetWorker : WorkerType)
    (adapter : AdapterRef) (fallbackReason : Option String)
    (answer : Except String JobSubmissionResult) : Stretch :=
  match answer with
  | .error error => e.stays (.returns (.submitJob (.error error)))
  | .ok result =>
    if !result.success ∧ adapter.backend = .lmstudio ∧
        e.config.backendRouter.canFallbackToExternal job.stage ∧
        e.hasAdapter targetWorker .external then
      let adapter : AdapterRef := ⟨.external, targetWorker⟩
      { activeJobs := e.activeJobs
        request := some { submission := call, path := .fallback, adapter, job }
        ending := .awaits (.submit job targetWorker adapter (some "lmstudio_submission_failed")) }
    else
      let response := { result with
        executionBackend := some adapter.backend
        fallbackReason := fallbackReason.or result.fallbackReason }
      match response.acceptedId with
      | some externalJobId =>
        let active := { job, externalJobId, workerType := targetWorker, adapter,
                        executionBackend := adapter.backend, submittedAt := now,
                        failoverCount := 0, submission := call }
        { activeJobs := e.activeJobs.set job.jobId active
          accepts := true
          ending := .returns (.submitJob (.ok response)) }
      | none => e.stays (.returns (.submitJob (.ok response)))

/-- The executor after a stretch of a call. -/
def after (call : Nat) (stretch : Stretch) : WorkerExecutor :=
  { e with
    activeJobs := stretch.activeJobs
    requests := e.requests ++ stretch.request.toList
    accepted := if stretch.accepts then e.accepted ++ [call] else e.accepted
    calls :=
      match stretch.ending with
      | .awaits next => e.calls.set call next
      | .returns _ => e.calls.delete call
    returned :=
      match stretch.ending with
      | .awaits _ => e.returned
      | .returns answer => e.returned ++ [answer] }

def begins (stretch : Stretch) : WorkerExecutor :=
  { e.after e.nextCall stretch with nextCall := e.nextCall + 1 }

end WorkerExecutor

/-- What a call awaits: the answer of an adapter or what it throws, and the timer of a wait. -/
inductive AwaitedAnswer where
  | submission (answer : Except String JobSubmissionResult)
  | poll (answer : Except String JobPollResult)
  | cancellation (answer : Except String CancelResult)
  | timer

inductive ExecutorOp where
  | submitJob (job : WorkerJob) (workerType : Option WorkerType)
  | pollJob (jobId : String)
  | cancelJob (jobId : String)
  | waitForJob (jobId : String) (timeoutMs : Option Nat)
  | resume (call : Nat) (answer : AwaitedAnswer)

structure ExecutorStep where
  now : Timestamp
  op : ExecutorOp

namespace WorkerExecutor

variable (e : WorkerExecutor)

/-- The next stretch of a call, when it has what it awaits. -/
def resume (now : Timestamp) (call : Nat) : ExecutorCall → AwaitedAnswer → Option Stretch
  | .submit job targetWorker adapter fallbackReason, .submission answer =>
    some (e.submitted now call job targetWorker adapter fallbackReason answer)
  | .poll wait jobId activeJob, .poll answer => some (e.polled wait jobId activeJob answer)
  | .failoverCancel wait jobId activeJob nextWorker failed, .cancellation _ =>
    some (e.failoverCancelled wait jobId activeJob nextWorker failed)
  | .failoverSubmit wait jobId activeJob nextWorker failed, .submission answer =>
    some (e.failoverSubmitted wait jobId activeJob nextWorker failed answer)
  | .cancel wait jobId _, .cancellation answer => some (e.cancelled now wait jobId answer)
  | .sleep jobId wait, .timer => some (e.waitRound now jobId wait)
  | _, _ => none

def next (step : ExecutorStep) : Option WorkerExecutor :=
  match step.op with
  | .submitJob job workerType => some (e.begins (e.submitJob e.nextCall job workerType))
  | .pollJob jobId => some (e.begins (e.pollJob none jobId))
  | .cancelJob jobId => some (e.begins (e.cancelJob step.now none jobId))
  | .waitForJob jobId timeoutMs => some (e.begins (e.waitForJob step.now jobId timeoutMs))
  | .resume call answer => (e.calls.get? call).bind fun point =>
    (e.resume step.now call point answer).map (e.after call)

end WorkerExecutor

/-- An executor of any configuration and adapters, which answer in any order, or throw. -/
def executorRuns : Machine WorkerExecutor ExecutorStep :=
  .ofNext (fun e => ∃ config adapters, e = .empty config adapters) WorkerExecutor.next

/-! What the calls of a worker executor do in one step, and what of the executor each kind of step
leaves as it was. -/

/-- A failover under way: its job, the active job it is for, and the worker it has got to. -/
structure Failover where
  jobId : String
  activeJob : ActiveJob
  reached : WorkerType

namespace ExecutorCall

def failover? : ExecutorCall → Option Failover
  | .failoverCancel _ jobId activeJob _ _ => some ⟨jobId, activeJob, activeJob.workerType⟩
  | .failoverSubmit _ jobId activeJob nextWorker _ => some ⟨jobId, activeJob, nextWorker⟩
  | _ => none

def isSubmit : ExecutorCall → Bool
  | .submit _ _ _ _ => true
  | _ => false

end ExecutorCall

namespace WorkerExecutor

def FailsOver (e : WorkerExecutor) (jobId : String) : Prop :=
  ∃ call point failover, e.calls.get? call = some point ∧ point.failover? = some failover ∧
    failover.jobId = jobId

def Holds (e : WorkerExecutor) (jobId : String) (activeJob : ActiveJob) : Prop :=
  e.activeJobs.get? jobId = some activeJob ∨
  ∃ call point failover, e.calls.get? call = some point ∧ point.failover? = some failover ∧
    failover.jobId = jobId ∧ failover.activeJob = activeJob

section after

variable {e e' : WorkerExecutor} {call c : Nat} {stretch : Stretch} {step : ExecutorStep}

theorem get?_calls_after : (e.after call stretch).calls.get? c =
    if c = call then
      match stretch.ending with
      | .awaits point => some point
      | .returns _ => none
    else e.calls.get? c := by
  unfold after
  cases stretch.ending with
  | awaits point => rw [InsertionMap.get?_set]
  | returns answer => rw [InsertionMap.get?_delete]

theorem calls_after {point : ExecutorCall} (h : (e.after call stretch).calls.get? c = some point) :
    c = call ∧ stretch.ending = .awaits point ∨ c ≠ call ∧ e.calls.get? c = some point := by
  rw [get?_calls_after] at h
  by_cases hsame : c = call
  · rw [if_pos hsame] at h
    cases hending : stretch.ending with
    | awaits other =>
      rw [hending] at h
      obtain rfl := Option.some.inj h
      exact Or.inl ⟨hsame, rfl⟩
    | returns answer =>
      rw [hending] at h
      cases h
  · rw [if_neg hsame] at h
    exact Or.inr ⟨hsame, h⟩

theorem calls_after_of_ne {point : ExecutorCall} (hne : c ≠ call)
    (h : e.calls.get? c = some point) : (e.after call stretch).calls.get? c = some point := by
  rw [get?_calls_after, if_neg hne, h]

/-- What a new call does up to its first await. -/
inductive Begins (e : WorkerExecutor) (step : ExecutorStep) : Stretch → Prop
  | submitJob {job : WorkerJob} {workerType : Option WorkerType} :
      step.op = .submitJob job workerType → Begins e step (e.submitJob e.nextCall job workerType)
  | pollJob {jobId : String} : step.op = .pollJob jobId → Begins e step (e.pollJob none jobId)
  | cancelJob {jobId : String} :
      step.op = .cancelJob jobId → Begins e step (e.cancelJob step.now none jobId)
  | waitForJob {jobId : String} {timeoutMs : Option Nat} : step.op = .waitForJob jobId timeoutMs →
      Begins e step (e.waitForJob step.now jobId timeoutMs)

theorem Begins.op_ne (h : Begins e step stretch) (call : Nat) (answer : AwaitedAnswer) :
    step.op ≠ .resume call answer := by
  intro hresume
  cases h with
  | submitJob hop => cases hop.symm.trans hresume
  | pollJob hop => cases hop.symm.trans hresume
  | cancelJob hop => cases hop.symm.trans hresume
  | waitForJob hop => cases hop.symm.trans hresume

/-- What a call does with an answer of the kind it waits for, up to its next await. -/
inductive Resumes (e : WorkerExecutor) (now : Timestamp) (call : Nat) :
    ExecutorCall → AwaitedAnswer → Stretch → Prop
  | submit {job targetWorker adapter reason answer} :
      Resumes e now call (.submit job targetWorker adapter reason) (.submission answer)
        (e.submitted now call job targetWorker adapter reason answer)
  | poll {wait jobId activeJob answer} :
      Resumes e now call (.poll wait jobId activeJob) (.poll answer) (e.polled wait jobId activeJob answer)
  | failoverCancel {wait jobId activeJob nextWorker failed answer} :
      Resumes e now call (.failoverCancel wait jobId activeJob nextWorker failed) (.cancellation answer)
        (e.failoverCancelled wait jobId activeJob nextWorker failed)
  | failoverSubmit {wait jobId activeJob nextWorker failed answer} :
      Resumes e now call (.failoverSubmit wait jobId activeJob nextWorker failed) (.submission answer)
        (e.failoverSubmitted wait jobId activeJob nextWorker failed answer)
  | cancel {wait jobId activeJob answer} :
      Resumes e now call (.cancel wait jobId activeJob) (.cancellation answer)
        (e.cancelled now wait jobId answer)
  | sleep {jobId wait} : Resumes e now call (.sleep jobId wait) .timer (e.waitRound now jobId wait)

theorem resumes_of_resume {now : Timestamp} {point : ExecutorCall} {answer : AwaitedAnswer}
    (h : e.resume now call point answer = some stretch) : Resumes e now call point answer stretch := by
  unfold resume at h
  split at h <;> cases h <;> constructor

theorem next_eq_some (h : e.next step = some e') :
    (∃ stretch, Begins e step stretch ∧ e' = e.begins stretch) ∨
    ∃ call answer point stretch, step.op = .resume call answer ∧
      e.calls.get? call = some point ∧ e.resume step.now call point answer = some stretch ∧
      e' = e.after call stretch := by
  unfold next at h
  cases hop : step.op with
  | submitJob job workerType =>
    rw [hop] at h
    exact Or.inl ⟨_, .submitJob hop, (Option.some.inj h).symm⟩
  | pollJob jobId =>
    rw [hop] at h
    exact Or.inl ⟨_, .pollJob hop, (Option.some.inj h).symm⟩
  | cancelJob jobId =>
    rw [hop] at h
    exact Or.inl ⟨_, .cancelJob hop, (Option.some.inj h).symm⟩
  | waitForJob jobId timeoutMs =>
    rw [hop] at h
    exact Or.inl ⟨_, .waitForJob hop, (Option.some.inj h).symm⟩
  | resume call answer =>
    rw [hop] at h
    obtain ⟨point, hpoint, h⟩ := Option.bind_eq_some_iff.mp h
    obtain ⟨stretch, hstretch, rfl⟩ := Option.map_eq_some_iff.mp h
    exact Or.inr ⟨call, answer, point, stretch, rfl, hpoint, hstretch, rfl⟩

end after

end WorkerExecutor

end ShipyardCp.Domain
