import ShipyardCp.Domain.WorkerAdapters
import ShipyardCp.Domain.WorkerExecutor

/-! The jobs of the worker adapters: what submitting, polling and cancelling them and the settling of their
background executions write. -/

namespace ShipyardCp.Domain

open Types Lib

inductive AdapterJobStatus where
  | queued | running | succeeded | failed
  deriving DecidableEq

/-- The state object of a job. -/
structure AdapterJob where
  job : WorkerJob
  status : AdapterJobStatus
  startedAt : Nat
  result : Option AdapterResult := none
  error : Option String := none
  sessionId : Option String := none
  fallbackUsed : Bool := false

/-- An adapter's answer to a poll. -/
structure AdapterPoll where
  externalJobId : String
  status : PollStatus
  result : Option AdapterResult := none
  error : Option String := none

/-- What an executor resolves to. -/
structure ExecutionResult where
  success : Bool
  execution : AdapterExecution
  error : Option String := none
  sessionId : Option String := none
  fallbackUsed : Bool := false

/-- The state objects, and those that are known by an external id. -/
structure AdapterJobs where
  objects : List AdapterJob
  jobStates : InsertionMap String Nat

namespace AdapterJobs

def empty : AdapterJobs := ⟨[], .empty⟩

variable (jobs : AdapterJobs)

def get? (externalJobId : String) : Option (Nat × AdapterJob) :=
  (jobs.jobStates.get? externalJobId).bind fun k => (jobs.objects[k]?).map fun state => (k, state)

def add (externalJobId : String) (state : AdapterJob) : AdapterJobs where
  objects := jobs.objects ++ [state]
  jobStates := jobs.jobStates.set externalJobId jobs.objects.length

def update (k : Nat) (f : AdapterJob → AdapterJob) : AdapterJobs :=
  { jobs with objects := jobs.objects.modify k f }

def delete (externalJobId : String) : AdapterJobs :=
  { jobs with jobStates := jobs.jobStates.delete externalJobId }

theorem update_id (k : Nat) : jobs.update k id = jobs := by
  simp [update, List.modify_id]

end AdapterJobs

/-- `validateJob`; a job may come with a context and with an instruction envelope. -/
def validateJob (job : WorkerJob) (hasContext hasEnvelope : Bool) : List String :=
  (if job.jobId = "" then ["job_id is required"] else []) ++
  (if job.taskId = "" then ["task_id is required"] else []) ++
  (if job.repoRef.owner = "" ∨ job.repoRef.name = "" then
    ["repo_ref with owner and name is required"] else []) ++
  (if job.inputPrompt = "" ∧ !hasContext then
    ["either input_prompt or context is required"] else []) ++
  (if OpenAICompatibleCompletionAdapter.isEnvelopeMode job ∧ !hasEnvelope then
    ["instruction_envelope is required for InstructionEnvelopeV2 jobs"] else [])

def rejectedJob (errors : List String) : JobSubmissionResult where
  success := false
  status := .rejected
  error := some (", ".intercalate errors)

def acceptedJob (externalJobId : String) : JobSubmissionResult where
  success := true
  externalJobId := some externalJobId
  status := .queued

def clockId (name : String) (now : Nat) : String := name ++ "-" ++ toString now

def newJob (job : WorkerJob) (now : Nat) : AdapterJob where
  job := job
  status := .queued
  startedAt := now

/-- A poll: the job is forgotten with an answer that ends it. The answer comes with the object it is
about. -/
def pollWith (answer : String → AdapterJob → AdapterPoll) (jobs : AdapterJobs)
    (externalJobId : String) : AdapterJobs × Option Nat × AdapterPoll :=
  match jobs.get? externalJobId with
  | none => (jobs, none, { externalJobId, status := .failed, error := some "Job not found" })
  | some (k, state) =>
    let polled := answer externalJobId state
    (if polled.status = .succeeded ∨ polled.status = .failed then jobs.delete externalJobId
      else jobs, some k, polled)

def jobNotFound : CancelResult where
  success := false
  status := .notFound
  error := some "Job not found"

def cancelledJob (state : AdapterJob) : AdapterJob :=
  { state with status := .failed, error := some "Job cancelled by user" }

/-- How a cancellation goes on: it is answered, or the executor is asked to cancel a job. -/
inductive CancelStart where
  | answered (k : Option Nat) (answer : CancelResult)
  | awaiting (k : Nat)

namespace OpenAICompatibleCompletionAdapter

variable (jobs : AdapterJobs)

def settle (env : AdapterEnv) (state : AdapterJob) : Except String (List Char) → AdapterJob
  | .ok content =>
    { state with result := some (convertToWorkerResult env state.job content), status := .succeeded }
  | .error message => { state with status := .failed, error := some message }

/-- The completion runs up to its first await within the submission; what it throws there is written
before the status. -/
def submitJob (externalJobPrefix : String) (job : WorkerJob) (hasContext hasEnvelope : Bool)
    (now : Nat) (thrown : Option String) : AdapterJobs × JobSubmissionResult :=
  match validateJob job hasContext hasEnvelope with
  | [] =>
    let externalJobId := clockId (externalJobPrefix ++ "-" ++ job.jobId) now
    let state := newJob job now
    let state := match thrown with
      | some message => { state with status := .failed, error := some message }
      | none => state
    (jobs.add externalJobId { state with status := .running }, acceptedJob externalJobId)
  | errors => (jobs, rejectedJob errors)

def pollAnswer (externalJobId : String) (state : AdapterJob) : AdapterPoll :=
  match state.status with
  | .queued => { externalJobId, status := .queued }
  | .running => { externalJobId, status := .running }
  | .succeeded => { externalJobId, status := .succeeded, result := state.result }
  | .failed => { externalJobId, status := .failed, error := state.error }

def pollJob : String → AdapterJobs × Option Nat × AdapterPoll := pollWith pollAnswer jobs

def cancelJob (externalJobId : String) : AdapterJobs × CancelStart :=
  match jobs.get? externalJobId with
  | none => (jobs, .answered none jobNotFound)
  | some (k, state) =>
    if state.status = .succeeded ∨ state.status = .failed then
      (jobs, .answered (some k) { success := false, status := .alreadyCompleted })
    else ((jobs.update k cancelledJob).delete externalJobId,
      .answered (some k) { success := true, status := .cancelled })

end OpenAICompatibleCompletionAdapter

namespace ProductionClaudeCodeAdapter

variable (jobs : AdapterJobs)

def settle (env : AdapterEnv) (state : AdapterJob) : Except String ExecutionResult → AdapterJob
  | .ok result =>
    if result.success then
      { state with
        status := .succeeded
        result := some (convertToWorkerResult env state.job result.execution) }
    else { state with status := .failed, error := result.error }
  | .error message => { state with status := .failed, error := some message }

def submitJob (job : WorkerJob) (hasContext hasEnvelope : Bool) (now : Nat) :
    AdapterJobs × JobSubmissionResult :=
  match validateJob job hasContext hasEnvelope with
  | [] =>
    let externalJobId := clockId ("claude-" ++ job.jobId) now
    (jobs.add externalJobId { newJob job now with status := .running }, acceptedJob externalJobId)
  | errors => (jobs, rejectedJob errors)

def pollAnswer (externalJobId : String) (state : AdapterJob) : AdapterPoll :=
  match state.status with
  | .queued => { externalJobId, status := .queued }
  | .running => { externalJobId, status := .running }
  | .succeeded => { externalJobId, status := .succeeded, result := state.result }
  | .failed => { externalJobId, status := .failed, error := state.error }

def pollJob : String → AdapterJobs × Option Nat × AdapterPoll := pollWith pollAnswer jobs

def cancelJob (externalJobId : String) : CancelStart :=
  match jobs.get? externalJobId with
  | none => .answered none jobNotFound
  | some (k, state) =>
    if state.status = .succeeded ∨ state.status = .failed then
      .answered (some k) { success := false, status := .alreadyCompleted }
    else .awaiting k

/-- `cancelJob` once the executor has answered. -/
def cancelAnswered (externalJobId : String) (k : Nat) (cancelled : Bool) :
    AdapterJobs × CancelResult :=
  if cancelled then
    ((jobs.update k cancelledJob).delete externalJobId, { success := true, status := .cancelled })
  else (jobs, { success := false, status := .failed, error := some "Could not cancel job" })

end ProductionClaudeCodeAdapter

namespace OpenCodeServeAdapter

variable (jobs : AdapterJobs)

def settle (state : AdapterJob) : Except String ExecutionResult → AdapterJob
  | .ok result =>
    let state := { state with sessionId := result.sessionId, fallbackUsed := result.fallbackUsed }
    if result.success then
      { state with
        result := some (convertToWorkerResult state.job result.execution)
        status := .succeeded }
    else { state with error := result.error, status := .failed }
  | .error message => { state with error := some message, status := .failed }

/-- `submitJob` up to the wait for the server. -/
def submitJob (job : WorkerJob) (hasContext hasEnvelope : Bool) (now : Nat) :
    AdapterJobs × Except JobSubmissionResult String :=
  match validateJob job hasContext hasEnvelope with
  | [] =>
    let externalJobId := clockId ("opencode-serve-" ++ job.workerType.text ++ "-" ++ job.jobId) now
    (jobs.add externalJobId (newJob job now), .ok externalJobId)
  | errors => (jobs, .error (rejectedJob errors))

/-- The rest of `submitJob`: without a server the job runs in the fallback. -/
def serverAnswered (k : Nat) (ready : Bool) : AdapterJobs := jobs.update k fun state =>
    { state with status := .running, fallbackUsed := if ready then state.fallbackUsed else true }

def failureText (error : Option String) : String :=
  match error with
  | some "" => "OpenCode serve execution failed"
  | some message => message
  | none => "OpenCode serve execution failed"

def pollAnswer (externalJobId : String) (state : AdapterJob) : AdapterPoll :=
  match state.status, state.result with
  | .queued, _ => { externalJobId, status := .queued }
  | .running, _ => { externalJobId, status := .running }
  | .succeeded, some result => { externalJobId, status := .succeeded, result := some result }
  | _, _ => { externalJobId, status := .failed, error := some (failureText state.error) }

def pollJob : String → AdapterJobs × Option Nat × AdapterPoll := pollWith pollAnswer jobs

def cancelJob (externalJobId : String) : CancelStart :=
  match jobs.get? externalJobId with
  | none => .answered none jobNotFound
  | some (k, _) => .awaiting k

def cancelsSession (state : AdapterJob) : Bool := state.sessionId.any (· ≠ "") && !state.fallbackUsed

/-- `cancelJob` once the executor has answered: the job is forgotten in any case. -/
def cancelAnswered (externalJobId : String) (session cancelled : Bool) : AdapterJobs × CancelResult :=
  (jobs.delete externalJobId,
    if cancelled then { success := true, status := .cancelled }
    else { success := false, status := .failed,
           error := some (if session then "Failed to cancel session"
             else "Failed to cancel fallback job") })

end OpenCodeServeAdapter

/-! The calls on a worker adapter between their awaits, and the background executions that settle between
them. -/

abbrev ExecutionOutcome := Except (Option String) AdapterResult

/-- What the background execution of a job settles with. -/
inductive Settling where
  | completion (answer : Except String (List Char))
  | execution (answer : Except String ExecutionResult)

inductive SubmissionPhase where
  | awaitingServer | accepted | refused
  deriving DecidableEq

/-- A submission that made a job, and how its execution has ended. -/
structure Submission where
  externalJobId : String
  job : WorkerJob
  submittedAt : Nat
  phase : SubmissionPhase
  outcome : Option ExecutionOutcome := none

/-- The three adapters; that for completions has a prefix for its ids. -/
inductive AdapterKind where
  | completion (externalJobPrefix : String)
  | claudeCode
  | opencodeServe
  deriving DecidableEq

namespace AdapterKind

variable (kind : AdapterKind) (jobs : AdapterJobs)

def jobName (job : WorkerJob) : String :=
  match kind with
  | completion externalJobPrefix => externalJobPrefix ++ "-" ++ job.jobId
  | claudeCode => "claude-" ++ job.jobId
  | opencodeServe => "opencode-serve-" ++ job.workerType.text ++ "-" ++ job.jobId

/-- A submission, with what is left of it in the adapter; only a completion throws within it. -/
def submitJob (job : WorkerJob) (hasContext hasEnvelope : Bool) (now : Nat)
    (thrown : Option String) : Option (AdapterJobs × Option Submission) :=
  match kind, thrown with
  | completion externalJobPrefix, thrown =>
    let (jobs, answer) := OpenAICompatibleCompletionAdapter.submitJob jobs externalJobPrefix job
      hasContext hasEnvelope now thrown
    some (jobs, answer.externalJobId.map fun externalJobId =>
      ⟨externalJobId, job, now, .accepted, thrown.map fun message => .error (some message)⟩)
  | claudeCode, none =>
    let (jobs, answer) := ProductionClaudeCodeAdapter.submitJob jobs job hasContext hasEnvelope now
    some (jobs, answer.externalJobId.map fun externalJobId =>
      ⟨externalJobId, job, now, .accepted, none⟩)
  | opencodeServe, none =>
    let (jobs, begun) := OpenCodeServeAdapter.submitJob jobs job hasContext hasEnvelope now
    some (jobs, begun.toOption.map fun externalJobId =>
      ⟨externalJobId, job, now, .awaitingServer, none⟩)
  | _, some _ => none

def pollAnswer : String → AdapterJob → AdapterPoll :=
  match kind with
  | completion _ => OpenAICompatibleCompletionAdapter.pollAnswer
  | claudeCode => ProductionClaudeCodeAdapter.pollAnswer
  | opencodeServe => OpenCodeServeAdapter.pollAnswer

def pollJob : String → AdapterJobs × Option Nat × AdapterPoll :=
  match kind with
  | completion _ => OpenAICompatibleCompletionAdapter.pollJob jobs
  | claudeCode => ProductionClaudeCodeAdapter.pollJob jobs
  | opencodeServe => OpenCodeServeAdapter.pollJob jobs

def cancelJob (externalJobId : String) : AdapterJobs × CancelStart :=
  match kind with
  | completion _ => OpenAICompatibleCompletionAdapter.cancelJob jobs externalJobId
  | claudeCode => (jobs, ProductionClaudeCodeAdapter.cancelJob jobs externalJobId)
  | opencodeServe => (jobs, OpenCodeServeAdapter.cancelJob jobs externalJobId)

def cancelAnswered (externalJobId : String) (k : Nat) (session cancelled : Bool) :
    Option (AdapterJobs × CancelResult) :=
  match kind with
  | completion _ => none
  | claudeCode => some (ProductionClaudeCodeAdapter.cancelAnswered jobs externalJobId k cancelled)
  | opencodeServe =>
    some (OpenCodeServeAdapter.cancelAnswered jobs externalJobId session cancelled)

def settle (env : AdapterEnv) (state : AdapterJob) : Settling → Option AdapterJob
  | .completion answer => match kind with
    | completion _ => some (OpenAICompatibleCompletionAdapter.settle env state answer)
    | _ => none
  | .execution answer => match kind with
    | completion _ => none
    | claudeCode => some (ProductionClaudeCodeAdapter.settle env state answer)
    | opencodeServe => some (OpenCodeServeAdapter.settle state answer)

/-- The outcome of an execution of a job. -/
def outcome (env : AdapterEnv) (job : WorkerJob) : Settling → ExecutionOutcome
  | .completion (.ok content) =>
    .ok (OpenAICompatibleCompletionAdapter.convertToWorkerResult env job content)
  | .completion (.error message) => .error (some message)
  | .execution (.ok result) =>
    if result.success then
      .ok (match kind with
        | opencodeServe => OpenCodeServeAdapter.convertToWorkerResult job result.execution
        | _ => ProductionClaudeCodeAdapter.convertToWorkerResult env job result.execution)
    else .error result.error
  | .execution (.error message) => .error (some message)

end AdapterKind

/-- A cancellation that awaits the executor. -/
structure PendingCancel where
  externalJobId : String
  object : Nat
  session : Bool
  answered : Bool := false

/-- Answers to polls and cancellations, with the object they are about. -/
inductive AdapterReply where
  | polled (k : Option Nat) (answer : AdapterPoll)
  | cancelled (k : Option Nat) (answer : CancelResult)

/-- An adapter, its submissions in the order of the objects that they made, the cancellations that have
awaited an executor, and the replies so far. -/
structure AdapterSystem where
  jobs : AdapterJobs
  submissions : List Submission
  cancels : List PendingCancel
  replies : List AdapterReply

/-- `thrown` is what a completion throws before its first await, and `ready` the answer of the server
manager unless it throws. -/
inductive AdapterAction where
  | submitJob (job : WorkerJob) (hasContext hasEnvelope : Bool) (now : Nat) (thrown : Option String)
  | serverAnswered (k : Nat) (ready : Option Bool)
  | pollJob (externalJobId : String)
  | cancelJob (externalJobId : String)
  | cancelAnswered (i : Nat) (cancelled : Bool)
  | settles (k : Nat) (env : AdapterEnv) (settling : Settling)

namespace AdapterSystem

variable (kind : AdapterKind) (s : AdapterSystem)

def setPhase (k : Nat) (phase : SubmissionPhase) : List Submission :=
  s.submissions.modify k fun a => { a with phase }

def next : AdapterAction → Option AdapterSystem
  | .submitJob job hasContext hasEnvelope now thrown =>
    (kind.submitJob s.jobs job hasContext hasEnvelope now thrown).map fun (jobs, submission) =>
      { s with jobs, submissions := s.submissions ++ submission.toList }
  | .serverAnswered k ready => s.submissions[k]?.bind fun a =>
    if a.phase = .awaitingServer then
      match ready with
      | some ready => some { s with
          jobs := OpenCodeServeAdapter.serverAnswered s.jobs k ready
          submissions := s.setPhase k .accepted }
      | none => some { s with submissions := s.setPhase k .refused }
    else none
  | .pollJob externalJobId =>
    let (jobs, k, answer) := kind.pollJob s.jobs externalJobId
    some { s with jobs, replies := s.replies ++ [.polled k answer] }
  | .cancelJob externalJobId =>
    match kind.cancelJob s.jobs externalJobId with
    | (jobs, .answered k answer) =>
      some { s with jobs, replies := s.replies ++ [.cancelled k answer] }
    | (jobs, .awaiting k) =>
      let session := jobs.objects[k]?.any OpenCodeServeAdapter.cancelsSession
      some { s with jobs, cancels := s.cancels ++ [⟨externalJobId, k, session, false⟩] }
  | .cancelAnswered i cancelled => s.cancels[i]?.bind fun c =>
    if c.answered then none
    else (kind.cancelAnswered s.jobs c.externalJobId c.object c.session cancelled).map
      fun (jobs, answer) => { s with
        jobs
        cancels := s.cancels.modify i fun c => { c with answered := true }
        replies := s.replies ++ [.cancelled (some c.object) answer] }
  | .settles k env settling => s.submissions[k]?.bind fun a => s.jobs.objects[k]?.bind fun state =>
    if a.phase = .accepted ∧ a.outcome.isNone then
      (kind.settle env state settling).map fun state => { s with
        jobs := s.jobs.update k fun _ => state
        submissions := s.submissions.modify k fun a =>
          { a with outcome := some (kind.outcome env a.job settling) } }
    else none

end AdapterSystem

def adapterMachine (kind : AdapterKind) : Machine AdapterSystem AdapterAction :=
  .ofNext (fun s => s = ⟨.empty, [], [], []⟩) (AdapterSystem.next kind)

end ShipyardCp.Domain
