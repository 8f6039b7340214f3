import ShipyardCp.Domain.AdapterJobs
import ShipyardCp.Domain.ToolPlanExecutor

/-! A worker executor whose adapters all are those for completions, and the attempts at jobs that they
make: each awaits its completion request and then runs the calls of its tool plan, one after the
other. -/

namespace ShipyardCp.Domain

open Types Lib OpenAICompatibleCompletionAdapter

/-- A call that the executor comes to run, in a dry run or not. -/
structure RunnableCall where
  call : ToolPlanCall
  dryRun : Bool

/-- The call writes or patches a file, or runs a test suite or a command; a dry run only keeps from
writing. -/
def RunnableCall.changesWorkspace (c : RunnableCall) : Bool :=
  c.call.tool = "run_test_suite" || c.call.tool = "run_command" ||
    ToolPlanHost.isWriteCall c.call && !c.dryRun

/-- The calls of a plan that the executor comes to run. -/
def ToolPlanHost.runnableCalls (host : ToolPlanHost) (plan : ToolPlanOutput) (job : WorkerJob) :
    List RunnableCall :=
  match host.resolveExecutionOptions plan.toToolPlanSettings job with
  | .error _ => []
  | .ok options =>
    if !ToolPlanHost.canWrite job then []
    else
      match host.resolveWorkspaceRoot job with
      | none => []
      | some workspaceRoot =>
        match host.validatePlanLimits plan.calls workspaceRoot options with
        | some _ => []
        | none => plan.calls.map fun call => ⟨call, options.dryRun⟩

/-- What the adapters draw from outside: the process that executes plans, the validation of a plan and
its reading from JSON, the rest of a worker result, and the prefix of the ids of each adapter. -/
structure CompletionHost where
  toolPlanHost : ToolPlanHost
  validPlan : WorkerJob → Json → Bool
  readPlan : Json → ToolPlanOutput
  workerResult : AdapterResult → WorkerResult
  externalJobPrefix : AdapterRef → String

/-- The tool-plan calls that a completion makes the adapter run. -/
def CompletionHost.plannedCalls (host : CompletionHost) (job : WorkerJob) (content : List Char) :
    List RunnableCall :=
  if job.stage = .dev ∧ isEnvelopeMode job then
    match Json.parse (normalizeJsonContent content) with
    | some parsed =>
      if host.validPlan job parsed then host.toolPlanHost.runnableCalls (host.readPlan parsed) job
      else []
    | none => []
  else []

/-- Where an attempt is: it awaits its completion request, or has calls of its tool plan left (the
first of them may be under way), or has settled. -/
inductive AttemptPhase where
  | requesting
  | executing (content : List Char) (calls : List RunnableCall)
  | settled

/-- An attempt at a job: the adapter that has accepted it, and its state object there. -/
structure Attempt where
  job : WorkerJob
  adapter : AdapterRef
  object : Nat
  phase : AttemptPhase
  cancelled : Bool := false

/-- The executor, the jobs of each adapter and all attempts, and the adapters' answers that calls of
the executor have still to take. -/
structure AttemptSystem where
  executor : WorkerExecutor
  adapters : AdapterRef → AdapterJobs
  attempts : List Attempt
  answers : InsertionMap Nat AwaitedAnswer

/-- A call of the executor begins, hands its request to an adapter, or goes on with the answer; `thrown`
is what a completion throws before its first await. An attempt is answered, fails, runs a call, or
settles. -/
inductive AttemptAction where
  | begins (now : Timestamp) (op : ExecutorOp)
  | asks (call : Nat) (now : Nat) (hasContext hasEnvelope : Bool) (thrown : Option String)
  | resumes (call : Nat) (now : Timestamp)
  | answered (k : Nat) (content : List Char)
  | fails (k : Nat) (message : String)
  | runsCall (k : Nat)
  | settles (k : Nat) (env : AdapterEnv)

namespace AttemptSystem

variable (host : CompletionHost) (s : AttemptSystem)

def setJobs (adapter : AdapterRef) (jobs : AdapterJobs) : AdapterRef → AdapterJobs :=
  fun a => if a = adapter then jobs else s.adapters a

def setPhase (k : Nat) (phase : AttemptPhase) : List Attempt :=
  s.attempts.modify k fun attempt => { attempt with phase }

def markCancelled (adapter : AdapterRef) (object : Option Nat) : List Attempt :=
  s.attempts.map fun attempt =>
    if attempt.adapter = adapter ∧ some attempt.object = object then
      { attempt with cancelled := true }
    else attempt

/-- A job is given to an adapter. -/
def submits (call : Nat) (adapter : AdapterRef) (job : WorkerJob) (now : Nat)
    (hasContext hasEnvelope : Bool) (thrown : Option String) : AttemptSystem :=
  let jobs := s.adapters adapter
  let (jobs', answer) := submitJob jobs
    (host.externalJobPrefix adapter) job hasContext hasEnvelope now thrown
  { s with
    adapters := s.setJobs adapter jobs'
    attempts := if answer.success then
        s.attempts ++ [⟨job, adapter, jobs.objects.length,
          if thrown.isSome then .settled else .requesting, false⟩]
      else s.attempts
    answers := s.answers.set call (.submission (.ok answer)) }

def polls (call : Nat) (activeJob : ActiveJob) : AttemptSystem :=
  let (jobs, _, answer) := pollJob (s.adapters activeJob.adapter)
    activeJob.externalJobId
  { s with
    adapters := s.setJobs activeJob.adapter jobs
    answers := s.answers.set call (.poll (.ok
      { externalJobId := answer.externalJobId
        status := answer.status
        result := answer.result.map fun result => ⟨host.workerResult result, none⟩
        error := answer.error })) }

def cancels (call : Nat) (activeJob : ActiveJob) : AttemptSystem :=
  match cancelJob (s.adapters activeJob.adapter)
      activeJob.externalJobId with
  | (jobs, .answered object answer) => { s with
      adapters := s.setJobs activeJob.adapter jobs
      attempts := if answer.success then s.markCancelled activeJob.adapter object else s.attempts
      answers := s.answers.set call (.cancellation (.ok answer)) }
  | (_, .awaiting _) => s

/-- A call of the executor that awaits an adapter asks it. -/
def asks (call now : Nat) (hasContext hasEnvelope : Bool) (thrown : Option String) :
    Option AttemptSystem :=
  if (s.answers.get? call).isSome then none
  else (s.executor.calls.get? call).bind fun
    | .submit job _ adapter _ =>
      some (s.submits host call adapter job now hasContext hasEnvelope thrown)
    | .failoverSubmit _ _ activeJob nextWorker _ =>
      some (s.submits host call ⟨.external, nextWorker⟩ activeJob.job now hasContext hasEnvelope
        thrown)
    | .poll _ _ activeJob => some (s.polls host call activeJob)
    | .failoverCancel _ _ activeJob _ _ => some (s.cancels call activeJob)
    | .cancel _ _ activeJob => some (s.cancels call activeJob)
    | .sleep _ _ => none

/-- A call goes on with the answer of its adapter, or with the timer that it sleeps for. -/
def resumes (call : Nat) (now : Timestamp) : Option AttemptSystem :=
  let answer : Option AwaitedAnswer := match s.executor.calls.get? call with
    | some (.sleep _ _) => some .timer
    | _ => s.answers.get? call
  answer.bind fun answer => (s.executor.next ⟨now, .resume call answer⟩).map fun executor =>
    { s with executor, answers := s.answers.delete call }

def next : AttemptAction → Option AttemptSystem
  | .begins now op => match op with
    | .resume _ _ => none
    | op => (s.executor.next ⟨now, op⟩).map fun executor => { s with executor }
  | .asks call now hasContext hasEnvelope thrown =>
    s.asks host call now hasContext hasEnvelope thrown
  | .resumes call now => s.resumes call now
  | .answered k content => s.attempts[k]?.bind fun attempt => match attempt.phase with
    | .requesting => some { s with
        attempts := s.setPhase k (.executing content (host.plannedCalls attempt.job content)) }
    | _ => none
  | .fails k message => s.attempts[k]?.bind fun attempt => match attempt.phase with
    | .requesting => some { s with
        adapters := s.setJobs attempt.adapter ((s.adapters attempt.adapter).update attempt.object
          fun state => { state with status := .failed, error := some message })
        attempts := s.setPhase k .settled }
    | _ => none
  | .runsCall k => s.attempts[k]?.bind fun attempt => match attempt.phase with
    | .executing content (_ :: calls) =>
      some { s with attempts := s.setPhase k (.executing content calls) }
    | _ => none
  | .settles k env => s.attempts[k]?.bind fun attempt => match attempt.phase with
    | .executing content [] => some { s with
        adapters := s.setJobs attempt.adapter ((s.adapters attempt.adapter).update attempt.object
          fun state => settle env state (.ok content))
        attempts := s.setPhase k .settled }
    | _ => none

end AttemptSystem

/-- An executor that registers adapters for completions, in any interleaving of its calls and of the
attempts that they make. -/
def attemptMachine (host : CompletionHost) : Machine AttemptSystem AttemptAction :=
  .ofNext (fun s => ∃ config adapters, s = ⟨.empty config adapters, fun _ => .empty, [], .empty⟩)
    (AttemptSystem.next host)

end ShipyardCp.Domain
