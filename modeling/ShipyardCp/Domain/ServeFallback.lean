import ShipyardCp.Domain.AdapterJobs
import ShipyardCp.Domain.SessionRegistry

/-! The fallback of the adapter for served sessions: when it runs a job outside of the server, and
when it says and counts that it did. -/

namespace ShipyardCp.Domain

open Types Lib

inductive FallbackReason where
  | serverStartFailed | serverHealthCheckFailed | sessionCreateFailed | sessionRunFailed
  | sessionTimeout | sessionCrash | connectionLost | apiError
  deriving DecidableEq

/-- What the session executor returns. -/
structure SessionExecutionResult where
  success : Bool
  sessionId : Option String
  execution : AdapterExecution
  error : Option String
  cleanupReason : Option CleanupReason

/-- What the fallback executor returns. -/
structure OpenCodeExecutionResult where
  success : Bool
  execution : AdapterExecution
  error : Option String

namespace OpenCodeServeAdapter

def mentions (message pattern : String) : Bool := JsText.includes message.toList pattern.toList

/-- The reason that the error of a result gives, when there is one. -/
def determineFallbackReason (error : Option String) : Option FallbackReason :=
  match error with
  | none => none
  | some error =>
    if error = "" then none
    else if mentions error "timeout" || mentions error "timed out" then some .sessionTimeout
    else if mentions error "crash" || mentions error "killed" then some .sessionCrash
    else if mentions error "connection" || mentions error "disconnect" then some .connectionLost
    else if mentions error "API" || mentions error "status" then some .apiError
    else if mentions error "create session" then some .sessionCreateFailed
    else if mentions error "run" || mentions error "execute" then some .sessionRunFailed
    else some .sessionRunFailed

def determineFallbackReasonFromError (message : String) : FallbackReason :=
  if mentions message "timeout" || mentions message "timed out" then .sessionTimeout
  else if mentions message "crash" || mentions message "killed" || mentions message "ENOENT" then
    .sessionCrash
  else if mentions message "connection" || mentions message "disconnect" ||
      mentions message "ECONNREFUSED" then .connectionLost
  else if mentions message "health" || mentions message "status" then .serverHealthCheckFailed
  else if mentions message "create session" || mentions message "Failed to create" then
    .sessionCreateFailed
  else .sessionRunFailed

/-- `executeWithServe` once the session executor has returned, with the reason that it records. -/
def sessionReturned (result : SessionExecutionResult) : Option FallbackReason × ExecutionResult :=
  let fallbackReason :=
    if result.success = false ∧ result.cleanupReason.isSome then
      determineFallbackReason result.error
    else none
  (fallbackReason,
    { success := result.success
      execution := result.execution
      error := result.error
      sessionId := result.sessionId
      fallbackUsed := fallbackReason.isSome })

/-- `executeWithFallback` once the fallback executor has returned. -/
def fallbackReturned (result : OpenCodeExecutionResult) : ExecutionResult :=
  { success := result.success
    execution := result.execution
    error := result.error
    fallbackUsed := true }

end OpenCodeServeAdapter

/-- What a job awaits: the server, the session executor or the fallback executor; or its submission
has thrown, or its execution is over, with what the fallback executor answered if it was called. -/
inductive ServeWait where
  | server
  | session
  | fallback (reason : FallbackReason)
  | refused
  | settled (answered : Option (Except String OpenCodeExecutionResult))

/-- The adapter's jobs and what they await, the fallbacks that it has recorded and the calls of
`fallbackExecutor.execute`, each with the job for which it was made. -/
structure ServeSystem where
  jobs : AdapterJobs
  waits : List ServeWait
  recorded : List (Nat × FallbackReason)
  executed : List Nat

inductive ServeAction where
  | submitJob (job : WorkerJob) (hasContext hasEnvelope : Bool) (now : Nat)
  | serverAnswered (k : Nat) (ready : Option Bool)
  | sessionAnswered (k : Nat) (answer : Except String SessionExecutionResult)
  | fallbackAnswered (k : Nat) (answer : Except String OpenCodeExecutionResult)
  | pollJob (externalJobId : String)

namespace ServeSystem

def empty : ServeSystem := ⟨.empty, [], [], []⟩

variable (s : ServeSystem)

/-- `stats.fallbacksUsed` -/
def fallbacksUsed : Nat := s.recorded.length

/-- `stats.fallbacksByReason` -/
def fallbacksByReason (reason : FallbackReason) : Nat := s.recorded.countP (·.2 = reason)

def fallbacksOf (k : Nat) : Nat := s.recorded.countP (·.1 = k)

def executionsOf (k : Nat) : Nat := s.executed.count k

def fallBack (k : Nat) (reason : FallbackReason) (jobs : AdapterJobs) : ServeSystem where
  jobs := jobs
  waits := s.waits.set k (.fallback reason)
  recorded := s.recorded ++ [(k, reason)]
  executed := s.executed ++ [k]

def settle (k : Nat) (answer : Except String ExecutionResult) : AdapterJobs :=
  s.jobs.update k fun state => OpenCodeServeAdapter.settle state answer

def submitJob (job : WorkerJob) (hasContext hasEnvelope : Bool) (now : Nat) : ServeSystem :=
  let (jobs, begun) := OpenCodeServeAdapter.submitJob s.jobs job hasContext hasEnvelope now
  { s with jobs, waits := s.waits ++ (begun.toOption.map fun _ => ServeWait.server).toList }

def serverAnswered (k : Nat) : Option Bool → ServeSystem
  | none => { s with waits := s.waits.set k .refused }
  | some true => { s with
      jobs := OpenCodeServeAdapter.serverAnswered s.jobs k true
      waits := s.waits.set k .session }
  | some false =>
    s.fallBack k .serverStartFailed (OpenCodeServeAdapter.serverAnswered s.jobs k false)

def sessionAnswered (k : Nat) : Except String SessionExecutionResult → ServeSystem
  | .ok result =>
    let (fallbackReason, result) := OpenCodeServeAdapter.sessionReturned result
    { s with
      jobs := s.settle k (.ok result)
      waits := s.waits.set k (.settled none)
      recorded := s.recorded ++ (fallbackReason.map (k, ·)).toList }
  | .error message =>
    s.fallBack k (OpenCodeServeAdapter.determineFallbackReasonFromError message) s.jobs

def fallbackAnswered (k : Nat) (answer : Except String OpenCodeExecutionResult) : ServeSystem :=
  { s with
    jobs := s.settle k (answer.map OpenCodeServeAdapter.fallbackReturned)
    waits := s.waits.set k (.settled (some answer)) }

def next : ServeAction → Option ServeSystem
  | .submitJob job hasContext hasEnvelope now => some (s.submitJob job hasContext hasEnvelope now)
  | .serverAnswered k ready =>
    match s.waits[k]? with
    | some .server => some (s.serverAnswered k ready)
    | _ => none
  | .sessionAnswered k answer =>
    match s.waits[k]? with
    | some .session => some (s.sessionAnswered k answer)
    | _ => none
  | .fallbackAnswered k answer =>
    match s.waits[k]? with
    | some (.fallback _) => some (s.fallbackAnswered k answer)
    | _ => none
  | .pollJob externalJobId =>
    some { s with jobs := (OpenCodeServeAdapter.pollJob s.jobs externalJobId).1 }

end ServeSystem

end ShipyardCp.Domain
