import ShipyardCp.Domain.RuntimeSession

/-! The bridge that connects the sessions of jobs to the adapter of a worker. A session is known by
its place among all that were made, and a call that waits for the adapter by a ticket. -/

namespace ShipyardCp.Domain

open Types Lib Lib.NodePath

/-- The policy of a session that is made for a job without one. -/
def buildWorkerRuntimePolicy (job : WorkerJob) : WorkerRuntimePolicy :=
  let sandbox := job.approvalPolicy.sandboxProfile.getD
    (if job.stage = .plan then .readOnly else .workspaceWrite)
  let denied := job.approvalPolicy.mode = .deny
  let workspaceWrite := sandbox = .workspaceWrite ∨ sandbox = .fullAuto ∨ sandbox = .custom
  let canUseEffectfulTools : Bool := ¬denied ∧ workspaceWrite
  { mode := .interactive
    allowedPaths := none
    maxTurns := 20
    maxToolCalls := 50
    restrictedTools := !canUseEffectfulTools
    allowSubagents := canUseEffectfulTools
    restorePoints := if canUseEffectfulTools then .snapshot else .disabled }

/-- What an adapter answers to a submission. -/
structure JobSubmission where
  success : Bool
  externalJobId : Option String
  error : Option String

inductive PollStatus where
  | queued | running | succeeded | failed | cancelled | blocked
  deriving DecidableEq

def PollStatus.text : PollStatus → String
  | queued => "queued"
  | running => "running"
  | succeeded => "succeeded"
  | failed => "failed"
  | cancelled => "cancelled"
  | blocked => "blocked"

/-- What an adapter answers to a poll, with the summary of the result it found. -/
structure JobPoll where
  status : PollStatus
  summary : Option String
  error : Option String

/-- A call of the bridge that waits for the adapter. -/
inductive BridgeWait where
  | submit (job : WorkerJob) (session : Nat)
  | poll (session : Nat)
  | cancel (session : Nat) (reason : String)

structure RuntimeBridge where
  workerType : WorkerType
  policy : Option WorkerRuntimePolicy
  allSessions : List RuntimeSession
  sessions : InsertionMap String Nat
  externalJobIds : InsertionMap String String
  waiting : InsertionMap Nat BridgeWait
  nextTicket : Nat

/-- The calls: a session made and used by itself; the calls of the bridge, and what the adapter
answers them or throws. -/
inductive BridgeOp where
  | new (sessionId : String) (policy : WorkerRuntimePolicy)
  | call (session : Nat) (op : SessionOp)
  | start (job : WorkerJob)
  | submitted (ticket : Nat) (answer : Except String JobSubmission)
  | poll (jobId : String)
  | polled (ticket : Nat) (answer : Except String JobPoll)
  | interrupt (jobId reason : String)
  | cancelled (ticket : Nat) (answer : Except String Unit)

structure BridgeCall where
  now : Timestamp
  op : BridgeOp

namespace RuntimeBridge

def empty (workerType : WorkerType) (policy : Option WorkerRuntimePolicy) : RuntimeBridge where
  workerType := workerType
  policy := policy
  allSessions := []
  sessions := .empty
  externalJobIds := .empty
  waiting := .empty
  nextTicket := 0

def await (b : RuntimeBridge) (wait : BridgeWait) : RuntimeBridge :=
  { b with waiting := b.waiting.set b.nextTicket wait, nextTicket := b.nextTicket + 1 }

def externalJobId (b : RuntimeBridge) (jobId : String) : Option String :=
  (b.externalJobIds.get? jobId).filter (· ≠ "")

def perform (platform : Platform) (b : RuntimeBridge) (session : Nat) (call : SessionCall) :
    RuntimeBridge :=
  { b with allSessions := b.allSessions.modify session fun s => s.perform platform call }

/-- The session that `start` makes for a job, before the adapter is asked. -/
def newSession (platform : Platform) (b : RuntimeBridge) (now : Timestamp) (job : WorkerJob) :
    RuntimeSession :=
  let s := RuntimeSession.new s!"runtime_{job.workerType.text}_{job.jobId}"
    (b.policy.getD (buildWorkerRuntimePolicy job))
  (s.start now job).perform platform ⟨now, .send (createDefaultRuntimeToolRegistry now)
    { role := .system,
      content := s!"Dispatching {job.stage.text} job to {b.workerType.text}" }⟩

def start (platform : Platform) (b : RuntimeBridge) (now : Timestamp) (job : WorkerJob) :
    RuntimeBridge :=
  { b with allSessions := b.allSessions ++ [b.newSession platform now job] }.await
    (.submit job b.allSessions.length)

def toolTurn (now : Timestamp) (content : String) : SessionOp :=
  .send (createDefaultRuntimeToolRegistry now) { role := .tool, content }

def acceptedId (submission : JobSubmission) : Option String :=
  submission.externalJobId.filter fun id => submission.success && id ≠ ""

def submissionCall (now : Timestamp) (submission : JobSubmission) : SessionOp :=
  match acceptedId submission with
  | some externalJobId => toolTurn now s!"adapter submitted external job {externalJobId}"
  | none => .fail (submission.error.getD "adapter rejected job")

def recordExternalId (b : RuntimeBridge) (jobId : String) (submission : JobSubmission) :
    RuntimeBridge :=
  match acceptedId submission with
  | some externalJobId => { b with externalJobIds := b.externalJobIds.set jobId externalJobId }
  | none => b

/-- The session is registered unless its call throws. -/
def settleSubmission (platform : Platform) (b : RuntimeBridge) (now : Timestamp) (job : WorkerJob)
    (session : Nat) (submission : JobSubmission) : RuntimeBridge :=
  let call : SessionCall := ⟨now, submissionCall now submission⟩
  let b := b.recordExternalId job.jobId submission
  let answered : Bool := b.allSessions[session]?.any fun (s : RuntimeSession) =>
    (s.answer platform call).isOk
  if answered then
    { b.perform platform session call with sessions := b.sessions.set job.jobId session }
  else b

def poll (platform : Platform) (b : RuntimeBridge) (now : Timestamp) (jobId : String) :
    RuntimeBridge :=
  match b.sessions.get? jobId with
  | none => b
  | some session =>
    match b.externalJobId jobId with
    | none => b.perform platform session ⟨now, .fail "external job id is missing"⟩
    | some _ => b.await (.poll session)

def pollCall (now : Timestamp) (poll : JobPoll) : SessionOp :=
  match poll.status with
  | .running => toolTurn now s!"adapter poll status: {poll.status.text}"
  | .queued => toolTurn now s!"adapter poll status: {poll.status.text}"
  | .succeeded => .complete (poll.summary.getD "adapter job succeeded")
  | .cancelled => .interrupt "adapter job cancelled"
  | .failed => .fail (poll.error.getD s!"adapter job ended with {poll.status.text}")
  | .blocked => .fail (poll.error.getD s!"adapter job ended with {poll.status.text}")

def interrupt (platform : Platform) (b : RuntimeBridge) (now : Timestamp) (jobId reason : String) :
    RuntimeBridge :=
  match b.sessions.get? jobId with
  | none => b
  | some session =>
    match b.externalJobId jobId with
    | none => b.perform platform session ⟨now, .interrupt reason⟩
    | some _ => b.await (.cancel session reason)

/-- One step; an answer settles the call that waits for it. -/
def next (platform : Platform) (b : RuntimeBridge) (call : BridgeCall) : Option RuntimeBridge :=
  match call.op with
  | .new sessionId policy =>
    some { b with allSessions := b.allSessions ++ [.new sessionId policy] }
  | .call session op => some (b.perform platform session ⟨call.now, op⟩)
  | .start job => some (b.start platform call.now job)
  | .submitted ticket answer =>
    match b.waiting.get? ticket with
    | some (.submit job session) =>
      let b := { b with waiting := b.waiting.delete ticket }
      match answer with
      | .ok submission => some (b.settleSubmission platform call.now job session submission)
      | .error _ => some b
    | _ => none
  | .poll jobId => some (b.poll platform call.now jobId)
  | .polled ticket answer =>
    match b.waiting.get? ticket with
    | some (.poll session) =>
      let b := { b with waiting := b.waiting.delete ticket }
      match answer with
      | .ok poll => some (b.perform platform session ⟨call.now, pollCall call.now poll⟩)
      | .error _ => some b
    | _ => none
  | .interrupt jobId reason => some (b.interrupt platform call.now jobId reason)
  | .cancelled ticket answer =>
    match b.waiting.get? ticket with
    | some (.cancel session reason) =>
      let b := { b with waiting := b.waiting.delete ticket }
      match answer with
      | .ok _ => some (b.perform platform session ⟨call.now, .interrupt reason⟩)
      | .error _ => some b
    | _ => none

end RuntimeBridge

def bridgeRuns (platform : Platform) : Machine RuntimeBridge BridgeCall :=
  .ofNext (fun b => ∃ workerType policy, b = .empty workerType policy) (RuntimeBridge.next platform)

end ShipyardCp.Domain
