import Mathlib.Algebra.Order.Ring.Rat
import ShipyardCp.Domain.RuntimeTools
import ShipyardCp.Lib.KeyedMap
import ShipyardCp.Lib.Transition
import ShipyardCp.Types.Job

/-! The session of a worker's runtime: its state, the turns recorded in it, the inputs admitted to it
and promoted to turns, and the tool calls its policy decides. -/

namespace ShipyardCp.Domain

open Types Lib Lib.NodePath Lib.JsText

inductive SessionState where
  | created | running | interrupted | completed | failed | closed
  deriving DecidableEq

def SessionState.text : SessionState → String
  | created => "created"
  | running => "running"
  | interrupted => "interrupted"
  | completed => "completed"
  | failed => "failed"
  | closed => "closed"

inductive RuntimeEventType where
  | started | inputAdmitted | inputPromoted | turnRecorded | toolDecision | interrupted | completed
  | failed | closed | restorePointCreated
  deriving DecidableEq

structure RuntimeEvent where
  eventId : String
  sequence : Nat
  eventType : RuntimeEventType
  message : String
  createdAt : Timestamp
  metadata : Option (List (String × Json))

inductive TurnRole where
  | user | worker | system | tool

def TurnRole.text : TurnRole → String
  | user => "user"
  | worker => "worker"
  | system => "system"
  | tool => "tool"

/-- A turn as it is sent. -/
structure TurnRequest where
  role : TurnRole
  content : String
  toolCalls : Option (List ToolInvocationRequest) := none

structure RuntimeTurn extends TurnRequest where
  createdAt : Timestamp

inductive InputDelivery where
  | steer | queue
  deriving DecidableEq

def InputDelivery.text : InputDelivery → String
  | steer => "steer"
  | queue => "queue"

inductive InputState where
  | admitted | promoted
  deriving DecidableEq

structure RuntimeInput where
  inputId : String
  sessionId : String
  content : String
  delivery : InputDelivery
  state : InputState
  createdAt : Timestamp
  promotedAt : Option Timestamp := none
  deriving DecidableEq

structure InputRequest where
  inputId : String
  content : String
  delivery : Option InputDelivery := none
  resume : Option Bool := none

structure InputReceipt where
  input : RuntimeInput
  exactRetry : Bool
  scheduled : Bool

structure RuntimeSession where
  sessionId : String
  policy : WorkerRuntimePolicy
  job : Option WorkerJob
  state : SessionState
  turns : List RuntimeTurn
  events : List RuntimeEvent
  admittedInputs : KeyedMap RuntimeInput.inputId
  toolCallCount : Nat
  nextEventSequence : Nat

structure SessionSnapshot where
  sessionId : String
  jobId : String
  workerType : WorkerType
  stage : WorkerStage
  state : SessionState
  turnCount : Nat
  toolCallCount : Nat
  admittedInputCount : Nat
  events : List RuntimeEvent
  eventCursor : Nat

def violationText : ViolationCode → String
  | .unknownTool => "unknown_tool"
  | .restrictedTool => "restricted_tool"
  | .subagentDisabled => "subagent_disabled"
  | .pathInvalid => "path_invalid"
  | .pathNotAllowed => "path_not_allowed"
  | .staleToolRegistration => "stale_tool_registration"

namespace RuntimeSession

/-- A new session. -/
def new (sessionId : String) (policy : WorkerRuntimePolicy) : RuntimeSession where
  sessionId := sessionId
  policy := policy
  job := none
  state := .created
  turns := []
  events := []
  admittedInputs := .empty
  toolCallCount := 0
  nextEventSequence := 0

/-- The snapshot that every operation but `admitInput` hands out of the session it leaves. -/
def collect (s : RuntimeSession) : SessionSnapshot where
  sessionId := s.sessionId
  jobId := match s.job with
    | some job => job.jobId
    | none => ""
  workerType := match s.job with
    | some job => job.workerType
    | none => .codex
  stage := match s.job with
    | some job => job.stage
    | none => .plan
  state := s.state
  turnCount := s.turns.length
  toolCallCount := s.toolCallCount
  admittedInputCount := s.admittedInputs.values.length
  events := s.events
  eventCursor := s.nextEventSequence

def collectEvents (s : RuntimeSession) (afterSequence : Nat) : List RuntimeEvent :=
  s.events.filter fun event => event.sequence > afterSequence

def recordEvent (s : RuntimeSession) (now : Timestamp) (eventType : RuntimeEventType)
    (message : String) (metadata : Option (List (String × Json))) : RuntimeSession :=
  let sequence := s.nextEventSequence + 1
  { s with
    nextEventSequence := sequence
    events := s.events ++
      [{ eventId := s!"evt_{s.sessionId}_{sequence}", sequence, eventType, message,
         createdAt := now, metadata }] }

def assertRunning (s : RuntimeSession) : Except String Unit :=
  if s.state ≠ .running then .error s!"session is not running: {s.state.text}" else .ok ()

def start (s : RuntimeSession) (now : Timestamp) (job : WorkerJob) : RuntimeSession :=
  { s with job := some job, state := .running }.recordEvent now .started
    s!"session started for job {job.jobId}" none

def admitInput (s : RuntimeSession) (now : Timestamp) (request : InputRequest) :
    Except String (InputReceipt × RuntimeSession) := do
  s.assertRunning
  let delivery := request.delivery.getD .steer
  let scheduled := request.resume ≠ some false
  match s.admittedInputs.get? request.inputId with
  | some existing =>
    if existing.content ≠ request.content || existing.delivery ≠ delivery then
      throw s!"input_id reuse conflicts with admitted input: {request.inputId}"
    else
      return ({ input := existing, exactRetry := true, scheduled }, s)
  | none =>
    let admitted : RuntimeInput :=
      { inputId := request.inputId, sessionId := s.sessionId, content := request.content, delivery,
        state := .admitted, createdAt := now }
    let s : RuntimeSession := { s with admittedInputs := s.admittedInputs.put admitted }
    return ({ input := admitted, exactRetry := false, scheduled },
      s.recordEvent now .inputAdmitted s!"input admitted: {request.inputId}"
        (some [("input_id", .str request.inputId), ("delivery", .str delivery.text),
          ("scheduled", .bool scheduled)]))

def promotedAt (now : Timestamp) (input : RuntimeInput) : RuntimeInput :=
  { input with state := .promoted, promotedAt := some now }

def inputTurn (now : Timestamp) (input : RuntimeInput) : RuntimeTurn where
  role := .user
  content := input.content
  createdAt := now

def promoteInput (now : Timestamp) (s : RuntimeSession) (input : RuntimeInput) : RuntimeSession :=
  { s with
    admittedInputs := s.admittedInputs.put (promotedAt now input)
    turns := s.turns ++ [inputTurn now input]
  }.recordEvent now .inputPromoted s!"input promoted: {input.inputId}"
    (some [("input_id", .str input.inputId), ("delivery", .str input.delivery.text)])

def promoteLoop (now : Timestamp) : List RuntimeInput → RuntimeSession → RuntimeSession
  | [], s => s
  | input :: inputs, s =>
    if input.state = .promoted then promoteLoop now inputs s
    else
      let s := promoteInput now s input
      if input.delivery = .queue then s else promoteLoop now inputs s

def promoteAdmittedInputs (s : RuntimeSession) (now : Timestamp) : Except String RuntimeSession := do
  s.assertRunning
  return promoteLoop now s.admittedInputs.values s

def interrupt (s : RuntimeSession) (now : Timestamp) (reason : String) : RuntimeSession :=
  { s with state := .interrupted }.recordEvent now .interrupted reason none

def complete (s : RuntimeSession) (now : Timestamp) (summary : String) : RuntimeSession :=
  { s with state := .completed }.recordEvent now .completed summary none

def fail (s : RuntimeSession) (now : Timestamp) (reason : String) : RuntimeSession :=
  { s with state := .failed }.recordEvent now .failed reason none

def close (s : RuntimeSession) (now : Timestamp) : RuntimeSession :=
  { s with state := .closed }.recordEvent now .closed "session closed" none

def recordDecision (s : RuntimeSession) (now : Timestamp) (call : ToolInvocationRequest)
    (decision : ToolInvocationDecision) : RuntimeSession :=
  s.recordEvent now .toolDecision decision.reason
    (some [("tool", .str call.tool), ("allowed", .bool decision.allowed),
      ("violation_code", match decision.violationCode with
        | some code => .str (violationText code)
        | none => .null)])

/-- Decides the tool calls of a turn in their order, up to the first that is refused; the reason is
that one's. -/
def decideCalls (platform : Platform) (registry : RuntimeToolRegistry) (now : Timestamp) :
    List ToolInvocationRequest → RuntimeSession → RuntimeSession × Option String
  | [], s => (s, none)
  | call :: calls, s =>
    let decision := decideInvocation platform registry s.policy call
    let s := s.recordDecision now call decision
    if decision.allowed then decideCalls platform registry now calls s
    else (s, some decision.reason)

/-- Records a turn, or fails the session where it exceeds a limit or a tool call is refused. -/
def send (s : RuntimeSession) (platform : Platform) (registry : RuntimeToolRegistry)
    (now : Timestamp) (turn : TurnRequest) : Except String RuntimeSession := do
  s.assertRunning
  if s.turns.length ≥ s.policy.maxTurns then
    return s.fail now s!"max_turns exceeded: {s.policy.maxTurns}"
  else
    let toolCalls := turn.toolCalls.getD []
    if s.toolCallCount + toolCalls.length > s.policy.maxToolCalls then
      return s.fail now s!"max_tool_calls exceeded: {s.policy.maxToolCalls}"
    else
      match decideCalls platform registry now toolCalls s with
      | (s, some reason) => return s.fail now reason
      | (s, none) =>
        let s : RuntimeSession := { s with
          toolCallCount := s.toolCallCount + toolCalls.length
          turns := s.turns ++ [⟨turn, now⟩] }
        return s.recordEvent now .turnRecorded s!"turn recorded: {turn.role.text}" none

end RuntimeSession

/-- The calls of a session; a tool registry may have changed since the last one. -/
inductive SessionOp where
  | start (job : WorkerJob)
  | admitInput (request : InputRequest)
  | promoteAdmittedInputs
  | send (registry : RuntimeToolRegistry) (turn : TurnRequest)
  | interrupt (reason : String)
  | complete (summary : String)
  | fail (reason : String)
  | close

structure SessionCall where
  now : Timestamp
  op : SessionOp

namespace RuntimeSession

variable (platform : Platform) (s : RuntimeSession)

/-- What a call returns: the session it leaves, or the error it throws. -/
def answer (call : SessionCall) : Except String RuntimeSession :=
  match call.op with
  | .start job => .ok (s.start call.now job)
  | .admitInput request => (s.admitInput call.now request).map (·.2)
  | .promoteAdmittedInputs => s.promoteAdmittedInputs call.now
  | .send registry turn => s.send platform registry call.now turn
  | .interrupt reason => .ok (s.interrupt call.now reason)
  | .complete summary => .ok (s.complete call.now summary)
  | .fail reason => .ok (s.fail call.now reason)
  | .close => .ok (s.close call.now)

def perform (call : SessionCall) : RuntimeSession :=
  match s.answer platform call with
  | .ok s' => s'
  | .error _ => s

theorem perform_of_ok {platform : Platform} {s s' : RuntimeSession} {call : SessionCall}
    (h : s.answer platform call = .ok s') : s.perform platform call = s' := by
  rw [perform, h]

theorem perform_of_error {platform : Platform} {s : RuntimeSession} {call : SessionCall}
    {error : String} (h : s.answer platform call = .error error) :
    s.perform platform call = s := by
  rw [perform, h]

section fields

variable {platform} {s} {now : Timestamp} {eventType : RuntimeEventType} {message : String}
  {metadata : Option (List (String × Json))}

@[simp] theorem recordEvent_state :
    (s.recordEvent now eventType message metadata).state = s.state := rfl

@[simp] theorem recordEvent_policy :
    (s.recordEvent now eventType message metadata).policy = s.policy := rfl

@[simp] theorem recordEvent_turns :
    (s.recordEvent now eventType message metadata).turns = s.turns := rfl

@[simp] theorem recordEvent_admittedInputs :
    (s.recordEvent now eventType message metadata).admittedInputs = s.admittedInputs := rfl

@[simp] theorem recordEvent_toolCallCount :
    (s.recordEvent now eventType message metadata).toolCallCount = s.toolCallCount := rfl

theorem assertRunning_eq_ok_iff : s.assertRunning = .ok () ↔ s.state = .running := by
  unfold assertRunning
  split_ifs with hstate
  · simp [hstate]
  · simpa using hstate

end fields

def assertsRunning : SessionOp → Bool
  | .admitInput _ => true
  | .promoteAdmittedInputs => true
  | .send _ _ => true
  | _ => false

theorem perform_of_not_running {platform : Platform} {s : RuntimeSession} {call : SessionCall}
    (hstate : s.state ≠ .running) (hop : assertsRunning call.op = true) :
    s.perform platform call = s := by
  have hassert : s.assertRunning = .error s!"session is not running: {s.state.text}" := if_pos hstate
  obtain ⟨now, op⟩ := call
  cases op with
  | admitInput request =>
    have hthrows : s.admitInput now request = .error s!"session is not running: {s.state.text}" := by
      unfold admitInput
      rw [hassert]
      rfl
    have hanswer : s.answer platform ⟨now, .admitInput request⟩ =
        (s.admitInput now request).map (·.2) := rfl
    rw [hthrows] at hanswer
    exact perform_of_error hanswer
  | promoteAdmittedInputs =>
    have hthrows : s.promoteAdmittedInputs now =
        .error s!"session is not running: {s.state.text}" := by
      unfold promoteAdmittedInputs
      rw [hassert]
      rfl
    exact perform_of_error hthrows
  | send registry turn =>
    have hthrows : s.send platform registry now turn =
        .error s!"session is not running: {s.state.text}" := by
      unfold send
      rw [hassert]
      rfl
    exact perform_of_error hthrows
  | _ => cases hop

def nextInputs : List RuntimeInput → List RuntimeInput
  | [] => []
  | input :: inputs =>
    if input.state = .promoted then nextInputs inputs
    else if input.delivery = .queue then [input]
    else input :: nextInputs inputs

theorem promoteLoop_eq_foldl (now : Timestamp) (inputs : List RuntimeInput) :
    ∀ s, promoteLoop now inputs s = (nextInputs inputs).foldl (promoteInput now) s := by
  induction inputs with
  | nil => exact fun _ => rfl
  | cons input inputs ih =>
    intro s
    rw [promoteLoop, nextInputs]
    split_ifs
    · exact ih s
    · rfl
    · exact ih _

section promoted

variable {now : Timestamp} {inputs : List RuntimeInput} {s}

theorem foldl_promoteInput (now : Timestamp) (inputs : List RuntimeInput) : ∀ s : RuntimeSession,
      (inputs.foldl (promoteInput now) s).state = s.state ∧
      (inputs.foldl (promoteInput now) s).policy = s.policy ∧
      (inputs.foldl (promoteInput now) s).toolCallCount = s.toolCallCount ∧
      (inputs.foldl (promoteInput now) s).turns = s.turns ++ inputs.map (inputTurn now) ∧
      (inputs.foldl (promoteInput now) s).admittedInputs =
        s.admittedInputs.putAll (inputs.map (promotedAt now)) := by
  induction inputs with
  | nil => exact fun s => by simp [KeyedMap.putAll]
  | cons input inputs ih =>
    intro s
    obtain ⟨hstate, hpolicy, hcount, hturns, hinputs⟩ := ih (promoteInput now s input)
    refine ⟨hstate, hpolicy, hcount, ?_, hinputs⟩
    rw [List.foldl_cons, hturns]
    simp [promoteInput]

theorem promoteAdmittedInputs_eq_ok (hrunning : s.state = .running) (now : Timestamp) :
    s.promoteAdmittedInputs now =
      .ok ((nextInputs s.admittedInputs.values).foldl (promoteInput now) s) := by
  unfold promoteAdmittedInputs
  rw [assertRunning_eq_ok_iff.mpr hrunning, promoteLoop_eq_foldl]
  rfl

end promoted

end RuntimeSession

def sessionRuns (platform : Platform) : Machine RuntimeSession SessionCall :=
  .ofNext (fun s => ∃ sessionId policy, s = .new sessionId policy)
    fun s call => some (s.perform platform call)

/-! The conversations of runtime sessions: their turns, and the summary of the turns that were
compacted. -/

structure ConversationRecord where
  sessionId : String
  jobId : String
  turns : List RuntimeTurn
  compactedSummary : Option CodeUnits
  artifactRefs : List String
  updatedAt : Timestamp

structure CompactionResult where
  sessionId : String
  retainedTurns : Nat
  compactedTurns : Nat
  summary : CodeUnits

structure ConversationInput where
  sessionId : String
  jobId : String
  artifactRefs : Option (List String) := none

/-- The line of a turn: its role, the start of its content in one line, and how many calls it made. -/
def renderTurnLine (turn : RuntimeTurn) : CodeUnits :=
  let content := (charCodes (trim (foldSpaces turn.content.toList))).take 160
  let toolCount := (turn.toolCalls.map List.length).getD 0
  units s!"- {TurnRole.text turn.role}: " ++ content ++
    if 0 < toolCount then units s!" ({toolCount} tool call(s))" else []

def summaryLimit : Nat := 8000

def renderCompactionSummary (previous : Option CodeUnits) (turns : List RuntimeTurn) : CodeUnits :=
  let lines := turns.map renderTurnLine
  (joinLines ((previous.toList ++ lines).filter fun line => !line.isEmpty)).take summaryLimit

def mergeUnique (a b : List String) : List String := (a ++ b).eraseDups

structure ConversationStore where
  conversations : InsertionMap String ConversationRecord

namespace ConversationStore

def new : ConversationStore := ⟨.empty⟩

def put (s : ConversationStore) (sessionId : String) (record : ConversationRecord) :
    ConversationStore :=
  ⟨s.conversations.set sessionId record⟩

def get (s : ConversationStore) (sessionId : String) : Option ConversationRecord :=
  s.conversations.get? sessionId

def upsert (s : ConversationStore) (now : Timestamp) (input : ConversationInput) :
    ConversationRecord × ConversationStore :=
  match s.get input.sessionId with
  | some existing =>
    let updated :=
      { existing with
        artifactRefs := mergeUnique existing.artifactRefs (input.artifactRefs.getD [])
        updatedAt := now }
    (updated, s.put input.sessionId updated)
  | none =>
    let created : ConversationRecord :=
      { sessionId := input.sessionId
        jobId := input.jobId
        turns := []
        compactedSummary := none
        artifactRefs := input.artifactRefs.getD []
        updatedAt := now }
    (created, s.put input.sessionId created)

def requireRecord (s : ConversationStore) (sessionId : String) : Except String ConversationRecord :=
  match s.get sessionId with
  | some record => .ok record
  | none => .error s!"conversation not found: {sessionId}"

def appendTurn (s : ConversationStore) (now : Timestamp) (sessionId : String) (turn : RuntimeTurn) :
    Except String (ConversationRecord × ConversationStore) := do
  let record ← s.requireRecord sessionId
  let updated := { record with turns := record.turns ++ [turn], updatedAt := now }
  return (updated, s.put sessionId updated)

def compactRecord (record : ConversationRecord) (now : Timestamp) (retainLastTurns : Nat) :
    ConversationRecord :=
  { record with
    turns := record.turns.rtake retainLastTurns
    compactedSummary := some
      (renderCompactionSummary record.compactedSummary (record.turns.rdrop retainLastTurns))
    updatedAt := now }

def compact (s : ConversationStore) (now : Timestamp) (sessionId : String) (retainLastTurns : ℚ) :
    Except String (CompactionResult × ConversationStore) :=
  if retainLastTurns.den ≠ 1 ∨ retainLastTurns < 1 then
    .error "retainLastTurns must be a positive integer"
  else do
    let record ← s.requireRecord sessionId
    let retainLastTurns := retainLastTurns.num.toNat
    if record.turns.length ≤ retainLastTurns then
      return (⟨sessionId, record.turns.length, 0, record.compactedSummary.getD []⟩, s)
    let updated := compactRecord record now retainLastTurns
    return (⟨sessionId, updated.turns.length, (record.turns.rdrop retainLastTurns).length,
      updated.compactedSummary.getD []⟩, s.put sessionId updated)

end ConversationStore

end ShipyardCp.Domain
