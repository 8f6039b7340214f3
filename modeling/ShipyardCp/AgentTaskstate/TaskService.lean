import ShipyardCp.Lib.InsertionMap
import ShipyardCp.Lib.Transition
import ShipyardCp.Types.Base

/-! Tasks of the task-state package and the transitions between their states. -/

namespace ShipyardCp.AgentTaskstate

open Lib
open Types (Timestamp)

inductive TaskState where
  | proposed | ready | inProgress | blocked | review | done | cancelled
  deriving DecidableEq

def TaskState.text : TaskState → String
  | .proposed => "proposed"
  | .ready => "ready"
  | .inProgress => "in_progress"
  | .blocked => "blocked"
  | .review => "review"
  | .done => "done"
  | .cancelled => "cancelled"

inductive ActorType where
  | human | agent | system
  deriving DecidableEq

inductive TaskKind where
  | bugfix | feature | research
  deriving DecidableEq

inductive TaskPriority where
  | low | medium | high | critical
  deriving DecidableEq

structure Task where
  id : String
  kind : TaskKind
  title : String
  goal : String
  status : TaskState
  priority : TaskPriority
  ownerType : ActorType
  ownerId : String
  revision : Nat
  createdAt : Timestamp
  updatedAt : Timestamp
  completedAt : Option Timestamp
  deriving DecidableEq

structure StateTransition where
  id : String
  taskId : String
  fromStatus : Option TaskState
  toStatus : TaskState
  reason : String
  actorType : ActorType
  actorId : Option String
  runId : Option String
  changedAt : Timestamp
  deriving DecidableEq

structure TransitionRequest where
  toStatus : TaskState
  reason : String
  actorType : ActorType
  actorId : Option String
  runId : Option String
  deriving DecidableEq

/-- `VALID_TRANSITIONS` -/
def validTransitions : TaskState → List TaskState
  | .proposed => [.proposed, .ready, .inProgress, .blocked, .review, .cancelled]
  | .ready => [.ready, .proposed, .inProgress, .blocked, .review, .cancelled]
  | .inProgress => [.inProgress, .proposed, .ready, .blocked, .review, .done, .cancelled]
  | .blocked => [.blocked, .proposed, .ready, .inProgress, .review, .cancelled]
  | .review => [.review, .proposed, .ready, .inProgress, .blocked, .done, .cancelled]
  | .done => [.done, .review, .inProgress]
  | .cancelled => [.cancelled, .proposed, .ready]

def isValidTransition : Option TaskState → TaskState → Bool
  | none, target => target = .proposed
  | some source, target => target ∈ validTransitions source

def getValidTargetStates (source : TaskState) : List TaskState := validTransitions source

def TaskState.isTerminal (status : TaskState) : Bool := status = .done ∨ status = .cancelled

/-- The task that a transition starts from, once it was read. -/
def checkTransition (taskId : String) (stored : Option Task) (request : TransitionRequest) :
    Except String Task :=
  match stored with
  | none => .error ("Task not found: " ++ taskId)
  | some task =>
    if isValidTransition (some task.status) request.toStatus then .ok task
    else
      let targets := ", ".intercalate ((getValidTargetStates task.status).map TaskState.text)
      .error ("Invalid transition from '" ++ task.status.text ++ "' to '" ++ request.toStatus.text ++
        "'. Valid targets: " ++ (if targets = "" then "none" else targets))

def transitionRecord (id : String) (now : Timestamp) (task : Task) (request : TransitionRequest) :
    StateTransition where
  id := id
  taskId := task.id
  fromStatus := some task.status
  toStatus := request.toStatus
  reason := request.reason
  actorType := request.actorType
  actorId := request.actorId
  runId := request.runId
  changedAt := now

def transitionedTask (task : Task) (transition : StateTransition) : Task :=
  { task with
    status := transition.toStatus
    revision := task.revision + 1
    updatedAt := transition.changedAt
    completedAt := if transition.toStatus.isTerminal then some transition.changedAt
      else task.completedAt }

/-- The record of a task's creation. -/
def proposedRecord (id : String) (task : Task) : StateTransition where
  id := id
  taskId := task.id
  fromStatus := none
  toStatus := .proposed
  reason := "Task created"
  actorType := .system
  actorId := none
  runId := none
  changedAt := task.createdAt

/-! Creating, updating and moving tasks. Each call is split at its awaits, between which other calls run;
a single command of the backend is atomic. -/

structure CreateTaskRequest where
  kind : TaskKind
  title : String
  goal : String
  priority : Option TaskPriority
  ownerType : Option ActorType
  ownerId : Option String

/-- The fields that an update may name. -/
structure TaskUpdates where
  title : Option String
  goal : Option String
  priority : Option TaskPriority
  ownerType : Option ActorType
  ownerId : Option String
  deriving DecidableEq

/-- The task that is created under an id. -/
def proposedTask (id : String) (now : Timestamp) (request : CreateTaskRequest) : Task where
  id := "task-" ++ id
  kind := request.kind
  title := request.title
  goal := request.goal
  status := .proposed
  priority := request.priority.getD .medium
  ownerType := request.ownerType.getD .system
  ownerId := request.ownerId.getD "default"
  revision := 1
  createdAt := now
  updatedAt := now
  completedAt := none

/-- What an update writes over the task that it read. -/
def updatedTask (now : Timestamp) (task : Task) (updates : TaskUpdates) : Task :=
  { task with
    title := updates.title.getD task.title
    goal := updates.goal.getD task.goal
    priority := updates.priority.getD task.priority
    ownerType := updates.ownerType.getD task.ownerType
    ownerId := updates.ownerId.getD task.ownerId
    revision := task.revision + 1
    updatedAt := now }

def checkUpdate (taskId : String) (stored : Option Task) : Except String Task :=
  match stored with
  | none => .error ("Task not found: " ++ taskId)
  | some task => .ok task

/-- The tasks of the backend and the transitions recorded of each. -/
structure TaskBackend where
  tasks : InsertionMap String Task
  transitions : InsertionMap String (List StateTransition)

namespace TaskBackend

variable (b : TaskBackend)

def empty : TaskBackend := ⟨.empty, .empty⟩

def getTask (taskId : String) : Option Task := b.tasks.get? taskId

/-- `createTask` and `updateTask` -/
def setTask (task : Task) : TaskBackend := { b with tasks := b.tasks.set task.id task }

def getTransitions (taskId : String) : List StateTransition := (b.transitions.get? taskId).getD []

def addTransition (transition : StateTransition) : TaskBackend :=
  { b with
    transitions := b.transitions.set transition.taskId
      (b.getTransitions transition.taskId ++ [transition]) }

end TaskBackend

/-- A call that waits for the backend, with the task it has created or read. -/
inductive PendingCall where
  | propose (task : Task)
  | transition (task : Task) (request : TransitionRequest)
  | move (task : Task) (transition : StateTransition)
  | update (task : Task) (updates : TaskUpdates)
  deriving DecidableEq

def PendingCall.task : PendingCall → Task
  | .propose task | .transition task _ | .move task _ | .update task _ => task

structure TaskCalls where
  backend : TaskBackend
  pending : List PendingCall

/-- A call begins, or one that waits goes on to its next command. -/
inductive TaskAction where
  | createTask (id : String) (now : Timestamp) (request : CreateTaskRequest)
  | addProposed (task : Task) (id : String)
  | transition (taskId : String) (request : TransitionRequest)
  | addTransition (task : Task) (request : TransitionRequest) (id : String) (now : Timestamp)
  | moveTask (task : Task) (transition : StateTransition)
  | updateTask (taskId : String) (updates : TaskUpdates)
  | writeUpdate (task : Task) (updates : TaskUpdates) (now : Timestamp)

namespace TaskCalls

variable (s : TaskCalls)

def resume (call : PendingCall) (backend : TaskBackend) (again : List PendingCall) :
    Option TaskCalls :=
  if call ∈ s.pending then some ⟨backend, s.pending.erase call ++ again⟩ else none

def beginWith (read : Except String Task) (call : Task → PendingCall) : TaskCalls :=
  match read with
  | .ok task => { s with pending := s.pending ++ [call task] }
  | .error _ => s

/-- The ids that are drawn are new. -/
def next : TaskAction → Option TaskCalls
  | .createTask id now request =>
    let task := proposedTask id now request
    if (s.backend.getTask task.id).isNone then
      some ⟨s.backend.setTask task, s.pending ++ [.propose task]⟩
    else none
  | .addProposed task id =>
    s.resume (.propose task) (s.backend.addTransition (proposedRecord id task)) []
  | .transition taskId request =>
    some (s.beginWith (checkTransition taskId (s.backend.getTask taskId) request)
      (.transition · request))
  | .addTransition task request id now =>
    let transition := transitionRecord id now task request
    s.resume (.transition task request) (s.backend.addTransition transition) [.move task transition]
  | .moveTask task transition =>
    s.resume (.move task transition) (s.backend.setTask (transitionedTask task transition)) []
  | .updateTask taskId updates =>
    some (s.beginWith (checkUpdate taskId (s.backend.getTask taskId)) (.update · updates))
  | .writeUpdate task updates now =>
    s.resume (.update task updates) (s.backend.setTask (updatedTask now task updates)) []

end TaskCalls

def taskCalls : Machine TaskCalls TaskAction := .ofNext (· = ⟨.empty, []⟩) TaskCalls.next

end ShipyardCp.AgentTaskstate
