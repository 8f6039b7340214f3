import ShipyardCp.Domain.TaskUpdate
import ShipyardCp.Domain.LeaseManager
import ShipyardCp.Domain.ConcurrencyManager
import ShipyardCp.Domain.DoomLoopDetector
import ShipyardCp.Lib.KeyedMap
import ShipyardCp.Lib.Program

/-! The state of the control plane and the primitives through which every operation reads and writes
tasks and their event logs. -/

namespace ShipyardCp.Store

open Types Domain Lib

/-- Errors thrown by store operations: the coded ones with their context, and plain messages. -/
inductive StoreError where
  | objectiveRequired
  | typedRefRequired
  | typedRefInvalidFormat (typedRef : String)
  | typedRefMismatch (expected actual : String)
  | taskIdMismatch (expected actual : String)
  | fromStateMismatch (current expected : TaskState)
  | taskInvalidState (expected current : TaskState)
  | transitionNotAllowed (fromState toState : TaskState)
  | cannotDispatchWorker (state : TaskState)
  | jobNotFound
  | integrationStateNotFound
  | error (message : String)

def StoreError.message : StoreError → String
  | objectiveRequired => "objective is required"
  | typedRefRequired => "typed_ref is required"
  | typedRefInvalidFormat typedRef => "typed_ref invalid format: " ++ typedRef
  | typedRefMismatch expected actual =>
    "typed_ref mismatch: expected " ++ expected ++ ", got " ++ actual
  | taskIdMismatch expected actual => "task_id mismatch: expected " ++ expected ++ ", got " ++ actual
  | fromStateMismatch current expected =>
    "from_state mismatch: task is in " ++ current.text ++ ", not " ++ expected.text
  | taskInvalidState expected current =>
    "task is not in " ++ expected.text ++ " state (current: " ++ current.text ++ ")"
  | transitionNotAllowed fromState toState =>
    "transition not allowed: " ++ fromState.text ++ " -> " ++ toState.text
  | cannotDispatchWorker state => "state " ++ state.text ++ " cannot dispatch a worker job"
  | jobNotFound => "job not found"
  | integrationStateNotFound => "integration state not found"
  | error message => message

def StoreError.refusesState : StoreError → Bool
  | fromStateMismatch _ _ | taskInvalidState _ _ | transitionNotAllowed _ _
  | cannotDispatchWorker _ => true
  | _ => false

structure ControlPlane where
  tasks : KeyedMap Task.taskId
  events : InsertionMap String (List StateTransitionEvent)
  jobs : KeyedMap WorkerJob.jobId
  results : KeyedMap WorkerResult.jobId
  retryTracker : InsertionMap (String × WorkerStage) Int
  publishIdempotencyKeys : InsertionMap String String
  leaseManager : LeaseManager
  concurrencyManager : ConcurrencyManager
  doomLoopDetector : DoomLoopDetector
  executorInstanceId : String

/-- A fresh process with the given concurrency limits. -/
def ControlPlane.initial (concurrencyManager : ConcurrencyManager) (executorInstanceId : String) :
    ControlPlane where
  tasks := .empty
  events := .empty
  jobs := .empty
  results := .empty
  retryTracker := .empty
  publishIdempotencyKeys := .empty
  leaseManager := .empty
  concurrencyManager := concurrencyManager
  doomLoopDetector := .empty
  executorInstanceId := executorInstanceId

abbrev StoreM := EStateM StoreError ControlPlane

namespace ControlPlane

def task? (s : ControlPlane) (taskId : String) : Option Task := s.tasks.get? taskId

def log (s : ControlPlane) (taskId : String) : List StateTransitionEvent :=
  (s.events.get? taskId).getD []

def recordEvent (s : ControlPlane) (event : StateTransitionEvent) : ControlPlane :=
  { s with events := s.events.set event.taskId (s.log event.taskId ++ [event]) }

def setTask (s : ControlPlane) (task : Task) : ControlPlane := { s with tasks := s.tasks.put task }

def setJob (s : ControlPlane) (job : WorkerJob) : ControlPlane := { s with jobs := s.jobs.put job }

def setResult (s : ControlPlane) (result : WorkerResult) : ControlPlane :=
  { s with results := s.results.put result }

def commit (s : ControlPlane) (task : Task) (event : StateTransitionEvent) : ControlPlane :=
  (s.setTask task).recordEvent event

theorem task?_taskId {s : ControlPlane} {taskId : String} {task : Task}
    (h : s.task? taskId = some task) : task.taskId = taskId :=
  s.tasks.key_of_get? h

section simp

variable (s : ControlPlane) (task : Task) (event : StateTransitionEvent) (id : String)
  (job : WorkerJob) (result : WorkerResult)

@[simp] theorem recordEvent_tasks : (s.recordEvent event).tasks = s.tasks := rfl
@[simp] theorem recordEvent_task? : (s.recordEvent event).task? id = s.task? id := rfl
@[simp] theorem recordEvent_jobs : (s.recordEvent event).jobs = s.jobs := rfl
@[simp] theorem recordEvent_results : (s.recordEvent event).results = s.results := rfl
@[simp] theorem recordEvent_retryTracker : (s.recordEvent event).retryTracker = s.retryTracker := rfl
@[simp] theorem recordEvent_concurrencyManager :
    (s.recordEvent event).concurrencyManager = s.concurrencyManager := rfl

theorem recordEvent_log : (s.recordEvent event).log id =
    if id = event.taskId then s.log id ++ [event] else s.log id := by
  simp only [log, recordEvent, InsertionMap.get?_set]
  split_ifs with h
  · rw [h]; rfl
  · rfl

theorem setTask_task? : (s.setTask task).task? id =
    if id = task.taskId then some task else s.task? id := KeyedMap.get?_put ..

@[simp] theorem setTask_events : (s.setTask task).events = s.events := rfl
@[simp] theorem setTask_log : (s.setTask task).log id = s.log id := rfl
@[simp] theorem setTask_jobs : (s.setTask task).jobs = s.jobs := rfl
@[simp] theorem setTask_results : (s.setTask task).results = s.results := rfl
@[simp] theorem setTask_retryTracker : (s.setTask task).retryTracker = s.retryTracker := rfl
@[simp] theorem setTask_concurrencyManager :
    (s.setTask task).concurrencyManager = s.concurrencyManager := rfl

@[simp] theorem setJob_tasks : (s.setJob job).tasks = s.tasks := rfl
@[simp] theorem setJob_task? : (s.setJob job).task? id = s.task? id := rfl
@[simp] theorem setJob_events : (s.setJob job).events = s.events := rfl
@[simp] theorem setJob_log : (s.setJob job).log id = s.log id := rfl
@[simp] theorem setJob_results : (s.setJob job).results = s.results := rfl
@[simp] theorem setJob_retryTracker : (s.setJob job).retryTracker = s.retryTracker := rfl
@[simp] theorem setJob_concurrencyManager :
    (s.setJob job).concurrencyManager = s.concurrencyManager := rfl

@[simp] theorem setResult_tasks : (s.setResult result).tasks = s.tasks := rfl
@[simp] theorem setResult_task? : (s.setResult result).task? id = s.task? id := rfl
@[simp] theorem setResult_events : (s.setResult result).events = s.events := rfl
@[simp] theorem setResult_log : (s.setResult result).log id = s.log id := rfl
@[simp] theorem setResult_jobs : (s.setResult result).jobs = s.jobs := rfl
@[simp] theorem setResult_retryTracker : (s.setResult result).retryTracker = s.retryTracker := rfl
@[simp] theorem setResult_concurrencyManager :
    (s.setResult result).concurrencyManager = s.concurrencyManager := rfl

@[simp] theorem commit_jobs : (s.commit task event).jobs = s.jobs := rfl
@[simp] theorem commit_results : (s.commit task event).results = s.results := rfl
@[simp] theorem commit_retryTracker : (s.commit task event).retryTracker = s.retryTracker := rfl
@[simp] theorem commit_concurrencyManager :
    (s.commit task event).concurrencyManager = s.concurrencyManager := rfl

theorem commit_task? : (s.commit task event).task? id =
    if id = task.taskId then some task else s.task? id := by
  simp [commit, setTask_task?]

theorem commit_log : (s.commit task event).log id =
    if id = event.taskId then s.log id ++ [event] else s.log id := by
  simp [commit, recordEvent_log]

theorem commit_setTask {task' : Task} (h : task'.taskId = task.taskId) :
    (s.setTask task').commit task event = s.commit task event := by
  simp [commit, setTask, recordEvent, log, KeyedMap.put_put_of_key_eq _ h]

theorem setTask_stored {taskId : String} (h : s.task? taskId = some task) : s.setTask task = s := by
  rw [setTask, s.tasks.put_of_get? h]

@[simp] theorem setTask_commit : (s.commit task event).setTask task = s.commit task event := by
  simp [commit, setTask, recordEvent, log]

end simp

end ControlPlane

open ControlPlane

def requireTask (taskId : String) : StoreM Task := do
  match (← get).task? taskId with
  | none => throw (.error ("task not found: " ++ taskId))
  | some task => pure task

/-- The task as `transitionTask` stores it. -/
def transitioned (env : Env) (task : Task) (toState : TaskState) : Task :=
  { task with
    state := toState
    version := task.version + 1
    updatedAt := env.now
    completedAt := if isTerminal toState then some env.now else task.completedAt
    blockedContext := if toState ≠ .blocked then none else task.blockedContext }

/-- The event of a transition; `n` counts the ids the operation has drawn. -/
def transitionEvent (env : Env) (n : Nat) (task : Task) (toState : TaskState)
    (input : TransitionInput) : StateTransitionEvent where
  eventId := createId env n "evt"
  taskId := task.taskId
  fromState := task.state
  toState := toState
  actorType := input.actorType
  actorId := input.actorId
  reason := input.reason
  jobId := input.jobId
  artifactIds := input.artifactIds
  occurredAt := env.now

def validateTransition (fromState toState : TaskState) : StoreM Unit := do
  if !canTransition fromState toState then throw (.transitionNotAllowed fromState toState)

/-- Checks the transition on the task it is given, not on the stored one, and stores the result. -/
def transitionTask (env : Env) (n : Nat) (task : Task) (toState : TaskState)
    (input : TransitionInput) : StoreM (StateTransitionEvent × Task) := do
  validateTransition task.state toState
  let event := transitionEvent env n task toState input
  let updatedTask := transitioned env task toState
  modify fun s => s.commit updatedTask event
  pure (event, updatedTask)

def updateTask (env : Env) (taskId : String) (update : TaskUpdate) : StoreM Task := do
  let task ← requireTask taskId
  let updatedTask := applyTaskUpdate env task update
  modify fun s => s.setTask updatedTask
  pure updatedTask

section spec

variable {s : ControlPlane}

@[simp] theorem wp_requireTask {taskId : String}
    {Q : EStateM.Result StoreError ControlPlane Task → Prop} :
    wp (requireTask taskId) Q s ↔
      match s.task? taskId with
      | none => Q (.error (.error ("task not found: " ++ taskId)) s)
      | some task => Q (.ok task s) := by
  simp only [requireTask, wp_bind, wp_get, andThen_ok]
  cases s.task? taskId <;> rfl

@[simp] theorem wp_transitionTask {env : Env} {n : Nat} {task : Task} {toState : TaskState}
    {input : TransitionInput}
    {Q : EStateM.Result StoreError ControlPlane (StateTransitionEvent × Task) → Prop} :
    wp (transitionTask env n task toState input) Q s ↔
      if canTransition task.state toState then
        Q (.ok (transitionEvent env n task toState input, transitioned env task toState)
          (s.commit (transitioned env task toState) (transitionEvent env n task toState input)))
      else Q (.error (.transitionNotAllowed task.state toState) s) := by
  simp only [transitionTask, validateTransition, wp_bind]
  by_cases h : canTransition task.state toState = true <;> simp [h]

@[simp] theorem wp_updateTask {env : Env} {taskId : String} {update : TaskUpdate}
    {Q : EStateM.Result StoreError ControlPlane Task → Prop} :
    wp (updateTask env taskId update) Q s ↔
      match s.task? taskId with
      | none => Q (.error (.error ("task not found: " ++ taskId)) s)
      | some task =>
        Q (.ok (applyTaskUpdate env task update) (s.setTask (applyTaskUpdate env task update))) := by
  simp only [updateTask, wp_bind, wp_requireTask]
  cases s.task? taskId <;> simp

variable (env : Env) (n : Nat) (task : Task) (toState : TaskState) (input : TransitionInput)

@[simp] theorem transitioned_taskId : (transitioned env task toState).taskId = task.taskId := rfl
@[simp] theorem transitioned_state : (transitioned env task toState).state = toState := rfl
@[simp] theorem transitioned_version :
    (transitioned env task toState).version = task.version + 1 := rfl
@[simp] theorem transitioned_typedRef : (transitioned env task toState).typedRef = task.typedRef := rfl
@[simp] theorem transitioned_activeJobId :
    (transitioned env task toState).activeJobId = task.activeJobId := rfl
@[simp] theorem transitioned_publishPlan :
    (transitioned env task toState).publishPlan = task.publishPlan := rfl
@[simp] theorem transitioned_pendingApprovalToken :
    (transitioned env task toState).pendingApprovalToken = task.pendingApprovalToken := rfl
@[simp] theorem transitioned_lastVerdict :
    (transitioned env task toState).lastVerdict = task.lastVerdict := rfl
@[simp] theorem transitioned_manualChecklist :
    (transitioned env task toState).manualChecklist = task.manualChecklist := rfl
@[simp] theorem transitioned_blockedContext : (transitioned env task toState).blockedContext =
    if toState ≠ .blocked then none else task.blockedContext := rfl
@[simp] theorem transitionEvent_taskId :
    (transitionEvent env n task toState input).taskId = task.taskId := rfl
@[simp] theorem transitionEvent_fromState :
    (transitionEvent env n task toState input).fromState = task.state := rfl
@[simp] theorem transitionEvent_toState :
    (transitionEvent env n task toState input).toState = toState := rfl

end spec

end ShipyardCp.Store
