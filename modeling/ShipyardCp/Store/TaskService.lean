import ShipyardCp.Domain.ResultValidator
import ShipyardCp.Store.State

/-! Creating tasks, recording transitions from outside and cancelling. -/

namespace ShipyardCp.Store

open Types Domain Lib

def validateCreateRequest (request : CreateTaskRequest) : StoreM Unit := do
  if JsText.trim request.objective.toList = [] then throw .objectiveRequired
  if request.typedRef = "" then throw .typedRefRequired
  if !isValidTypedRef request.typedRef then throw (.typedRefInvalidFormat request.typedRef)

/-- The task a create request asks for. -/
def newTask (env : Env) (request : CreateTaskRequest) : Task where
  taskId := createId env 0 "task"
  title := request.title
  objective := request.objective
  typedRef := request.typedRef
  description := request.description
  state := .queued
  version := 0
  riskLevel := request.riskLevel.getD .medium
  repoRef := request.repoRef
  repoPolicy := request.repoPolicy
  activeJobId := none
  latestJobIds := none
  lastVerdict := none
  workspaceRef := none
  publishPlan := request.publishPlan
  pendingApprovalToken := none
  pendingApprovalExpiresAt := none
  blockedContext := none
  integration := none
  integrationRun := none
  publishRun := none
  artifacts := some []
  manualChecklist := none
  resolverRefs := none
  labels := some (request.labels.getD [])
  externalRefs := some (request.externalRefs.getD [])
  contextBundleRef := none
  rollbackNotes := none
  retryCounts := none
  lastFailureClass := none
  reworkContext := none
  acceptanceGateContext := none
  detectedSideEffects := none
  loopFingerprint := none
  createdAt := env.now
  updatedAt := env.now
  completedAt := none

/-- The event that opens the log of a new task. -/
def createdEvent (env : Env) (task : Task) : StateTransitionEvent where
  eventId := createId env 1 "evt"
  taskId := task.taskId
  fromState := .queued
  toState := .queued
  actorType := .controlPlane
  actorId := "shipyard-cp"
  reason := "task created"
  jobId := none
  artifactIds := none
  occurredAt := env.now

def createTask (env : Env) (request : CreateTaskRequest) : StoreM Task := do
  validateCreateRequest request
  let task := newTask env request
  modify fun s => s.commit task (createdEvent env task)
  pure task

def validateTransitionEvent (event : StateTransitionEvent) (taskId : String)
    (currentState : TaskState) : StoreM Unit := do
  if event.taskId ≠ taskId then throw (.taskIdMismatch taskId event.taskId)
  if event.fromState ≠ currentState then throw (.fromStateMismatch currentState event.fromState)

/-- The task as `recordTransition` stores it: neither the blocked context nor the completion time
follows the new state. -/
def recorded (env : Env) (task : Task) (toState : TaskState) : Task :=
  { task with state := toState, version := task.version + 1, updatedAt := env.now }

@[simp] theorem recorded_state (env : Env) (task : Task) (toState : TaskState) :
    (recorded env task toState).state = toState := rfl

def recordTransition (env : Env) (taskId : String) (event : StateTransitionEvent) :
    StoreM StateTransitionEvent := do
  let task ← requireTask taskId
  validateTransitionEvent event taskId task.state
  validateTransition task.state event.toState
  modify fun s => s.commit (recorded env task event.toState) event
  pure event

def cancelInput : TransitionInput :=
  { actorType := .human, actorId := "operator", reason := "task cancelled" }

def cancel (env : Env) (taskId : String) : StoreM Task := do
  let task ← requireTask taskId
  if isTerminal task.state then throw (.error ("task already terminal: " ++ task.state.text))
  else
    let _ ← transitionTask env 0 task .cancelled cancelInput
    requireTask taskId

section spec

variable {s : ControlPlane} (env : Env)

theorem finalState_createTask (request : CreateTaskRequest) :
    finalState (createTask env request) s = s ∨ finalState (createTask env request) s =
        s.commit (newTask env request) (createdEvent env (newTask env request)) := by
  refine finalState_rec (createTask env request) s ?_
  simp [createTask, validateCreateRequest]

theorem finalState_recordTransition (taskId : String) (event : StateTransitionEvent) :
    finalState (recordTransition env taskId event) s = s ∨
      ∃ task, s.task? taskId = some task ∧ event.taskId = taskId ∧ event.fromState = task.state ∧
        canTransition task.state event.toState = true ∧
        finalState (recordTransition env taskId event) s =
          s.commit (recorded env task event.toState) event := by
  refine finalState_rec (recordTransition env taskId event) s ?_
  simp only [recordTransition, validateTransitionEvent, validateTransition, wp_bind, wp_requireTask]
  cases htask : s.task? taskId with
  | none => simp
  | some task =>
    by_cases h₁ : event.taskId = taskId <;> simp [h₁]
    by_cases h₂ : event.fromState = task.state <;> simp [h₂]
    by_cases h₃ : canTransition task.state event.toState = true <;> simp [h₃]

theorem finalState_recordTransition_of_valid {taskId : String} {event : StateTransitionEvent}
    {task : Task} (htask : s.task? taskId = some task) (hid : event.taskId = taskId)
    (hfrom : event.fromState = task.state)
    (hcan : canTransition task.state event.toState = true) :
    finalState (recordTransition env taskId event) s =
      s.commit (recorded env task event.toState) event := by
  refine finalState_rec (recordTransition env taskId event) s ?_
  simp [recordTransition, validateTransitionEvent, validateTransition, htask, hid, hfrom, hcan]

theorem finalState_cancel (taskId : String) : finalState (cancel env taskId) s = s ∨
      ∃ task, s.task? taskId = some task ∧ isTerminal task.state = false ∧
        finalState (cancel env taskId) s = s.commit (transitioned env task .cancelled)
          (transitionEvent env 0 task .cancelled cancelInput) := by
  refine finalState_rec (cancel env taskId) s ?_
  simp only [cancel, wp_bind, wp_requireTask]
  cases htask : s.task? taskId with
  | none => simp
  | some task =>
    by_cases hterm : isTerminal task.state = true
    · simp [hterm]
    · have hid := s.task?_taskId htask
      by_cases hcan : canTransition task.state .cancelled = true
      · simp [hterm, hcan, ControlPlane.commit_task?, hid, cancelInput]
      · simp [hterm, hcan]

theorem finalState_cancel_of_live {taskId : String} {task : Task}
    (htask : s.task? taskId = some task) (hlive : isTerminal task.state = false) :
    finalState (cancel env taskId) s = s.commit (transitioned env task .cancelled)
      (transitionEvent env 0 task .cancelled cancelInput) := by
  have hcan : canTransition task.state .cancelled = true := by
    cases hstate : task.state <;> simp_all [isTerminal, canTransition, allowedTransitions]
  refine finalState_rec (cancel env taskId) s ?_
  simp [cancel, htask, hlive, hcan, ControlPlane.commit_task?, s.task?_taskId htask]

end spec

end ShipyardCp.Store
