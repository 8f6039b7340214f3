import ShipyardCp.Types.Job

/-! The task state machine: allowed transitions, dispatchable stages and terminal states. -/

namespace ShipyardCp.Domain

open Types

/-- Targets each state may move to; every listed state may also stay where it is. -/
def allowedTransitions : TaskState → List TaskState
  | .queued => [.queued, .planning, .blocked, .cancelled, .failed]
  | .planning => [.planning, .planned, .reworkRequired, .blocked, .cancelled, .failed]
  | .planned => [.planned, .developing, .blocked, .cancelled, .failed]
  | .developing => [.developing, .devCompleted, .reworkRequired, .blocked, .cancelled, .failed]
  | .devCompleted => [.devCompleted, .accepting, .blocked, .cancelled, .failed]
  | .accepting => [.accepting, .accepted, .reworkRequired, .blocked, .cancelled, .failed]
  | .reworkRequired => [.reworkRequired, .developing, .blocked, .cancelled, .failed]
  | .accepted => [.accepted, .integrating, .blocked, .cancelled, .failed]
  | .integrating => [.integrating, .integrated, .blocked, .cancelled, .failed]
  | .integrated =>
    [.integrated, .publishPendingApproval, .publishing, .blocked, .cancelled, .failed]
  | .publishPendingApproval =>
    [.publishPendingApproval, .publishing, .blocked, .cancelled, .failed]
  | .publishing => [.publishing, .published, .blocked, .cancelled, .failed]
  | .blocked =>
    [.blocked, .planning, .developing, .accepting, .integrating, .integrated, .publishing,
      .cancelled, .failed]
  | .published => []
  | .completed => []
  | .cancelled => []
  | .failed => []

def canTransition (fromState toState : TaskState) : Bool := toState ∈ allowedTransitions fromState

def isTerminal : TaskState → Bool
  | .completed | .cancelled | .failed | .published => true
  | _ => false

/-- The stage a task may be dispatched for; `none` is the refusal to dispatch a worker. -/
def getAllowedDispatchStage : TaskState → Option WorkerStage
  | .queued => some .plan
  | .planned => some .dev
  | .reworkRequired => some .dev
  | .devCompleted => some .acceptance
  | _ => none

def stageToActiveResumeState : WorkerStage → ResumeState
  | .plan => .planning
  | .dev => .developing
  | .acceptance => .accepting

def stageToActiveState (stage : WorkerStage) : TaskState :=
  (stageToActiveResumeState stage).toTaskState

@[simp] theorem stageToActiveState_plan : stageToActiveState .plan = .planning := rfl
@[simp] theorem stageToActiveState_dev : stageToActiveState .dev = .developing := rfl
@[simp] theorem stageToActiveState_acceptance : stageToActiveState .acceptance = .accepting := rfl

theorem canTransition_of_isTerminal {s t : TaskState} (h : isTerminal s = true) :
    canTransition s t = false := by
  cases s <;> simp_all [isTerminal, canTransition, allowedTransitions]

theorem canTransition_of_dispatchStage {s : TaskState} {stage : WorkerStage}
    (h : getAllowedDispatchStage s = some stage) :
    canTransition s (stageToActiveState stage) = true := by
  cases s <;> cases stage <;> simp_all [getAllowedDispatchStage, canTransition, allowedTransitions]

theorem canTransition_blocked_iff {s : TaskState} :
    canTransition s .blocked = true ↔ isTerminal s = false := by
  cases s <;> decide

theorem not_isTerminal_of_dispatchStage {s : TaskState} {stage : WorkerStage}
    (h : getAllowedDispatchStage s = some stage) : isTerminal s = false := by
  cases s <;> simp_all [getAllowedDispatchStage, isTerminal]

end ShipyardCp.Domain
