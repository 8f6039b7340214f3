import ShipyardCp.Domain.StateMachine
import ShipyardCp.Lib.InsertionMap
import ShipyardCp.Lib.Transition

/-! The task metrics of the collector, and the runs of the tasks that are reported to it. -/

namespace ShipyardCp.Monitoring

open Types Lib Domain

/-- The counters of tasks by state, and the gauge of active tasks. -/
structure MetricsCollector where
  tasksTotal : TaskState → Nat
  tasksActive : Int

namespace MetricsCollector

def initial : MetricsCollector where
  tasksTotal _ := 0
  tasksActive := 0

def incrementTasksTotal (state : TaskState) (metrics : MetricsCollector) : MetricsCollector where
  tasksTotal state' := metrics.tasksTotal state' + if state' = state then 1 else 0
  tasksActive := metrics.tasksActive

def incrementActiveTasks (metrics : MetricsCollector) : MetricsCollector :=
  { metrics with tasksActive := metrics.tasksActive + 1 }

def decrementActiveTasks (metrics : MetricsCollector) : MetricsCollector :=
  { metrics with tasksActive := metrics.tasksActive - 1 }

def onTaskCreated (state : TaskState) (metrics : MetricsCollector) : MetricsCollector :=
  (metrics.incrementTasksTotal state).incrementActiveTasks

def terminalStates : List TaskState := [.accepted, .published, .cancelled, .failed]

def onTaskTransition (_fromState toState : TaskState) (metrics : MetricsCollector) :
    MetricsCollector :=
  let metrics := metrics.incrementTasksTotal toState
  if toState ∈ terminalStates then metrics.decrementActiveTasks else metrics

end MetricsCollector

/-- What the collector is told of the tasks. -/
inductive TaskReport where
  | created (taskId : String) (state : TaskState)
  | moved (taskId : String) (toState : TaskState)

/-- The metrics, beside the tasks created so far and their current states. -/
structure ReportedTasks where
  metrics : MetricsCollector
  tasks : InsertionMap String TaskState

namespace ReportedTasks

def initial : ReportedTasks where
  metrics := .initial
  tasks := .empty

/-- A task is created once, and then moves along the edges of the state machine. -/
def report (s : ReportedTasks) : TaskReport → Option ReportedTasks
  | .created taskId state =>
    match s.tasks.get? taskId with
    | some _ => none
    | none => some ⟨s.metrics.onTaskCreated state, s.tasks.set taskId state⟩
  | .moved taskId toState =>
    match s.tasks.get? taskId with
    | none => none
    | some fromState =>
      if canTransition fromState toState then
        some ⟨s.metrics.onTaskTransition fromState toState, s.tasks.set taskId toState⟩
      else none

def activeTasks (s : ReportedTasks) : Nat := s.tasks.values.countP fun state => !isTerminal state

def machine : Machine ReportedTasks TaskReport := .ofNext (· = initial) report

end ReportedTasks

end ShipyardCp.Monitoring
