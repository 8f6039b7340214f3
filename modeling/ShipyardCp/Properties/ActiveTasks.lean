import ShipyardCp.Monitoring.MetricsCollector

/-! The gauge of active tasks against the states that the tasks are in. -/

namespace ShipyardCp.Properties

open Types Lib Domain Monitoring ReportedTasks MetricsCollector Machine

def gaugedRightly : TaskReport → Bool
  | .created _ state => !isTerminal state
  | .moved _ toState => toState ≠ .accepted

theorem mem_terminalStates_iff {fromState toState : TaskState}
    (hedge : canTransition fromState toState = true) (hto : toState ≠ .accepted) :
    toState ∈ terminalStates ↔ isTerminal toState = true := by
  cases fromState <;> cases toState <;>
    simp_all [canTransition, allowedTransitions, terminalStates, isTerminal]

theorem gauge_step_iff {s s' : ReportedTasks} {report : TaskReport}
    (hstep : s.report report = some s') (hgauge : s.metrics.tasksActive = s.activeTasks) :
    s'.metrics.tasksActive = s'.activeTasks ↔ gaugedRightly report = true := by
  cases report with
  | created taskId state =>
    cases hget : s.tasks.get? taskId with
    | some other => simp [report, hget] at hstep
    | none =>
      simp only [report, hget, Option.some.injEq] at hstep
      subst hstep
      have hcount : (s.tasks.set taskId state).values.countP (fun state => !isTerminal state) =
          s.activeTasks + (!isTerminal state).toNat := by
        rw [s.tasks.values_set_of_get?_eq_none hget, List.countP_append]
        cases hterminal : isTerminal state <;> simp [activeTasks, hterminal]
      show s.metrics.tasksActive + 1 = ((s.tasks.set taskId state).values.countP _ : Nat) ↔ _
      rw [hcount, hgauge, gaugedRightly]
      cases isTerminal state
      · simp
      · simp only [Bool.not_true, Bool.toNat_false, Nat.add_zero, Bool.false_eq_true, iff_false]
        omega
  | moved taskId toState =>
    cases hget : s.tasks.get? taskId with
    | none => simp [report, hget] at hstep
    | some fromState =>
      simp only [report, hget, Option.ite_none_right_eq_some, Option.some.injEq] at hstep
      obtain ⟨hedge, rfl⟩ := hstep
      have hlive : isTerminal fromState = false := by
        by_contra hterminal
        rw [canTransition_of_isTerminal (by simpa using hterminal)] at hedge
        cases hedge
      have hcount : (s.tasks.set taskId toState).values.countP (fun state => !isTerminal state) + 1 =
          s.activeTasks + (!isTerminal toState).toNat := by
        have hset := s.tasks.countP_values_set (w := toState) (fun state => !isTerminal state) hget
        simp only [hlive, Bool.not_false, Bool.toNat_true] at hset
        exact hset
      have hgauge' : (s.metrics.onTaskTransition fromState toState).tasksActive =
          s.activeTasks - if toState ∈ terminalStates then 1 else 0 := by
        rw [← hgauge, onTaskTransition]
        split_ifs <;> simp [decrementActiveTasks, incrementTasksTotal]
      show (s.metrics.onTaskTransition fromState toState).tasksActive =
        ((s.tasks.set taskId toState).values.countP _ : Nat) ↔ _
      rw [hgauge', gaugedRightly]
      by_cases haccepted : toState = .accepted
      · subst haccepted
        rw [show isTerminal .accepted = false from rfl] at hcount
        simp only [Bool.not_false, Bool.toNat_true] at hcount
        rw [if_pos (by decide)]
        simp only [ne_eq, not_true_eq_false, decide_false, Bool.false_eq_true, iff_false]
        omega
      · simp only [mem_terminalStates_iff hedge haccepted, haccepted, ne_eq, not_false_eq_true,
          decide_true, iff_true]
        cases hterminal : isTerminal toState
        · simp only [hterminal, Bool.not_false, Bool.toNat_true] at hcount
          simp only [Bool.false_eq_true, if_false]
          omega
        · simp only [hterminal, Bool.not_true, Bool.toNat_false] at hcount
          simp only [if_true]
          omega

/-- The gauge of active tasks is right, and so not negative, throughout a run exactly when no task is
created in a terminal state and none moves to `accepted`. -/
theorem activeGauge_iff {h : History ReportedTasks TaskReport} {t : ReportedTasks}
    (hrun : machine.Run h t) :
    (∀ s ∈ states h t, s.metrics.tasksActive = s.activeTasks ∧ 0 ≤ s.metrics.tasksActive) ↔
      Machine.Steps (fun _ report => gaugedRightly report = true) h := by
  refine Machine.Run.forall_states_iff (I := fun s => s.metrics.tasksActive = s.activeTasks)
    ?_ ?_ ?_ ?_ hrun
  · rintro s rfl
    rfl
  · intro s hgauge
    exact ⟨hgauge, by rw [hgauge]; exact Int.natCast_nonneg _⟩
  · intro h s report s' _ hgauge hright hstep
    exact (gauge_step_iff hstep hgauge).mpr hright
  · intro h s report s' _ hgauge hstep hright
    exact (gauge_step_iff hstep hgauge).mp hright.1

theorem no_tasks_reported : machine.init initial := rfl

def acceptedTask : List TaskReport :=
  .created "task-1" .queued :: ([.planning, .planned, .developing, .devCompleted, .accepting,
    .accepted].map (TaskReport.moved "task-1"))

/-- An accepted task that is published is subtracted twice. -/
theorem published_task_gauged_negative : ∃ h t, machine.Run h t ∧
    t.metrics.tasksActive = -1 ∧ t.activeTasks = 0 ∧
    ∃ s ∈ states h t, s.metrics.tasksActive = 0 ∧ s.activeTasks = 1 := by
  have hplayed : (replay report initial
      ((acceptedTask ++ ([.integrating, .integrated, .publishing, .published].map
        (TaskReport.moved "task-1"))).map fun report _ => some report)).any (fun p =>
      p.2.metrics.tasksActive = -1 ∧ p.2.activeTasks = 0 ∧
      (states p.1 p.2).any fun s => s.metrics.tasksActive = 0 ∧ s.activeTasks = 1) =
      true := by
    decide +kernel
  obtain ⟨h, t, hrun, htest⟩ := exists_run_of_replay no_tasks_reported hplayed
  simp only [decide_eq_true_eq, List.any_eq_true] at htest
  exact ⟨h, t, hrun, htest⟩

/-- The gauge is right while a task that is cancelled before it is accepted runs. -/
theorem cancelled_task_gauged : ∃ h t, machine.Run h t ∧ t.activeTasks = 1 ∧
    ∀ s ∈ states h t, s.metrics.tasksActive = s.activeTasks ∧ 0 ≤ s.metrics.tasksActive := by
  have hplayed : (replay report initial
      (([.created "task-1" .queued, .moved "task-1" .planning, .created "task-2" .queued,
        .moved "task-1" .cancelled] : List TaskReport).map fun report _ => some report)).any
      (fun p => p.2.activeTasks = 1 ∧ p.1.all fun step => gaugedRightly step.2) = true := by
    decide +kernel
  obtain ⟨h, t, hrun, htest⟩ := exists_run_of_replay no_tasks_reported hplayed
  simp only [decide_eq_true_eq, List.all_eq_true] at htest
  exact ⟨h, t, hrun, htest.1, (activeGauge_iff hrun).mpr htest.2⟩

end ShipyardCp.Properties
