import ShipyardCp.Store.ControlPlaneStore

/-! The guard of a completed integration: what lets its task become integrated. -/

namespace ShipyardCp.Properties

open Types Domain Lib Store

variable {env : Env} {s : ControlPlane} {taskId : String} {task : Task}
  {integration : IntegrationState} {request : CompleteIntegrateRequest}

/-- The main branch is still at the commit the integration started from, as far as the request
tells. -/
def MainUnmoved (integration : IntegrationState) (request : CompleteIntegrateRequest) : Prop :=
  ∀ sha, request.mainUpdatedSha = some sha → integration.originalBaseSha = some sha

/-- What the guard allows an integration to end in. -/
inductive MeetsGuard (integration : IntegrationState) (request : CompleteIntegrateRequest)
    (after : Task) : Prop
  | integrated : after.state = .integrated → request.checksPassed = true →
      request.hasConflicts ≠ some true → MainUnmoved integration request →
      MeetsGuard integration request after
  | blocked : after.state = .blocked → after.blockedContext.map (·.resumeState) = some .integrating →
      (∀ run, after.integrationRun = some run → run.status ≠ .running) →
      MeetsGuard integration request after

/-- Every answered request leaves its task as the guard allows. -/
def GuardsIntegration (env : Env) (taskId : String) (request : CompleteIntegrateRequest)
    (s : ControlPlane) : Prop :=
  ∀ response, returned? (completeIntegrate env taskId request) s = some response →
    ∃ task integration after, s.task? taskId = some task ∧ task.integration = some integration ∧
      (finalState (completeIntegrate env taskId request) s).task? taskId = some after ∧
      MeetsGuard integration request after

theorem meetsGuard_iff {moved : Task} {toState : TaskState}
    (hmove : IntegrationMove env task request moved toState) :
    MeetsGuard integration request (transitioned env moved toState) ↔
      (integrationDenial task request = none → request.checksPassed = true →
        request.hasConflicts ≠ some true ∧ MainUnmoved integration request) ∧
      (integrationDenial task request ≠ none →
        ∀ run, task.integrationRun = some run → run.status ≠ .running) := by
  constructor
  · rintro (⟨hstate, _, hconflicts, hunmoved⟩ | ⟨hstate, _, hrun⟩)
    · cases hmove with
      | integrated _ _ hnone => exact ⟨fun _ _ => ⟨hconflicts, hunmoved⟩, fun h => absurd hnone h⟩
      | denied => cases hstate
      | failed => cases hstate
    · cases hmove with
      | integrated => cases hstate
      | denied _ hsome => exact ⟨fun hnone => by simp [hnone] at hsome, fun _ => hrun⟩
      | failed _ hfailed hnone =>
        exact ⟨fun _ hpassed => by simp [hfailed] at hpassed, fun h => absurd hnone h⟩
  · rintro ⟨hpassed, hdenied⟩
    cases hmove with
    | integrated _ hchecks hnone =>
      obtain ⟨hconflicts, hunmoved⟩ := hpassed hnone hchecks
      exact .integrated rfl hchecks hconflicts hunmoved
    | denied _ hsome => exact .blocked rfl rfl (hdenied (by simp [hsome]))
    | failed _ hfailed _ =>
      refine .blocked rfl rfl fun run hrun => ?_
      obtain ⟨before, _, rfl⟩ := Option.map_eq_some_iff.mp hrun
      simp [finishedIntegrationRun, hfailed]

theorem answered_completeIntegrate (env : Env) (request : CompleteIntegrateRequest)
    (htask : s.task? taskId = some task)
    (hstate : task.state = .integrating) (hintegration : task.integration = some integration) :
    ∃ response moved toState, IntegrationMove env task request moved toState ∧
      returned? (completeIntegrate env taskId request) s = some response ∧
      (finalState (completeIntegrate env taskId request) s).task? taskId =
        some (transitioned env moved toState) := by
  have hwp : wp (completeIntegrate env taskId request) (fun r => ∃ response moved toState reason,
      IntegrationMove env task request moved toState ∧
      r = .ok response (s.commit (transitioned env moved toState)
        (transitionEvent env 0 moved toState (blockInput reason)))) s := by
    simp only [completeIntegrate, wp_bind, wp_requireTask, htask, andThen_ok, hstate, ne_eq,
      not_true_eq_false, if_false, hintegration]
    exact wp_completeIntegration env hstate hintegration
      fun moved toState reason response hmove _ => ⟨response, moved, toState, reason, hmove, rfl⟩
  obtain ⟨response, moved, toState, reason, hmove, hrun⟩ := hwp
  refine ⟨response, moved, toState, hmove, ?_, ?_⟩
  · rw [returned?, hrun]
  · have hid : taskId = moved.taskId := by
      rw [← s.task?_taskId htask]
      cases hmove <;> rfl
    rw [finalState, hrun]
    simp [ControlPlane.commit_task?, hid]

theorem integrating_of_answered {response : IntegrateResponse}
    (hreturned : returned? (completeIntegrate env taskId request) s = some response) :
    ∃ task integration, s.task? taskId = some task ∧ task.state = .integrating ∧
      task.integration = some integration := by
  rw [returned?_eq_some_iff] at hreturned
  simp only [completeIntegrate, wp_bind, wp_requireTask] at hreturned
  cases htask : s.task? taskId with
  | none => simp [htask] at hreturned
  | some task =>
    by_cases hstate : task.state = .integrating
    swap
    · simp [htask, hstate] at hreturned
    cases hintegration : task.integration with
    | none => simp [htask, hstate, hintegration] at hreturned
    | some integration => exact ⟨task, integration, rfl, hstate, hintegration⟩

/-- The guard holds exactly of the requests that, unless the integration is stopped early, report
no conflicts and an unmoved main branch with checks that passed, and that stop no running
integration early. -/
theorem completeIntegrate_guards_iff (env : Env) (taskId : String)
    (request : CompleteIntegrateRequest) (s : ControlPlane) :
    GuardsIntegration env taskId request s ↔
      ∀ task integration, s.task? taskId = some task → task.state = .integrating →
        task.integration = some integration →
        (integrationDenial task request = none → request.checksPassed = true →
          request.hasConflicts ≠ some true ∧ MainUnmoved integration request) ∧
        (integrationDenial task request ≠ none →
          ∀ run, task.integrationRun = some run → run.status ≠ .running) := by
  constructor
  · intro hguards task integration htask hstate hintegration
    obtain ⟨response, moved, toState, hmove, hreturned, hstored⟩ :=
      answered_completeIntegrate env request htask hstate hintegration
    obtain ⟨task', integration', after, htask', hintegration', hafter, hmeets⟩ :=
      hguards response hreturned
    obtain rfl : task' = task := Option.some.inj (htask'.symm.trans htask)
    obtain rfl := Option.some.inj (hintegration'.symm.trans hintegration)
    obtain rfl := Option.some.inj (hafter.symm.trans hstored)
    exact (meetsGuard_iff hmove).mp hmeets
  · intro hcondition response hreturned
    obtain ⟨task, integration, htask, hstate, hintegration⟩ := integrating_of_answered hreturned
    obtain ⟨_, moved, toState, hmove, _, hstored⟩ :=
      answered_completeIntegrate env request htask hstate hintegration
    exact ⟨task, integration, _, htask, hintegration, hstored,
      (meetsGuard_iff hmove).mpr (hcondition task integration htask hstate hintegration)⟩

def integratingScript : Script := acceptingScript sampleRequest ++
    [line "3" (.completeAcceptance "task_0" checkAll), line "4" (.integrate "task_0" "base")]

def failedChecks : CompleteIntegrateRequest := ⟨false, none, none, none, none⟩

def conflicting : CompleteIntegrateRequest := ⟨true, none, none, none, some true⟩

def movedMain : CompleteIntegrateRequest := ⟨true, some "head", some "moved", none, none⟩

/-- The answer to a request, with the state of the task after it and the status of its run. -/
def integrationAnswer (request : CompleteIntegrateRequest) (s : ControlPlane) :
    Option (TaskState × Option RunProgressStatus) :=
  (returned? (completeIntegrate (sampleEnv "5") "task_0" request) s).bind fun _ =>
    ((finalState (completeIntegrate (sampleEnv "5") "task_0" request) s).task? "task_0").map
      fun after => (after.state, after.integrationRun.map (·.status))

theorem meetsGuard_of_answer {state : TaskState} {status : Option RunProgressStatus}
    (hanswer : integrationAnswer request s = some (state, status))
    (hguards : GuardsIntegration (sampleEnv "5") "task_0" request s) :
    ∃ task integration after, s.task? "task_0" = some task ∧
      task.integration = some integration ∧ MeetsGuard integration request after ∧
      after.state = state ∧ after.integrationRun.map (·.status) = status := by
  obtain ⟨response, hreturned, hanswer⟩ := Option.bind_eq_some_iff.mp hanswer
  obtain ⟨after, hafter, hpair⟩ := Option.map_eq_some_iff.mp hanswer
  obtain ⟨task, integration, after', htask, hintegration, hafter', hmeets⟩ :=
    hguards response hreturned
  obtain rfl := Option.some.inj (hafter'.symm.trans hafter)
  exact ⟨task, integration, _, htask, hintegration, hmeets, (Prod.mk.inj hpair).1,
    (Prod.mk.inj hpair).2⟩

/-- Conflicts and a moved main branch do not keep a task from being integrated, and failed checks
leave the run of a blocked task running. -/
theorem integration_unguarded : ∃ h sys, controlPlane.Run h sys ∧
    ¬ GuardsIntegration (sampleEnv "5") "task_0" conflicting sys.store ∧
    ¬ GuardsIntegration (sampleEnv "5") "task_0" movedMain sys.store ∧
    ¬ GuardsIntegration (sampleEnv "5") "task_0" failedChecks sys.store := by
  obtain ⟨h, sys, hrun, htest⟩ := exists_run_of_play integratingScript
    (fun p => decide (integrationAnswer conflicting p.2.store = some (.integrated, some .succeeded) ∧
      integrationAnswer movedMain p.2.store = some (.integrated, some .succeeded) ∧
      integrationAnswer failedChecks p.2.store = some (.blocked, some .running) ∧
      ((p.2.store.task? "task_0").bind (·.integration)).bind (·.originalBaseSha) = some "base"))
    (by decide +kernel)
  obtain ⟨hconflicting, hmoved, hfailed, hbase⟩ := of_decide_eq_true htest
  refine ⟨h, sys, hrun, fun hguards => ?_, fun hguards => ?_, fun hguards => ?_⟩
  · obtain ⟨_, _, after, _, _, hmeets, hstate, _⟩ := meetsGuard_of_answer hconflicting hguards
    cases hmeets with
    | integrated _ _ hconflicts _ => exact hconflicts rfl
    | blocked hblocked => simp [hstate] at hblocked
  · obtain ⟨task, integration, after, htask, hintegration, hmeets, hstate, _⟩ :=
      meetsGuard_of_answer hmoved hguards
    rw [htask, Option.bind_some, hintegration, Option.bind_some] at hbase
    cases hmeets with
    | integrated _ _ _ hunmoved => simpa [hbase] using hunmoved "moved" rfl
    | blocked hblocked => simp [hstate] at hblocked
  · obtain ⟨_, _, after, _, _, hmeets, hstate, hstatus⟩ := meetsGuard_of_answer hfailed hguards
    cases hmeets with
    | integrated hintegrated => simp [hstate] at hintegrated
    | blocked _ _ hrun =>
      obtain ⟨run, hsome, hrunning⟩ := Option.map_eq_some_iff.mp hstatus
      exact hrun run hsome hrunning

end ShipyardCp.Properties
