import ShipyardCp.Domain.RepoPolicy
import ShipyardCp.Store.State

/-! Integrating an accepted task. -/

namespace ShipyardCp.Store

open Types Domain Lib

def integrationTimeoutMs : Nat := 10 * 60 * 1000

structure IntegrateResponse where
  taskId : String
  state : TaskState
  integrationBranch : String
  integrationHeadSha : Option String
  requiresPr : Bool
  canFastForward : Bool
  policyWarnings : Option (List String) := none
  needsRebase : Option Bool := none

/-- The task as it enters integration. -/
def integratingTask (env : Env) (task : Task) (baseSha : String) : Task :=
  let policy := task.repoPolicy.getD defaultRepoPolicy
  { task with
    repoPolicy := some policy
    repoRef := { task.repoRef with baseSha := some baseSha }
    integration := some
      { integrationBranch := some (getDefaultIntegrationBranch policy task.taskId)
        integrationHeadSha := some baseSha
        mainUpdatedSha := none
        checksPassed := some false
        originalBaseSha := some baseSha }
    integrationRun := some
      { runId := createId env 0 "int-run"
        startedAt := env.now
        status := .running
        progress := some 0
        timeoutAt := env.now + integrationTimeoutMs
        completedAt := none
        error := none } }

def integrateInput (task : Task) (baseSha : String) : TransitionInput :=
  let policy := task.repoPolicy.getD defaultRepoPolicy
  { actorType := .controlPlane, actorId := "shipyard-cp"
    reason :=
      if (validateIntegrationPolicy policy task.taskId baseSha none none false).requiresPr then
        "integrate requested (PR required)"
      else "integrate requested" }

def integrate (env : Env) (taskId baseSha : String) : StoreM Task := do
  let task ← requireTask taskId
  if task.state ≠ .accepted then throw (.taskInvalidState .accepted task.state)
  else
    let (_, task) ← transitionTask env 1 (integratingTask env task baseSha) .integrating
      (integrateInput task baseSha)
    pure task

def integrationBlocked (task : Task) (reason : String) : Task :=
  { task with
    blockedContext := some
      { resumeState := .integrating, reason := reason, waitingOn := some .github } }

def blockInput (reason : String) : TransitionInput :=
  { actorType := .controlPlane, actorId := "shipyard-cp", reason := reason }

def finishedIntegrationRun (env : Env) (checksPassed : Bool) (run : IntegrationRun) :
    IntegrationRun :=
  { run with
    completedAt := some env.now
    progress := some 100
    status := if checksPassed then .succeeded else .failed
    error := if checksPassed then run.error else some "CI checks failed" }

def integrationResults (env : Env) (task : Task) (integration : IntegrationState)
    (request : CompleteIntegrateRequest) : Task :=
  { task with
    integration := some { integration with
      checksPassed := some request.checksPassed
      integrationHeadSha := overwrite request.integrationHeadSha integration.integrationHeadSha
      mainUpdatedSha := overwrite request.mainUpdatedSha integration.mainUpdatedSha }
    integrationRun := task.integrationRun.map (finishedIntegrationRun env request.checksPassed) }

/-- The check of the base commit: the one of the started integration and the one of the task. -/
def baseShaCheck (task : Task) (integration : IntegrationState)
    (request : CompleteIntegrateRequest) : BaseShaCheckResult :=
  validateBaseSha
    { originalBaseSha := integration.originalBaseSha
      currentBaseSha := task.repoRef.baseSha.getD ""
      integrationHeadSha := request.integrationHeadSha
      isFastForward := request.isFastForward
      hasConflicts := request.hasConflicts }

def baseShaReason (result : BaseShaCheckResult) : String :=
  (result.reason.map (·.text)).getD "base SHA validation failed"

def completeIntegration (env : Env) (task : Task) (integration : IntegrationState)
    (request : CompleteIntegrateRequest) : StoreM IntegrateResponse := do
  let policy := task.repoPolicy.getD defaultRepoPolicy
  let branch := integration.integrationBranch.getD ""
  let baseShaResult := baseShaCheck task integration request
  if !baseShaResult.valid then
    let reason := baseShaReason baseShaResult
    let (_, blocked) ← transitionTask env 0 (integrationBlocked task reason) .blocked
      (blockInput reason)
    pure
      { taskId := task.taskId, state := blocked.state, integrationBranch := branch
        integrationHeadSha := request.integrationHeadSha, requiresPr := false
        canFastForward := false, policyWarnings := some [reason]
        needsRebase := baseShaResult.needsRebase }
  else
    let policyResult := validateIntegrationPolicy policy task.taskId
      (task.repoRef.baseSha.getD "") request.integrationHeadSha request.mainUpdatedSha
      request.checksPassed
    if !policyResult.allowed then
      let reason := policyResult.reason.getD "integration policy denied"
      let (_, blocked) ← transitionTask env 0 (integrationBlocked task reason) .blocked
        (blockInput reason)
      pure
        { taskId := task.taskId, state := blocked.state, integrationBranch := branch
          integrationHeadSha := request.integrationHeadSha, requiresPr := policyResult.requiresPr
          canFastForward := policyResult.canFastForward
          policyWarnings := policyResult.reason.map fun reason => [reason] }
    else
      let updatedTask := integrationResults env task integration request
      let (_, moved) ←
        if request.checksPassed then
          transitionTask env 0 updatedTask .integrated (blockInput "integration checks passed")
        else
          transitionTask env 0 (integrationBlocked updatedTask "CI checks failed") .blocked
            (blockInput "integration checks failed")
      pure
        { taskId := task.taskId, state := moved.state, integrationBranch := branch
          integrationHeadSha := integration.integrationHeadSha
          requiresPr := policyResult.requiresPr, canFastForward := policyResult.canFastForward }

def completeIntegrate (env : Env) (taskId : String) (request : CompleteIntegrateRequest) :
    StoreM IntegrateResponse := do
  let task ← requireTask taskId
  if task.state ≠ .integrating then throw (.taskInvalidState .integrating task.state)
  else match task.integration with
    | none => throw .integrationStateNotFound
    | some integration => completeIntegration env task integration request

/-- Why an integration is stopped whatever its checks say: its base has changed, or the policy of
the repository denies it. -/
def integrationDenial (task : Task) (request : CompleteIntegrateRequest) : Option String :=
  match task.integration with
  | none => none
  | some integration =>
    let baseShaResult := baseShaCheck task integration request
    if !baseShaResult.valid then some (baseShaReason baseShaResult)
    else
      let policyResult := validateIntegrationPolicy (task.repoPolicy.getD defaultRepoPolicy)
        task.taskId (task.repoRef.baseSha.getD "") request.integrationHeadSha
        request.mainUpdatedSha request.checksPassed
      if !policyResult.allowed then some (policyResult.reason.getD "integration policy denied")
      else none

section spec

variable {s : ControlPlane} (env : Env)

theorem finalState_integrate (taskId baseSha : String) :
    finalState (integrate env taskId baseSha) s = s ∨
      ∃ task, s.task? taskId = some task ∧ task.state = .accepted ∧
        finalState (integrate env taskId baseSha) s =
          s.commit (transitioned env (integratingTask env task baseSha) .integrating)
            (transitionEvent env 1 (integratingTask env task baseSha) .integrating
              (integrateInput task baseSha)) := by
  refine finalState_rec (integrate env taskId baseSha) s ?_
  simp only [integrate, wp_bind, wp_requireTask]
  cases htask : s.task? taskId with
  | none => simp
  | some task =>
    by_cases hstate : task.state = .accepted
    · have hcan : canTransition (integratingTask env task baseSha).state .integrating = true := by
        simp [integratingTask, hstate, canTransition, allowedTransitions]
      simp [hstate, hcan]
    · simp [hstate]

variable {env} in
/-- What a completed integration moves its task to, and why. -/
inductive IntegrationMove (env : Env) (task : Task) (request : CompleteIntegrateRequest) :
    Task → TaskState → Prop
  | integrated (integration : IntegrationState) : request.checksPassed = true →
      integrationDenial task request = none →
      IntegrationMove env task request (integrationResults env task integration request) .integrated
  | denied (reason : String) : integrationDenial task request = some reason →
      IntegrationMove env task request (integrationBlocked task reason) .blocked
  | failed (integration : IntegrationState) : request.checksPassed = false →
      integrationDenial task request = none →
      IntegrationMove env task request
        (integrationBlocked (integrationResults env task integration request) "CI checks failed")
        .blocked

theorem wp_completeIntegration {task : Task} {integration : IntegrationState}
    {request : CompleteIntegrateRequest}
    {Q : EStateM.Result StoreError ControlPlane IntegrateResponse → Prop}
    (hstate : task.state = .integrating) (hintegration : task.integration = some integration)
    (hmove : ∀ moved toState reason response, IntegrationMove env task request moved toState →
      canTransition moved.state toState = true →
      Q (.ok response (s.commit (transitioned env moved toState)
        (transitionEvent env 0 moved toState (blockInput reason))))) :
    wp (completeIntegration env task integration request) Q s := by
  have hblocked : ∀ t : Task, t.state = .integrating → canTransition t.state .blocked = true :=
    fun t ht => by rw [ht]; rfl
  simp only [completeIntegration]
  rw [wp_ite]
  split_ifs with hinvalid hallowed hpassed
  · have hcan := hblocked (integrationBlocked task
      (baseShaReason (baseShaCheck task integration request))) hstate
    simp only [wp_bind, wp_transitionTask, hcan, if_true, andThen_ok, wp_pure]
    refine hmove _ .blocked _ _ (.denied _ ?_) hcan
    simp only [integrationDenial, hintegration]
    rw [if_pos hinvalid]
  · have hcan := fun reason => hblocked (integrationBlocked task reason) hstate
    simp only [wp_bind, wp_transitionTask, hcan, if_true, andThen_ok, wp_pure]
    refine hmove _ .blocked _ _ (.denied _ ?_) (hcan _)
    simp only [integrationDenial, hintegration]
    rw [if_neg hinvalid, if_pos hallowed]
  · have hcan : canTransition (integrationResults env task integration request).state
        .integrated = true := by simp [integrationResults, hstate, canTransition, allowedTransitions]
    simp only [wp_bind, wp_transitionTask, hcan, if_true, andThen_ok, wp_pure]
    refine hmove _ .integrated _ _ (.integrated integration hpassed ?_) hcan
    simp only [integrationDenial, hintegration]
    rw [if_neg hinvalid, if_neg hallowed]
  · have hcan := hblocked (integrationBlocked
      (integrationResults env task integration request) "CI checks failed") hstate
    simp only [wp_bind, wp_transitionTask, hcan, if_true, andThen_ok, wp_pure]
    refine hmove _ .blocked _ _ (.failed integration (by simpa using hpassed) ?_) hcan
    simp only [integrationDenial, hintegration]
    rw [if_neg hinvalid, if_neg hallowed]

theorem finalState_completeIntegrate (taskId : String) (request : CompleteIntegrateRequest) :
    finalState (completeIntegrate env taskId request) s = s ∨
      ∃ task moved toState reason, s.task? taskId = some task ∧ task.state = .integrating ∧
        IntegrationMove env task request moved toState ∧
        canTransition moved.state toState = true ∧
        finalState (completeIntegrate env taskId request) s =
          s.commit (transitioned env moved toState)
            (transitionEvent env 0 moved toState (blockInput reason)) := by
  refine finalState_rec (completeIntegrate env taskId request) s ?_
  simp only [completeIntegrate, wp_bind, wp_requireTask]
  cases htask : s.task? taskId with
  | none => simp
  | some task =>
    by_cases hstate : task.state = .integrating
    swap
    · simp [hstate]
    cases hint : task.integration with
    | none => simp [hstate, hint]
    | some integration =>
      simp only [andThen_ok, hstate, ne_eq, not_true_eq_false, if_false, hint]
      exact wp_completeIntegration env hstate hint fun moved toState reason _ hmove hcan =>
        Or.inr ⟨task, moved, toState, reason, rfl, hstate, hmove, hcan, rfl⟩

theorem finalState_completeIntegrate_of_denied {taskId : String}
    {request : CompleteIntegrateRequest} {task : Task} {reason : String}
    (htask : s.task? taskId = some task) (hstate : task.state = .integrating)
    (hdenial : integrationDenial task request = some reason) :
    ∃ input, finalState (completeIntegrate env taskId request) s =
      s.commit (transitioned env (integrationBlocked task reason) .blocked)
        (transitionEvent env 0 (integrationBlocked task reason) .blocked input) := by
  refine finalState_rec (completeIntegrate env taskId request) s ?_
  cases hint : task.integration with
  | none => simp [integrationDenial, hint] at hdenial
  | some integration =>
    simp only [completeIntegrate, wp_bind, wp_requireTask, htask, andThen_ok, hstate, ne_eq,
      not_true_eq_false, if_false, hint]
    refine wp_completeIntegration env hstate hint fun moved toState _ _ hmove _ => ?_
    cases hmove with
    | integrated _ _ hnone => simp [hnone] at hdenial
    | denied reason' hsome =>
      obtain rfl : reason' = reason := Option.some.inj (hsome.symm.trans hdenial)
      exact ⟨_, rfl⟩
    | failed _ _ hnone => simp [hnone] at hdenial

end spec

end ShipyardCp.Store
