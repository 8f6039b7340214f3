import ShipyardCp.Domain.RepoPolicy
import ShipyardCp.Store.State

/-! Publishing an integrated task, with approval where its plan requires it. -/

namespace ShipyardCp.Store

open Types Domain Lib JsText

def publishTimeoutMs : Nat := 15 * 60 * 1000

def approvalTokenTtlMs : Nat := 24 * 60 * 60 * 1000

/-- The publish policy of the task; `none` is a pattern the regular-expression engine rejects. -/
def publishPolicy (env : Env) (task : Task) : Option PublishPolicyResult :=
  let isFastForward := match task.integration.bind (·.mainUpdatedSha) with
    | none => true
    | some sha => task.repoRef.baseSha = some sha
  validatePublishPolicy env (task.repoPolicy.getD defaultRepoPolicy) task.repoRef.defaultBranch
    ((task.integration.bind (·.checksPassed)).getD false) isFastForward

def publishDenied (task : Task) (reason : String) : Task :=
  { task with
    blockedContext := some
      { resumeState := .integrated, reason := reason, waitingOn := some .environment } }

def withPolicyWarnings (task : Task) (warnings : List String) : Task :=
  if warnings = [] then task
  else
    { task with
      publishPlan := some
        { task.publishPlan.getD .empty with policyWarnings := some warnings } }

def withPublishRequest (task : Task) (request : PublishRequest) : Task :=
  { task with
    publishPlan := some
      { task.publishPlan.getD .empty with
        mode := request.mode, idempotencyKey := request.idempotencyKey } }

/-- An apply of a task that requires approval waits for it, unless the request carries a token of
its own; that token is compared with nothing. -/
def needsApproval (task : Task) (request : PublishRequest) : Bool :=
  request.mode = some .apply && (task.publishPlan.bind (·.approvalRequired)).getD false &&
    !isTruthy request.approvalToken

def startPublishRun (env : Env) : PublishRun where
  runId := createId env 0 "pub-run"
  startedAt := env.now
  status := .running
  progress := some 0
  timeoutAt := env.now + publishTimeoutMs
  completedAt := none
  error := none
  externalRefs := none

def pendingTask (env : Env) (task : Task) : Task :=
  { task with
    pendingApprovalToken := some env.randomHex
    pendingApprovalExpiresAt := some (env.now + approvalTokenTtlMs) }

def publishingTask (env : Env) (task : Task) : Task :=
  { task with publishRun := some (startPublishRun env) }

def controlPlaneInput (reason : String) : TransitionInput :=
  { actorType := .controlPlane, actorId := "shipyard-cp", reason := reason }

/-- Starts the run, or waits for its approval. -/
def beginPublish (env : Env) (task : Task) (request : PublishRequest) : StoreM Task := do
  let task := withPublishRequest task request
  if needsApproval task request then
    let (_, task) ← transitionTask env 0 (pendingTask env task) .publishPendingApproval
      (controlPlaneInput "publish approval required")
    pure task
  else
    let (_, task) ← transitionTask env 1 (publishingTask env task) .publishing
      (controlPlaneInput "publish started")
    pure task

/-- Policies restrict the apply mode only. -/
def startPublish (env : Env) (task : Task) (request : PublishRequest) : StoreM Task := do
  if request.mode ≠ some .apply then beginPublish env task request
  else match publishPolicy env task with
    | none => throw (.error "Invalid regular expression")
    | some (.denied reason) =>
      let (_, task) ← transitionTask env 0 (publishDenied task reason) .blocked
        (controlPlaneInput reason)
      pure task
    | some (.allowed warnings) => beginPublish env (withPolicyWarnings task warnings) request

def publishedBefore (s : ControlPlane) (request : PublishRequest) : Option Task :=
  match request.idempotencyKey with
  | none => none
  | some key =>
    if key = "" then none
    else match s.publishIdempotencyKeys.get? key with
      | none => none
      | some taskId => if taskId = "" then none else s.task? taskId

def storeIdempotencyKey (request : PublishRequest) (taskId : String) : StoreM Unit :=
  match request.idempotencyKey with
  | none => pure ()
  | some key =>
    if key = "" then pure ()
    else modify fun s =>
      { s with publishIdempotencyKeys := s.publishIdempotencyKeys.set key taskId }

def publish (env : Env) (taskId : String) (request : PublishRequest) : StoreM Task := do
  let task ← requireTask taskId
  if task.state ≠ .integrated then throw (.taskInvalidState .integrated task.state)
  else match publishedBefore (← get) request with
    | some existingTask => pure existingTask
    | none =>
      storeIdempotencyKey request task.taskId
      startPublish env task request

/-- `result |= expected ^ provided`, code unit by code unit. -/
def charDifference : List Nat → List Nat → Nat
  | a :: as, b :: bs => (a ^^^ b) ||| charDifference as bs
  | _, _ => 0

def isExpired (now : Timestamp) (expiresAt : Option Timestamp) : Bool :=
  match expiresAt with
  | none => false
  | some t => t < now

/-- The reason why a token does not approve the pending publish. -/
def validateApprovalToken (now : Timestamp) (task : Task) (providedToken : String) : Option String :=
  if providedToken = "" then some "approval_token is required"
  else match task.pendingApprovalToken with
    | none => some "no approval token expected for this task"
    | some expected =>
      if expected = "" then some "no approval token expected for this task"
      else if isExpired now task.pendingApprovalExpiresAt then some "approval token has expired"
      else
        let expectedCodes := charCodes expected.toList
        let providedCodes := charCodes providedToken.toList
        if expectedCodes.length ≠ providedCodes.length then some "invalid approval token"
        else if charDifference expectedCodes providedCodes ≠ 0 then some "invalid approval token"
        else none

def approvedTask (env : Env) (task : Task) : Task :=
  { task with
    pendingApprovalToken := none
    pendingApprovalExpiresAt := none
    publishRun := some (startPublishRun env) }

def approvedInput : TransitionInput :=
  { actorType := .human, actorId := "operator", reason := "publish approved" }

def approvePublish (env : Env) (taskId approvalToken : String) : StoreM Task := do
  let task ← requireTask taskId
  if task.state ≠ .publishPendingApproval then
    throw (.taskInvalidState .publishPendingApproval task.state)
  else match validateApprovalToken env.now task approvalToken with
    | some message => throw (.error message)
    | none =>
      let (_, task) ← transitionTask env 1 (approvedTask env task) .publishing approvedInput
      pure task

/-- The run metadata of a finished publish. -/
def finishedPublishRun (env : Env) (request : CompletePublishRequest) (run : PublishRun) :
    PublishRun :=
  { run with
    completedAt := some env.now
    status := .succeeded
    progress := some 100
    externalRefs := match request.externalRefs with
      | none => run.externalRefs
      | some refs => some (mergeExternalRefs run.externalRefs refs) }

def publishedTask (env : Env) (task : Task) (request : CompletePublishRequest) : Task :=
  { task with
    externalRefs := match request.externalRefs with
      | none => task.externalRefs
      | some refs => some (mergeExternalRefs task.externalRefs refs)
    rollbackNotes := if isTruthy request.rollbackNotes then request.rollbackNotes
      else task.rollbackNotes
    publishRun := task.publishRun.map (finishedPublishRun env request) }

def completePublish (env : Env) (taskId : String) (request : CompletePublishRequest) :
    StoreM Task := do
  let task ← requireTask taskId
  if task.state ≠ .publishing then throw (.taskInvalidState .publishing task.state)
  else
    let (_, task) ← transitionTask env 0 (publishedTask env task request) .published
      (controlPlaneInput "publish completed")
    pure { task with completedAt := some env.now }

section validateApprovalToken

private theorem xor_eq_zero_iff {a b : Nat} : a ^^^ b = 0 ↔ a = b := by
  constructor
  · intro h
    have hxor : (a ^^^ b) ^^^ b = 0 ^^^ b := congrArg (· ^^^ b) h
    simpa [Nat.xor_assoc] using hxor
  · rintro rfl
    exact Nat.xor_self a

theorem charDifference_eq_zero_iff {as bs : List Nat} (h : as.length = bs.length) :
    charDifference as bs = 0 ↔ as = bs := by
  induction as generalizing bs with
  | nil =>
    cases bs with
    | nil => simp [charDifference]
    | cons b bs => simp at h
  | cons a as ih =>
    cases bs with
    | nil => simp at h
    | cons b bs =>
      have hlen : as.length = bs.length := by simpa using h
      rw [charDifference, Nat.or_eq_zero_iff, xor_eq_zero_iff, ih hlen, List.cons.injEq]

theorem validateApprovalToken_eq_none_iff {now : Timestamp} {task : Task} {providedToken : String} :
    validateApprovalToken now task providedToken = none ↔
      providedToken ≠ "" ∧ task.pendingApprovalToken = some providedToken ∧
        isExpired now task.pendingApprovalExpiresAt = false := by
  unfold validateApprovalToken
  by_cases hprovided : providedToken = ""
  · simp [hprovided]
  cases htoken : task.pendingApprovalToken with
  | none => simp [hprovided]
  | some expected =>
    by_cases hexpected : expected = ""
    · simp [hprovided, hexpected, Ne.symm hprovided]
    cases hexpired : isExpired now task.pendingApprovalExpiresAt with
    | true => simp [hprovided, hexpected]
    | false =>
      by_cases hlen : (charCodes expected.toList).length = (charCodes providedToken.toList).length
      · simp [hprovided, hexpected, hlen, charDifference_eq_zero_iff hlen,
          charCodes_injective.eq_iff, String.toList_inj]
      · have hne : expected ≠ providedToken := fun h => hlen (by rw [h])
        simp [hprovided, hexpected, hlen, hne]

end validateApprovalToken

section spec

variable {s : ControlPlane} (env : Env)

/-- What a publish request moves its task to. -/
inductive PublishMove (env : Env) (task : Task) (request : PublishRequest) :
    Task → TaskState → TransitionInput → Prop
  | denied (reason : String) :
      PublishMove env task request (publishDenied task reason) .blocked (controlPlaneInput reason)
  | pending (warnings : List String) :
      (request.mode = some .apply → publishPolicy env task = some (.allowed warnings)) →
      needsApproval task request = true →
      PublishMove env task request
        (pendingTask env (withPublishRequest (withPolicyWarnings task warnings) request))
        .publishPendingApproval (controlPlaneInput "publish approval required")
  | started (warnings : List String) :
      (request.mode = some .apply → publishPolicy env task = some (.allowed warnings)) →
      needsApproval task request = false →
      PublishMove env task request
        (publishingTask env (withPublishRequest (withPolicyWarnings task warnings) request))
        .publishing (controlPlaneInput "publish started")

theorem needsApproval_withPublishRequest (task : Task) (warnings : List String)
    (request : PublishRequest) :
    needsApproval (withPublishRequest (withPolicyWarnings task warnings) request) request =
      needsApproval task request := by
  unfold needsApproval withPublishRequest withPolicyWarnings
  split_ifs <;> cases task.publishPlan <;> simp [PublishPlan.empty]

theorem withPolicyWarnings_state (task : Task) (warnings : List String) :
    (withPolicyWarnings task warnings).state = task.state := by
  unfold withPolicyWarnings
  split_ifs <;> rfl

theorem withPolicyWarnings_taskId (task : Task) (warnings : List String) :
    (withPolicyWarnings task warnings).taskId = task.taskId := by
  unfold withPolicyWarnings
  split_ifs <;> rfl

variable {env} in
variable {request : PublishRequest}

theorem PublishMove.taskId {task moved : Task} {toState : TaskState}
    {input : TransitionInput} (h : PublishMove env task request moved toState input) :
    moved.taskId = task.taskId := by
  cases h with
  | denied reason => rfl
  | pending warnings _ _ => exact withPolicyWarnings_taskId task warnings
  | started warnings _ _ => exact withPolicyWarnings_taskId task warnings

theorem wp_beginPublish {task : Task} {warnings : List String}
    {Q : EStateM.Result StoreError ControlPlane Task → Prop} (hstate : task.state = .integrated)
    (hpolicy : request.mode = some .apply → publishPolicy env task = some (.allowed warnings))
    (hmove : ∀ n moved toState input, PublishMove env task request moved toState input →
      canTransition moved.state toState = true →
      Q (.ok (transitioned env moved toState)
        (s.commit (transitioned env moved toState) (transitionEvent env n moved toState input)))) :
    wp (beginPublish env (withPolicyWarnings task warnings) request) Q s := by
  have hbase : (withPolicyWarnings task warnings).state = .integrated := by
    rw [withPolicyWarnings_state, hstate]
  simp only [beginPublish, needsApproval_withPublishRequest]
  rw [wp_ite]
  split_ifs with hneeds
  · have hcan : canTransition (pendingTask env (withPublishRequest
        (withPolicyWarnings task warnings) request)).state .publishPendingApproval = true := by
      simp [pendingTask, withPublishRequest, hbase, canTransition, allowedTransitions]
    simp only [wp_bind, wp_transitionTask, hcan, if_true, andThen_ok, wp_pure]
    exact hmove 0 _ _ _ (.pending warnings hpolicy hneeds) hcan
  · have hcan : canTransition (publishingTask env (withPublishRequest
        (withPolicyWarnings task warnings) request)).state .publishing = true := by
      simp [publishingTask, withPublishRequest, hbase, canTransition, allowedTransitions]
    simp only [wp_bind, wp_transitionTask, hcan, if_true, andThen_ok, wp_pure]
    exact hmove 1 _ _ _ (.started warnings hpolicy (by simpa using hneeds)) hcan

theorem wp_startPublish {task : Task}
    {Q : EStateM.Result StoreError ControlPlane Task → Prop} (hstate : task.state = .integrated)
    (hrefused : Q (.error (.error "Invalid regular expression") s))
    (hmove : ∀ n moved toState input, PublishMove env task request moved toState input →
      canTransition moved.state toState = true →
      Q (.ok (transitioned env moved toState)
        (s.commit (transitioned env moved toState) (transitionEvent env n moved toState input)))) :
    wp (startPublish env task request) Q s := by
  simp only [startPublish]
  rw [wp_ite]
  split_ifs with hmode
  · have hnone : task = withPolicyWarnings task [] := rfl
    rw [hnone]
    exact wp_beginPublish env hstate (fun happly => absurd happly hmode) hmove
  · cases hpolicy : publishPolicy env task with
    | none => exact hrefused
    | some result =>
      cases result with
      | denied reason =>
        have hcan : canTransition (publishDenied task reason).state .blocked = true := by
          simp [publishDenied, hstate, canTransition, allowedTransitions]
        simp only [wp_bind, wp_transitionTask, hcan, if_true, andThen_ok, wp_pure]
        exact hmove 0 _ _ _ (.denied reason) hcan
      | allowed warnings => exact wp_beginPublish env hstate (fun _ => hpolicy) hmove

def keysWith (s : ControlPlane) (request : PublishRequest) (taskId : String) :
    InsertionMap String String :=
  match request.idempotencyKey with
  | none => s.publishIdempotencyKeys
  | some key =>
    if key = "" then s.publishIdempotencyKeys else s.publishIdempotencyKeys.set key taskId

variable {taskId : String}

theorem wp_storeIdempotencyKey {Q : EStateM.Result StoreError ControlPlane Unit → Prop} :
    wp (storeIdempotencyKey request taskId) Q s ↔
      Q (.ok () { s with publishIdempotencyKeys := keysWith s request taskId }) := by
  unfold storeIdempotencyKey keysWith
  cases request.idempotencyKey with
  | none => exact Iff.rfl
  | some key =>
    dsimp only
    split_ifs <;> exact Iff.rfl

theorem finalState_publish (taskId : String) (request : PublishRequest) :
    finalState (publish env taskId request) s = s ∨
      ∃ task, s.task? taskId = some task ∧ task.state = .integrated ∧
        publishedBefore s request = none ∧
        (finalState (publish env taskId request) s =
            { s with publishIdempotencyKeys := keysWith s request taskId } ∨
          ∃ n moved toState input, PublishMove env task request moved toState input ∧
            canTransition moved.state toState = true ∧
            finalState (publish env taskId request) s =
              { s with publishIdempotencyKeys := keysWith s request taskId }.commit
                (transitioned env moved toState) (transitionEvent env n moved toState input)) := by
  refine finalState_rec (publish env taskId request) s ?_
  simp only [publish, wp_bind, wp_requireTask]
  cases htask : s.task? taskId with
  | none => exact Or.inl rfl
  | some task =>
    have hid := s.task?_taskId htask
    by_cases hstate : task.state = .integrated
    swap
    · simp [hstate]
    simp only [andThen_ok, hstate, ne_eq, not_true_eq_false, if_false, wp_bind, wp_get]
    cases hbefore : publishedBefore s request with
    | some existingTask => exact Or.inl rfl
    | none =>
      simp only [wp_bind]
      rw [wp_storeIdempotencyKey, andThen_ok, hid]
      refine wp_startPublish env hstate ?_ ?_
      · exact Or.inr ⟨task, rfl, hstate, trivial, Or.inl rfl⟩
      · exact fun n moved toState input hmove hcan => Or.inr ⟨task, rfl, hstate, trivial,
          Or.inr ⟨n, moved, toState, input, hmove, hcan, rfl⟩⟩

theorem finalState_publish_of_publishedBefore
    {existingTask : Task} (hbefore : publishedBefore s request = some existingTask) :
    finalState (publish env taskId request) s = s := by
  rcases finalState_publish (s := s) env taskId request with h | ⟨_, _, _, hnone, _⟩
  · exact h
  · rw [hbefore] at hnone
    cases hnone

theorem publish_run_of_publishedBefore {task existingTask : Task} (htask : s.task? taskId = some task)
    (hstate : task.state = .integrated) (hbefore : publishedBefore s request = some existingTask) :
    (publish env taskId request).run s = .ok existingTask s := by
  suffices wp (publish env taskId request) (· = .ok existingTask s) s from this
  simp [publish, htask, hstate, hbefore]

theorem finalState_publish_started {task : Task}
    {warnings : List String} (htask : s.task? taskId = some task)
    (hstate : task.state = .integrated) (hbefore : publishedBefore s request = none)
    (hmode : request.mode = some .apply)
    (hpolicy : publishPolicy env task = some (.allowed warnings))
    (hneeds : needsApproval task request = false) :
    ∃ task', (finalState (publish env taskId request) s).task? taskId = some task' ∧
      task'.state = .publishing ∧ task'.publishPlan = (withPublishRequest
        (withPolicyWarnings task warnings) request).publishPlan := by
  refine finalState_rec (publish env taskId request) s ?_
  have hbase : (withPolicyWarnings task warnings).state = .integrated := by
    rw [withPolicyWarnings_state, hstate]
  have hid : (withPolicyWarnings task warnings).taskId = taskId :=
    (withPolicyWarnings_taskId task warnings).trans (s.task?_taskId htask)
  have hcan : canTransition (publishingTask env (withPublishRequest
      (withPolicyWarnings task warnings) request)).state .publishing = true := by
    simp [publishingTask, withPublishRequest, hbase, canTransition, allowedTransitions]
  simp only [publish, wp_bind, wp_requireTask, htask, andThen_ok, hstate, ne_eq,
    not_true_eq_false, if_false, wp_get, hbefore]
  rw [wp_storeIdempotencyKey]
  simp only [andThen_ok, startPublish, hmode, ne_eq, not_true_eq_false, if_false, hpolicy,
    beginPublish, needsApproval_withPublishRequest, hneeds, Bool.false_eq_true, wp_bind,
    wp_transitionTask, hcan, if_true, wp_pure, onState_ok]
  exact ⟨_, (ControlPlane.commit_task? ..).trans (if_pos hid.symm), rfl, rfl⟩

theorem finalState_approvePublish (taskId approvalToken : String) :
    finalState (approvePublish env taskId approvalToken) s = s ∨
      ∃ task, s.task? taskId = some task ∧ task.state = .publishPendingApproval ∧
        validateApprovalToken env.now task approvalToken = none ∧
        finalState (approvePublish env taskId approvalToken) s =
          s.commit (transitioned env (approvedTask env task) .publishing)
            (transitionEvent env 1 (approvedTask env task) .publishing approvedInput) := by
  refine finalState_rec (approvePublish env taskId approvalToken) s ?_
  simp only [approvePublish, wp_bind, wp_requireTask]
  cases htask : s.task? taskId with
  | none => simp
  | some task =>
    by_cases hstate : task.state = .publishPendingApproval
    swap
    · simp [hstate]
    have hcan : canTransition (approvedTask env task).state .publishing = true := by
      simp [approvedTask, hstate, canTransition, allowedTransitions]
    cases hvalid : validateApprovalToken env.now task approvalToken with
    | some message => simp [hstate, hvalid]
    | none => simp [hstate, hvalid, hcan]

theorem finalState_completePublish (taskId : String) (request : CompletePublishRequest) :
    (finalState (completePublish env taskId request) s = s ∧
        ∀ task, s.task? taskId = some task → task.state ≠ .publishing) ∨
      ∃ task, s.task? taskId = some task ∧ task.state = .publishing ∧
        finalState (completePublish env taskId request) s =
          s.commit (transitioned env (publishedTask env task request) .published)
            (transitionEvent env 0 (publishedTask env task request) .published
              (controlPlaneInput "publish completed")) := by
  refine finalState_rec (completePublish env taskId request) s ?_
  simp only [completePublish, wp_bind, wp_requireTask]
  cases htask : s.task? taskId with
  | none => simp
  | some task =>
    by_cases hstate : task.state = .publishing
    · have hcan : canTransition (publishedTask env task request).state .published = true := by
        simp [publishedTask, hstate, canTransition, allowedTransitions]
      simp [hstate, hcan]
    · simp [hstate]

end spec

end ShipyardCp.Store
