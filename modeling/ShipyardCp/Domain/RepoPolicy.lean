import ShipyardCp.Types.Job

/-! Repository policies for integration and publish, and the check of the base commit. -/

namespace ShipyardCp.Domain

open Types

def defaultRepoPolicy : RepoPolicy where
  updateStrategy := .fastForwardOnly
  mainPushActor := .bot
  requireCiPass := true
  integrationBranchPrefix := none
  protectedBranches := none

def getDefaultIntegrationBranch (policy : RepoPolicy) (taskId : String) : String :=
  policy.integrationBranchPrefix.getD "cp/integrate/" ++ taskId

/-- `'^' + pattern.replace(/\*/g, '.*') + '$'`. -/
def globSource (pattern : String) : String :=
  "^" ++ String.ofList (pattern.toList.flatMap fun c => if c = '*' then ['.', '*'] else [c]) ++ "$"

/-- Some pattern matches the branch; `none` when a pattern is rejected by the regular-expression
engine before one matches. -/
def isProtectedBranch (env : Env) (branch : String) : List String → Option Bool
  | [] => some false
  | pattern :: patterns =>
    if '*' ∈ pattern.toList then
      match env.regExpTest (globSource pattern) branch with
      | none => none
      | some true => some true
      | some false => isProtectedBranch env branch patterns
    else if branch = pattern then some true
    else isProtectedBranch env branch patterns

structure IntegrationPolicyResult where
  allowed : Bool
  integrationBranch : String
  canFastForward : Bool
  requiresPr : Bool
  reason : Option String

def canFastForward (baseSha : String) (integrationHeadSha mainSha : Option String) : Bool :=
  isTruthy integrationHeadSha && isTruthy mainSha && mainSha = some baseSha

def validateIntegrationPolicy (policy : RepoPolicy) (taskId baseSha : String)
    (integrationHeadSha mainSha : Option String) (checksPassed : Bool) : IntegrationPolicyResult :=
  if policy.requireCiPass && !checksPassed then
    { allowed := false, integrationBranch := getDefaultIntegrationBranch policy taskId
      canFastForward := false, requiresPr := false
      reason := some "CI checks must pass before integration" }
  else
    { allowed := true, integrationBranch := getDefaultIntegrationBranch policy taskId
      canFastForward := canFastForward baseSha integrationHeadSha mainSha
      requiresPr := policy.updateStrategy = .pullRequest, reason := none }

inductive PublishPolicyResult where
  | denied (reason : String)
  | allowed (warnings : List String)

def mainPushActorText : MainPushActor → String
  | .bot => "bot"
  | .human => "human"
  | .any => "any"

/-- The publish policy for the control plane, which acts as a bot. -/
def validatePublishPolicy (env : Env) (policy : RepoPolicy) (targetBranch : String)
    (checksPassed isFastForward : Bool) : Option PublishPolicyResult :=
  if policy.mainPushActor ≠ .any ∧ policy.mainPushActor ≠ .bot then
    some (.denied ("Only " ++ mainPushActorText policy.mainPushActor ++ " can push to " ++
      targetBranch))
  else if policy.requireCiPass && !checksPassed then
    some (.denied "CI checks must pass before publish")
  else match isProtectedBranch env targetBranch (policy.protectedBranches.getD ["main"]) with
    | none => none
    | some false => some (.allowed [])
    | some true =>
      if policy.updateStrategy = .pullRequest then
        some (.denied "PR required for protected branches")
      else if policy.updateStrategy = .fastForwardOnly ∧ !isFastForward then
        some (.denied "Only fast-forward pushes allowed to protected branches")
      else some (.allowed ["Publishing to protected branch: " ++ targetBranch])

inductive PushActor where
  | bot | human

def PushActor.mainPushActor : PushActor → MainPushActor
  | bot => .bot
  | human => .human

structure RepoPolicyCheckInput where
  policy : RepoPolicy
  actor : PushActor
  targetBranch : String
  isFastForward : Bool
  ciPassed : Bool

inductive PushReason where
  | humanPushNotAllowed | ciNotPassed | notFastForward | prRequired | protectedBranch

structure RepoPolicyCheckResult where
  allowed : Bool
  reason : Option PushReason

def pushDenial (input : RepoPolicyCheckInput) : Option PushReason :=
  if input.policy.mainPushActor ≠ .any ∧ input.actor.mainPushActor ≠ input.policy.mainPushActor then
    some .humanPushNotAllowed
  else if input.policy.requireCiPass && !input.ciPassed then some .ciNotPassed
  else none

def pushVerdict (input : RepoPolicyCheckInput) (isProtected : Bool) : RepoPolicyCheckResult :=
  if input.policy.updateStrategy = .pullRequest ∧ isProtected then ⟨false, some .prRequired⟩
  else if isProtected then
    if input.policy.updateStrategy = .fastForwardOnly ∧ !input.isFastForward then
      ⟨false, some .notFastForward⟩
    else if input.policy.protectedBranches.any (·.length > 0) then ⟨false, some .protectedBranch⟩
    else ⟨true, none⟩
  else ⟨true, none⟩

def validatePush (env : Env) (input : RepoPolicyCheckInput) : Option RepoPolicyCheckResult :=
  match pushDenial input with
  | some reason => some ⟨false, some reason⟩
  | none => (isProtectedBranch env input.targetBranch
      (input.policy.protectedBranches.getD ["main"])).map (pushVerdict input)

structure PublishPolicyInput where
  policy : RepoPolicy
  actor : PushActor
  targetBranch : String
  checksPassed : Bool
  isFastForward : Bool

structure PublishVerdict where
  allowed : Bool
  strategy : UpdateStrategy
  reason : Option String := none
  warnings : Option (List String) := none

def publishDenial (input : PublishPolicyInput) : Option String :=
  if input.policy.mainPushActor ≠ .any ∧ input.actor.mainPushActor ≠ input.policy.mainPushActor then
    some ("Only " ++ mainPushActorText input.policy.mainPushActor ++ " can push to " ++
      input.targetBranch)
  else if input.policy.requireCiPass && !input.checksPassed then
    some "CI checks must pass before publish"
  else none

def publishVerdict (input : PublishPolicyInput) (isProtected : Bool) : PublishVerdict :=
  if isProtected then
    if input.policy.updateStrategy = .pullRequest then
      { allowed := false, strategy := .pullRequest
        reason := some "PR required for protected branches"
        warnings := some ["Create a PR instead of direct publish"] }
    else if input.policy.updateStrategy = .fastForwardOnly ∧ !input.isFastForward then
      { allowed := false, strategy := .fastForwardOnly
        reason := some "Only fast-forward pushes allowed to protected branches" }
    else
      { allowed := true, strategy := input.policy.updateStrategy
        warnings := some ["Publishing to protected branch: " ++ input.targetBranch] }
  else { allowed := true, strategy := input.policy.updateStrategy }

def validatePublishPolicyFor (env : Env) (input : PublishPolicyInput) : Option PublishVerdict :=
  match publishDenial input with
  | some reason =>
    some { allowed := false, strategy := input.policy.updateStrategy, reason := some reason }
  | none => (isProtectedBranch env input.targetBranch
      (input.policy.protectedBranches.getD ["main"])).map (publishVerdict input)

def PublishVerdict.toResult (verdict : PublishVerdict) : PublishPolicyResult :=
  if verdict.allowed then .allowed (verdict.warnings.getD [])
  else .denied (verdict.reason.getD "")

structure BaseShaCheckInput where
  originalBaseSha : Option String
  currentBaseSha : String
  integrationHeadSha : Option String
  isFastForward : Option Bool
  hasConflicts : Option Bool

inductive BaseShaReason where
  | baseShaChanged
  | originalBaseShaMissing
  | conflictsExist

def BaseShaReason.text : BaseShaReason → String
  | baseShaChanged => "base_sha_changed"
  | originalBaseShaMissing => "original_base_sha_missing"
  | conflictsExist => "conflicts_exist"

inductive BaseShaAction where
  | proceed
  | rebase
  | resolveConflicts
  | blocked

structure BaseShaCheckResult where
  valid : Bool
  canProceed : Bool
  reason : Option BaseShaReason := none
  needsRebase : Option Bool := none
  canFastForward : Option Bool := none
  needsMerge : Option Bool := none
  hasConflicts : Option Bool := none
  action : BaseShaAction

/-- The base commit must be the one recorded when the integration started. Conflicts only choose
the action for a base that has changed. -/
def validateBaseSha (input : BaseShaCheckInput) : BaseShaCheckResult :=
  if !isTruthy input.originalBaseSha then
    { valid := false, canProceed := false, reason := some .originalBaseShaMissing
      action := .blocked }
  else if input.originalBaseSha ≠ some input.currentBaseSha then
    if input.hasConflicts = some true then
      { valid := false, canProceed := false, reason := some .baseShaChanged
        needsRebase := some true, hasConflicts := some true, action := .resolveConflicts }
    else
      { valid := false, canProceed := false, reason := some .baseShaChanged
        needsRebase := some true, action := .rebase }
  else
    { valid := true, canProceed := true, needsRebase := some false
      canFastForward := input.isFastForward, needsMerge := input.isFastForward.map (!·)
      action := .proceed }

end ShipyardCp.Domain
