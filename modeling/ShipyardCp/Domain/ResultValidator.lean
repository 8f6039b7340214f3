import ShipyardCp.Domain.StateMachine
import ShipyardCp.Lib.JsText

/-! Validation of a worker result before it may move its task: authority conflicts, structure, and
the semantic rules of the stage. -/

namespace ShipyardCp.Domain

open Types Lib JsText

inductive ValidationCode where
  | parseError | schemaError | semanticError | policyViolation | logicError | authorityConflict
  deriving DecidableEq

structure ValidationError where
  code : ValidationCode
  path : String
  message : String

structure ResultValidation where
  valid : Bool
  schemaErrors : List ValidationError
  semanticErrors : List ValidationError
  authorityConflictErrors : List ValidationError

def isSegmentChar (c : Char) : Bool := c.isLower || c.isDigit || c = '_' || c = '-'

def isValidTypedRefFrom : Nat → List Char → Bool
  | 0, text => text ≠ [] && text.all fun c => !isLineTerminator c
  | n + 1, text =>
    match text.dropWhile isSegmentChar with
    | ':' :: rest => text.head?.any isSegmentChar && isValidTypedRefFrom n rest
    | _ => false

/-- `^[a-z0-9_-]+:[a-z0-9_-]+:[a-z0-9_-]+:.+$`, segment by segment. -/
def isValidTypedRef (typedRef : String) : Bool := isValidTypedRefFrom 3 typedRef.toList

def schemaError (path message : String) : ValidationError := ⟨.schemaError, path, message⟩

/-- The checks that a well-typed result can fail. -/
def schemaErrors (result : WorkerResult) : List ValidationError := (if result.jobId = "" then
    [schemaError "job_id" "job_id is required and must be non-empty"] else []) ++
  (if result.typedRef = "" then
    [schemaError "typed_ref" "typed_ref is required and must be non-empty"] else []) ++
  (if result.status = .succeeded ∧ ¬ (isTruthy result.summary ∨ result.patchRef.isSome ∨
      result.branchRef.isSome ∨ result.verdict.isSome ∨ 0 < result.artifacts.length) then
    [schemaError "output"
      "status=succeeded requires summary, patch_ref, branch_ref, verdict, or at least 1 artifact"]
    else []) ++
  (if result.typedRef ≠ "" ∧ ¬ isValidTypedRef result.typedRef then
    [schemaError "typed_ref"
      "typed_ref must match 4-segment canonical form: domain:entity_type:provider:entity_id"]
    else [])

def semanticError (path message : String) : ValidationError := ⟨.semanticError, path, message⟩

def isForbiddenInPlan : EscalationKind → Bool
  | .networkAccess | .workspaceOutsideWrite | .protectedPathWrite | .destructiveTool => true
  | .secretAccess | .humanVerdict => false

def planStageErrors (result : WorkerResult) : List ValidationError := (if result.patchRef.isSome then
    [semanticError "patch_ref" "plan stage must not return patch_ref"] else []) ++
  (if result.branchRef.isSome then
    [semanticError "branch_ref" "plan stage must not return branch_ref"] else []) ++
  (if result.status = .succeeded ∧ ¬ (isTruthy result.summary ∨
      result.artifacts.any fun a => a.kind = .json || a.kind = .report) then
    [semanticError "output" "plan stage succeeded requires summary or plan artifact"] else []) ++
  ((result.requestedEscalations.filter fun e => isForbiddenInPlan e.kind).filter
      fun e => e.approved ≠ some true).map fun e =>
    ⟨.policyViolation, "requested_escalations." ++ e.kind.text,
      "plan stage forbidden side effect: " ++ e.kind.text⟩

/-- `text.replaceAll('-', '_')`. -/
def hyphensToUnderscores (text : List Char) : List Char :=
  text.map fun c => if c = '-' then '_' else c

def isStructuredDevArtifact (a : ResultArtifact) : Bool :=
  let artifactRef := hyphensToUnderscores (a.artifactId ++ " " ++ a.uri).toList
  a.kind = .json && (includes artifactRef "tool_plan".toList ||
    includes artifactRef "edit_intent".toList)

def devStageErrors (result : WorkerResult) : List ValidationError :=
  if result.status = .succeeded ∧ ¬ (result.patchRef.isSome ∨ result.branchRef.isSome ∨
      result.artifacts.any isStructuredDevArtifact) then
    [semanticError "output"
      "dev stage succeeded requires patch_ref, branch_ref, tool_plan, or edit_intent"]
  else []

def hasAcceptanceEvidence (result : WorkerResult) : Bool :=
  result.testResults.any (fun t => t.status = .passed) ||
    result.artifacts.any fun a => a.kind = .report || a.kind = .json

def acceptanceStageErrors (result : WorkerResult) (riskLevel : RiskLevel) : List ValidationError :=
  (if result.patchRef.isSome then
    [semanticError "patch_ref" "acceptance stage must not return patch_ref"] else []) ++
  (if result.branchRef.isSome then
    [semanticError "branch_ref" "acceptance stage must not return branch_ref"] else []) ++
  (match result.verdict with
  | none => [semanticError "verdict" "acceptance stage requires verdict"]
  | some verdict =>
    (if verdict.outcome = .accept ∧ result.status = .succeeded ∧ ¬ hasAcceptanceEvidence result then
      [semanticError "evidence"
        "accept verdict requires test results or acceptance artifact - insufficient evidence for auto-acceptance"]
      else []) ++
    (if verdict.outcome = .needsManualReview then
      [semanticError "verdict.outcome" "acceptance requires manual review"] else [])) ++
  (if riskLevel = .high ∧ result.verdict.any (fun v => v.outcome = .accept) ∧
      ¬ result.testResults.any (fun t => t.suite = "regression" && t.status = .passed) then
    [⟨.policyViolation, "test_results.regression",
      "high-risk acceptance requires regression suite passed"⟩]
    else [])

def semanticErrors (result : WorkerResult) (stage : WorkerStage) (riskLevel : RiskLevel) :
    List ValidationError :=
  match stage with
  | .plan => planStageErrors result
  | .dev => devStageErrors result
  | .acceptance => acceptanceStageErrors result riskLevel

def overridePatterns : List (List JsText.Atom) :=
  [[.boundary] ++ word "ignore" ++ [.spaces] ++ word "previous" ++ [.spaces] ++
      word "instructions" ++ [.boundary],
    [.boundary] ++ word "bypass" ++ [.spaces] ++ word "policy" ++ [.boundary],
    [.boundary] ++ word "override" ++ [.spaces] ++ word "authority" ++ [.boundary],
    [.boundary] ++ word "set" ++ [.spaces] ++ word "approval_policy" ++
      [.optionalSpaces, .sign '=', .optionalSpaces] ++ word "allow" ++ [.boundary],
    [.boundary] ++ word "disable" ++ [.spaces] ++ word "sandbox" ++ [.boundary]]

def isOverrideText (text : String) : Bool :=
  overridePatterns.any fun pattern => test pattern none text.toList

/-- The message of an authority conflict of result and task. -/
def detectAuthorityConflict (result : WorkerResult) (task : Task) : Option String :=
  let textFields := [result.summary, result.verdict.bind (·.reason)].filterMap id ++
    result.requestedEscalations.map (·.reason)
  if textFields.any isOverrideText then
    some "instruction_injection: Content contains potential instruction override pattern"
  else match task.resolverRefs with
    | some refs =>
      if refs.docRefs.isSome ∧ refs.staleStatus = some .stale then
        some "stale_document_reference: Referenced documents may contain stale instructions"
      else none
    | none => none

def validateResult (result : WorkerResult) (task : Task) (job : WorkerJob) : ResultValidation :=
  match detectAuthorityConflict result task with
  | some message => ⟨false, [], [], [⟨.authorityConflict, "authority", message⟩]⟩
  | none =>
    if schemaErrors result ≠ [] then ⟨false, schemaErrors result, [], []⟩
    else if semanticErrors result job.stage task.riskLevel ≠ [] then
      ⟨false, [], semanticErrors result job.stage task.riskLevel, []⟩
    else ⟨true, [], [], []⟩

def ResultValidation.errors (v : ResultValidation) : List ValidationError :=
  v.schemaErrors ++ v.semanticErrors ++ v.authorityConflictErrors

end ShipyardCp.Domain
