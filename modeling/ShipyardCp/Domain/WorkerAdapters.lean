import ShipyardCp.Lib.Json
import ShipyardCp.Lib.Program
import ShipyardCp.Types.Job

/-! How the worker adapters make a result of what a worker has put out. -/

namespace ShipyardCp.Domain

open Types Lib Json JsText

/-- A verdict of an adapter. What it takes from a text is any JSON value. -/
structure AdapterVerdict where
  outcome : Json
  reason : Option Json
  checklistCompleted : Option Bool
  manualNotes : Option Json

structure AdapterPatch where
  format : PatchFormat
  content : Json
  baseSha : Option String

/-- The parts of a worker result that say what the worker has done. -/
structure AdapterResult where
  jobId : String
  typedRef : String
  status : ResultStatus
  artifacts : List ResultArtifact
  patchRef : Option AdapterPatch
  testResults : List TestResult
  verdict : Option AdapterVerdict
  failureClass : Option FailureClass
  failureCode : Option String

structure ToolPlanExecution where
  testResults : List TestResult
  errors : List String
  artifactPaths : List String

/-- What a conversion draws from outside: the clock, the base64 encodings, and the validation and
execution of tool plans. -/
structure AdapterEnv where
  now : Nat
  encodeText : List Char → String
  encodeJson : Json → String
  validPlan : WorkerJob → Json → Bool
  executePlan : WorkerJob → Json → Except String ToolPlanExecution

def samplePatch : String :=
  "--- a/file.ts\n+++ b/file.ts\n@@ -1,3 +1,5 @@\n+// Added line\n existing code"

def accept : Json := .str "accept"

/-- The result every adapter starts from. -/
def createBaseResult (job : WorkerJob) : AdapterResult where
  jobId := job.jobId
  typedRef := job.typedRef
  status := .succeeded
  artifacts := ⟨job.jobId ++ "-log", .log, "file:///logs/" ++ job.jobId ++ ".log"⟩ ::
      (if job.stage = .plan then
        [⟨job.jobId ++ "-plan", .json, "file:///plans/" ++ job.jobId ++ ".json"⟩] else [])
  patchRef :=
    if job.stage = .dev then some ⟨.unifiedDiff, .str samplePatch, job.repoRef.baseSha⟩ else none
  testResults :=
    match job.stage with
    | .plan => []
    | .dev => [⟨"unit", .passed, some 10, some 0, none, some 500, none⟩]
    | .acceptance => [⟨"acceptance", .passed, some 5, some 0, none, some 2000, none⟩]
  verdict :=
    if job.stage = .acceptance then
      some ⟨accept, some (.str "All acceptance criteria met"), some true, none⟩
    else none
  failureClass := none
  failureCode := none

/-- `value || other` for a member that may be undefined. -/
def orElseTruthy (value : Option Json) (other : Json) : Json :=
  match value with
  | some v => if v.truthy then v else other
  | none => other

def isTruthyJson (value : Option Json) : Bool := value.any truthy

def sliceText (n : Nat) (text : List Char) : String :=
  String.ofList (decodeUnits ((charCodes text).take n))

def looksLikeDiff (text : List Char) : Bool :=
  includes text "--- ".toList && includes text "+++ ".toList

/-- A program that writes to a result and may throw; what it wrote before stays written. -/
abbrev AdapterM := EStateM String AdapterResult

def parseJson (text : List Char) : AdapterM Json :=
  match parse text with
  | some parsed => pure parsed
  | none => throw "Unexpected token in JSON"

/-- `parsed.key`, which throws on `null` alone. -/
def member (parsed : Json) (key : String) : AdapterM (Option Json) :=
  match parsed with
  | .null => throw ("Cannot read properties of null (reading '" ++ key ++ "')")
  | parsed => pure (parsed.get? key)

def setVerdict (verdict : AdapterVerdict) : AdapterM Unit :=
  modify fun r => { r with verdict := some verdict }

def setPatch (content : Json) : AdapterM Unit :=
  modify fun r => { r with patchRef := some ⟨.unifiedDiff, content, none⟩ }

def addArtifacts (artifacts : List ResultArtifact) : AdapterM Unit :=
  modify fun r => { r with artifacts := r.artifacts ++ artifacts }

def failWith (failureCode : String) : AdapterM Unit :=
  modify fun r => { r with
    status := .failed
    failureClass := some .nonRetryableLogic
    failureCode := some failureCode }

section spec

variable {r : AdapterResult} {Q : EStateM.Result String AdapterResult Unit → Prop}

@[simp] theorem wp_parseJson {text : List Char} {Q : EStateM.Result String AdapterResult Json → Prop} :
    wp (parseJson text) Q r ↔
      match parse text with
      | some parsed => Q (.ok parsed r)
      | none => Q (.error "Unexpected token in JSON" r) := by
  unfold parseJson
  cases parse text <;> rfl

theorem wp_member {parsed : Json} (h : parsed ≠ .null) {key : String}
    {Q : EStateM.Result String AdapterResult (Option Json) → Prop} :
    wp (member parsed key) Q r ↔ Q (.ok (parsed.get? key) r) := by
  cases parsed with
  | null => exact absurd rfl h
  | _ => rfl

@[simp] theorem wp_member_null {key : String}
    {Q : EStateM.Result String AdapterResult (Option Json) → Prop} :
    wp (member .null key) Q r ↔
      Q (.error ("Cannot read properties of null (reading '" ++ key ++ "')") r) := Iff.rfl

@[simp] theorem wp_setPatch {content : Json} : wp (setPatch content) Q r ↔
    Q (.ok () { r with patchRef := some ⟨.unifiedDiff, content, none⟩ }) := Iff.rfl

@[simp] theorem wp_addArtifacts {artifacts : List ResultArtifact} : wp (addArtifacts artifacts) Q r ↔
    Q (.ok () { r with artifacts := r.artifacts ++ artifacts }) := Iff.rfl

@[simp] theorem wp_failWith {failureCode : String} : wp (failWith failureCode) Q r ↔
    Q (.ok () { r with
      status := .failed
      failureClass := some .nonRetryableLogic
      failureCode := some failureCode }) := Iff.rfl

end spec

namespace OpenAICompatibleCompletionAdapter

def isEnvelopeMode (job : WorkerJob) : Bool :=
  Metadata.get job.metadata "instruction_envelope_version" = some (.str "2.0")

def stripPrefix? (start text : List Char) : Option (List Char) :=
  if start.isPrefixOf text then some (text.drop start.length) else none

def fenced? (text : List Char) : Option (List Char) := do
  let rest ← stripPrefix? "```".toList text
  let body := ((stripPrefix? "json".toList rest).orElse fun _ =>
    stripPrefix? "JSON".toList rest).getD rest
  if "```".toList.isSuffixOf body then some (body.take (body.length - 3)) else none

def normalizeJsonContent (content : List Char) : List Char :=
  let trimmed := trim content
  match fenced? trimmed with
  | some body => trim body
  | none => trimmed

theorem stripPrefix?_isSuffix {start text rest : List Char}
    (h : stripPrefix? start text = some rest) : rest <:+ text := by
  unfold stripPrefix? at h
  split_ifs at h
  rw [← Option.some.inj h]
  exact List.drop_suffix _ _

theorem fenced?_isInfix {text body : List Char} (h : fenced? text = some body) : body <:+: text := by
  unfold fenced? at h
  obtain ⟨rest, hrest, h⟩ := Option.bind_eq_some_iff.mp h
  dsimp only at h
  split_ifs at h
  rw [← Option.some.inj h]
  refine (List.take_prefix _ _).isInfix.trans (List.IsSuffix.isInfix ?_)
  refine List.IsSuffix.trans ?_ (stripPrefix?_isSuffix hrest)
  cases hlower : stripPrefix? "json".toList rest with
  | some rest' => exact stripPrefix?_isSuffix hlower
  | none =>
    cases hupper : stripPrefix? "JSON".toList rest with
    | some rest' => exact stripPrefix?_isSuffix hupper
    | none => exact List.suffix_refl _

theorem normalizeJsonContent_isInfix (content : List Char) :
    normalizeJsonContent content <:+: content := by
  unfold normalizeJsonContent
  dsimp only
  cases hbody : fenced? (trim content) with
  | none => exact trim_isInfix content
  | some body =>
    exact (trim_isInfix body).trans ((fenced?_isInfix hbody).trans (trim_isInfix content))

/-- `artifactPath.replace(/[^A-Za-z0-9_.-]/g, '-')`, by code units. -/
def artifactName (path : String) : String := String.ofList (path.toList.flatMap fun c =>
    if c.isAlphanum || c ∈ ['_', '.', '-'] then [c]
    else List.replicate (codeUnits c).length '-')

def pathArtifact (job : WorkerJob) (path : String) : ResultArtifact where
  artifactId := job.jobId ++ "-" ++ artifactName path
  kind := if ".json".toList.isSuffixOf path.toList then .json else .other
  uri := "artifact://" ++ path

def readVerdict (parsed : Json) : AdapterM Unit := do
  let verdict ← member parsed "verdict"
  match verdict.filter truthy with
  | some verdict =>
    setVerdict ⟨orElseTruthy (verdict.get? "outcome") accept,
      some (orElseTruthy (verdict.get? "reason") (.str "")), none, none⟩
  | none =>
    match (parsed.get? "outcome").filter truthy with
    | some outcome =>
      setVerdict ⟨outcome, some (orElseTruthy (parsed.get? "reason") (.str "")), none, none⟩
    | none => pure ()

/-- A plan that is not valid fails the result; a valid one is executed. -/
def applyToolPlan (env : AdapterEnv) (job : WorkerJob) (parsed : Json) : AdapterM Unit := do
  modify fun r => { r with patchRef := none }
  if !env.validPlan job parsed then failWith "structured_output_invalid"
  else
    addArtifacts [⟨job.jobId ++ "-tool-plan", .json,
      "artifact://artifacts/jobs/" ++ job.jobId ++ "/tool-plan.json"⟩]
    match env.executePlan job parsed with
    | .error message => throw message
    | .ok execution =>
      addArtifacts (execution.artifactPaths.map (pathArtifact job))
      modify fun r => { r with testResults := r.testResults ++ execution.testResults }
      if execution.errors ≠ [] then failWith "tool_plan_execution_failed"

def readPlan (job : WorkerJob) (parsed : Json) : AdapterM Unit := do
  let _ ← member parsed "summary"
  if isTruthyJson (parsed.get? "steps") || isTruthyJson (parsed.get? "risks") then
    addArtifacts [⟨job.jobId ++ "-plan", .json, "artifact://plan_intent.json"⟩]

def readPatch (parsed : Json) (content : List Char) : AdapterM Unit := do
  let patch ← member parsed "patch"
  if isTruthyJson patch || includes content "--- ".toList then
    setPatch (orElseTruthy patch (.str (String.ofList content)))

/-- The body of the `try`. -/
def readContent (env : AdapterEnv) (job : WorkerJob) (content : List Char) : AdapterM Unit := do
  let parsed ← parseJson (normalizeJsonContent content)
  if job.stage = .acceptance then readVerdict parsed
  if job.stage = .dev ∧ isEnvelopeMode job then applyToolPlan env job parsed
  if job.stage = .plan ∧ isEnvelopeMode job then readPlan job parsed
  if !isEnvelopeMode job then readPatch parsed content

/-- The body of the `catch`. -/
def recover (job : WorkerJob) (content : List Char) : AdapterM Unit :=
  if isEnvelopeMode job then failWith "structured_output_parse_error"
  else if looksLikeDiff content then setPatch (.str (String.ofList content))
  else pure ()

def startResult (env : AdapterEnv) (job : WorkerJob) (content : List Char) : AdapterResult :=
  { createBaseResult job with
    artifacts := [⟨job.jobId ++ "-raw-response", .json,
      "data:application/json;base64," ++ env.encodeText content⟩] }

def convertToWorkerResult (env : AdapterEnv) (job : WorkerJob) (content : List Char) :
    AdapterResult :=
  finalState (tryCatch (readContent env job content) fun _ => recover job content)
    (startResult env job content)

/-- The tests of the plan a conversion executes. -/
def executedTests (env : AdapterEnv) (job : WorkerJob) (content : List Char) : List TestResult :=
  if job.stage = .dev ∧ isEnvelopeMode job then
    match parse (normalizeJsonContent content) with
    | some parsed =>
      if env.validPlan job parsed then
        match env.executePlan job parsed with
        | .ok execution => execution.testResults
        | .error _ => []
      else []
    | none => []
  else []

section spec

variable {env : AdapterEnv} {job : WorkerJob} {content : List Char} {parsed : Json}
  {r : AdapterResult} {Q : EStateM.Result String AdapterResult Unit → Prop}

theorem wp_readVerdict (h : parsed ≠ .null) : wp (readVerdict parsed) Q r ↔
    Q (.ok () { r with verdict :=
      match (parsed.get? "verdict").filter truthy with
      | some verdict => some ⟨orElseTruthy (verdict.get? "outcome") accept,
        some (orElseTruthy (verdict.get? "reason") (.str "")), none, none⟩
      | none =>
        match (parsed.get? "outcome").filter truthy with
        | some outcome =>
          some ⟨outcome, some (orElseTruthy (parsed.get? "reason") (.str "")), none, none⟩
        | none => r.verdict }) := by
  simp only [readVerdict, wp_bind, wp_member h, andThen_ok]
  cases (parsed.get? "verdict").filter truthy with
  | some verdict => rfl
  | none => cases (parsed.get? "outcome").filter truthy <;> rfl

theorem wp_readPlan (h : parsed ≠ .null) : wp (readPlan job parsed) Q r ↔
    Q (.ok () { r with
      artifacts := r.artifacts ++
        (if isTruthyJson (parsed.get? "steps") || isTruthyJson (parsed.get? "risks") then
          [⟨job.jobId ++ "-plan", .json, "artifact://plan_intent.json"⟩] else []) }) := by
  simp only [readPlan, wp_bind, wp_member h, andThen_ok, wp_ite]
  split_ifs
  · rfl
  · rw [List.append_nil]
    rfl

theorem wp_readPatch (h : parsed ≠ .null) : wp (readPatch parsed content) Q r ↔
    Q (.ok () { r with
      patchRef :=
        if isTruthyJson (parsed.get? "patch") || includes content "--- ".toList then
          some ⟨.unifiedDiff, orElseTruthy (parsed.get? "patch") (.str (String.ofList content)), none⟩
        else r.patchRef }) := by
  simp only [readPatch, wp_bind, wp_member h, andThen_ok, wp_ite]
  split_ifs <;> rfl

theorem convertToWorkerResult_of_unread (hparse : parse (normalizeJsonContent content) = none ∨
      parse (normalizeJsonContent content) = some .null ∧
        ¬(job.stage = .dev ∧ isEnvelopeMode job = true)) :
    (isEnvelopeMode job = true → convertToWorkerResult env job content =
      { startResult env job content with
        status := .failed
        failureClass := some .nonRetryableLogic
        failureCode := some "structured_output_parse_error" }) ∧
    (isEnvelopeMode job = false → convertToWorkerResult env job content =
      { startResult env job content with
        patchRef :=
          if looksLikeDiff content then some ⟨.unifiedDiff, .str (String.ofList content), none⟩
          else (createBaseResult job).patchRef }) := by
  have hrecovers : convertToWorkerResult env job content =
      finalState (recover job content) (startResult env job content) := by
    unfold convertToWorkerResult
    refine finalState_rec (tryCatch _ _) _ ?_
    simp only [readContent, wp_tryCatch, wp_bind, wp_parseJson]
    rcases hparse with hparse | ⟨hparse, hplan⟩ <;> rw [hparse]
    · exact wp_onState_iff.mpr rfl
    · have hthrows : wp (recover job content)
          (onState fun r => r = finalState (recover job content) (startResult env job content))
          (startResult env job content) := wp_onState_iff.mpr rfl
      cases hstage : job.stage <;> cases hmode : isEnvelopeMode job
      · simpa [hstage, hmode, readPatch] using hthrows
      · simpa [hstage, hmode, readPlan] using hthrows
      · simpa [hstage, hmode, readPatch] using hthrows
      · exact absurd ⟨hstage, hmode⟩ hplan
      · simpa [hstage, hmode, readVerdict] using hthrows
      · simpa [hstage, hmode, readVerdict] using hthrows
  rw [hrecovers, recover]
  constructor
  · intro hmode
    rw [if_pos hmode]
    rfl
  · intro hmode
    rw [if_neg (by simp [hmode])]
    split_ifs <;> rfl

theorem convertToWorkerResult_of_read
    (hparse : parse (normalizeJsonContent content) = some parsed) (hnull : parsed ≠ .null)
    (hplan : ¬(job.stage = .dev ∧ isEnvelopeMode job = true)) :
    convertToWorkerResult env job content =
      { startResult env job content with
        verdict :=
          if job.stage = .acceptance then
            match (parsed.get? "verdict").filter truthy with
            | some verdict => some ⟨orElseTruthy (verdict.get? "outcome") accept,
              some (orElseTruthy (verdict.get? "reason") (.str "")), none, none⟩
            | none =>
              match (parsed.get? "outcome").filter truthy with
              | some outcome =>
                some ⟨outcome, some (orElseTruthy (parsed.get? "reason") (.str "")), none, none⟩
              | none => (createBaseResult job).verdict
          else (createBaseResult job).verdict
        artifacts := (startResult env job content).artifacts ++
          (if job.stage = .plan ∧ isEnvelopeMode job = true ∧
              (isTruthyJson (parsed.get? "steps") || isTruthyJson (parsed.get? "risks")) = true then
            [⟨job.jobId ++ "-plan", .json, "artifact://plan_intent.json"⟩] else [])
        patchRef :=
          if isEnvelopeMode job = false ∧ (isTruthyJson (parsed.get? "patch") ||
              includes content "--- ".toList) = true then
            some ⟨.unifiedDiff, orElseTruthy (parsed.get? "patch") (.str (String.ofList content)),
              none⟩
          else (createBaseResult job).patchRef } := by
  unfold convertToWorkerResult
  refine finalState_rec (tryCatch _ _) _ ?_
  simp only [readContent, wp_tryCatch, wp_bind, wp_parseJson, hparse]
  cases hstage : job.stage <;> cases hmode : isEnvelopeMode job
  · simp [wp_readPatch hnull, startResult]
  · simp [wp_readPlan hnull, startResult]
  · simp [wp_readPatch hnull, startResult]
  · exact absurd ⟨hstage, hmode⟩ hplan
  · simp [wp_readVerdict hnull, wp_readPatch hnull, startResult]
  · simp [wp_readVerdict hnull, startResult]

theorem convertToWorkerResult_of_plan
    (hparse : parse (normalizeJsonContent content) = some parsed) (hstage : job.stage = .dev)
    (hmode : isEnvelopeMode job = true) :
    let result := convertToWorkerResult env job content
    result.patchRef = none ∧ result.verdict = none ∧
      result.testResults = (createBaseResult job).testResults ++ executedTests env job content ∧
      ∃ artifacts, result.artifacts = (startResult env job content).artifacts ++ artifacts ∧
        ∀ a ∈ artifacts, ∃ path, a.uri = "artifact://" ++ path := by
  dsimp only
  unfold convertToWorkerResult
  refine finalState_rec (tryCatch _ _) _ ?_
  simp only [readContent, applyToolPlan, wp_tryCatch, wp_bind, wp_parseJson, hparse]
  have hverdict : (createBaseResult job).verdict = none := by simp [createBaseResult, hstage]
  have htoolPlan : ∃ path, "artifact://artifacts/jobs/" ++ job.jobId ++ "/tool-plan.json" =
      "artifact://" ++ path := by
    refine ⟨"artifacts/jobs/" ++ job.jobId ++ "/tool-plan.json", ?_⟩
    have hroot : "artifact://artifacts/jobs/" = "artifact://" ++ "artifacts/jobs/" := by decide
    rw [hroot]
    simp only [String.append_assoc]
  cases hvalid : env.validPlan job parsed with
  | false => simp [hstage, hmode, hvalid, executedTests, hparse, startResult, hverdict]
  | true =>
    cases hexecute : env.executePlan job parsed with
    | error message =>
      simp [hstage, hmode, hvalid, hexecute, executedTests, hparse, startResult, hverdict, recover,
        htoolPlan]
    | ok execution =>
      by_cases herrors : execution.errors = []
      · simp [hstage, hmode, hvalid, hexecute, herrors, executedTests, hparse, startResult, hverdict,
          htoolPlan, pathArtifact]
      · simp [hstage, hmode, hvalid, hexecute, herrors, executedTests, hparse, startResult, hverdict,
          htoolPlan, pathArtifact]

end spec

end OpenAICompatibleCompletionAdapter

/-- What an executor returns of a run that succeeded. -/
structure AdapterExecution where
  output : Option (List Char)
  artifacts : Option (List ResultArtifact)

/-- `result.output || ''` -/
def AdapterExecution.text (execution : AdapterExecution) : List Char := execution.output.getD []

namespace OpenCodeServeAdapter

/-- `/reject|rework/i` -/
def rejects (text : List Char) : Bool :=
  test (word "reject") none text || test (word "rework") none text

def statedOutcome? (trimmed : List Char) : Option (Json × Json) := do
  let parsed ← parse trimmed
  let outcome ← parsed.get? "outcome"
  if outcome.truthy then some (outcome, parsed) else none

def tryExtractVerdict (output : List Char) : Option AdapterVerdict :=
  let trimmed := trim output
  if trimmed = [] then none
  else
    match statedOutcome? trimmed with
    | some (outcome, parsed) =>
      some ⟨outcome, parsed.get? "reason", some (outcome.asString? = some "accept"), none⟩
    | none =>
      some ⟨if rejects trimmed then .str "rework" else accept,
        some (.str (sliceText 500 trimmed)), some (!rejects trimmed), none⟩

def convertToWorkerResult (job : WorkerJob) (execution : AdapterExecution) : AdapterResult :=
  let base := createBaseResult job
  let output := execution.text
  { base with
    artifacts := execution.artifacts.getD []
    verdict := if job.stage = .acceptance then (tryExtractVerdict output).or base.verdict
      else base.verdict
    patchRef := if looksLikeDiff output then
        some ⟨.unifiedDiff, .str (String.ofList output), job.repoRef.baseSha⟩
      else base.patchRef }

end OpenCodeServeAdapter

namespace ProductionClaudeCodeAdapter

def readPlan (env : AdapterEnv) (parsed : Json) : AdapterM Unit := do
  let plan ← member parsed "plan"
  match plan.filter truthy with
  | some plan =>
    modify fun r => { r with artifacts := [⟨"plan-" ++ toString env.now, .json,
      "data:application/json;base64," ++ env.encodeJson plan⟩] }
  | none => pure ()

def readVerdict (parsed : Json) : AdapterM Unit := do
  let verdict ← member parsed "verdict"
  match verdict.filter truthy with
  | some verdict =>
    setVerdict ⟨orElseTruthy (verdict.get? "outcome") accept,
      some (orElseTruthy (verdict.get? "reason") (.str "")), none, verdict.get? "notes"⟩
  | none => pure ()

def readPatch (parsed : Json) : AdapterM Unit := do
  let patch ← member parsed "patch"
  match patch.filter truthy with
  | some patch => setPatch patch
  | none => pure ()

/-- The body of the `try`; the parts it sets overwrite those of the result. -/
def readOutput (env : AdapterEnv) (stage : WorkerStage) (output : List Char) : AdapterM Unit := do
  let parsed ← parseJson output
  if stage = .plan then readPlan env parsed
  if stage = .acceptance then readVerdict parsed
  readPatch parsed

/-- The body of the `catch`. -/
def recover (stage : WorkerStage) (output : List Char) : AdapterM Unit :=
  if stage = .dev ∧ looksLikeDiff output then setPatch (.str (String.ofList output))
  else pure ()

def convertToWorkerResult (env : AdapterEnv) (job : WorkerJob) (execution : AdapterExecution) :
    AdapterResult :=
  let base := createBaseResult job
  let base := { base with artifacts := execution.artifacts.getD base.artifacts }
  if execution.text = [] then base
  else
    finalState (tryCatch (readOutput env job.stage execution.text)
      fun _ => recover job.stage execution.text) base

section spec

variable (env : AdapterEnv) {parsed : Json} {r : AdapterResult}
  {Q : EStateM.Result String AdapterResult Unit → Prop}

theorem wp_readPlan (h : parsed ≠ .null) : wp (readPlan env parsed) Q r ↔
    Q (.ok () { r with artifacts :=
      match (parsed.get? "plan").filter truthy with
      | some plan => [⟨"plan-" ++ toString env.now, .json,
        "data:application/json;base64," ++ env.encodeJson plan⟩]
      | none => r.artifacts }) := by
  simp only [readPlan, wp_bind, wp_member h, andThen_ok]
  cases (parsed.get? "plan").filter truthy <;> rfl

theorem wp_readVerdict (h : parsed ≠ .null) : wp (readVerdict parsed) Q r ↔
    Q (.ok () { r with verdict :=
      match (parsed.get? "verdict").filter truthy with
      | some verdict => some ⟨orElseTruthy (verdict.get? "outcome") accept,
        some (orElseTruthy (verdict.get? "reason") (.str "")), none, verdict.get? "notes"⟩
      | none => r.verdict }) := by
  simp only [readVerdict, wp_bind, wp_member h, andThen_ok]
  cases (parsed.get? "verdict").filter truthy <;> rfl

theorem wp_readPatch (h : parsed ≠ .null) : wp (readPatch parsed) Q r ↔
    Q (.ok () { r with patchRef :=
      match (parsed.get? "patch").filter truthy with
      | some patch => some ⟨.unifiedDiff, patch, none⟩
      | none => r.patchRef }) := by
  simp only [readPatch, wp_bind, wp_member h, andThen_ok]
  cases (parsed.get? "patch").filter truthy <;> rfl

variable {job : WorkerJob} {execution : AdapterExecution}

theorem convertToWorkerResult_of_read (hparse : parse execution.text = some parsed)
    (hnull : parsed ≠ .null) : convertToWorkerResult env job execution =
      { createBaseResult job with
        artifacts :=
          match (if job.stage = .plan then (parsed.get? "plan").filter truthy else none) with
          | some plan => [⟨"plan-" ++ toString env.now, .json,
            "data:application/json;base64," ++ env.encodeJson plan⟩]
          | none => execution.artifacts.getD (createBaseResult job).artifacts
        verdict :=
          match (if job.stage = .acceptance then (parsed.get? "verdict").filter truthy
            else none) with
          | some verdict => some ⟨orElseTruthy (verdict.get? "outcome") accept,
            some (orElseTruthy (verdict.get? "reason") (.str "")), none, verdict.get? "notes"⟩
          | none => (createBaseResult job).verdict
        patchRef :=
          match (parsed.get? "patch").filter truthy with
          | some patch => some ⟨.unifiedDiff, patch, none⟩
          | none => (createBaseResult job).patchRef } := by
  have hsome : execution.text ≠ [] := by
    intro hempty
    rw [hempty] at hparse
    cases hparse
  unfold convertToWorkerResult
  dsimp only
  rw [if_neg hsome]
  refine finalState_rec (tryCatch _ _) _ ?_
  simp only [readOutput, wp_tryCatch, wp_bind, wp_parseJson, hparse]
  cases hstage : job.stage <;>
    simp [wp_readPlan env hnull, wp_readVerdict hnull, wp_readPatch hnull]

theorem convertToWorkerResult_of_unread
    (hparse : parse execution.text = none ∨ parse execution.text = some .null) :
    convertToWorkerResult env job execution =
      { createBaseResult job with
        artifacts := execution.artifacts.getD (createBaseResult job).artifacts
        patchRef := if job.stage = .dev ∧ looksLikeDiff execution.text then
            some ⟨.unifiedDiff, .str (String.ofList execution.text), none⟩
          else (createBaseResult job).patchRef } := by
  unfold convertToWorkerResult
  dsimp only
  by_cases hempty : execution.text = []
  · rw [if_pos hempty, hempty, if_neg]
    exact fun hdiff => absurd hdiff.2 (by decide)
  · rw [if_neg hempty]
    refine finalState_rec (tryCatch _ _) _ ?_
    simp only [readOutput, wp_tryCatch, wp_bind, wp_parseJson]
    rcases hparse with hparse | hparse <;> rw [hparse] <;>
      by_cases hdiff : job.stage = .dev ∧ looksLikeDiff execution.text = true
    · simp [recover, hdiff]
    · simp [recover, hdiff]
    · simp [recover, hdiff, readPatch]
    · cases hstage : job.stage <;> simp_all [recover, readPlan, readVerdict, readPatch]

end spec

end ProductionClaudeCodeAdapter

end ShipyardCp.Domain
