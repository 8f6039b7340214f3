import ShipyardCp.Domain.ToolPlanHost

/-! The execution of the tool plans that workers return: how far a plan may write, what its calls
write to the workspace, and which processes they start. -/

namespace ShipyardCp.Domain

open Types Lib Lib.NodePath

/-- The limits of a plan, as the worker wrote them. -/
structure ToolPlanLimits where
  maxFiles : Option Json := none
  maxWriteBytesPerFile : Option Json := none

/-- What a plan says of its execution, apart from its calls. -/
structure ToolPlanSettings where
  dryRun : Option Bool := none
  allowedPaths : Option (List String) := none
  limits : Option ToolPlanLimits := none

structure ToolPlanOutput extends ToolPlanSettings where
  calls : List ToolPlanCall

inductive ToolPlanExecutionVerdict where
  | executed | applied | skipped | failed | dryRun
  deriving DecidableEq

/-- A file written, or begun to be written, with its content. -/
structure FileWrite where
  location : Location
  content : String
  deriving DecidableEq

structure ToolPlanExecutionResult where
  executionVerdict : ToolPlanExecutionVerdict
  dryRun : Bool
  applied : Bool
  skipped : Bool
  workspaceRoot : Option Location
  operations : List ToolPlanOperationResult
  errors : List String
  writes : List FileWrite
  processes : List ProcessStart
  artifacts : List Location

structure ToolPlanExecutionOptions where
  dryRun : Bool
  allowedPaths : Option (List (List Char))
  maxFiles : Nat
  maxWriteBytesPerFile : Nat

def DEFAULT_MAX_FILES : Nat := 5

def DEFAULT_MAX_WRITE_BYTES_PER_FILE : Nat := 200 * 1024

/-- What the world answers to a call: which locations exist while it is made, the file system to its
reads and writes, and what comes of the process that it starts. -/
structure CallAnswer where
  existsSync : Location → Bool := fun _ => false
  fileExists : Bool
  read : Except String String
  mkdir : Except String Unit
  write : Except String Unit
  process : Except ProcessError ProcessOutput

/-- What a call comes to. -/
structure CallOutcome where
  operation : ToolPlanOperationResult
  error : Option String := none
  write : Option FileWrite := none
  process : Option ProcessStart := none

namespace ToolPlanHost

variable (host : ToolPlanHost)

def canWrite (job : WorkerJob) : Bool := job.approvalPolicy.mode ≠ .deny &&
    (job.approvalPolicy.sandboxProfile = some .workspaceWrite ||
      job.approvalPolicy.sandboxProfile = some .fullAuto)

def isSafeRepoDirectoryName (repoName : List Char) : Bool :=
  repoName ≠ [] && repoName ≠ ['.'] && repoName ≠ ['.', '.'] &&
    basename host.platform repoName = repoName

def resolveWorkspaceRoot (job : WorkerJob) : Option Location :=
  let workspaceId := job.workspaceRef.workspaceId.toList
  if job.workspaceRef.kind = .hostPath ∧ isAbsolute host.platform workspaceId then
    let root := host.resolve host.cwd workspaceId
    if host.existsSync root then some root else none
  else
    let repoName := job.repoRef.name.toList
    if !host.isSafeRepoDirectoryName repoName then none
    else if host.cwd.names.getLast?.getD [] = repoName then some host.cwd
    else
      let parent : Location := { host.cwd with names := host.cwd.names.dropLast }
      let grandparent : Location := { host.cwd with names := parent.names.dropLast }
      [host.resolve parent repoName, host.resolve grandparent repoName].find? host.existsSync

/-- The prefixes that a value of the job's metadata lists. -/
def parseAllowedPaths (value : Option MetadataValue) : Except String (Option (List String)) :=
  match value with
  | some (.str text) =>
    let trimmed := JsText.trim text.toList
    if trimmed = [] then .ok none
    else
      let listed := ((trimmed.splitOn ',').map JsText.trim).filter (· ≠ [])
      if trimmed.head? = some '[' then
        match Json.parse trimmed with
        | none => .error
            "allowed_paths must be valid JSON array syntax when it starts with '[': Unexpected token"
        | some (.arr items) =>
          if items.all fun item => item.asString?.isSome then
            .ok (some (items.filterMap Json.asString?))
          else .ok (some (listed.map String.ofList))
        | some _ => .ok (some (listed.map String.ofList))
      else .ok (some (listed.map String.ofList))
  | _ => .ok none

/-- The number of a value that is a positive integer, or a text of digits. -/
def positiveInteger? : Json → Option Nat
  | .num mantissa exponent =>
    if mantissa ≤ 0 then none
    else if 0 ≤ exponent then some (mantissa.toNat * 10 ^ exponent.toNat)
    else if mantissa.toNat % 10 ^ (-exponent).toNat = 0 then
      some (mantissa.toNat / 10 ^ (-exponent).toNat)
    else none
  | .str text =>
    if text.toList ≠ [] ∧ text.toList.all Char.isDigit then some (Json.digitsValue text.toList)
    else none
  | _ => none

def parsePositiveInteger (value : Option Json) (fallback : Nat) : Nat :=
  (value.bind positiveInteger?).getD fallback

def normalizeAllowedPaths (paths : Option (List String)) :
    Except String (Option (List (List Char))) :=
  match paths with
  | none => .ok none
  | some [] => .ok none
  | some paths =>
    match paths.find? fun text =>
      isAbsolute host.platform text.toList || ['.', '.'] ∈ parts .win32 text.toList with
    | some text => .error s!"allowed_paths must be repo-relative path prefixes: {text}"
    | none => .ok (some (paths.map normalizedAllowed))

def metadataJson : MetadataValue → Json
  | .str s => .str s
  | .num n => .num n 0
  | .bool b => .bool b
  | .null => .null

/-- `value ?? other` -/
def nullish (value other : Option Json) : Option Json :=
  match value with
  | none => other
  | some .null => other
  | some value => some value

def resolveExecutionOptions (plan : ToolPlanSettings) (job : WorkerJob) :
    Except String ToolPlanExecutionOptions := do
  let metadata := Metadata.get job.metadata
  let dryRun := plan.dryRun = some true ∨ metadata "tool_plan_dry_run" = some (.bool true)
  let paths ← match plan.allowedPaths with
    | some paths => pure (some paths)
    | none => parseAllowedPaths (metadata "tool_plan_allowed_paths")
  let allowedPaths ← host.normalizeAllowedPaths paths
  let maxFiles := parsePositiveInteger
    (nullish (plan.limits.bind (·.maxFiles)) ((metadata "tool_plan_max_files").map metadataJson))
    DEFAULT_MAX_FILES
  let maxWriteBytesPerFile := parsePositiveInteger
    (nullish (plan.limits.bind (·.maxWriteBytesPerFile))
      ((metadata "tool_plan_max_write_bytes_per_file").map metadataJson))
    DEFAULT_MAX_WRITE_BYTES_PER_FILE
  pure { dryRun, allowedPaths, maxFiles, maxWriteBytesPerFile }

def isWriteCall (call : ToolPlanCall) : Bool :=
  call.tool = "write_file" || call.tool = "apply_patch_intent"

def repoPath (workspaceRoot resolved : Location) : List Char :=
  slashed (host.relative workspaceRoot resolved)

def validatePlanLimits (calls : List ToolPlanCall) (workspaceRoot : Location)
    (options : ToolPlanExecutionOptions) : Option String :=
  match (calls.filter isWriteCall).mapM fun call =>
    host.resolveRepoPath workspaceRoot (arg call "path") with
  | .error error => some error
  | .ok resolved =>
    let writePaths := (resolved.map (host.repoPath workspaceRoot)).dedup
    if writePaths.length > options.maxFiles then
      some s!"tool_plan changes {writePaths.length} files; limit is {options.maxFiles}"
    else none

def isAllowedWritePath (workspaceRoot resolved : Location)
    (options : ToolPlanExecutionOptions) : Bool :=
  match options.allowedPaths with
  | none => true
  | some allowedPaths =>
    let repoPath := host.repoPath workspaceRoot resolved
    allowedPaths.any fun dir => repoPath = dir || (dir ++ ['/']).isPrefixOf repoPath

def assertAllowedWritePath (workspaceRoot resolved : Location)
    (options : ToolPlanExecutionOptions) : Except String Unit :=
  if host.isAllowedWritePath workspaceRoot resolved options then .ok ()
  else
    .error s!"path is outside allowed_paths: {String.ofList (host.repoPath workspaceRoot resolved)}"

def assertWriteSize (content : String) (options : ToolPlanExecutionOptions) : Except String Unit :=
  if content.utf8ByteSize > options.maxWriteBytesPerFile then
    .error (s!"write size {content.utf8ByteSize} bytes exceeds limit " ++
      s!"{options.maxWriteBytesPerFile}")
  else .ok ()

def readFile (call : ToolPlanCall) (workspaceRoot : Location) (answer : CallAnswer) : CallOutcome :=
  let attempt : Except String Location := do
    let resolved ← host.resolveRepoPath workspaceRoot (arg call "path")
    let _ ← answer.read
    pure resolved
  match attempt with
  | .ok resolved =>
    { operation := { tool := "read_file", status := .applied,
                     path := some (String.ofList (host.relative workspaceRoot resolved)) } }
  | .error error =>
    { operation := { tool := "read_file", status := .failed, message := some error } }

/-- The outcome of a call that writes, or would write in a dry run. -/
def writeOutcome (tool : String) (workspaceRoot : Location) (options : ToolPlanExecutionOptions)
    (attempt : Except String FileWrite) (finish : Except String Unit) : CallOutcome :=
  let failed := fun (error : String) (write : Option FileWrite) =>
    { operation := { tool, status := .failed, message := some error }, error := some error, write :
        CallOutcome }
  match attempt with
  | .error error => failed error none
  | .ok write =>
    let path := some (String.ofList (host.relative workspaceRoot write.location))
    if options.dryRun then { operation := { tool, status := .planned, path } }
    else
      match finish with
      | .error error => failed error (some write)
      | .ok _ => { operation := { tool, status := .applied, path }, write := some write }

def writeFile (call : ToolPlanCall) (workspaceRoot : Location) (options : ToolPlanExecutionOptions)
    (answer : CallAnswer) : CallOutcome :=
  let attempt : Except String FileWrite := do
    match arg call "content" with
    | some (.str content) =>
      let resolved ← host.resolveRepoPath workspaceRoot (arg call "path")
      host.assertAllowedWritePath workspaceRoot resolved options
      assertWriteSize content options
      if answer.fileExists then
        let _ ← answer.read
      -- a directory that cannot be made stops the call before anything is written
      if !options.dryRun then answer.mkdir
      pure ⟨resolved, content⟩
    | _ => .error "content must be a string"
  host.writeOutcome "write_file" workspaceRoot options attempt answer.write

def matchPlaces (pattern text : List Char) : List Nat :=
  (List.range (text.length + 1)).filter fun i => pattern.isPrefixOf (text.drop i)

/-- The replacement of `String.replace` with its patterns filled in. -/
def substitution (before matched after : List Char) : List Char → List Char
  | '$' :: '$' :: rest => '$' :: substitution before matched after rest
  | '$' :: '&' :: rest => matched ++ substitution before matched after rest
  | '$' :: '`' :: rest => before ++ substitution before matched after rest
  | '$' :: '\'' :: rest => after ++ substitution before matched after rest
  | c :: rest => c :: substitution before matched after rest
  | [] => []

def patched (original locator replacement : String) : Except String String :=
  match matchPlaces locator.toList original.toList with
  | [i] =>
    let before := original.toList.take i
    let after := original.toList.drop (i + locator.toList.length)
    .ok (String.ofList
      (before ++ substitution before locator.toList after replacement.toList ++ after))
  | _ => .error "locator was not found exactly once in target file"

def applyPatchIntent (call : ToolPlanCall) (workspaceRoot : Location)
    (options : ToolPlanExecutionOptions) (answer : CallAnswer) : CallOutcome :=
  let attempt : Except String FileWrite := do
    match arg call "locator", arg call "replacement" with
    | some (.str locator), some (.str replacement) =>
      let resolved ← host.resolveRepoPath workspaceRoot (arg call "path")
      host.assertAllowedWritePath workspaceRoot resolved options
      let original ← answer.read
      let updated ← patched original locator replacement
      assertWriteSize updated options
      pure ⟨resolved, updated⟩
    | _, _ => .error "locator and replacement must be strings"
  host.writeOutcome "apply_patch_intent" workspaceRoot options attempt answer.write

def runTestSuite (workspaceRoot : Location) (answer : CallAnswer) : CallOutcome :=
  match host.resolveTestCommand answer.existsSync workspaceRoot with
  | none =>
    { operation := { tool := "run_test_suite", status := .skipped,
                     message := some "no supported test command found" } }
  | some (bin, args) =>
    let process := some { bin, args, cwd := workspaceRoot, timeout := 120000,
                          maxBuffer := 1024 * 1024 * 4 }
    match answer.process with
    | .ok _ =>
      { operation := { tool := "run_test_suite", status := .applied,
                       message := some (bin ++ " " ++ " ".intercalate args) }
        process }
    | .error error =>
      let failureSummary := summarizeTestFailure error
      { operation := { tool := "run_test_suite", status := .failed,
                       message := some failureSummary }
        error := some failureSummary
        process }

def commandText (call : ToolPlanCall) : List Char :=
  match arg call "command" with
  | some (.str text) => JsText.trim text.toList
  | _ => []

def runCommand (call : ToolPlanCall) (workspaceRoot : Location) (answer : CallAnswer) : CallOutcome :=
  let failed := fun (error : ProcessError) (process : Option ProcessStart) =>
    let failureSummary := summarizeTestFailure error
    { operation := { tool := "run_command", status := .failed, message := some failureSummary }
      error := some failureSummary, process : CallOutcome }
  match host.resolveSafeCommand answer.existsSync (commandText call) call workspaceRoot with
  | .error message => failed { message } none
  | .ok command =>
    let process := some { bin := command.bin, args := command.args, cwd := command.cwd,
                          timeout := command.timeoutMs,
                          maxBuffer := max (command.maxOutputChars * 2) (1024 * 1024) }
    match answer.process with
    | .error error => failed error process
    | .ok result =>
      let output := truncateCommandOutput
        (joinedLines [result.stdout.toList, result.stderr.toList]) command.maxOutputChars
      let passed := s!"{command.rendered} passed in {result.elapsedMs}ms"
      { operation := { tool := "run_command", status := .applied,
                       message := some (String.ofList (joinedLines [passed.toList, output])) }
        process }

def runCall (workspaceRoot : Location) (options : ToolPlanExecutionOptions) (call : ToolPlanCall)
    (answer : CallAnswer) : CallOutcome :=
  if call.tool = "read_file" then host.readFile call workspaceRoot answer
  else if call.tool = "write_file" then host.writeFile call workspaceRoot options answer
  else if call.tool = "apply_patch_intent" then
    host.applyPatchIntent call workspaceRoot options answer
  else if call.tool = "run_test_suite" then host.runTestSuite workspaceRoot answer
  else if call.tool = "run_command" then host.runCommand call workspaceRoot answer
  else
    { operation := { tool := call.tool, status := .skipped,
                     message := some
                       ("tool '" ++ call.tool ++ "' is validated but has no local executor") } }

def resolveExecutionVerdict (dryRun : Bool) (errors : List String) (applied : Bool) :
    ToolPlanExecutionVerdict :=
  if dryRun then .dryRun
  else if errors ≠ [] then .failed
  else if applied then .applied
  else .executed

/-- The result of a plan that is not executed. -/
def notExecuted (verdict : ToolPlanExecutionVerdict) (dryRun : Bool)
    (workspaceRoot : Option Location) (message : String) : ToolPlanExecutionResult :=
  let failed := verdict = .failed
  { executionVerdict := verdict
    dryRun
    applied := false
    skipped := !failed
    workspaceRoot
    operations := [{ tool := "tool_plan", status := if failed then .failed else .skipped,
                     message := some message }]
    errors := if failed then [message] else []
    writes := []
    processes := []
    artifacts := [] }

def writeExecutionArtifacts (job : WorkerJob) (workspaceRoot : Location) : List Location :=
  ["tool-plan.json", "execution-verdict.json", "diff-stat.txt", "diff.patch",
    "test-summary.json"].map fun name =>
      host.resolve workspaceRoot ("artifacts/jobs/" ++ job.jobId ++ "/" ++ name).toList

/-- Executes a plan for a job. The world answers each call by its place in the plan. -/
def execute (plan : ToolPlanOutput) (job : WorkerJob) (answers : Nat → CallAnswer) :
    ToolPlanExecutionResult :=
  match host.resolveExecutionOptions plan.toToolPlanSettings job with
  | .error error => notExecuted .failed false none error
  | .ok options =>
    if !canWrite job then
      notExecuted .skipped options.dryRun none
        "tool_plan execution requires non-deny policy and workspace_write or full_auto sandbox"
    else
      match host.resolveWorkspaceRoot job with
      | none =>
        notExecuted .skipped options.dryRun none "workspace root could not be resolved"
      | some workspaceRoot =>
        match host.validatePlanLimits plan.calls workspaceRoot options with
        | some limitError => notExecuted .failed options.dryRun (some workspaceRoot) limitError
        | none =>
          let outcomes := plan.calls.zipIdx.map fun entry =>
            host.runCall workspaceRoot options entry.1 (answers entry.2)
          let operations := outcomes.map (·.operation)
          let errors := outcomes.filterMap (·.error)
          let applied := operations.any fun operation => operation.status = .applied &&
            operation.tool ∈ ["write_file", "apply_patch_intent", "run_test_suite", "run_command"]
          { executionVerdict := resolveExecutionVerdict options.dryRun errors applied
            dryRun := options.dryRun
            applied
            skipped := false
            workspaceRoot := some workspaceRoot
            operations
            errors
            writes := outcomes.filterMap (·.write)
            processes := outcomes.filterMap (·.process)
            artifacts :=
              if options.dryRun then [] else host.writeExecutionArtifacts job workspaceRoot }

end ToolPlanHost

section except

variable {ε α β : Type}

theorem bind_eq_ok {x : Except ε α} {f : α → Except ε β} {b : β} :
    x >>= f = .ok b ↔ ∃ a, x = .ok a ∧ f a = .ok b := by
  cases x with
  | error error => exact ⟨nofun, nofun⟩
  | ok a =>
    constructor
    · intro h
      exact ⟨a, rfl, h⟩
    · rintro ⟨_, ha, h⟩
      obtain rfl := Except.ok.inj ha
      exact h

theorem mapM_eq_ok {f : α → Except ε β} {l : List α} {values : List β} :
    l.mapM f = .ok values ↔ l.map f = values.map .ok := by
  induction l generalizing values with
  | nil => cases values <;> simp [pure, Except.pure]
  | cons a l ih =>
    rw [List.mapM_cons, bind_eq_ok, List.map_cons]
    constructor
    · rintro ⟨b, hb, hrest⟩
      obtain ⟨others, hothers, hvalues⟩ := bind_eq_ok.mp hrest
      obtain rfl := Except.ok.inj hvalues
      rw [hb, ih.mp hothers]
      rfl
    · intro h
      cases values with
      | nil => cases h
      | cons b others =>
        obtain ⟨hb, hothers⟩ := List.cons.inj h
        exact ⟨b, hb, bind_eq_ok.mpr ⟨others, ih.mpr hothers, rfl⟩⟩

end except

section executed

open ToolPlanHost

def comparedPrefixes : Option (List String) → Option (List (List Char))
  | none => none
  | some [] => none
  | some pathTexts => some (pathTexts.map normalizedAllowed)

variable {host : ToolPlanHost} {job : WorkerJob} {settings : ToolPlanSettings}
  {options : ToolPlanExecutionOptions} {root : Location} {call : ToolPlanCall}
  {calls : List ToolPlanCall} {answer : CallAnswer} {answers : Nat → CallAnswer} {write : FileWrite}

theorem normalizeAllowedPaths_eq_ok {pathTexts : Option (List String)}
    {dirs : Option (List (List Char))} (h : host.normalizeAllowedPaths pathTexts = .ok dirs) :
    dirs = comparedPrefixes pathTexts := by
  match pathTexts with
  | none => exact (Except.ok.inj h).symm
  | some [] => exact (Except.ok.inj h).symm
  | some (pathText :: pathTexts) =>
    rw [normalizeAllowedPaths] at h
    · cases hfind : (pathText :: pathTexts).find? fun text =>
          isAbsolute host.platform text.toList || ['.', '.'] ∈ parts .win32 text.toList with
      | some text =>
        rw [hfind] at h
        cases h
      | none =>
        rw [hfind] at h
        exact (Except.ok.inj h).symm
    · exact nofun

theorem writeOutcome_write_eq_some {tool : String} {attempt : Except String FileWrite}
    {finish : Except String Unit}
    (h : (host.writeOutcome tool root options attempt finish).write = some write) :
    attempt = .ok write ∧ options.dryRun = false := by
  unfold writeOutcome at h
  cases attempt with
  | error error => cases h
  | ok target =>
    dsimp only at h
    split_ifs at h with hdry
    have hwrite : target = write := by
      cases finish with
      | error error => exact Option.some.inj h
      | ok u => exact Option.some.inj h
    rw [hwrite]
    exact ⟨rfl, Bool.eq_false_iff.mpr hdry⟩

theorem assertAllowedWritePath_eq_ok {loc : Location} {u : Unit}
    (h : host.assertAllowedWritePath root loc options = .ok u) :
    host.isAllowedWritePath root loc options = true := by
  unfold assertAllowedWritePath at h
  split_ifs at h with hallowed
  exact hallowed

theorem assertWriteSize_eq_ok {content : String} {u : Unit}
    (h : assertWriteSize content options = .ok u) :
    content.utf8ByteSize ≤ options.maxWriteBytesPerFile := by
  unfold assertWriteSize at h
  split_ifs at h with hsize
  exact Nat.le_of_not_lt hsize

@[simp] theorem runTestSuite_write : (host.runTestSuite root answer).write = none := by
  unfold runTestSuite
  cases host.resolveTestCommand answer.existsSync root with
  | none => rfl
  | some command => cases answer.process <;> rfl

@[simp] theorem runCommand_write : (host.runCommand call root answer).write = none := by
  unfold runCommand
  dsimp only
  cases host.resolveSafeCommand answer.existsSync _ call root with
  | error message => rfl
  | ok command => cases answer.process <;> rfl

theorem runCall_write_eq_some (h : (host.runCall root options call answer).write = some write) :
    isWriteCall call = true ∧ host.resolveRepoPath root (arg call "path") = .ok write.location ∧
      host.isAllowedWritePath root write.location options = true ∧
      write.content.utf8ByteSize ≤ options.maxWriteBytesPerFile ∧ options.dryRun = false := by
  unfold runCall at h
  split_ifs at h with hread hwrite hpatch hsuite hcommand
  · unfold readFile at h
    dsimp only at h
    split at h <;> cases h
  · obtain ⟨hattempt, hdry⟩ := writeOutcome_write_eq_some h
    split at hattempt
    · next content hcontent =>
      obtain ⟨loc, hloc, hrest⟩ := bind_eq_ok.mp hattempt
      obtain ⟨_, hallowed, hrest⟩ := bind_eq_ok.mp hrest
      obtain ⟨_, hsize, hrest⟩ := bind_eq_ok.mp hrest
      have hwritten : (⟨loc, content⟩ : FileWrite) = write := by
        simp only [hdry, Bool.not_false, if_true] at hrest
        split_ifs at hrest with hexists
        · obtain ⟨_, _, hrest⟩ := bind_eq_ok.mp hrest
          obtain ⟨_, _, hrest⟩ := bind_eq_ok.mp hrest
          exact Except.ok.inj hrest
        · obtain ⟨_, _, hrest⟩ := bind_eq_ok.mp hrest
          exact Except.ok.inj hrest
      subst hwritten
      exact ⟨by simp [isWriteCall, hwrite], hloc, assertAllowedWritePath_eq_ok hallowed,
        assertWriteSize_eq_ok hsize, hdry⟩
    · cases hattempt
  · obtain ⟨hattempt, hdry⟩ := writeOutcome_write_eq_some h
    split at hattempt
    · obtain ⟨loc, hloc, hrest⟩ := bind_eq_ok.mp hattempt
      obtain ⟨_, hallowed, hrest⟩ := bind_eq_ok.mp hrest
      obtain ⟨_, _, hrest⟩ := bind_eq_ok.mp hrest
      obtain ⟨updated, _, hrest⟩ := bind_eq_ok.mp hrest
      obtain ⟨_, hsize, hrest⟩ := bind_eq_ok.mp hrest
      obtain rfl := Except.ok.inj hrest
      exact ⟨by simp [isWriteCall, hpatch], hloc, assertAllowedWritePath_eq_ok hallowed,
        assertWriteSize_eq_ok hsize, hdry⟩
    · cases hattempt
  · rw [runTestSuite_write] at h
    cases h
  · rw [runCommand_write] at h
    cases h

theorem isAllowedWritePath_eq_true_iff {loc : Location} :
    host.isAllowedWritePath root loc options = true ↔ ∀ dirs, options.allowedPaths = some dirs →
      ∃ dir ∈ dirs, host.repoPath root loc = dir ∨ dir ++ ['/'] <+: host.repoPath root loc := by
  unfold isAllowedWritePath
  cases hdirs : options.allowedPaths with
  | none => simp
  | some dirs => simp [List.isPrefixOf_iff_prefix]

theorem validatePlanLimits_eq_none (h : host.validatePlanLimits calls root options = none) :
    ∃ resolved : List Location, (calls.filter isWriteCall).map
        (fun call => host.resolveRepoPath root (arg call "path")) = resolved.map .ok ∧
      (resolved.map (host.repoPath root)).dedup.length ≤ options.maxFiles := by
  unfold validatePlanLimits at h
  split at h
  · cases h
  · next resolved hresolved =>
    dsimp only at h
    split_ifs at h with hlimit
    exact ⟨resolved, mapM_eq_ok.mp hresolved, Nat.le_of_not_lt hlimit⟩

theorem execute_writes (hoptions : host.resolveExecutionOptions settings job = .ok options)
    (hwrite : canWrite job = true) (hroot : host.resolveWorkspaceRoot job = some root)
    (hlimits : host.validatePlanLimits calls root options = none) :
    (host.execute ⟨settings, calls⟩ job answers).writes = calls.zipIdx.filterMap fun entry =>
      (host.runCall root options entry.1 (answers entry.2)).write := by
  simp [execute, hoptions, hwrite, hroot, hlimits, List.filterMap_map, Function.comp_def]

end executed

end ShipyardCp.Domain
