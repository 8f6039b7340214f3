import ShipyardCp.Lib.CodeUnits
import ShipyardCp.Lib.InsertionMap
import ShipyardCp.Lib.Json
import ShipyardCp.Lib.NodePath
import ShipyardCp.Types.Base

/-! The policy of a worker's runtime, the tools registered for it, and the decision whether a tool
may be invoked. -/

namespace ShipyardCp.Domain

open Types Lib Lib.NodePath Lib.JsText

inductive WorkerRuntimeMode where
  | interactive | oneShot | rework

inductive RestorePointMode where
  | disabled | manifest | snapshot
  deriving DecidableEq

structure WorkerRuntimePolicy where
  mode : WorkerRuntimeMode
  allowedPaths : Option (List String)
  maxTurns : Nat
  maxToolCalls : Nat
  restrictedTools : Bool
  allowSubagents : Bool
  restorePoints : RestorePointMode

inductive RuntimeToolKind where
  | file | shell | web | todo | memory | agent | llm | other
  deriving DecidableEq

inductive ToolSideEffect where
  | none | read | write | process | network
  deriving DecidableEq

structure RuntimeToolDefinition where
  name : String
  kind : RuntimeToolKind
  sideEffect : ToolSideEffect
  requiresWrite : Bool
  allowedInRestricted : Bool
  startsSubagent : Bool := false
  pathArg : Option String := none
  deriving DecidableEq

structure RuntimeToolRegistration where
  registrationId : String
  tool : RuntimeToolDefinition
  registeredAt : Timestamp
  deriving DecidableEq

structure ToolInvocationRequest where
  tool : String
  args : List (String × Json)
  registrationId : Option String := none

inductive ViolationCode where
  | unknownTool | restrictedTool | subagentDisabled | pathInvalid | pathNotAllowed
  | staleToolRegistration

structure ToolInvocationDecision where
  allowed : Bool
  reason : String
  violationCode : Option ViolationCode := none
  normalizedPath : Option String := none
  registrationId : Option String := none

/-- Of the registrations of a name, the last is in force. -/
structure RuntimeToolRegistry where
  tools : InsertionMap String (List RuntimeToolRegistration)
  nextRegistration : Nat

namespace RuntimeToolRegistry

def empty : RuntimeToolRegistry := ⟨.empty, 0⟩

def register (r : RuntimeToolRegistry) (now : Timestamp) (tool : RuntimeToolDefinition) :
    RuntimeToolRegistration × RuntimeToolRegistry :=
  let next := r.nextRegistration + 1
  let registration : RuntimeToolRegistration :=
    { registrationId := s!"toolreg_{next}", tool, registeredAt := now }
  (registration,
    { tools := r.tools.set tool.name ((r.tools.get? tool.name).getD [] ++ [registration]),
      nextRegistration := next })

/-- Closes the registration under the first name that has it. -/
def closeRegistration (r : RuntimeToolRegistry) (registrationId : String) :
    Bool × RuntimeToolRegistry :=
  let others := fun (registrations : List RuntimeToolRegistration) =>
    registrations.filter fun registration => registration.registrationId ≠ registrationId
  match r.tools.entries.find? fun entry => (others entry.2).length ≠ entry.2.length with
  | none => (false, r)
  | some (name, registrations) =>
    if (others registrations).length = 0 then (true, { r with tools := r.tools.delete name })
    else (true, { r with tools := r.tools.set name (others registrations) })

def list (r : RuntimeToolRegistry) : List RuntimeToolDefinition :=
  r.tools.values.filterMap fun registrations => registrations.getLast?.map (·.tool)

def inForce (r : RuntimeToolRegistry) (name : String) : Option RuntimeToolRegistration :=
  (r.tools.get? name).bind List.getLast?

end RuntimeToolRegistry

def slashed (path : List Char) : List Char := path.map fun c => if c = '\\' then '/' else c

/-- A leading `./` is removed, with all its slashes. -/
def withoutDot : List Char → List Char
  | '.' :: '/' :: path => path.dropWhile (· = '/')
  | path => path

/-- The repo-relative path that a value names, with slashes, or what is wrong with it. -/
def normalizeRepoPath (platform : Platform) (value : Option Json) : Except String String :=
  match value.bind Json.asString? with
  | none => .error "path must be a non-empty string"
  | some text =>
    let path := text.toList
    if path = [] then .error "path must be a non-empty string"
    else if isAbsolute platform path || driveRooted path || ['\\', '\\'].isPrefixOf path then
      .error s!"path must be repo-relative: {text}"
    else if ['.', '.'] ∈ parts .win32 path then .error s!"path must not contain '..': {text}"
    else .ok (String.ofList (withoutDot (slashed path)))

/-- A prefix of `allowed_paths` as paths are compared with it. -/
def normalizedAllowed (pathText : String) : List Char :=
  (withoutDot (slashed pathText.toList)).rdropWhile (· = '/')

def isAllowedPath (repoPath : String) (allowedPaths : List String) : Bool :=
  (allowedPaths.map normalizedAllowed).any fun dir =>
    repoPath.toList = dir || (dir ++ ['/']).isPrefixOf repoPath.toList

/-- Decides whether the policy allows an invocation, on the platform the registry runs on. -/
def decideInvocation (platform : Platform) (r : RuntimeToolRegistry) (policy : WorkerRuntimePolicy)
    (request : ToolInvocationRequest) : ToolInvocationDecision :=
  match r.inForce request.tool with
  | none =>
    { allowed := false, reason := s!"unknown tool: {request.tool}",
      violationCode := some .unknownTool }
  | some registration =>
    let tool := registration.tool
    let id := some registration.registrationId
    if request.registrationId.any fun asked => asked ≠ "" && asked ≠ registration.registrationId then
      { allowed := false, reason := s!"stale tool registration: {request.tool}",
        violationCode := some .staleToolRegistration, registrationId := id }
    else if policy.restrictedTools && !tool.allowedInRestricted then
      { allowed := false, reason := s!"tool is not allowed in restricted mode: {tool.name}",
        violationCode := some .restrictedTool, registrationId := id }
    else if !policy.allowSubagents && tool.startsSubagent then
      { allowed := false, reason := s!"sub-agent tool is disabled for this session: {tool.name}",
        violationCode := some .subagentDisabled, registrationId := id }
    else
      match tool.pathArg.filter (· ≠ "") with
      | none => { allowed := true, reason := "tool invocation allowed", registrationId := id }
      | some pathArg =>
        match normalizeRepoPath platform ((Json.obj request.args).get? pathArg) with
        | .error error =>
          { allowed := false, reason := error, violationCode := some .pathInvalid,
            registrationId := id }
        | .ok path =>
          if tool.requiresWrite && policy.allowedPaths.any fun allowed => !isAllowedPath path allowed
          then
            { allowed := false, reason := s!"path is outside allowed_paths: {path}",
              violationCode := some .pathNotAllowed, normalizedPath := some path,
              registrationId := id }
          else
            { allowed := true, reason := "tool invocation allowed", normalizedPath := some path,
              registrationId := id }

def createDefaultRuntimeToolRegistry (now : Timestamp) : RuntimeToolRegistry :=
  let tools : List RuntimeToolDefinition :=
    [{ name := "read_file", kind := .file, sideEffect := .read, requiresWrite := false,
       allowedInRestricted := true, pathArg := some "path" },
     { name := "write_file", kind := .file, sideEffect := .write, requiresWrite := true,
       allowedInRestricted := true, pathArg := some "path" },
     { name := "apply_patch_intent", kind := .file, sideEffect := .write, requiresWrite := true,
       allowedInRestricted := true, pathArg := some "path" },
     { name := "bash", kind := .shell, sideEffect := .process, requiresWrite := false,
       allowedInRestricted := false },
     { name := "web_fetch", kind := .web, sideEffect := .network, requiresWrite := false,
       allowedInRestricted := false },
     { name := "spawn_agent", kind := .agent, sideEffect := .process, requiresWrite := false,
       allowedInRestricted := false, startsSubagent := true }]
  tools.foldl (fun r tool => (r.register now tool).2) .empty

/-! The results of tools in one schema, with a summary of their output for the model. -/

inductive NormalizedToolResultStatus where
  | succeeded | failed | skipped | blocked

inductive NormalizedToolResultChannel where
  | stdout | stderr | json | eventStream | file | none

inductive NormalizedSideEffect where
  | none | read | write | process | network | unknown

/-- What a tool gave: absent texts are `none`, and so is an exit code of `null` within one that is
there. -/
structure RawToolResult where
  request : ToolInvocationRequest
  decision : Option ToolInvocationDecision := none
  exitCode : Option (Option Int) := none
  stdout : Option CodeUnits := none
  stderr : Option CodeUnits := none
  json : Option Json := none
  artifactId : Option String := none
  durationMs : Option Nat := none
  error : Option CodeUnits := none

structure NormalizedToolResult where
  tool : String
  status : NormalizedToolResultStatus
  sideEffect : NormalizedSideEffect
  channel : NormalizedToolResultChannel
  artifactId : Option String
  retainedArtifactId : Option String := none
  exitCode : Option (Option Int)
  durationMs : Option Nat
  summary : CodeUnits
  bounded : Bool
  violationCode : Option ViolationCode := none

structure ToolResultNormalizer where
  maxModelOutputChars : Option Nat := none
  retainedArtifactId : Option String := none

def inferSideEffect (tool : String) : NormalizedSideEffect :=
  if tool = "read_file" ∨ tool = "grep" ∨ tool = "glob" then .read
  else if tool = "write_file" ∨ tool = "apply_patch_intent" then .write
  else if tool = "bash" ∨ tool = "bash_background" ∨ tool = "spawn_agent" then .process
  else if tool = "web_fetch" ∨ tool = "web_search" then .network
  else .unknown

namespace RawToolResult

def isText (text : Option CodeUnits) : Bool := text.getD [] ≠ []

def resolveChannel (input : RawToolResult) : NormalizedToolResultChannel :=
  if input.json.isSome then .json
  else if isText input.stdout then .stdout
  else if isText input.stderr then .stderr
  else if input.artifactId.getD "" ≠ "" then .file
  else .none

/-- The error of a tool fails it, and so does an exit code that is a number other than zero. -/
def isFailed (input : RawToolResult) : Bool := isText input.error ||
    match input.exitCode with
    | some (some code) => code ≠ 0
    | _ => false

variable (stringify : Json → CodeUnits)

def output (input : RawToolResult) : CodeUnits :=
  if isText input.stdout then input.stdout.getD []
  else if isText input.stderr then input.stderr.getD []
  else (input.json.map stringify).getD []

def exitText (input : RawToolResult) : String :=
  match input.exitCode with
  | some (some code) => toString code
  | _ => "null"

def summarize (input : RawToolResult) (failed : Bool) : CodeUnits :=
  if isText input.error then input.error.getD []
  else if failed then units s!"{input.request.tool} exited {input.exitText}"
  else
    let shown := (foldedUnits (input.output stringify)).take 300
    if shown = [] then units s!"{input.request.tool} completed" else shown

end RawToolResult

def boundedSuffix : CodeUnits := units "... [output bounded]"

/-- The summary, cut off when it is longer than a limit that is given and is not zero, and whether it
was. -/
def boundSummary (summary : CodeUnits) (maxChars : Option Nat) : CodeUnits × Bool :=
  let limit := maxChars.getD 0
  if limit = 0 ∨ summary.length ≤ limit then (summary, false)
  else (summary.take (limit - 24) ++ boundedSuffix, true)

def ToolResultNormalizer.normalize (options : ToolResultNormalizer) (stringify : Json → CodeUnits)
    (input : RawToolResult) : NormalizedToolResult :=
  match input.decision.filter fun decision => !decision.allowed with
  | some decision =>
    { tool := input.request.tool
      status := .blocked
      sideEffect := inferSideEffect input.request.tool
      channel := .none
      artifactId := input.artifactId
      exitCode := input.exitCode
      durationMs := input.durationMs
      summary := units decision.reason
      bounded := false
      violationCode := decision.violationCode }
  | none =>
    let failed := input.isFailed
    let bounded := boundSummary (input.summarize stringify failed) options.maxModelOutputChars
    { tool := input.request.tool
      status := if failed then .failed else .succeeded
      sideEffect := inferSideEffect input.request.tool
      channel := input.resolveChannel
      artifactId := input.artifactId
      retainedArtifactId :=
        if bounded.2 then options.retainedArtifactId <|> input.artifactId else none
      exitCode := input.exitCode
      durationMs := input.durationMs
      summary := bounded.1
      bounded := bounded.2 }

end ShipyardCp.Domain
