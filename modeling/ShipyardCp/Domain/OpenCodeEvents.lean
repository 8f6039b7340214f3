import ShipyardCp.Lib.Json
import ShipyardCp.Types.Job

/-! The events of an OpenCode session, what the ingestor records of them, and how it classifies the
permissions they request. -/

namespace ShipyardCp.Domain

open Types Lib Lib.JsText JsPattern

inductive EventCategory where
  | transcriptMessage | toolUse | permissionRequest | stdoutChunk | stderrChunk | sessionLifecycle
  | executionCompletion
  deriving DecidableEq

abbrev EventFields := List (String × Json)

structure PermissionRequestEvent where
  id : String
  tool : Option String := none
  action : Option String := none
  reason : Option String := none
  timestamp : Timestamp
  context : Option EventFields := none
  category : EventCategory

inductive ToolUseStatus where
  | pending | success | error | denied

structure ToolUseEvent where
  id : String
  tool : String
  input : Option EventFields := none
  output : Option EventFields := none
  status : ToolUseStatus
  timestamp : Timestamp
  durationMs : Option Nat := none
  error : Option String := none
  category : EventCategory

inductive TranscriptRole where
  | assistant | user | system

structure TranscriptEvent where
  id : String
  role : TranscriptRole
  content : String
  timestamp : Timestamp
  tokens : Option Nat := none
  category : EventCategory

structure StdioEvent where
  id : String
  content : String
  timestamp : Timestamp
  category : EventCategory

inductive LifecycleEvent where
  | created | connected | started | paused | resumed | completed | failed | cancelled

structure SessionLifecycleEvent where
  id : String
  lifecycleEvent : LifecycleEvent
  timestamp : Timestamp
  sessionId : Option String := none
  reason : Option String := none
  category : EventCategory

inductive CompletionStatus where
  | success | failed | cancelled | timeout

structure ExecutionCompletionEvent where
  id : String
  status : CompletionStatus
  timestamp : Timestamp
  exitCode : Option Int := none
  reason : Option String := none
  category : EventCategory

inductive OpenCodeEvent where
  | permissionRequest (event : PermissionRequestEvent)
  | toolUse (event : ToolUseEvent)
  | transcript (event : TranscriptEvent)
  | stdout (event : StdioEvent)
  | stderr (event : StdioEvent)
  | sessionLifecycle (event : SessionLifecycleEvent)
  | executionCompletion (event : ExecutionCompletionEvent)

def OpenCodeEvent.category : OpenCodeEvent → EventCategory
  | permissionRequest event => event.category
  | toolUse event => event.category
  | transcript event => event.category
  | stdout event => event.category
  | stderr event => event.category
  | sessionLifecycle event => event.category
  | executionCompletion event => event.category

def OpenCodeEvent.permissionRequest? : OpenCodeEvent → Option PermissionRequestEvent
  | permissionRequest event => some event
  | _ => none

structure NormalizedEscalation where
  kind : EscalationKind
  reason : String
  approved : Option Json
  raw : PermissionRequestEvent

structure NormalizedToolUse where
  tool : String
  status : ToolUseStatus
  durationMs : Option Nat
  error : Option String
  input : Option EventFields
  output : Option EventFields

structure NormalizedTranscript where
  role : TranscriptRole
  content : String
  tokens : Option Nat

structure NormalizedLifecycle where
  event : LifecycleEvent
  timestamp : Timestamp
  sessionId : Option String
  reason : Option String

structure NormalizedCompletion where
  status : CompletionStatus
  exitCode : Option Int
  reason : Option String

structure IngestionMeta where
  startedAt : Timestamp := 0
  completedAt : Timestamp := 0
  totalEvents : Nat := 0
  parseErrors : Nat := 0

structure IngestedEvents where
  permissionRequests : List NormalizedEscalation := []
  toolUses : List NormalizedToolUse := []
  transcripts : List NormalizedTranscript := []
  stdout : List String := []
  stderr : List String := []
  sessionLifecycle : List NormalizedLifecycle := []
  executionCompletion : Option NormalizedCompletion := none
  rawEvents : Option (List OpenCodeEvent) := none
  eventCounts : EventCategory → Nat := fun _ => 0
  ingestionMeta : IngestionMeta := {}

structure EventStreamContainer where
  jobId : String
  sessionId : String
  events : List OpenCodeEvent
  ingested : IngestedEvents
  startedAt : Timestamp
  completedAt : Option Timestamp := none

/-- What the ingestor takes from the language: texts of JSON values, as JSON and as `String` gives them,
and the lower case of texts. -/
structure EventHost where
  stringify : Json → List Char
  toText : Json → List Char
  toLowerCase : List Char → List Char

namespace PermissionRequestEvent

def contextValue (event : PermissionRequestEvent) (key : String) : Option Json :=
  event.context.bind fun fields => (Json.obj fields).get? key

def path (host : EventHost) (event : PermissionRequestEvent) : List Char :=
  match (event.contextValue "path").filter Json.truthy with
  | some value => host.toText value
  | none =>
    match (event.contextValue "file").filter Json.truthy with
    | some value => host.toText value
    | none => []

def toolName (event : PermissionRequestEvent) : String := event.tool.getD ""

def reasonOr (event : PermissionRequestEvent) (other : String) : String :=
  if event.reason.getD "" ≠ "" then event.reason.getD "" else other

end PermissionRequestEvent

def destructivePatterns : List (List JsPattern.Element) :=
  [phrase ["rm", "-rf"], phrase ["rm", "-r"], phrase ["dd"],
    phrase ["mkfs"], phrase ["format"], phrase ["delete"],
    phrase ["truncate"], phrase ["shred"], phrase ["wipe"],
    phrase ["sudo", "rm"], phrase ["chmod", "777"]]

def isDestructiveCommand (command : String) : Bool :=
  destructivePatterns.any fun pattern => test pattern none command.toList

def secretIndicators : List String :=
  ["secret", "password", "token", "key", "credential", "api_key", "apikey", "auth", "private",
    "certificate"]

def isSecretPath (path : List Char) : Bool := !path.isEmpty &&
    (".env".toList.isSuffixOf (folded path) ||
      [".env.", "credentials", "secrets", "password", "_secret", "apikey", "api_key", "api-key",
        "token"].any (occursFolded path) ||
      [".htpasswd", ".pgpass"].any fun ending => ending.toList.isSuffixOf path)

def isSecretAccess (host : EventHost) (event : PermissionRequestEvent) : Bool :=
  match event.context with
  | none => false
  | some fields =>
    let tool := host.toLowerCase event.toolName.toList
    let contextStr := host.toLowerCase (host.stringify (.obj fields))
    (secretIndicators.any fun indicator => includes tool indicator.toList) ||
      (secretIndicators.any fun indicator => includes contextStr indicator.toList) ||
      isSecretPath (event.path host)

def workspaceIndicators : List String :=
  ["/tmp/", "/workspace/", "/work/", "/project/", "/repo/", "/home/"]

/-- Paths that are not absolute are taken to be in the workspace, and absolute ones under the usual
directories. -/
def isInWorkspace (path : List Char) : Bool :=
  "./".toList.isPrefixOf path || "../".toList.isPrefixOf path || !"/".toList.isPrefixOf path ||
    workspaceIndicators.any fun indicator => indicator.toList.isPrefixOf path

def isProtectedPath (path : List Char) : Bool := !path.isEmpty &&
    (["/etc/", "/usr/", "/bin/", "/sbin/", "/root/", "/var/log/", "/proc/", "/sys/", ".ssh/",
        ".gnupg/"].any (fun start => start.toList.isPrefixOf path) ||
      ".env".toList.isSuffixOf (folded path) ||
      [".env.", "credentials", "secrets"].any (occursFolded path) ||
      [".pem", ".key", ".p12", ".pfx", ".crt", ".cer"].any fun ending =>
        ending.toList.isSuffixOf path)

def isWriteTool (tool : String) : Bool := tool = "write" || tool = "edit" || tool = "create"

def isNetworkTool (tool : String) : Bool :=
  tool = "webfetch" || includes tool.toList "fetch".toList || includes tool.toList "http".toList ||
    includes tool.toList "network".toList

/-- Every request is recorded as an escalation. -/
def normalizePermissionRequest (host : EventHost) (event : PermissionRequestEvent) :
    NormalizedEscalation :=
  let tool := event.toolName
  let action := event.action.getD ""
  let path := event.path host
  let escalation := fun kind reason =>
    { kind, reason := event.reasonOr reason, approved := event.contextValue "approved", raw := event }
  if isNetworkTool tool then escalation .networkAccess s!"Network access requested via {tool}"
  else if tool = "bash" && isDestructiveCommand action then
    escalation .destructiveTool s!"Destructive command requested: {action}"
  else if isSecretAccess host event then
    escalation .secretAccess s!"Secret access requested via {tool}"
  else if isWriteTool tool && !path.isEmpty && !isInWorkspace path then
    escalation .workspaceOutsideWrite s!"Write outside workspace: {String.ofList path}"
  else if isWriteTool tool && !path.isEmpty && isProtectedPath path then
    escalation .protectedPathWrite s!"Protected path write requested: {String.ofList path}"
  else escalation .humanVerdict s!"Permission request for {tool}"

def ingestSingleEvent (host : EventHost) (result : IngestedEvents) : OpenCodeEvent → IngestedEvents
  | .permissionRequest event =>
    { result with
      permissionRequests := result.permissionRequests ++ [normalizePermissionRequest host event] }
  | .toolUse event =>
    { result with
      toolUses := result.toolUses ++
        [⟨event.tool, event.status, event.durationMs, event.error, event.input, event.output⟩] }
  | .transcript event =>
    { result with
      transcripts := result.transcripts ++ [⟨event.role, event.content, event.tokens⟩] }
  | .stdout event => { result with stdout := result.stdout ++ [event.content] }
  | .stderr event => { result with stderr := result.stderr ++ [event.content] }
  | .sessionLifecycle event =>
    { result with
      sessionLifecycle := result.sessionLifecycle ++
        [⟨event.lifecycleEvent, event.timestamp, event.sessionId, event.reason⟩] }
  | .executionCompletion event =>
    { result with
      executionCompletion := some ⟨event.status, event.exitCode, event.reason⟩ }

/-- `eventCounts[category]++` -/
def IngestedEvents.count (result : IngestedEvents) (category : EventCategory) : IngestedEvents :=
  { result with
    eventCounts := Function.update result.eventCounts category (result.eventCounts category + 1) }

def ingestEvent (host : EventHost) (result : IngestedEvents) (event : OpenCodeEvent) :
    IngestedEvents :=
  (ingestSingleEvent host result event).count event.category

def createEventStreamContainer (now : Timestamp) (jobId sessionId : String) : EventStreamContainer :=
  { jobId, sessionId, events := [], ingested := {}, startedAt := now }

def addEvent (host : EventHost) (container : EventStreamContainer) (event : OpenCodeEvent) :
    EventStreamContainer :=
  { container with
    events := container.events ++ [event]
    ingested := ingestEvent host container.ingested event }

def finalizeContainer (includeRawEvents : Bool) (now : Timestamp)
    (container : EventStreamContainer) : EventStreamContainer :=
  { container with
    completedAt := some now
    ingested :=
      { container.ingested with
        ingestionMeta := ⟨container.startedAt, now, container.events.length, 0⟩
        rawEvents :=
          if includeRawEvents then some container.events else container.ingested.rawEvents } }

def ingestEvents (host : EventHost) (includeRawEvents : Bool) (startedAt completedAt : Timestamp)
    (rawEvents : List OpenCodeEvent) : IngestedEvents :=
  let result : IngestedEvents := { ingestionMeta := { startedAt } }
  let result := rawEvents.foldl (ingestEvent host) result
  { result with
    ingestionMeta := { result.ingestionMeta with completedAt, totalEvents := rawEvents.length }
    rawEvents := if includeRawEvents then some rawEvents else result.rawEvents }

end ShipyardCp.Domain
