import ShipyardCp.Lib.Json

/-! The report of the run-system gate, and how the report of the external gates is merged into it. -/

namespace ShipyardCp.Domain

open Lib

inductive RunSystemMode where
  | advisory | enforce
  deriving DecidableEq

inductive GatefieldVerdict where
  | pass | warn | hold | block
  deriving DecidableEq

inductive StateGateVerdict where
  | allow | revise | needsApproval | requireHuman | staleBlocked | deny
  deriving DecidableEq

inductive ExpectedVerdict where
  | go | conditionalGo | noGo

def GatefieldVerdict.order : GatefieldVerdict → Nat
  | .pass => 0
  | .warn => 1
  | .hold => 2
  | .block => 3

def StateGateVerdict.order : StateGateVerdict → Nat
  | .allow => 0
  | .revise => 1
  | .needsApproval => 2
  | .requireHuman => 3
  | .staleBlocked => 4
  | .deny => 5

def maxGatefield (current candidate : GatefieldVerdict) : GatefieldVerdict :=
  if current.order < candidate.order then candidate else current

def maxStateGate (current candidate : StateGateVerdict) : StateGateVerdict :=
  if current.order < candidate.order then candidate else current

def shouldBlock (gatefield : GatefieldVerdict) (stateGate : StateGateVerdict) : Bool :=
  gatefield = .hold || gatefield = .block || stateGate ≠ .allow

theorem shouldBlock_max (g g' : GatefieldVerdict) (v v' : StateGateVerdict) :
    shouldBlock (maxGatefield g g') (maxStateGate v v') = (shouldBlock g v || shouldBlock g' v') := by
  have hgate : (maxGatefield g g' = .hold ∨ maxGatefield g g' = .block) ↔
      (g = .hold ∨ g = .block) ∨ (g' = .hold ∨ g' = .block) := by
    cases g <;> cases g' <;> decide
  have hstate : maxStateGate v v' ≠ .allow ↔ v ≠ .allow ∨ v' ≠ .allow := by
    cases v <;> cases v' <;> decide
  rw [Bool.eq_iff_iff]
  simp only [shouldBlock, Bool.or_eq_true, decide_eq_true_eq, hgate, hstate]
  constructor
  · rintro ((h | h) | h | h)
    · exact .inl (.inl h)
    · exact .inr (.inl h)
    · exact .inl (.inr h)
    · exact .inr (.inr h)
  · rintro ((h | h) | h | h)
    · exact .inl (.inl h)
    · exact .inr (.inl h)
    · exact .inl (.inr h)
    · exact .inr (.inr h)

inductive ExternalSystem where
  | agentProtocols | agentTaskstate | agentGatefield | agentStateGate
  deriving DecidableEq

def ExternalSystem.text : ExternalSystem → String
  | .agentProtocols => "agent-protocols"
  | .agentTaskstate => "agent-taskstate"
  | .agentGatefield => "agent-gatefield"
  | .agentStateGate => "agent-state-gate"

inductive ExternalCliStatus where
  | passed | warned | failed | skipped
  deriving DecidableEq

structure ExternalCliCommandResult where
  system : ExternalSystem
  command : String
  cwd : String
  exitCode : Option Int
  status : ExternalCliStatus
  stdout : String
  stderr : String
  parsedJson : Option Json := none
  summary : String

structure ExternalRunSystemCliReport where
  invoked : Bool
  mode : RunSystemMode
  results : List ExternalCliCommandResult
  gatefieldDecision : Option GatefieldVerdict
  stateGateVerdict : Option StateGateVerdict
  blockers : List String
  residualRisks : List String
  artifactPath : Option String

structure Verdict (V : Type) where
  verdict : V
  reasons : List String

structure ManualBb where
  required : Bool
  reason : Option String

structure Qeg where
  expectedVerdict : ExpectedVerdict
  blockers : List String
  residualRisks : List String

structure RunSystemGateReport where
  mode : RunSystemMode
  gatefield : Verdict GatefieldVerdict
  agentStateGate : Verdict StateGateVerdict
  manualBb : ManualBb
  qeg : Qeg
  blocksShipyardTransition : Bool

/-- `mergeExternalCliGateReport` of run-system-gate.ts. -/
def mergeExternalCliGateReport (report : RunSystemGateReport)
    (external : ExternalRunSystemCliReport) : RunSystemGateReport :=
  let gatefieldVerdict := match external.gatefieldDecision with
    | some decision => maxGatefield report.gatefield.verdict decision
    | none => report.gatefield.verdict
  let stateGateVerdict := match external.stateGateVerdict with
    | some verdict => maxStateGate report.agentStateGate.verdict verdict
    | none => report.agentStateGate.verdict
  let externalReasons := external.blockers.map (fun reason => s!"external CLI blocker: {reason}") ++
    external.residualRisks.map (fun reason => s!"external CLI residual risk: {reason}")
  let blockers := report.qeg.blockers ++ external.blockers
  let residualRisks := report.qeg.residualRisks ++ external.residualRisks
  let manualRequired := report.manualBb.required || !external.residualRisks.isEmpty ||
    !external.blockers.isEmpty
  { report with
    gatefield :=
      { verdict := gatefieldVerdict, reasons := report.gatefield.reasons ++ externalReasons }
    agentStateGate :=
      { verdict := stateGateVerdict, reasons := report.agentStateGate.reasons ++ externalReasons }
    manualBb :=
      { required := manualRequired
        reason := report.manualBb.reason <|> external.blockers.head? <|>
          external.residualRisks.head? }
    qeg :=
      { expectedVerdict :=
          if !blockers.isEmpty then .noGo
          else if !residualRisks.isEmpty || manualRequired then .conditionalGo
          else .go
        blockers := blockers
        residualRisks := residualRisks }
    blocksShipyardTransition :=
      report.mode = .enforce && shouldBlock gatefieldVerdict stateGateVerdict }

def ExternalRunSystemCliReport.blocks (external : ExternalRunSystemCliReport) : Bool :=
  shouldBlock (external.gatefieldDecision.getD .pass) (external.stateGateVerdict.getD .allow)

section merge

variable {report : RunSystemGateReport} {external : ExternalRunSystemCliReport}

theorem gatefield_merge : (mergeExternalCliGateReport report external).gatefield.verdict =
    maxGatefield report.gatefield.verdict (external.gatefieldDecision.getD .pass) := by
  unfold mergeExternalCliGateReport
  cases external.gatefieldDecision with
  | none => cases report.gatefield.verdict <;> rfl
  | some decision => rfl

theorem stateGate_merge : (mergeExternalCliGateReport report external).agentStateGate.verdict =
    maxStateGate report.agentStateGate.verdict (external.stateGateVerdict.getD .allow) := by
  unfold mergeExternalCliGateReport
  cases external.stateGateVerdict with
  | none => cases report.agentStateGate.verdict <;> rfl
  | some verdict => rfl

theorem merge_blocks (hmode : report.mode = .enforce) :
    (mergeExternalCliGateReport report external).blocksShipyardTransition =
      (shouldBlock report.gatefield.verdict report.agentStateGate.verdict || external.blocks) := by
  have hblocks : (mergeExternalCliGateReport report external).blocksShipyardTransition =
      (decide (report.mode = .enforce) &&
        shouldBlock (mergeExternalCliGateReport report external).gatefield.verdict
          (mergeExternalCliGateReport report external).agentStateGate.verdict) := rfl
  rw [hblocks, hmode, gatefield_merge, stateGate_merge, decide_eq_true rfl, Bool.true_and,
    ExternalRunSystemCliReport.blocks, ← shouldBlock_max]

theorem merge_noGo (hblockers : external.blockers ≠ []) :
    (mergeExternalCliGateReport report external).qeg.expectedVerdict = .noGo := by
  simp [mergeExternalCliGateReport, hblockers]

end merge

/-! The adapter that runs the commands of the external systems and reports what they answered. -/

/-- The parts of a packet that the commands are built from. -/
structure RunSystemPacket where
  mode : RunSystemMode
  taskId : String
  jobId : String

inductive CommandOutput where
  | text (s : String)
  | buffer (bytes : List UInt8)
  deriving DecidableEq

structure SpawnSyncLike where
  status : Option Int
  stdout : Option CommandOutput := none
  stderr : Option CommandOutput := none
  error : Option String := none
  deriving DecidableEq

/-- What the adapter uses of its host: the file system, the runner of commands, Node's `path.join` and
the decoding of buffers. -/
structure CliHost where
  existsSync : String → Bool
  run : String → List String → String → Nat → SpawnSyncLike
  join : List String → String
  utf8 : List UInt8 → String

structure LocalRunSystemCliAdapter where
  host : CliHost
  repoRoot : String
  artifactRoot : String
  timeoutMs : Nat := 30000

/-- A command of an external system; `label` names it where the repository is missing. -/
structure ExternalCommand where
  label : String
  command : String
  args : List String
  successExitCodes : List Int
  jsonStdout : Bool := false

def externalCommand (packet : RunSystemPacket) : ExternalSystem → ExternalCommand
  | .agentProtocols =>
    { label := "npm run validate"
      command := "npm"
      args := ["run", "validate", "--", "--run", "--reporter=dot"]
      successExitCodes := [0] }
  | .agentTaskstate =>
    { label := "uv run --offline --no-sync python -m src.cli --help"
      command := "uv"
      args := ["run", "--offline", "--no-sync", "python", "-m", "src.cli", "--help"]
      successExitCodes := [0] }
  | .agentGatefield =>
    { label := "uv run --offline --no-sync python -m cli.gate_cli dry-run --json"
      command := "uv"
      args := ["run", "--offline", "--no-sync", "python", "-m", "cli.gate_cli", "dry-run",
        "--run-id", packet.jobId, "--json"]
      successExitCodes := [0, 1]
      jsonStdout := true }
  | .agentStateGate =>
    { label := "uv run --offline --no-sync agent-state-gate gate evaluate --output json"
      command := "uv"
      args := ["run", "--offline", "--no-sync", "agent-state-gate", "gate", "evaluate", "--task",
        packet.taskId, "--run", packet.jobId, "--output", "json"]
      successExitCodes := [0]
      jsonStdout := true }

def CliHost.stringifyOutput (host : CliHost) : Option CommandOutput → String
  | none => ""
  | some (.text s) => s
  | some (.buffer bytes) => host.utf8 bytes

def LocalRunSystemCliAdapter.parseJson (value : String) (system : ExternalSystem) : Except String Json :=
  match Json.parse value.toList with
  | some json => .ok json
  | none => .error s!"failed to parse {system.text} JSON stdout"

def succeededExit (command : ExternalCommand) (raw : SpawnSyncLike) : Bool :=
  raw.status.any command.successExitCodes.contains

def skipped (system : ExternalSystem) (summary cwd command : String) : ExternalCliCommandResult :=
  { system := system, command := command, cwd := cwd, exitCode := none, status := .skipped
    stdout := "", stderr := "", summary := summary }

def gatefieldVerdict? : String → Option GatefieldVerdict
  | "pass" => some .pass
  | "warn" => some .warn
  | "hold" => some .hold
  | "block" => some .block
  | _ => none

def stateGateVerdict? : String → Option StateGateVerdict
  | "allow" => some .allow
  | "revise" => some .revise
  | "needs_approval" => some .needsApproval
  | "require_human" => some .requireHuman
  | "stale_blocked" => some .staleBlocked
  | "deny" => some .deny
  | _ => none

def readDecision (value : Option Json) : Option String :=
  value.bind fun json => (json.get? "decision").bind Json.asString?

/-- The verdict of the state gate's answer; `status` counts where `verdict` is null or missing. -/
def readVerdict (value : Option Json) : Option StateGateVerdict := value.bind fun json =>
    let verdict := match json.get? "verdict" with
      | none | some .null => json.get? "status"
      | some verdict => some verdict
    (verdict.bind Json.asString?).bind stateGateVerdict?

def parsedJsonOf (results : List ExternalCliCommandResult) (system : ExternalSystem) : Option Json :=
  (results.find? (·.system = system)).bind (·.parsedJson)

def readGatefieldDecision (results : List ExternalCliCommandResult) : Option GatefieldVerdict :=
  (readDecision (parsedJsonOf results .agentGatefield)).bind gatefieldVerdict?

def readStateGateVerdict (results : List ExternalCliCommandResult) : Option StateGateVerdict :=
  readVerdict (parsedJsonOf results .agentStateGate)

namespace LocalRunSystemCliAdapter

variable (a : LocalRunSystemCliAdapter)

def runCommand (system : ExternalSystem) (c : ExternalCommand) (cwd : String) :
    ExternalCliCommandResult :=
  let raw := a.host.run c.command c.args cwd a.timeoutMs
  let stdout := a.host.stringifyOutput raw.stdout
  let parsedJsonResult := if c.jsonStdout then some (parseJson stdout system) else none
  let parsedJson := parsedJsonResult.bind Except.toOption
  let parseError := parsedJsonResult.bind fun
    | .ok _ => none
    | .error summary => some summary
  let ok := succeededExit c raw
  let jsonParseFailed := c.jsonStdout && ok && parseError.isSome
  { system := system
    command := " ".intercalate (c.command :: c.args)
    cwd := cwd
    exitCode := raw.status
    status := if ok && !jsonParseFailed then .passed else .failed
    stdout := stdout
    stderr := a.host.stringifyOutput raw.stderr
    parsedJson := parsedJson
    summary := (raw.error <|> parseError).getD <|
      if ok then "command completed"
      else "command exited " ++ (raw.status.map toString).getD "null" }

def repoPath (system : ExternalSystem) : String := a.host.join [a.repoRoot, system.text]

def runExternal (packet : RunSystemPacket) (system : ExternalSystem) : ExternalCliCommandResult :=
  let cwd := a.repoPath system
  if a.host.existsSync cwd then a.runCommand system (externalCommand packet system) cwd
  else skipped system "repo not found" cwd (externalCommand packet system).label

def runAgentProtocols (packet : RunSystemPacket) : ExternalCliCommandResult :=
  a.runExternal packet .agentProtocols

def runAgentTaskstate (packet : RunSystemPacket) : ExternalCliCommandResult :=
  a.runExternal packet .agentTaskstate

def runAgentGatefield (packet : RunSystemPacket) : ExternalCliCommandResult :=
  let result := a.runExternal packet .agentGatefield
  let decision := readDecision result.parsedJson
  if decision = some "block" then
    { result with status := .failed, summary := "agent-gatefield returned block" }
  else if decision = some "hold" then
    { result with status := .warned, summary := "agent-gatefield returned hold" }
  else result

def runAgentStateGate (packet : RunSystemPacket) : ExternalCliCommandResult :=
  a.runExternal packet .agentStateGate

def results (packet : RunSystemPacket) : List ExternalCliCommandResult :=
  [a.runAgentProtocols packet, a.runAgentTaskstate packet, a.runAgentGatefield packet,
    a.runAgentStateGate packet]

def reportLine (result : ExternalCliCommandResult) : String :=
  s!"{result.system.text}: {result.summary}"

/-- `run` of run-system-cli-adapter.ts. -/
def run (packet : RunSystemPacket) : ExternalRunSystemCliReport :=
  let results := a.results packet
  { invoked := true
    mode := packet.mode
    results := results
    gatefieldDecision := readGatefieldDecision results
    stateGateVerdict := readStateGateVerdict results
    blockers := (results.filter (·.status = .failed)).map reportLine
    residualRisks :=
      (results.filter fun result => result.status = .warned || result.status = .skipped).map
        reportLine
    artifactPath := some (a.host.join [a.artifactRoot, packet.jobId, "external-cli-report.json"]) }

end LocalRunSystemCliAdapter

end ShipyardCp.Domain
