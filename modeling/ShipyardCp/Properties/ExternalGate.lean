import ShipyardCp.Domain.RunSystemGate

/-! Whether the external gate fails closed: every external command that did not complete has to be a
blocker of the merged report and to block the transition. -/

namespace ShipyardCp.Properties

open Domain Lib LocalRunSystemCliAdapter

/-- The command of a system and what it answered, where its repository is there to run it in. -/
def invoked? (a : LocalRunSystemCliAdapter) (packet : RunSystemPacket) (system : ExternalSystem) :
    Option SpawnSyncLike :=
  let c := externalCommand packet system
  if a.host.existsSync (a.repoPath system) then
    some (a.host.run c.command c.args (a.repoPath system) a.timeoutMs)
  else none

def answeredJson? (a : LocalRunSystemCliAdapter) (raw : SpawnSyncLike) : Option Json :=
  Json.parse (a.host.stringifyOutput raw.stdout).toList

def gatefieldAnswer? (a : LocalRunSystemCliAdapter) (raw : SpawnSyncLike) : Option GatefieldVerdict :=
  (readDecision (answeredJson? a raw)).bind gatefieldVerdict?

def stateGateAnswer? (a : LocalRunSystemCliAdapter) (raw : SpawnSyncLike) : Option StateGateVerdict :=
  readVerdict (answeredJson? a raw)

def answersVerdict (a : LocalRunSystemCliAdapter) (raw : SpawnSyncLike) : ExternalSystem → Bool
  | .agentGatefield => (gatefieldAnswer? a raw).isSome
  | .agentStateGate => (stateGateAnswer? a raw).isSome
  | _ => true

/-- The command exited as a success, with JSON where it has to be and with a verdict where it has to
answer one. -/
def completed (a : LocalRunSystemCliAdapter) (packet : RunSystemPacket) (system : ExternalSystem)
    (raw : SpawnSyncLike) : Bool :=
  succeededExit (externalCommand packet system) raw &&
    (!(externalCommand packet system).jsonStdout || (answeredJson? a raw).isSome) &&
    answersVerdict a raw system

def FailedCommand (a : LocalRunSystemCliAdapter) (packet : RunSystemPacket)
    (system : ExternalSystem) (raw : SpawnSyncLike) : Prop :=
  invoked? a packet system = some raw ∧ completed a packet system raw = false

/-- The gatefield answered hold or block, or the state gate a verdict other than allow. -/
def VerdictBlocks (a : LocalRunSystemCliAdapter) (packet : RunSystemPacket) : Prop :=
  (∃ raw, invoked? a packet .agentGatefield = some raw ∧
    (gatefieldAnswer? a raw = some .hold ∨ gatefieldAnswer? a raw = some .block)) ∨
  ∃ raw verdict, invoked? a packet .agentStateGate = some raw ∧
    stateGateAnswer? a raw = some verdict ∧ verdict ≠ .allow

/-- Failed commands are blockers of the run and block the merged report; blocking verdicts block it. -/
def FailsClosed (a : LocalRunSystemCliAdapter) (packet : RunSystemPacket)
    (report : RunSystemGateReport) : Prop :=
  let merged := mergeExternalCliGateReport report (a.run packet)
  (∀ system raw, FailedCommand a packet system raw →
    (∃ summary : String, s!"{system.text}: {summary}" ∈ (a.run packet).blockers) ∧
      merged.qeg.expectedVerdict = .noGo ∧ merged.blocksShipyardTransition = true) ∧
  (VerdictBlocks a packet → merged.blocksShipyardTransition = true)

/-- No failed command of the gatefield answered hold with a failing exit code, or JSON without a verdict
with a good one; none of the state gate answered JSON without a verdict with a good one; and where a
command failed, the internal report or a verdict that was answered blocks. -/
structure FailuresBlocked (a : LocalRunSystemCliAdapter) (packet : RunSystemPacket)
    (report : RunSystemGateReport) : Prop where
  gatefield : ∀ raw, FailedCommand a packet .agentGatefield raw →
    if succeededExit (externalCommand packet .agentGatefield) raw then answeredJson? a raw = none
    else gatefieldAnswer? a raw ≠ some .hold
  stateGate : ∀ raw, FailedCommand a packet .agentStateGate raw →
    succeededExit (externalCommand packet .agentStateGate) raw = true → answeredJson? a raw = none
  blocking : ∀ system raw, FailedCommand a packet system raw →
    shouldBlock report.gatefield.verdict report.agentStateGate.verdict = true ∨ VerdictBlocks a packet

section results

variable {a : LocalRunSystemCliAdapter} {packet : RunSystemPacket} {system : ExternalSystem}
  {raw : SpawnSyncLike}

theorem runExternal_system : (a.runExternal packet system).system = system := by
  simp only [runExternal]
  split <;> rfl

theorem runExternal_of_missing (hnone : invoked? a packet system = none) :
    (a.runExternal packet system).status = .skipped ∧
      (a.runExternal packet system).parsedJson = none := by
  have hmissing : ¬ a.host.existsSync (a.repoPath system) = true := by
    intro hthere
    simp [invoked?, hthere] at hnone
  simp [runExternal, hmissing, skipped]

theorem runExternal_of_invoked (hraw : invoked? a packet system = some raw) :
    ((a.runExternal packet system).status = .failed ↔
      (succeededExit (externalCommand packet system) raw &&
        (!(externalCommand packet system).jsonStdout || (answeredJson? a raw).isSome)) = false) ∧
      (a.runExternal packet system).parsedJson =
        if (externalCommand packet system).jsonStdout then answeredJson? a raw else none := by
  have hthere : a.host.existsSync (a.repoPath system) = true := by
    by_contra hmissing
    simp [invoked?, hmissing] at hraw
  have hrun : a.host.run (externalCommand packet system).command
      (externalCommand packet system).args (a.repoPath system) a.timeoutMs = raw := by
    simpa [invoked?, hthere] using hraw
  simp only [runExternal, hthere, if_true, runCommand, hrun, answeredJson?, parseJson]
  cases hjson : (externalCommand packet system).jsonStdout with
  | false => simp
  | true =>
    cases hparse : Json.parse (a.host.stringifyOutput raw.stdout).toList <;>
      simp [Except.toOption]

def resultOf (a : LocalRunSystemCliAdapter) (packet : RunSystemPacket) :
    ExternalSystem → ExternalCliCommandResult
  | .agentGatefield => a.runAgentGatefield packet
  | system => a.runExternal packet system

theorem runAgentGatefield_system : (a.runAgentGatefield packet).system = .agentGatefield := by
  simp only [runAgentGatefield]
  split
  · exact runExternal_system
  · split
    · exact runExternal_system
    · exact runExternal_system

theorem runAgentGatefield_parsedJson :
    (a.runAgentGatefield packet).parsedJson = (a.runExternal packet .agentGatefield).parsedJson := by
  simp only [runAgentGatefield]
  split
  · rfl
  · split
    · rfl
    · rfl

theorem resultOf_system : (resultOf a packet system).system = system := by
  cases system with
  | agentGatefield => exact runAgentGatefield_system
  | agentProtocols => exact runExternal_system
  | agentTaskstate => exact runExternal_system
  | agentStateGate => exact runExternal_system

theorem results_eq : a.results packet =
    [resultOf a packet .agentProtocols, resultOf a packet .agentTaskstate,
      resultOf a packet .agentGatefield, resultOf a packet .agentStateGate] := rfl

theorem reportLine_injective {other : ExternalSystem} {summary text : String}
    (hline : s!"{system.text}: {summary}" = s!"{other.text}: {text}") : system = other := by
  have hchars := congrArg (fun line => (line.toList)[6]?) hline
  cases system <;> cases other <;> first
    | rfl
    | simp [ExternalSystem.text, toString] at hchars

theorem blocker_iff : (∃ summary : String, s!"{system.text}: {summary}" ∈ (a.run packet).blockers) ↔
    (resultOf a packet system).status = .failed := by
  constructor
  · rintro ⟨summary, hmem⟩
    obtain ⟨result, hresult, hline⟩ := List.mem_map.mp hmem
    obtain ⟨hin, hfailed⟩ := List.mem_filter.mp hresult
    have hsystem : result.system = system := reportLine_injective hline
    have hof : result = resultOf a packet system := by
      have hcases : ∃ system', result = resultOf a packet system' := by
        rw [results_eq] at hin
        simp only [List.mem_cons, List.not_mem_nil, or_false] at hin
        obtain h | h | h | h := hin
        · exact ⟨_, h⟩
        · exact ⟨_, h⟩
        · exact ⟨_, h⟩
        · exact ⟨_, h⟩
      obtain ⟨system', rfl⟩ := hcases
      rw [resultOf_system] at hsystem
      rw [hsystem]
    rw [← hof]
    exact of_decide_eq_true hfailed
  · intro hfailed
    refine ⟨(resultOf a packet system).summary, ?_⟩
    have hin : resultOf a packet system ∈ a.results packet := by
      rw [results_eq]
      cases system <;> simp
    have hline := List.mem_map_of_mem (f := reportLine)
      (List.mem_filter (p := fun result => result.status = .failed).mpr ⟨hin, decide_eq_true hfailed⟩)
    rwa [reportLine, resultOf_system] at hline

theorem parsedJsonOf_results :
    parsedJsonOf (a.results packet) system = (resultOf a packet system).parsedJson := by
  cases system <;> simp [parsedJsonOf, results_eq, resultOf_system]

theorem readGatefieldDecision_run : (a.run packet).gatefieldDecision =
      (invoked? a packet .agentGatefield).bind (gatefieldAnswer? a) := by
  change (readDecision (parsedJsonOf (a.results packet) .agentGatefield)).bind gatefieldVerdict? = _
  rw [parsedJsonOf_results, resultOf, runAgentGatefield_parsedJson]
  cases hraw : invoked? a packet .agentGatefield with
  | none => simp [(runExternal_of_missing hraw).2, readDecision]
  | some raw => simp [(runExternal_of_invoked hraw).2, externalCommand, gatefieldAnswer?]

theorem readStateGateVerdict_run : (a.run packet).stateGateVerdict =
      (invoked? a packet .agentStateGate).bind (stateGateAnswer? a) := by
  have hresult : resultOf a packet .agentStateGate = a.runExternal packet .agentStateGate := rfl
  change readVerdict (parsedJsonOf (a.results packet) .agentStateGate) = _
  rw [parsedJsonOf_results, hresult]
  cases hraw : invoked? a packet .agentStateGate with
  | none => simp [(runExternal_of_missing hraw).2, readVerdict]
  | some raw => simp [(runExternal_of_invoked hraw).2, externalCommand, stateGateAnswer?]

theorem blocks_run_iff : (a.run packet).blocks = true ↔ VerdictBlocks a packet := by
  rw [ExternalRunSystemCliReport.blocks, readGatefieldDecision_run, readStateGateVerdict_run,
    VerdictBlocks]
  simp only [shouldBlock, Bool.or_eq_true, decide_eq_true_eq]
  refine or_congr ?_ ?_
  · cases hraw : invoked? a packet .agentGatefield with
    | none => simp
    | some raw => cases hanswer : gatefieldAnswer? a raw <;> simp [hanswer]
  · cases hraw : invoked? a packet .agentStateGate with
    | none => simp
    | some raw => cases hanswer : stateGateAnswer? a raw <;> simp [hanswer]

theorem gatefieldVerdict?_hold {text : String} (h : gatefieldVerdict? text = some .hold) :
    text = "hold" := by
  unfold gatefieldVerdict? at h
  split at h <;> simp_all

theorem gatefield_failed_iff (hraw : invoked? a packet .agentGatefield = some raw)
    (hcompleted : completed a packet .agentGatefield raw = false) :
    (resultOf a packet .agentGatefield).status = .failed ↔
      if succeededExit (externalCommand packet .agentGatefield) raw then answeredJson? a raw = none
      else gatefieldAnswer? a raw ≠ some .hold := by
  obtain ⟨hbase, hparsed⟩ := runExternal_of_invoked hraw
  have hjson : (externalCommand packet .agentGatefield).jsonStdout = true := rfl
  simp only [hjson, Bool.not_true, Bool.false_or, if_true] at hbase hparsed
  simp only [completed, hjson, Bool.not_true, Bool.false_or, answersVerdict] at hcompleted
  simp only [resultOf, runAgentGatefield, hparsed]
  cases hdecision : readDecision (answeredJson? a raw) with
  | none =>
    have hanswer : gatefieldAnswer? a raw = none := by simp [gatefieldAnswer?, hdecision]
    simp only [reduceCtorEq, if_false, hbase, hanswer]
    cases succeededExit (externalCommand packet .agentGatefield) raw <;> simp
  | some decision =>
    have hread : (answeredJson? a raw).isSome = true := by
      cases hj : answeredJson? a raw with
      | none => simp [readDecision, hj] at hdecision
      | some json => rfl
    have hanswer : gatefieldAnswer? a raw = gatefieldVerdict? decision := by
      simp [gatefieldAnswer?, hdecision]
    rw [hanswer] at hcompleted ⊢
    by_cases hblock : decision = "block"
    · subst hblock
      have hexit : succeededExit (externalCommand packet .agentGatefield) raw = false := by
        simpa [hread, gatefieldVerdict?] using hcompleted
      simp [hexit, gatefieldVerdict?]
    · by_cases hhold : decision = "hold"
      · subst hhold
        have hexit : succeededExit (externalCommand packet .agentGatefield) raw = false := by
          simpa [hread, gatefieldVerdict?] using hcompleted
        simp [hexit, gatefieldVerdict?]
      · have hnot : gatefieldVerdict? decision ≠ some .hold :=
          fun h => hhold (gatefieldVerdict?_hold h)
        simp only [Option.some.injEq, hblock, hhold, if_false, hbase, hread, Bool.and_true]
        cases succeededExit (externalCommand packet .agentGatefield) raw with
        | false => simp [hnot]
        | true =>
          have hsome : answeredJson? a raw ≠ none := Option.isSome_iff_ne_none.mp hread
          simp [hsome]

theorem stateGate_failed_iff (hraw : invoked? a packet .agentStateGate = some raw) :
    (resultOf a packet .agentStateGate).status = .failed ↔
      (succeededExit (externalCommand packet .agentStateGate) raw = true →
        answeredJson? a raw = none) := by
  have hbase := (runExternal_of_invoked hraw).1
  have hjson : (externalCommand packet .agentStateGate).jsonStdout = true := rfl
  simp only [hjson, Bool.not_true, Bool.false_or] at hbase
  rw [resultOf, hbase]
  cases succeededExit (externalCommand packet .agentStateGate) raw <;> simp
  intro h
  exact absurd h nofun

theorem blocker_of_plain (hfailed : FailedCommand a packet system raw)
    (hplain : (externalCommand packet system).jsonStdout = false) :
    (resultOf a packet system).status = .failed := by
  have hbase := (runExternal_of_invoked hfailed.1).1
  have hcompleted := hfailed.2
  cases system with
  | agentGatefield => cases hplain
  | agentStateGate => cases hplain
  | agentProtocols =>
    change (a.runExternal packet .agentProtocols).status = .failed
    rw [hbase]
    simpa [completed, answersVerdict] using hcompleted
  | agentTaskstate =>
    change (a.runExternal packet .agentTaskstate).status = .failed
    rw [hbase]
    simpa [completed, answersVerdict] using hcompleted

theorem noGo_of_blocker {report : RunSystemGateReport} {line : String}
    (hline : line ∈ (a.run packet).blockers) :
    (mergeExternalCliGateReport report (a.run packet)).qeg.expectedVerdict = .noGo :=
  merge_noGo (List.ne_nil_of_mem hline)

end results

/-- In enforce mode the external gate fails closed exactly when no failed command is taken for an
answer and a failed command never comes without a verdict that blocks. -/
theorem external_gate_fails_closed_iff (a : LocalRunSystemCliAdapter) (packet : RunSystemPacket)
    (report : RunSystemGateReport) (hmode : report.mode = .enforce) :
    FailsClosed a packet report ↔ FailuresBlocked a packet report := by
  have hblocks : (mergeExternalCliGateReport report (a.run packet)).blocksShipyardTransition = true ↔
      shouldBlock report.gatefield.verdict report.agentStateGate.verdict = true ∨
        VerdictBlocks a packet := by
    rw [merge_blocks hmode, Bool.or_eq_true, blocks_run_iff]
  constructor
  · intro h
    refine ⟨fun raw hfailed => ?_, fun raw hfailed => ?_, fun system raw hfailed => ?_⟩
    · exact (gatefield_failed_iff hfailed.1 hfailed.2).mp (blocker_iff.mp (h.1 _ raw hfailed).1)
    · exact (stateGate_failed_iff hfailed.1).mp (blocker_iff.mp (h.1 _ raw hfailed).1)
    · exact hblocks.mp (h.1 system raw hfailed).2.2
  · intro h
    refine ⟨fun system raw hfailed => ?_, fun hverdict => hblocks.mpr (.inr hverdict)⟩
    have hstatus : (resultOf a packet system).status = .failed := by
      cases system with
      | agentGatefield =>
        exact (gatefield_failed_iff hfailed.1 hfailed.2).mpr (h.gatefield raw hfailed)
      | agentStateGate => exact (stateGate_failed_iff hfailed.1).mpr (h.stateGate raw hfailed)
      | agentProtocols => exact blocker_of_plain hfailed rfl
      | agentTaskstate => exact blocker_of_plain hfailed rfl
    have hblocker := blocker_iff.mpr hstatus
    obtain ⟨summary, hline⟩ := hblocker
    exact ⟨⟨summary, hline⟩, noGo_of_blocker hline, hblocks.mpr (h.blocking system raw hfailed)⟩

/-- A host where every repository is there, the plain commands and the gatefield succeed, and the
state gate exits with `0` and the given text. -/
def answeringAdapter (stateGateText : String) : LocalRunSystemCliAdapter where
  host :=
    { existsSync := fun _ => true
      run := fun _ args _ _ =>
        let text := if args.contains "cli.gate_cli" then "\x7b\"decision\":\"pass\"\x7d"
          else if args.contains "evaluate" then stateGateText
          else "ok"
        { status := some 0, stdout := some (.text text) }
      join := "/".intercalate
      utf8 := fun bytes => String.ofList (bytes.map fun byte => Char.ofNat byte.toNat) }
  repoRoot := "/repos"
  artifactRoot := "/artifacts"

def gatePacket : RunSystemPacket := { mode := .enforce, taskId := "task_1", jobId := "job_1" }

def passingReport : RunSystemGateReport where
  mode := .enforce
  gatefield := { verdict := .pass, reasons := [] }
  agentStateGate := { verdict := .allow, reasons := [] }
  manualBb := { required := false, reason := none }
  qeg := { expectedVerdict := .go, blockers := [], residualRisks := [] }
  blocksShipyardTransition := false

/-- A state gate that answers JSON without a verdict is no blocker. -/
theorem external_gate_fails_open :
    ¬ FailsClosed (answeringAdapter "\x7b\x7d") gatePacket passingReport := by
  intro h
  have hfailed : FailedCommand (answeringAdapter "\x7b\x7d") gatePacket .agentStateGate
      { status := some 0, stdout := some (.text "\x7b\x7d") } := by
    constructor <;> decide +kernel
  have hblocks := (h.1 _ _ hfailed).2.2
  revert hblocks
  decide +kernel

/-- A state gate that does not answer JSON blocks with a report that blocks by itself. -/
theorem unreadable_state_gate_fails_closed : FailsClosed (answeringAdapter "") gatePacket
      { passingReport with gatefield := { verdict := .hold, reasons := ["tests failed"] } } :=
  (external_gate_fails_closed_iff _ _ _ rfl).mpr
    { gatefield := fun raw hfailed => by
        have hraw : some raw = invoked? (answeringAdapter "") gatePacket .agentGatefield :=
          hfailed.1.symm
        obtain rfl := Option.some.inj hraw
        have hcompleted := hfailed.2
        revert hcompleted
        decide +kernel
      stateGate := fun raw hfailed _ => by
        have hraw : some raw = invoked? (answeringAdapter "") gatePacket .agentStateGate :=
          hfailed.1.symm
        obtain rfl := Option.some.inj hraw
        rfl
      blocking := fun _ _ _ => .inl rfl }

end ShipyardCp.Properties
