import ShipyardCp.Properties.ToolPlanWrites

/-! Dry runs of tool plans. They write no file and leave no artifacts, but start the processes of
their test suites and commands as any other run does. -/

namespace ShipyardCp.Properties

open Domain Domain.ToolPlanHost Types Lib Lib.NodePath

/-- An execution that changes no file and starts no process. -/
structure NoEffects (result : ToolPlanExecutionResult) : Prop where
  writes : result.writes = []
  artifacts : result.artifacts = []
  processes : result.processes = []

/-- The execution comes to the calls of the plan, in a workspace. -/
structure RunsCalls (host : ToolPlanHost) (plan : ToolPlanOutput) (job : WorkerJob)
    (options : ToolPlanExecutionOptions) (root : Location) : Prop where
  writable : canWrite job = true
  workspace : host.resolveWorkspaceRoot job = some root
  withinLimits : host.validatePlanLimits plan.calls root options = none

/-- The call asks for no test suite in a workspace with a test command, and for no command that is
found safe. -/
structure AsksNoProcess (host : ToolPlanHost) (root : Location) (existsSync : Location → Bool)
    (call : ToolPlanCall) : Prop where
  testSuite : call.tool = "run_test_suite" → host.resolveTestCommand existsSync root = none
  command : call.tool = "run_command" →
    ∃ message, host.resolveSafeCommand existsSync (commandText call) call root = .error message

section calls

variable {host : ToolPlanHost} {root : Location} {options : ToolPlanExecutionOptions}
  {call : ToolPlanCall} {answer : CallAnswer}

theorem writeOutcome_process {tool : String} {attempt : Except String FileWrite}
    {finish : Except String Unit} :
    (host.writeOutcome tool root options attempt finish).process = none := by
  unfold writeOutcome
  cases attempt with
  | error error => rfl
  | ok write =>
    dsimp only
    split_ifs
    · rfl
    · cases finish <;> rfl

theorem readFile_process : (host.readFile call root answer).process = none := by
  unfold ToolPlanHost.readFile
  dsimp only
  split <;> rfl

theorem runTestSuite_process_eq_none_iff : (host.runTestSuite root answer).process = none ↔
    host.resolveTestCommand answer.existsSync root = none := by
  unfold runTestSuite
  cases host.resolveTestCommand answer.existsSync root with
  | none => exact iff_of_true rfl rfl
  | some command => cases answer.process <;> exact iff_of_false nofun nofun

theorem runCommand_process_eq_none_iff : (host.runCommand call root answer).process = none ↔
    ∃ message, host.resolveSafeCommand answer.existsSync (commandText call) call root =
      .error message := by
  unfold runCommand
  dsimp only
  cases host.resolveSafeCommand answer.existsSync (commandText call) call root with
  | error message => exact iff_of_true rfl ⟨message, rfl⟩
  | ok command => cases answer.process <;> exact iff_of_false nofun nofun

theorem runCall_process_eq_none_iff : (host.runCall root options call answer).process = none ↔
    AsksNoProcess host root answer.existsSync call := by
  have hother : call.tool ≠ "run_test_suite" → call.tool ≠ "run_command" →
      AsksNoProcess host root answer.existsSync call := fun hsuite hcommand =>
    ⟨fun h => absurd h hsuite, fun h => absurd h hcommand⟩
  unfold runCall
  split_ifs with hread hwrite hpatch hsuite hcommand
  · exact iff_of_true readFile_process (hother (by rw [hread]; decide) (by rw [hread]; decide))
  · exact iff_of_true writeOutcome_process (hother (by rw [hwrite]; decide) (by rw [hwrite]; decide))
  · exact iff_of_true writeOutcome_process (hother (by rw [hpatch]; decide) (by rw [hpatch]; decide))
  · rw [runTestSuite_process_eq_none_iff]
    refine ⟨fun hnone => ⟨fun _ => hnone, fun h => ?_⟩, fun h => h.testSuite hsuite⟩
    rw [hsuite] at h
    exact absurd h (by decide)
  · rw [runCommand_process_eq_none_iff]
    exact ⟨fun herror => ⟨fun h => absurd h hsuite, fun _ => herror⟩, fun h => h.command hcommand⟩
  · exact iff_of_true rfl (hother hsuite hcommand)

theorem runCall_write_of_dryRun (hdry : options.dryRun = true) :
    (host.runCall root options call answer).write = none := by
  refine Option.eq_none_iff_forall_ne_some.mpr fun write hwrite => ?_
  rw [(runCall_write_eq_some hwrite).2.2.2.2] at hdry
  cases hdry

end calls

section plans

variable {host : ToolPlanHost} {plan : ToolPlanOutput} {job : WorkerJob}
  {options : ToolPlanExecutionOptions} {root : Location} {answers : Nat → CallAnswer}

theorem noEffects_of_notRunsCalls
    (hoptions : host.resolveExecutionOptions plan.toToolPlanSettings job = .ok options)
    (h : ∀ root, ¬RunsCalls host plan job options root) :
    NoEffects (host.execute plan job answers) := by
  unfold execute
  rw [hoptions]
  dsimp only
  by_cases hwrite : canWrite job = true
  · rw [if_neg (by simp [hwrite])]
    cases hroot : host.resolveWorkspaceRoot job with
    | none => exact ⟨rfl, rfl, rfl⟩
    | some root =>
      cases hlimits : host.validatePlanLimits plan.calls root options with
      | none => exact absurd ⟨hwrite, hroot, hlimits⟩ (h root)
      | some error =>
        dsimp only
        rw [hlimits]
        exact ⟨rfl, rfl, rfl⟩
  · rw [if_pos (by simpa using hwrite)]
    exact ⟨rfl, rfl, rfl⟩

theorem execute_of_runsCalls
    (hoptions : host.resolveExecutionOptions plan.toToolPlanSettings job = .ok options)
    (h : RunsCalls host plan job options root) (answers : Nat → CallAnswer) :
    (host.execute plan job answers).writes = plan.calls.zipIdx.filterMap (fun entry =>
        (host.runCall root options entry.1 (answers entry.2)).write) ∧
      (host.execute plan job answers).processes = plan.calls.zipIdx.filterMap (fun entry =>
        (host.runCall root options entry.1 (answers entry.2)).process) ∧
      (host.execute plan job answers).artifacts =
        if options.dryRun then [] else host.writeExecutionArtifacts job root := by
  simp [execute, hoptions, h.writable, h.workspace, h.withinLimits, List.filterMap_map, Function.comp_def]

/-- A dry run has no effects if and only if the plan is not executed at all, or none of its calls
asks for a process. -/
theorem dryRun_noEffects_iff
    (hoptions : host.resolveExecutionOptions plan.toToolPlanSettings job = .ok options)
    (hdry : options.dryRun = true) (answers : Nat → CallAnswer) :
    NoEffects (host.execute plan job answers) ↔
      ∀ root, RunsCalls host plan job options root → ∀ entry ∈ plan.calls.zipIdx,
        AsksNoProcess host root (answers entry.2).existsSync entry.1 := by
  constructor
  · intro hnone root hruns entry hentry
    obtain ⟨_, hprocesses, _⟩ := execute_of_runsCalls hoptions hruns answers
    rw [hnone.processes] at hprocesses
    exact runCall_process_eq_none_iff.mp (List.filterMap_eq_nil_iff.mp hprocesses.symm entry hentry)
  · intro hasks
    by_cases hruns : ∃ root, RunsCalls host plan job options root
    · obtain ⟨root, hruns⟩ := hruns
      obtain ⟨hwrites, hprocesses, hartifacts⟩ := execute_of_runsCalls hoptions hruns answers
      rw [if_pos hdry] at hartifacts
      refine ⟨hwrites.trans ?_, hartifacts, hprocesses.trans ?_⟩
      · exact List.filterMap_eq_nil_iff.mpr fun _ _ => runCall_write_of_dryRun hdry
      · exact List.filterMap_eq_nil_iff.mpr fun entry hentry =>
          runCall_process_eq_none_iff.mpr (hasks root hruns entry hentry)
    · exact noEffects_of_notRunsCalls hoptions fun root h => hruns ⟨root, h⟩

end plans

section examples

def dryPlan (calls : List ToolPlanCall) : ToolPlanOutput := { dryRun := some true, calls }

def dryOptions : ToolPlanExecutionOptions where
  dryRun := true
  allowedPaths := some ["src".toList]
  maxFiles := DEFAULT_MAX_FILES
  maxWriteBytesPerFile := DEFAULT_MAX_WRITE_BYTES_PER_FILE

theorem resolveExecutionOptions_dryPlan (calls : List ToolPlanCall) :
    shopHost.resolveExecutionOptions (dryPlan calls).toToolPlanSettings shopJob = .ok dryOptions := by
  show shopHost.resolveExecutionOptions (dryPlan []).toToolPlanSettings shopJob = _
  rfl

/-- A dry run of a plan that reads and writes a file has no effects. -/
theorem dryRun_writes_nothing : NoEffects (shopHost.execute
    (dryPlan [⟨"read_file", [("path", .str "src/a")]⟩, writeCall "text" ["src".toList, "a".toList]])
    shopJob fun _ => willing) := by
  refine (dryRun_noEffects_iff (resolveExecutionOptions_dryPlan _) rfl _).mpr ?_
  intro root _ entry hentry
  have htool : entry.1.tool = "read_file" ∨ entry.1.tool = "write_file" := by
    obtain rfl | rfl | hnone : entry = (_, 0) ∨ entry = (_, 1) ∨ entry ∈ [] := by
      simpa [dryPlan, List.zipIdx] using hentry
    · exact Or.inl rfl
    · exact Or.inr rfl
    · cases hnone
  rcases htool with htool | htool
  · exact ⟨fun h => absurd (htool.symm.trans h) (by decide),
      fun h => absurd (htool.symm.trans h) (by decide)⟩
  · exact ⟨fun h => absurd (htool.symm.trans h) (by decide),
      fun h => absurd (htool.symm.trans h) (by decide)⟩

/-- A dry run of a plan that runs a command starts its process. -/
theorem dryRun_starts_git : ¬∀ (host : ToolPlanHost) plan job options answers,
    host.resolveExecutionOptions plan.toToolPlanSettings job = .ok options →
    options.dryRun = true → NoEffects (host.execute plan job answers) := by
  intro hall
  have hprocesses : (shopHost.execute
      (dryPlan [⟨"run_command", [("command", .str "git status --short")]⟩]) shopJob
      fun _ => willing).processes =
      [⟨"git", ["status", "--short"], shopRoot, 120000, 1048576⟩] := by
    decide +kernel
  have hnone := (hall shopHost _ shopJob dryOptions (fun _ => willing)
    (resolveExecutionOptions_dryPlan [⟨"run_command", [("command", .str "git status --short")]⟩])
    rfl).processes
  rw [hprocesses] at hnone
  cases hnone

end examples

end ShipyardCp.Properties
