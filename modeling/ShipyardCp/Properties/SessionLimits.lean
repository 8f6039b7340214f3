import ShipyardCp.Properties.InputAdmission

/-! Whether a session keeps its limits of turns and of tool calls. -/

namespace ShipyardCp.Properties

open Types Domain Lib Lib.NodePath RuntimeSession Machine

/-- The event records that a tool call was allowed. -/
def isAllowedDecision (event : RuntimeEvent) : Bool := event.eventType = .toolDecision &&
    match event.metadata with
    | some metadata => ((Json.obj metadata).get? "allowed").any Json.truthy
    | none => false

def allowedDecisions (s : RuntimeSession) : Nat := s.events.countP isAllowedDecision

/-- The limits are kept, with every recorded turn and every allowed tool call counted. -/
structure WithinLimits (s : RuntimeSession) : Prop where
  turns : s.collect.turnCount ≤ s.policy.maxTurns
  toolCalls : s.collect.toolCallCount ≤ s.policy.maxToolCalls
  counted : s.collect.toolCallCount = allowedDecisions s

def verdicts (platform : Platform) (registry : RuntimeToolRegistry) (policy : WorkerRuntimePolicy)
    (calls : List ToolInvocationRequest) : List Bool :=
  calls.map fun call => (decideInvocation platform registry policy call).allowed

/-- A promotion has room for the inputs it promotes; of a turn that is decided, the first tool call
is refused if any is. -/
def LimitSafe (platform : Platform) (s : RuntimeSession) (call : SessionCall) : Prop :=
  match call.op with
  | .promoteAdmittedInputs => s.state = .running →
    s.turns.length + (steeredRun (pending s)).length ≤ s.policy.maxTurns
  | .send registry turn => s.state = .running → s.turns.length < s.policy.maxTurns →
    s.toolCallCount + (turn.toolCalls.getD []).length ≤ s.policy.maxToolCalls →
    false ∈ verdicts platform registry s.policy (turn.toolCalls.getD []) →
    (verdicts platform registry s.policy (turn.toolCalls.getD [])).head? = some false
  | _ => True

theorem takeWhile_length_eq_zero_iff {vs : List Bool} (h : false ∈ vs) :
    (vs.takeWhile fun allowed => allowed).length = 0 ↔ vs.head? = some false := by
  cases vs with
  | nil => cases h
  | cons v vs => cases v <;> simp

theorem takeWhile_of_not_mem {vs : List Bool} (h : false ∉ vs) :
    (vs.takeWhile fun allowed => allowed) = vs := by
  induction vs with
  | nil => rfl
  | cons v vs ih =>
    obtain ⟨hv, hvs⟩ := not_or.mp (List.mem_cons.not.mp h)
    cases v with
    | false => exact absurd rfl hv
    | true => rw [List.takeWhile_cons_of_pos rfl, ih hvs]

section counts

variable {platform : Platform} {registry : RuntimeToolRegistry} {now : Timestamp}
  {s : RuntimeSession} {eventType : RuntimeEventType} {message : String}
  {metadata : Option (List (String × Json))}

@[simp] theorem allowedDecisions_recordEvent (h : eventType ≠ .toolDecision) :
    allowedDecisions (s.recordEvent now eventType message metadata) = allowedDecisions s := by
  simp [allowedDecisions, recordEvent, isAllowedDecision, h]

theorem allowedDecisions_recordDecision (s : RuntimeSession) (now : Timestamp)
    (call : ToolInvocationRequest) (decision : ToolInvocationDecision) :
    allowedDecisions (s.recordDecision now call decision) =
      allowedDecisions s + if decision.allowed then 1 else 0 := by
  cases hallowed : decision.allowed <;>
    simp [allowedDecisions, recordDecision, recordEvent,
      isAllowedDecision, Json.get?, Json.truthy, hallowed, List.lookup_cons]

theorem allowedDecisions_foldl_promoteInput (now : Timestamp) (inputs : List RuntimeInput) :
    ∀ s, allowedDecisions (inputs.foldl (promoteInput now) s) = allowedDecisions s := by
  induction inputs with
  | nil => exact fun _ => rfl
  | cons input inputs ih =>
    intro s
    rw [List.foldl_cons, ih]
    exact allowedDecisions_recordEvent nofun

theorem decideCalls_spec (platform : Platform) (registry : RuntimeToolRegistry) (now : Timestamp)
    (calls : List ToolInvocationRequest) :
    ∀ s : RuntimeSession, (decideCalls platform registry now calls s).1.policy = s.policy ∧
      (decideCalls platform registry now calls s).1.turns = s.turns ∧
      (decideCalls platform registry now calls s).1.toolCallCount = s.toolCallCount ∧
      allowedDecisions (decideCalls platform registry now calls s).1 = allowedDecisions s +
          ((verdicts platform registry s.policy calls).takeWhile fun allowed => allowed).length ∧
      ((decideCalls platform registry now calls s).2 = none ↔
        false ∉ verdicts platform registry s.policy calls) := by
  induction calls with
  | nil => exact fun s => by simp [decideCalls, verdicts]
  | cons call calls ih =>
    intro s
    have hrecorded := allowedDecisions_recordDecision s now call
      (decideInvocation platform registry s.policy call)
    cases hallowed : (decideInvocation platform registry s.policy call).allowed with
    | false =>
      have hdecide : decideCalls platform registry now (call :: calls) s =
          (s.recordDecision now call (decideInvocation platform registry s.policy call),
            some (decideInvocation platform registry s.policy call).reason) := by
        simp [decideCalls, hallowed]
      rw [hallowed] at hrecorded
      rw [hdecide]
      refine ⟨rfl, rfl, rfl, ?_, ?_⟩
      · simpa [verdicts, hallowed] using hrecorded
      · simp [verdicts, hallowed]
    | true =>
      have hdecide : decideCalls platform registry now (call :: calls) s =
          decideCalls platform registry now calls
            (s.recordDecision now call (decideInvocation platform registry s.policy call)) := by
        simp [decideCalls, hallowed]
      have hverdicts : verdicts platform registry s.policy (call :: calls) =
          true :: verdicts platform registry s.policy calls := by
        simp [verdicts, hallowed]
      obtain ⟨hpolicy, hturns, hcount, hdecided, hnone⟩ := ih
        (s.recordDecision now call (decideInvocation platform registry s.policy call))
      have hsame : (s.recordDecision now call
          (decideInvocation platform registry s.policy call)).policy = s.policy := rfl
      rw [hallowed] at hrecorded
      rw [hsame] at hdecided hnone
      rw [hdecide, hverdicts]
      refine ⟨hpolicy, hturns, hcount, ?_, ?_⟩
      · rw [hdecided, hrecorded, List.takeWhile_cons_of_pos rfl, List.length_cons]
        simp only [if_true]
        omega
      · rw [hnone]
        simp

end counts

section step

variable {platform : Platform} {s s' : RuntimeSession} {call : SessionCall}

theorem WithinLimits.of_counts (hwithin : WithinLimits s) (hpolicy : s'.policy = s.policy)
    (hturns : s'.turns = s.turns) (hcount : s'.toolCallCount = s.toolCallCount)
    (hallowed : allowedDecisions s' = allowedDecisions s) : WithinLimits s' where
  turns := by
    simp only [collect, hturns, hpolicy]
    exact hwithin.turns
  toolCalls := by
    simp only [collect, hcount, hpolicy]
    exact hwithin.toolCalls
  counted := by
    simp only [collect, hcount, hallowed]
    exact hwithin.counted

theorem withinLimits_admitInput (hwithin : WithinLimits s) (now : Timestamp)
    (request : InputRequest) :
    WithinLimits (s.perform platform ⟨now, .admitInput request⟩) := by
  by_cases hrunning : s.state = .running
  · cases hget : s.admittedInputs.get? request.inputId with
    | some existing =>
      rw [perform_admitInput_of_get? hrunning hget]
      exact hwithin
    | none =>
      obtain ⟨message, metadata, hperform⟩ := perform_admitInput_of_new platform now hrunning hget
      rw [hperform]
      exact hwithin.of_counts rfl rfl rfl (allowedDecisions_recordEvent nofun)
  · rw [perform_of_not_running hrunning rfl]
    exact hwithin

theorem withinLimits_promote_iff (hwithin : WithinLimits s) (now : Timestamp) :
    WithinLimits (s.perform platform ⟨now, .promoteAdmittedInputs⟩) ↔
      LimitSafe platform s ⟨now, .promoteAdmittedInputs⟩ := by
  by_cases hrunning : s.state = .running
  · have hperform := perform_promoteAdmittedInputs platform hrunning now
    obtain ⟨_, hpolicy, hcount, hturns, _⟩ := foldl_promoteInput now (steeredRun (pending s)) s
    have hallowed := allowedDecisions_foldl_promoteInput now (steeredRun (pending s)) s
    rw [← hperform] at hpolicy hcount hturns hallowed
    constructor
    · intro hwithin' _
      have hroom := hwithin'.turns
      simp only [collect, hturns, hpolicy, List.length_append, List.length_map] at hroom
      exact hroom
    · intro hsafe
      refine ⟨?_, ?_, ?_⟩
      · simp only [collect, hturns, hpolicy, List.length_append, List.length_map]
        exact hsafe hrunning
      · simp only [collect, hcount, hpolicy]
        exact hwithin.toolCalls
      · simp only [collect, hcount, hallowed]
        exact hwithin.counted
  · rw [perform_of_not_running hrunning rfl]
    exact iff_of_true hwithin fun hrun => absurd hrun hrunning

theorem perform_send (hrunning : s.state = .running) (now : Timestamp)
    (registry : RuntimeToolRegistry) (turn : TurnRequest) :
    s.perform platform ⟨now, .send registry turn⟩ =
      if s.turns.length ≥ s.policy.maxTurns then
        s.fail now s!"max_turns exceeded: {s.policy.maxTurns}"
      else if s.toolCallCount + (turn.toolCalls.getD []).length > s.policy.maxToolCalls then
        s.fail now s!"max_tool_calls exceeded: {s.policy.maxToolCalls}"
      else
        let decided := decideCalls platform registry now (turn.toolCalls.getD []) s
        match decided.2 with
        | some reason => decided.1.fail now reason
        | none => recordEvent
            { decided.1 with
              toolCallCount := decided.1.toolCallCount + (turn.toolCalls.getD []).length
              turns := decided.1.turns ++ [⟨turn, now⟩] }
            now .turnRecorded s!"turn recorded: {turn.role.text}" none := by
  apply perform_of_ok
  have hsend : s.answer platform ⟨now, .send registry turn⟩ = s.send platform registry now turn := rfl
  rw [hsend]
  unfold send
  rw [assertRunning_eq_ok_iff.mpr hrunning]
  simp only [bind, Except.bind, pure, Except.pure]
  split_ifs with hfull hmany
  · rfl
  · rfl
  · cases hdecided : decideCalls platform registry now (turn.toolCalls.getD []) s with
    | mk decided reason => cases reason <;> rfl

theorem withinLimits_fail_iff {decided : RuntimeSession} {now : Timestamp} {reason : String}
    {k : Nat} (hwithin : WithinLimits s) (hpolicy : decided.policy = s.policy)
    (hturns : decided.turns = s.turns) (hcount : decided.toolCallCount = s.toolCallCount)
    (hallowed : allowedDecisions decided = allowedDecisions s + k) :
    WithinLimits (decided.fail now reason) ↔ k = 0 := by
  have hfail : allowedDecisions (decided.fail now reason) = allowedDecisions decided :=
    allowedDecisions_recordEvent (s := { decided with state := .failed }) nofun
  constructor
  · intro hwithin'
    have hafter : decided.toolCallCount = allowedDecisions (decided.fail now reason) :=
      hwithin'.counted
    have hbefore : s.toolCallCount = allowedDecisions s := hwithin.counted
    omega
  · rintro rfl
    exact hwithin.of_counts hpolicy hturns hcount (hfail.trans hallowed)

theorem withinLimits_record {decided : RuntimeSession} {now : Timestamp} {turn : RuntimeTurn}
    {message : String} {n : Nat} (hwithin : WithinLimits s) (hpolicy : decided.policy = s.policy)
    (hturns : decided.turns = s.turns) (hcount : decided.toolCallCount = s.toolCallCount)
    (hallowed : allowedDecisions decided = allowedDecisions s + n)
    (hroom : s.turns.length < s.policy.maxTurns)
    (hcalls : s.toolCallCount + n ≤ s.policy.maxToolCalls) :
    WithinLimits (recordEvent
      { decided with
        toolCallCount := decided.toolCallCount + n
        turns := decided.turns ++ [turn] } now .turnRecorded message none) := by
  have hbefore : s.toolCallCount = allowedDecisions s := hwithin.counted
  refine ⟨?_, ?_, ?_⟩
  · simp only [collect, recordEvent_turns,
      recordEvent_policy, hturns, hpolicy, List.length_append, List.length_singleton]
    omega
  · simp only [collect, recordEvent_toolCallCount, recordEvent_policy, hcount, hpolicy]
    omega
  · have hturn : RuntimeEventType.turnRecorded ≠ .toolDecision := nofun
    rw [allowedDecisions_recordEvent hturn]
    have hevents : allowedDecisions
        { decided with
          toolCallCount := decided.toolCallCount + n
          turns := decided.turns ++ [turn] } = allowedDecisions decided := rfl
    simp only [collect, recordEvent_toolCallCount, hevents]
    omega

theorem withinLimits_send_iff (hwithin : WithinLimits s) (now : Timestamp)
    (registry : RuntimeToolRegistry) (turn : TurnRequest) :
    WithinLimits (s.perform platform ⟨now, .send registry turn⟩) ↔
      LimitSafe platform s ⟨now, .send registry turn⟩ := by
  by_cases hrunning : s.state = .running
  · rw [perform_send hrunning]
    split_ifs with hfull hmany
    · refine iff_of_true (hwithin.of_counts rfl rfl rfl (allowedDecisions_recordEvent nofun)) ?_
      intro _ hroom
      omega
    · refine iff_of_true (hwithin.of_counts rfl rfl rfl (allowedDecisions_recordEvent nofun)) ?_
      intro _ _ hroom
      omega
    · have hspec := decideCalls_spec platform registry now (turn.toolCalls.getD []) s
      cases hdecided : decideCalls platform registry now (turn.toolCalls.getD []) s with
      | mk decided reason =>
        rw [hdecided] at hspec
        obtain ⟨hpolicy, hturns, hcount, hallowed, hreason⟩ := hspec
        cases reason with
        | some reason =>
          have hrefused : false ∈ verdicts platform registry s.policy
              (turn.toolCalls.getD []) := by
            simpa using hreason
          have hatOnce := takeWhile_length_eq_zero_iff hrefused
          rw [withinLimits_fail_iff hwithin hpolicy hturns hcount hallowed, hatOnce]
          constructor
          · exact fun h _ _ _ _ => h
          · intro hsafe
            exact hsafe hrunning (Nat.lt_of_not_le hfull) (Nat.le_of_not_lt hmany) hrefused
        | none =>
          have hnone := hreason.mp rfl
          have hall : ((verdicts platform registry s.policy (turn.toolCalls.getD [])).takeWhile
              fun allowed => allowed).length = (turn.toolCalls.getD []).length := by
            rw [takeWhile_of_not_mem hnone, verdicts, List.length_map]
          rw [hall] at hallowed
          refine iff_of_true ?_ fun _ _ _ hrefused => absurd hrefused hnone
          exact withinLimits_record hwithin hpolicy hturns hcount hallowed
            (Nat.lt_of_not_le hfull) (Nat.le_of_not_lt hmany)
  · rw [perform_of_not_running hrunning rfl]
    exact iff_of_true hwithin fun hrun => absurd hrun hrunning

theorem withinLimits_perform_iff (hwithin : WithinLimits s) :
    WithinLimits (s.perform platform call) ↔ LimitSafe platform s call := by
  obtain ⟨now, op⟩ := call
  cases op with
  | start job =>
    exact iff_of_true (hwithin.of_counts rfl rfl rfl (allowedDecisions_recordEvent nofun)) trivial
  | admitInput request => exact iff_of_true (withinLimits_admitInput hwithin now request) trivial
  | promoteAdmittedInputs => exact withinLimits_promote_iff hwithin now
  | send registry turn => exact withinLimits_send_iff hwithin now registry turn
  | interrupt reason =>
    exact iff_of_true (hwithin.of_counts rfl rfl rfl (allowedDecisions_recordEvent nofun)) trivial
  | complete summary =>
    exact iff_of_true (hwithin.of_counts rfl rfl rfl (allowedDecisions_recordEvent nofun)) trivial
  | fail reason =>
    exact iff_of_true (hwithin.of_counts rfl rfl rfl (allowedDecisions_recordEvent nofun)) trivial
  | close =>
    exact iff_of_true (hwithin.of_counts rfl rfl rfl (allowedDecisions_recordEvent nofun)) trivial

end step

/-- In every run of a session, the limits are kept in every state exactly when every call is safe for
them. -/
theorem withinLimits_iff {platform : Platform} {h : History RuntimeSession SessionCall}
    {s : RuntimeSession} (hrun : (sessionRuns platform).Run h s) :
    (∀ s' ∈ states h s, WithinLimits s') ↔ Machine.Steps (LimitSafe platform) h := by
  refine hrun.forall_states_iff (I := WithinLimits) ?_ (fun _ hwithin => hwithin) ?_ ?_
  · rintro s ⟨sessionId, policy, rfl⟩
    exact ⟨Nat.zero_le _, Nat.zero_le _, rfl⟩
  · intro h s call s' _ hwithin hsafe hstep
    obtain rfl : s.perform platform call = s' := Option.some.inj hstep
    exact (withinLimits_perform_iff hwithin).mpr hsafe
  · intro h s call s' _ hwithin hstep hwithin'
    obtain rfl : s.perform platform call = s' := Option.some.inj hstep
    exact (withinLimits_perform_iff hwithin).mp hwithin'

/-- A job of a worker that has a workspace to itself. -/
def runtimeJob : WorkerJob where
  jobId := "job"
  taskId := "task"
  typedRef := "agent-taskstate:task:local:task"
  stage := .dev
  workerType := .codex
  executionBackend := none
  status := .running
  workspaceRef := ⟨"workspace", .container, none⟩
  executorInstanceId := none
  inputPrompt := "prompt"
  repoRef := ⟨"owner", "name", "main", none⟩
  capabilityRequirements := []
  riskLevel := .medium
  approvalPolicy := ⟨.ask, none, none, none⟩
  retryPolicy := none
  retryCount := none
  loopFingerprint := none
  leaseOwner := none
  leaseExpiresAt := none
  requestedOutputs := none
  metadata := none

def limitedSession (maxTurns : Nat) : RuntimeSession := .new "session"
    { mode := .interactive, allowedPaths := none, maxTurns, maxToolCalls := 2,
      restrictedTools := true, allowSubagents := false, restorePoints := .disabled }

theorem run_perform {platform : Platform} {h : History RuntimeSession SessionCall}
    {s : RuntimeSession} (hrun : (sessionRuns platform).Run h s) (call : SessionCall) :
    (sessionRuns platform).Run (h ++ [(s, call)]) (s.perform platform call) :=
  hrun.snoc rfl

/-- A worker reads a file, and is then given an input. -/
theorem read_then_input_withinLimits :
    let start : SessionCall := ⟨0, .start runtimeJob⟩
    let read : SessionCall := ⟨1, .send (createDefaultRuntimeToolRegistry 0)
      { role := .worker, content := "reading",
        toolCalls := some [{ tool := "read_file", args := [("path", .str "src/a.ts")] }] }⟩
    let give : SessionCall := ⟨2, .admitInput { inputId := "a", content := "go on" }⟩
    let promote : SessionCall := ⟨3, .promoteAdmittedInputs⟩
    let s₀ := limitedSession 2
    let s₁ := s₀.perform .posix start
    let s₂ := s₁.perform .posix read
    let s₃ := s₂.perform .posix give
    WithinLimits (s₃.perform .posix promote) := by
  intro start read give promote s₀ s₁ s₂ s₃
  have hnew : (sessionRuns .posix).Run [] s₀ := .start ⟨_, _, rfl⟩
  have hrun := run_perform (run_perform (run_perform (run_perform hnew start) read) give) promote
  refine (withinLimits_iff hrun).mpr ?_ _ (List.mem_append_right _ List.mem_cons_self)
  simp only [steps_append, steps_cons, steps_nil, and_true, true_and]
  refine ⟨⟨⟨trivial, ?_⟩, trivial⟩, ?_⟩
  · intro _ _ _ hrefused
    revert hrefused
    decide +kernel
  · intro _
    decide +kernel

/-- Two inputs are promoted at once into a session that allows one turn. -/
theorem promotion_exceeds_maxTurns : ¬∀ platform h s, (sessionRuns platform).Run h s →
    ∀ s' ∈ states h s, WithinLimits s' := by
  intro hall
  let s₀ := limitedSession 1
  have hnew : (sessionRuns .posix).Run [] s₀ := .start ⟨_, _, rfl⟩
  have hrun := run_perform (run_perform (run_perform (run_perform hnew
    ⟨0, .start runtimeJob⟩) ⟨1, .admitInput { inputId := "a", content := "first" }⟩)
    ⟨2, .admitInput { inputId := "b", content := "second" }⟩) ⟨3, .promoteAdmittedInputs⟩
  have hwithin := (hall _ _ _ hrun _ (List.mem_append_right _ List.mem_cons_self)).turns
  revert hwithin
  decide +kernel

end ShipyardCp.Properties
