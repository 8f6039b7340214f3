import ShipyardCp.Domain.WorkerAdapters

/-! Where the evidence in a result comes from: the text of the worker, an executed tool plan, or the
samples every adapter starts from. -/

namespace ShipyardCp.Properties

open Types Lib Domain OpenCodeServeAdapter Json JsText

def testStatusText : TestStatus → String
  | .passed => "passed"
  | .failed => "failed"
  | .skipped => "skipped"
  | .notRun => "not_run"

section sources

variable (text : List Char)

def ContainsJson (v : Json) : Prop := ∃ s, s <:+: text ∧ parse s = some v

def StatesAccept : Prop := ∃ v, ContainsJson text v ∧ (v.get? "outcome" = some accept ∨
    ∃ verdict, v.get? "verdict" = some verdict ∧ verdict.get? "outcome" = some accept)

def HoldsPatch (content : Json) : Prop := (∃ s, s <:+: text ∧ content = .str (String.ofList s)) ∨
    ∃ v, ContainsJson text v ∧ v.get? "patch" = some content

def StatesNumber (v : Option Json) (number : Option Int) : Prop :=
  ∀ n, number = some n → ∃ m e, v = some (.num m e) ∧ m * 10 ^ e.toNat = n * 10 ^ (-e).toNat

/-- The text contains JSON that states the test. -/
def ReportsTest (t : TestResult) : Prop :=
  ∃ v, ContainsJson text v ∧ v.get? "suite" = some (.str t.suite) ∧
    v.get? "status" = some (.str (testStatusText t.status)) ∧
    StatesNumber (v.get? "passed") t.passed ∧ StatesNumber (v.get? "failed") t.failed ∧
    StatesNumber (v.get? "skipped") t.skipped ∧ StatesNumber (v.get? "duration_ms") t.durationMs

/-- The result says nothing that neither the text nor the execution says: its acceptance, its patch
and its tests are from there, and no sample artifact is left in it. -/
structure Genuine (executed : List TestResult) (handed : List ResultArtifact) (job : WorkerJob)
    (result : AdapterResult) : Prop where
  verdict : ∀ v, result.verdict = some v → v.outcome = accept → StatesAccept text
  patch : ∀ p, result.patchRef = some p → HoldsPatch text p.content
  tests : ∀ t ∈ result.testResults, ReportsTest text t ∨ t ∈ executed
  artifacts : ∀ a ∈ result.artifacts, a ∈ (createBaseResult job).artifacts → a ∈ handed

/-- How a conversion goes on from the samples: it states an outcome or keeps the sample, replaces the
patch or keeps the sample, adds the tests of a plan, and takes artifacts or keeps the samples. -/
structure Converted (executed : List TestResult) (handed : List ResultArtifact) (job : WorkerJob)
    (stated : Option Json) (replaced taken : Prop) (result : AdapterResult) : Prop where
  verdict : result.verdict.map (·.outcome) =
    if job.stage = .acceptance then some (stated.getD accept) else none
  keptPatch : job.stage = .dev → ¬replaced → result.patchRef.map (·.content) = some (.str samplePatch)
  patch : (job.stage = .dev → replaced) → ∀ p, result.patchRef = some p → HoldsPatch text p.content
  tests : result.testResults = (createBaseResult job).testResults ++ executed
  keptArtifacts : ¬taken → result.artifacts = (createBaseResult job).artifacts ∧ handed = []
  artifacts : taken → ∀ a ∈ result.artifacts, a ∈ (createBaseResult job).artifacts → a ∈ handed

/-- No sample is left, or the source happens to say what it says. -/
structure Sourced (executed : List TestResult) (job : WorkerJob) (stated : Option Json)
    (replaced taken : Prop) : Prop where
  verdict : job.stage = .acceptance → (∃ outcome, stated = some outcome ∧ outcome ≠ accept) ∨
    StatesAccept text
  patch : job.stage = .dev → replaced ∨ HoldsPatch text (.str samplePatch)
  tests : ∀ t ∈ (createBaseResult job).testResults, ReportsTest text t ∨ t ∈ executed
  artifacts : taken

variable {text} {executed : List TestResult} {handed : List ResultArtifact} {job : WorkerJob}
  {stated : Option Json} {replaced taken : Prop} {result : AdapterResult}

theorem Converted.genuine_iff (h : Converted text executed handed job stated replaced taken result) :
    Genuine text executed handed job result ↔ Sourced text executed job stated replaced taken := by
  constructor
  · intro hgenuine
    constructor
    · intro hstage
      have hverdict := h.verdict
      rw [if_pos hstage] at hverdict
      obtain ⟨v, hv, houtcome⟩ := Option.map_eq_some_iff.mp hverdict
      cases stated with
      | none => exact Or.inr (hgenuine.verdict v hv houtcome)
      | some outcome =>
        by_cases haccept : outcome = accept
        · exact Or.inr (hgenuine.verdict v hv (houtcome.trans haccept))
        · exact Or.inl ⟨outcome, rfl, haccept⟩
    · intro hstage
      by_cases hreplaced : replaced
      · exact Or.inl hreplaced
      · obtain ⟨p, hp, hcontent⟩ := Option.map_eq_some_iff.mp (h.keptPatch hstage hreplaced)
        rw [← hcontent]
        exact Or.inr (hgenuine.patch p hp)
    · intro t ht
      apply hgenuine.tests t
      rw [h.tests]
      exact List.mem_append_left _ ht
    · by_contra htaken
      obtain ⟨hkept, hnone⟩ := h.keptArtifacts htaken
      have hsample := hgenuine.artifacts
      rw [hkept, hnone] at hsample
      exact absurd (hsample _ List.mem_cons_self List.mem_cons_self) List.not_mem_nil
  · intro hsourced
    refine ⟨fun v hv houtcome => ?_, fun p hp => ?_, fun t ht => ?_, h.artifacts hsourced.artifacts⟩
    · have hverdict := h.verdict
      rw [hv, Option.map_some] at hverdict
      split_ifs at hverdict with hstage
      have hsame : v.outcome = stated.getD accept := Option.some.inj hverdict
      rcases hsourced.verdict hstage with ⟨outcome, rfl, hother⟩ | hstates
      · exact absurd (hsame.symm.trans houtcome) hother
      · exact hstates
    · by_cases hkept : job.stage = .dev ∧ ¬replaced
      · have hsample := h.keptPatch hkept.1 hkept.2
        rw [hp, Option.map_some] at hsample
        rw [Option.some.inj hsample]
        exact (hsourced.patch hkept.1).resolve_left hkept.2
      · exact h.patch (fun hstage => by_contra fun hnot => hkept ⟨hstage, hnot⟩) p hp
    · rw [h.tests] at ht
      rcases List.mem_append.mp ht with ht | ht
      · exact hsourced.tests t ht
      · exact Or.inr ht

theorem head_of_sample {a : ResultArtifact} (h : a ∈ (createBaseResult job).artifacts) :
    a.uri.toList.head? = some 'f' := by
  have hcases : a.uri = "file:///logs/" ++ job.jobId ++ ".log" ∨
      a.uri = "file:///plans/" ++ job.jobId ++ ".json" := by
    simp only [createBaseResult, List.mem_cons] at h
    rcases h with rfl | h
    · exact Or.inl rfl
    · split_ifs at h
      · rw [List.mem_singleton.mp h]
        exact Or.inr rfl
      · cases h
  rcases hcases with huri | huri <;> rw [huri] <;> simp

end sources

section openCode

variable {job : WorkerJob} {execution : AdapterExecution}

/-- The outcome of the JSON, or the one the words of the output point to. -/
def openCodeOutcome (output : List Char) : Option Json :=
  let trimmed := trim output
  if trimmed = [] then none
  else
    match statedOutcome? trimmed with
    | some (outcome, _) => some outcome
    | none => some (if rejects trimmed then .str "rework" else accept)

theorem openCode_outcome (output : List Char) :
    (tryExtractVerdict output).map (·.outcome) = openCodeOutcome output := by
  unfold tryExtractVerdict openCodeOutcome
  dsimp only
  split_ifs
  · rfl
  · cases statedOutcome? (trim output) <;> rfl
  · cases statedOutcome? (trim output) <;> rfl

theorem openCode_converted : Converted execution.text [] (execution.artifacts.getD []) job
    (openCodeOutcome execution.text) (looksLikeDiff execution.text = true) True
    (convertToWorkerResult job execution) := by
  unfold convertToWorkerResult
  dsimp only
  refine ⟨?_, fun hstage hkept => ?_, fun hreplaced p hp => ?_, (List.append_nil _).symm,
    fun hnot => absurd trivial hnot, fun _ a ha _ => ha⟩
  · by_cases hstage : job.stage = .acceptance
    · rw [if_pos hstage, if_pos hstage, ← openCode_outcome]
      cases tryExtractVerdict execution.text with
      | none => simp [createBaseResult, hstage]
      | some verdict => rfl
    · simp [createBaseResult, hstage]
  · rw [if_neg hkept]
    simp [createBaseResult, hstage]
  · by_cases hdiff : looksLikeDiff execution.text = true
    · rw [if_pos hdiff] at hp
      rw [← Option.some.inj hp]
      exact Or.inl ⟨_, List.infix_refl _, rfl⟩
    · rw [if_neg hdiff] at hp
      have hstage : job.stage ≠ .dev := fun hstage => hdiff (hreplaced hstage)
      simp [createBaseResult, hstage] at hp

end openCode

section claudeCode

variable (env : AdapterEnv) {job : WorkerJob} {execution : AdapterExecution}

def verdictOutcome? (parsed : Json) : Option Json :=
  ((parsed.get? "verdict").filter truthy).bind fun verdict =>
    (verdict.get? "outcome").filter truthy

def claudeOutcome (output : List Char) : Option Json := (parse output).bind verdictOutcome?

def claudePatches (output : List Char) : Bool :=
  match parse output with
  | some .null | none => looksLikeDiff output
  | some parsed => isTruthyJson (parsed.get? "patch")

def claudeArtifacts (job : WorkerJob) (execution : AdapterExecution) : Prop :=
  execution.artifacts.isSome = true ∨ job.stage = .plan ∧ ((parse execution.text).any fun parsed =>
      isTruthyJson (parsed.get? "plan")) = true

theorem filter_truthy (v : Option Json) : (v.filter truthy).isSome = isTruthyJson v := by
  cases v with
  | none => rfl
  | some v => by_cases hv : v.truthy = true <;> simp [isTruthyJson, Option.filter, hv]

theorem orElseTruthy_eq (v : Option Json) (other : Json) :
    orElseTruthy v other = (v.filter truthy).getD other := by
  cases v with
  | none => rfl
  | some v => by_cases hv : v.truthy = true <;> simp [orElseTruthy, Option.filter, hv]

theorem handed_artifacts (h : execution.artifacts.isSome = true) :
    ∀ a ∈ execution.artifacts.getD (createBaseResult job).artifacts,
      a ∈ (createBaseResult job).artifacts → a ∈ execution.artifacts.getD [] := by
  obtain ⟨artifacts, hartifacts⟩ := Option.isSome_iff_exists.mp h
  rw [hartifacts]
  exact fun a ha _ => ha

theorem claude_read {parsed : Json} (hparse : parse execution.text = some parsed)
    (hnull : parsed ≠ .null) : Converted execution.text [] (execution.artifacts.getD []) job
    (claudeOutcome execution.text) (claudePatches execution.text = true)
    (claudeArtifacts job execution)
    (ProductionClaudeCodeAdapter.convertToWorkerResult env job execution) := by
  have hcontains : ContainsJson execution.text parsed := ⟨_, List.infix_refl _, hparse⟩
  have hpatches : claudePatches execution.text = isTruthyJson (parsed.get? "patch") := by
    unfold claudePatches
    rw [hparse]
    cases parsed with
    | null => exact absurd rfl hnull
    | _ => rfl
  rw [ProductionClaudeCodeAdapter.convertToWorkerResult_of_read env hparse hnull]
  refine ⟨?_, fun hstage hkept => ?_, fun hreplaced p hp => ?_, (List.append_nil _).symm, ?_, ?_⟩
  · by_cases hstage : job.stage = .acceptance
    · simp only [if_pos hstage, claudeOutcome, hparse, Option.bind_some, verdictOutcome?]
      cases (parsed.get? "verdict").filter truthy with
      | none => simp [createBaseResult, hstage]
      | some verdict => simp [orElseTruthy_eq]
    · simp [createBaseResult, hstage]
  · rw [hpatches, ← filter_truthy] at hkept
    cases hpatch : (parsed.get? "patch").filter truthy with
    | none => simp [createBaseResult, hstage]
    | some patch => exact absurd (by rw [hpatch]; rfl) hkept
  · cases hpatch : (parsed.get? "patch").filter truthy with
    | none =>
      have hstage : job.stage ≠ .dev := by
        intro hstage
        have hsome := hreplaced hstage
        rw [hpatches, ← filter_truthy, hpatch] at hsome
        cases hsome
      simp [createBaseResult, hpatch, hstage] at hp
    | some patch =>
      rw [hpatch] at hp
      rw [← Option.some.inj hp]
      exact Or.inr ⟨parsed, hcontains, (Option.filter_eq_some_iff.mp hpatch).1⟩
  · intro hnot
    obtain ⟨hnone, hplan⟩ := not_or.mp hnot
    have hartifacts : execution.artifacts = none := by simpa using hnone
    have hnoplan : (if job.stage = .plan then (parsed.get? "plan").filter truthy else none) =
        none := by
      split_ifs with hstage
      · have hfalse : isTruthyJson (parsed.get? "plan") = false := by
          simpa [hstage, hparse] using hplan
        rw [← filter_truthy] at hfalse
        exact Option.isNone_iff_eq_none.mp (Option.isSome_eq_false_iff.mp hfalse)
      · rfl
    dsimp only
    rw [hnoplan, hartifacts]
    exact ⟨rfl, rfl⟩
  · intro htaken a ha hsample
    dsimp only at ha
    cases hplan : (if job.stage = .plan then (parsed.get? "plan").filter truthy else none) with
    | some plan =>
      rw [hplan] at ha
      have hhead := head_of_sample hsample
      rw [List.mem_singleton.mp ha] at hhead
      simp at hhead
    | none =>
      rw [hplan] at ha
      rcases htaken with hsome | ⟨hstage, hany⟩
      · exact handed_artifacts hsome a ha hsample
      · rw [if_pos hstage] at hplan
        rw [hparse, Option.any_some, ← filter_truthy, hplan] at hany
        cases hany

theorem claude_converted : Converted execution.text [] (execution.artifacts.getD []) job
    (claudeOutcome execution.text) (claudePatches execution.text = true)
    (claudeArtifacts job execution)
    (ProductionClaudeCodeAdapter.convertToWorkerResult env job execution) := by
  by_cases hread : parse execution.text = none ∨ parse execution.text = some .null
  · rw [ProductionClaudeCodeAdapter.convertToWorkerResult_of_unread env hread]
    have hpatches : claudePatches execution.text = looksLikeDiff execution.text := by
      unfold claudePatches
      rcases hread with hparse | hparse <;> rw [hparse]
    have houtcome : claudeOutcome execution.text = none := by
      unfold claudeOutcome
      rcases hread with hparse | hparse <;> rw [hparse] <;> rfl
    have hplan : ((parse execution.text).any fun parsed =>
        isTruthyJson (parsed.get? "plan")) = false := by
      rcases hread with hparse | hparse <;> rw [hparse] <;> rfl
    rw [hpatches, houtcome]
    refine ⟨?_, fun hstage hkept => ?_, fun hreplaced p hp => ?_, (List.append_nil _).symm, ?_, ?_⟩
    · cases hstage : job.stage <;> simp [createBaseResult, hstage]
    · dsimp only
      rw [if_neg fun hdiff => hkept hdiff.2]
      simp [createBaseResult, hstage]
    · by_cases hstage : job.stage = .dev
      · dsimp only at hp
        rw [if_pos ⟨hstage, hreplaced hstage⟩] at hp
        rw [← Option.some.inj hp]
        exact Or.inl ⟨_, List.infix_refl _, rfl⟩
      · simp [createBaseResult, hstage] at hp
    · intro hnot
      have hartifacts : execution.artifacts = none := by simpa using (not_or.mp hnot).1
      dsimp only
      rw [hartifacts]
      exact ⟨rfl, rfl⟩
    · intro htaken
      rcases htaken with hsome | ⟨_, hany⟩
      · exact handed_artifacts hsome
      · rw [hplan] at hany
        cases hany
  · cases hparse : parse execution.text with
    | none => exact absurd (Or.inl hparse) hread
    | some parsed =>
      refine claude_read env hparse ?_
      rintro rfl
      exact hread (Or.inr hparse)

end claudeCode

section openAI

open OpenAICompatibleCompletionAdapter

variable (env : AdapterEnv) {job : WorkerJob} {content : List Char}

def responseOutcome? (parsed : Json) : Option Json :=
  match (parsed.get? "verdict").filter truthy with
  | some verdict => (verdict.get? "outcome").filter truthy
  | none => (parsed.get? "outcome").filter truthy

def openAIOutcome (content : List Char) : Option Json :=
  (parse (normalizeJsonContent content)).bind responseOutcome?

/-- A development that takes its patch from the content, or gives it up for a tool plan. -/
def openAIPatches (job : WorkerJob) (content : List Char) : Bool :=
  match parse (normalizeJsonContent content) with
  | none => !isEnvelopeMode job && looksLikeDiff content
  | some .null => isEnvelopeMode job || looksLikeDiff content
  | some parsed => isEnvelopeMode job || isTruthyJson (parsed.get? "patch") ||
    includes content "--- ".toList

theorem taken_artifacts {artifacts : List ResultArtifact} {a : ResultArtifact}
    (ha : a ∈ (startResult env job content).artifacts ++ artifacts)
    (hartifacts : ∀ a ∈ artifacts, ∃ path, a.uri = "artifact://" ++ path)
    (hsample : a ∈ (createBaseResult job).artifacts) : a ∈ ([] : List ResultArtifact) := by
  have hhead := head_of_sample hsample
  rcases List.mem_append.mp ha with ha | ha
  · rw [List.mem_singleton.mp ha] at hhead
    simp at hhead
  · obtain ⟨path, hpath⟩ := hartifacts a ha
    rw [hpath] at hhead
    simp at hhead

theorem holdsPatch_content : HoldsPatch content (.str (String.ofList content)) :=
  Or.inl ⟨content, List.infix_refl _, rfl⟩

theorem openAI_unread (hparse : parse (normalizeJsonContent content) = none ∨
    parse (normalizeJsonContent content) = some .null ∧
      ¬(job.stage = .dev ∧ isEnvelopeMode job = true)) :
    Converted content (executedTests env job content) [] job (openAIOutcome content)
      (openAIPatches job content = true) True (convertToWorkerResult env job content) := by
  have houtcome : openAIOutcome content = none := by
    unfold openAIOutcome
    rcases hparse with hparse | ⟨hparse, _⟩ <;> rw [hparse] <;> rfl
  have htests : executedTests env job content = [] := by
    unfold executedTests
    split_ifs with hplan
    · rcases hparse with hparse | ⟨_, hnot⟩
      · rw [hparse]
      · exact absurd hplan hnot
    · rfl
  have hpatches : job.stage = .dev →
      openAIPatches job content = (!isEnvelopeMode job && looksLikeDiff content) := by
    intro hstage
    unfold openAIPatches
    rcases hparse with hparse | ⟨hparse, hnot⟩ <;> rw [hparse]
    have hmode : isEnvelopeMode job = false := by simpa [hstage] using hnot
    simp [hmode]
  rw [houtcome, htests]
  obtain ⟨henvelope, hlegacy⟩ := convertToWorkerResult_of_unread hparse
  cases hmode : isEnvelopeMode job with
  | true =>
    rw [henvelope hmode]
    refine ⟨?_, fun hstage _ => ?_, fun hreplaced p hp => ?_, (List.append_nil _).symm,
      fun hnot => absurd trivial hnot, fun _ a ha hsample => ?_⟩
    · cases hstage : job.stage <;> simp [startResult, createBaseResult, hstage]
    · simp [startResult, createBaseResult, hstage]
    · have hstage : job.stage ≠ .dev := by
        intro hstage
        have hdiff := hreplaced hstage
        rw [hpatches hstage, hmode] at hdiff
        cases hdiff
      simp [startResult, createBaseResult, hstage] at hp
    · exact taken_artifacts env (List.mem_append_left [] ha) (by simp) hsample
  | false =>
    rw [hlegacy hmode]
    refine ⟨?_, fun hstage hkept => ?_, fun hreplaced p hp => ?_, (List.append_nil _).symm,
      fun hnot => absurd trivial hnot, fun _ a ha hsample => ?_⟩
    · cases hstage : job.stage <;> simp [startResult, createBaseResult, hstage]
    · rw [hpatches hstage, hmode, Bool.not_false, Bool.true_and] at hkept
      dsimp only
      rw [if_neg hkept]
      simp [createBaseResult, hstage]
    · dsimp only at hp
      split_ifs at hp with hdiff
      · rw [← Option.some.inj hp]
        exact holdsPatch_content
      · have hstage : job.stage ≠ .dev := by
          intro hstage
          have hreplaced := hreplaced hstage
          rw [hpatches hstage, hmode] at hreplaced
          exact hdiff hreplaced
        simp [createBaseResult, hstage] at hp
    · exact taken_artifacts env (List.mem_append_left [] ha) (by simp) hsample

theorem openAI_read {parsed : Json}
    (hparse : parse (normalizeJsonContent content) = some parsed) (hnull : parsed ≠ .null)
    (hplan : ¬(job.stage = .dev ∧ isEnvelopeMode job = true)) :
    Converted content (executedTests env job content) [] job (openAIOutcome content)
      (openAIPatches job content = true) True (convertToWorkerResult env job content) := by
  have hcontains : ContainsJson content parsed := ⟨_, normalizeJsonContent_isInfix content, hparse⟩
  have htests : executedTests env job content = [] := if_neg hplan
  have hpatches : job.stage = .dev → openAIPatches job content =
      (isTruthyJson (parsed.get? "patch") || includes content "--- ".toList) := by
    intro hstage
    have hmode : isEnvelopeMode job = false := by simpa [hstage] using hplan
    unfold openAIPatches
    rw [hparse]
    cases parsed with
    | null => exact absurd rfl hnull
    | _ => simp [hmode]
  rw [htests, convertToWorkerResult_of_read hparse hnull hplan]
  refine ⟨?_, fun hstage hkept => ?_, fun hreplaced p hp => ?_, (List.append_nil _).symm,
    fun hnot => absurd trivial hnot, fun _ a ha hsample => ?_⟩
  · by_cases hstage : job.stage = .acceptance
    · simp only [if_pos hstage, openAIOutcome, hparse, Option.bind_some, responseOutcome?]
      cases (parsed.get? "verdict").filter truthy with
      | some verdict => simp [orElseTruthy_eq]
      | none =>
        cases (parsed.get? "outcome").filter truthy with
        | some outcome => rfl
        | none => simp [createBaseResult, hstage]
    · simp [createBaseResult, hstage]
  · rw [hpatches hstage] at hkept
    dsimp only
    rw [if_neg fun hboth => hkept hboth.2]
    simp [createBaseResult, hstage]
  · dsimp only at hp
    split_ifs at hp with hpatch
    · rw [← Option.some.inj hp]
      cases hmember : (parsed.get? "patch").filter truthy with
      | none =>
        simp only [orElseTruthy_eq, hmember, Option.getD_none]
        exact holdsPatch_content
      | some patch =>
        simp only [orElseTruthy_eq, hmember, Option.getD_some]
        exact Or.inr ⟨parsed, hcontains, (Option.filter_eq_some_iff.mp hmember).1⟩
    · have hstage : job.stage ≠ .dev := by
        intro hstage
        have hmode : isEnvelopeMode job = false := by simpa [hstage] using hplan
        have hdone := hreplaced hstage
        rw [hpatches hstage] at hdone
        exact hpatch ⟨hmode, hdone⟩
      simp [createBaseResult, hstage] at hp
  · refine taken_artifacts env ha (fun a ha => ?_) hsample
    split_ifs at ha
    · rw [List.mem_singleton.mp ha]
      refine ⟨"plan_intent.json", ?_⟩
      show "artifact://plan_intent.json" = "artifact://" ++ "plan_intent.json"
      decide
    · cases ha

theorem openAI_plan {parsed : Json}
    (hparse : parse (normalizeJsonContent content) = some parsed) (hstage : job.stage = .dev)
    (hmode : isEnvelopeMode job = true) :
    Converted content (executedTests env job content) [] job (openAIOutcome content)
      (openAIPatches job content = true) True (convertToWorkerResult env job content) := by
  obtain ⟨hpatch, hverdict, htests, artifacts, hartifacts, huris⟩ :=
    convertToWorkerResult_of_plan hparse hstage hmode
  have hpatches : openAIPatches job content = true := by
    unfold openAIPatches
    rw [hparse]
    cases parsed <;> simp [hmode]
  refine ⟨?_, fun _ hkept => absurd hpatches hkept, fun _ p hp => ?_, htests,
    fun hnot => absurd trivial hnot, fun _ a ha hsample => ?_⟩
  · rw [hverdict, if_neg (by simp [hstage])]
    rfl
  · rw [hpatch] at hp
    cases hp
  · rw [hartifacts] at ha
    exact taken_artifacts env ha huris hsample

theorem openAI_converted :
    Converted content (executedTests env job content) [] job (openAIOutcome content)
      (openAIPatches job content = true) True (convertToWorkerResult env job content) := by
  cases hparse : parse (normalizeJsonContent content) with
  | none => exact openAI_unread env (Or.inl hparse)
  | some parsed =>
    by_cases hplan : job.stage = .dev ∧ isEnvelopeMode job = true
    · exact openAI_plan env hparse hplan.1 hplan.2
    · by_cases hnull : parsed = .null
      · subst hnull
        exact openAI_unread env (Or.inr ⟨hparse, hplan⟩)
      · exact openAI_read env hparse hnull hplan

end openAI

/-- For every job and every output, the result of each adapter is genuine exactly when no sample is
left in it but one that the source happens to say. -/
theorem evidence_genuine_iff (env : AdapterEnv) (job : WorkerJob) : (∀ content, Genuine content
        (OpenAICompatibleCompletionAdapter.executedTests env job content) [] job
        (OpenAICompatibleCompletionAdapter.convertToWorkerResult env job content) ↔
      Sourced content (OpenAICompatibleCompletionAdapter.executedTests env job content) job
        (openAIOutcome content) (openAIPatches job content = true) True) ∧
    (∀ execution : AdapterExecution, Genuine execution.text [] (execution.artifacts.getD []) job
        (convertToWorkerResult job execution) ↔
      Sourced execution.text [] job (openCodeOutcome execution.text)
        (looksLikeDiff execution.text = true) True) ∧
    ∀ execution : AdapterExecution, Genuine execution.text [] (execution.artifacts.getD []) job
        (ProductionClaudeCodeAdapter.convertToWorkerResult env job execution) ↔
      Sourced execution.text [] job (claudeOutcome execution.text)
        (claudePatches execution.text = true) (claudeArtifacts job execution) :=
  ⟨fun _ => (openAI_converted env).genuine_iff, fun _ => openCode_converted.genuine_iff,
    fun _ => (claude_converted env).genuine_iff⟩

section samples

def sampleAdapterEnv : AdapterEnv where
  now := 0
  encodeText _ := ""
  encodeJson _ := ""
  validPlan _ _ := false
  executePlan _ _ := .error "not executed"

def acceptanceJob : WorkerJob where
  jobId := "job_0"
  taskId := "task_0"
  typedRef := "memx:task:local:1"
  stage := .acceptance
  workerType := .codex
  executionBackend := none
  status := .running
  workspaceRef := ⟨"workspace", .container, false⟩
  executorInstanceId := some "executor"
  inputPrompt := "prompt"
  repoRef := ⟨"owner", "name", "main", none⟩
  capabilityRequirements := []
  riskLevel := .low
  approvalPolicy := ⟨.deny, none, none, none⟩
  retryPolicy := none
  retryCount := none
  loopFingerprint := none
  leaseOwner := none
  leaseExpiresAt := none
  requestedOutputs := none
  metadata := none

theorem not_statesAccept_nil : ¬StatesAccept [] := by
  rintro ⟨v, ⟨s, hs, hparse⟩, _⟩
  rw [List.infix_nil.mp hs] at hparse
  cases hparse

/-- A worker that says nothing is taken to have accepted, by every adapter. -/
theorem silence_accepts : ¬Genuine [] [] [] acceptanceJob
      (OpenAICompatibleCompletionAdapter.convertToWorkerResult sampleAdapterEnv acceptanceJob []) ∧
    ¬Genuine [] [] [] acceptanceJob (convertToWorkerResult acceptanceJob ⟨some [], some []⟩) ∧
    ¬Genuine [] [] [] acceptanceJob
      (ProductionClaudeCodeAdapter.convertToWorkerResult sampleAdapterEnv acceptanceJob
        ⟨some [], some []⟩) := by
  refine ⟨fun h => ?_, fun h => ?_, fun h => ?_⟩ <;>
    exact not_statesAccept_nil (h.verdict _ rfl rfl)

end samples

end ShipyardCp.Properties
