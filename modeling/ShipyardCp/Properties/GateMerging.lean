import ShipyardCp.Domain.GateEvaluation

/-! Whether merging the reports of external gates weakens a gate, and whether the verdict that a
merged report expects agrees with those it has. -/

namespace ShipyardCp.Properties

open Domain

def mergedReport (packet : GatePacket) (externals : List ExternalRunSystemCliReport) :
    RunSystemGateReport :=
  externals.foldl mergeExternalCliGateReport (evaluateRunSystemGate packet)

def blockingVerdicts (report : RunSystemGateReport) : Bool :=
  shouldBlock report.gatefield.verdict report.agentStateGate.verdict

def givesGrounds (report : RunSystemGateReport) : Bool :=
  !report.qeg.blockers.isEmpty || !report.qeg.residualRisks.isEmpty || report.manualBb.required

def givesGroundsExternal (external : ExternalRunSystemCliReport) : Bool :=
  !external.blockers.isEmpty || !external.residualRisks.isEmpty

/-- The merged report has the maximal verdicts, all that was named, and the block that follows; and it
expects a go only without a blocking verdict. -/
structure MergesGate (report : RunSystemGateReport) (external : ExternalRunSystemCliReport)
    (merged : RunSystemGateReport) : Prop where
  gatefield : merged.gatefield.verdict.order =
    max report.gatefield.verdict.order ((external.gatefieldDecision.map (·.order)).getD 0)
  stateGate : merged.agentStateGate.verdict.order =
    max report.agentStateGate.verdict.order ((external.stateGateVerdict.map (·.order)).getD 0)
  blockers : ∀ reason, reason ∈ report.qeg.blockers ∨ reason ∈ external.blockers →
    reason ∈ merged.qeg.blockers
  residualRisks : ∀ reason, reason ∈ report.qeg.residualRisks ∨ reason ∈ external.residualRisks →
    reason ∈ merged.qeg.residualRisks
  blocks : merged.blocksShipyardTransition = true ↔ merged.mode = .enforce ∧
    (merged.gatefield.verdict = .hold ∨ merged.gatefield.verdict = .block ∨
      merged.agentStateGate.verdict ≠ .allow)
  keepsBlock : report.blocksShipyardTransition = true → merged.blocksShipyardTransition = true
  expected : merged.qeg.expectedVerdict = .go → blockingVerdicts merged = false

/-- The verdicts of two reports are the same. -/
structure SameVerdicts (report report' : RunSystemGateReport) : Prop where
  gatefield : report.gatefield.verdict = report'.gatefield.verdict
  stateGate : report.agentStateGate.verdict = report'.agentStateGate.verdict
  expected : report.qeg.expectedVerdict = report'.qeg.expectedVerdict
  blocks : report.blocksShipyardTransition = report'.blocksShipyardTransition

def expectedVerdict (blockers residualRisks : List String) (manual : Bool) : ExpectedVerdict :=
  if !blockers.isEmpty then .noGo
  else if !residualRisks.isEmpty || manual then .conditionalGo
  else .go

/-- The derived fields of a report are those of its verdicts and of what it names. -/
structure Derived (report : RunSystemGateReport) : Prop where
  expected : report.qeg.expectedVerdict =
    expectedVerdict report.qeg.blockers report.qeg.residualRisks report.manualBb.required
  blocks : report.blocksShipyardTransition =
    (decide (report.mode = .enforce) && blockingVerdicts report)

section merge

variable {report : RunSystemGateReport} {external : ExternalRunSystemCliReport}

theorem order_maxGatefield (v v' : GatefieldVerdict) :
    (maxGatefield v v').order = max v.order v'.order := by
  unfold maxGatefield
  split_ifs with hless
  · exact (Nat.max_eq_right hless.le).symm
  · exact (Nat.max_eq_left (Nat.le_of_not_lt hless)).symm

theorem order_maxStateGate (v v' : StateGateVerdict) :
    (maxStateGate v v').order = max v.order v'.order := by
  unfold maxStateGate
  split_ifs with hless
  · exact (Nat.max_eq_right hless.le).symm
  · exact (Nat.max_eq_left (Nat.le_of_not_lt hless)).symm

theorem derived_merge : Derived (mergeExternalCliGateReport report external) := ⟨rfl, rfl⟩

theorem derived_mergedReport (packet : GatePacket) (externals : List ExternalRunSystemCliReport) :
    Derived (mergedReport packet externals) := by
  induction externals using List.reverseRecOn with
  | nil => exact ⟨rfl, rfl⟩
  | append_singleton externals external _ =>
    rw [mergedReport, List.foldl_append]
    exact derived_merge

theorem order_gatefield_merge : (mergeExternalCliGateReport report external).gatefield.verdict.order =
      max report.gatefield.verdict.order
        ((external.gatefieldDecision.map (·.order)).getD 0) := by
  unfold mergeExternalCliGateReport
  cases external.gatefieldDecision with
  | none => exact (Nat.max_zero _).symm
  | some decision => exact order_maxGatefield _ _

theorem order_stateGate_merge :
    (mergeExternalCliGateReport report external).agentStateGate.verdict.order =
      max report.agentStateGate.verdict.order
        ((external.stateGateVerdict.map (·.order)).getD 0) := by
  unfold mergeExternalCliGateReport
  cases external.stateGateVerdict with
  | none => exact (Nat.max_zero _).symm
  | some verdict => exact order_maxStateGate _ _

theorem blockingVerdicts_merge : blockingVerdicts (mergeExternalCliGateReport report external) =
      (blockingVerdicts report || external.blocks) := by
  unfold blockingVerdicts ExternalRunSystemCliReport.blocks
  rw [gatefield_merge, stateGate_merge, ← shouldBlock_max]

theorem expected_merge_eq_go_iff :
    (mergeExternalCliGateReport report external).qeg.expectedVerdict = .go ↔
      givesGrounds report = false ∧ givesGroundsExternal external = false := by
  have hgo : ∀ blockers residualRisks manual, expectedVerdict blockers residualRisks manual = .go ↔
      blockers = [] ∧ residualRisks = [] ∧ manual = false := by
    intro blockers residualRisks manual
    cases blockers <;> cases residualRisks <;> cases manual <;> simp [expectedVerdict]
  rw [derived_merge.expected, hgo]
  simp only [mergeExternalCliGateReport, givesGrounds, givesGroundsExternal, List.append_eq_nil_iff,
    Bool.or_eq_false_iff, Bool.not_eq_false', List.isEmpty_iff]
  tauto

theorem mergesGate_iff (hderived : Derived report) :
    MergesGate report external (mergeExternalCliGateReport report external) ↔
      ((blockingVerdicts report || external.blocks) = true →
        (givesGrounds report || givesGroundsExternal external) = true) := by
  have hexpected : ((mergeExternalCliGateReport report external).qeg.expectedVerdict = .go →
      blockingVerdicts (mergeExternalCliGateReport report external) = false) ↔
      ((blockingVerdicts report || external.blocks) = true →
        (givesGrounds report || givesGroundsExternal external) = true) := by
    rw [expected_merge_eq_go_iff, blockingVerdicts_merge, ← Bool.or_eq_false_iff]
    cases blockingVerdicts report || external.blocks <;>
      cases givesGrounds report || givesGroundsExternal external <;> simp
  have hblocks : ∀ report : RunSystemGateReport, blockingVerdicts report = true ↔
      report.gatefield.verdict = .hold ∨ report.gatefield.verdict = .block ∨
        report.agentStateGate.verdict ≠ .allow := by
    intro report
    simp [blockingVerdicts, shouldBlock, or_assoc]
  rw [← hexpected]
  refine ⟨MergesGate.expected, fun hgo => ⟨order_gatefield_merge, order_stateGate_merge,
    fun reason hreason => ?_, fun reason hreason => ?_, ?_, fun hblock => ?_, hgo⟩⟩
  · exact List.mem_append.mpr hreason
  · exact List.mem_append.mpr hreason
  · rw [derived_merge.blocks, Bool.and_eq_true, decide_eq_true_eq, hblocks]
  · rw [hderived.blocks, Bool.and_eq_true] at hblock
    rw [derived_merge.blocks, blockingVerdicts_merge, hblock.2, Bool.true_or, Bool.and_true]
    exact hblock.1

end merge

/-- The verdicts of a report and what they are derived from. -/
structure GateSummary where
  gatefield : GatefieldVerdict
  stateGate : StateGateVerdict
  hasBlockers : Bool
  hasRisks : Bool
  manual : Bool

def summary (report : RunSystemGateReport) : GateSummary :=
  ⟨report.gatefield.verdict, report.agentStateGate.verdict, !report.qeg.blockers.isEmpty,
    !report.qeg.residualRisks.isEmpty, report.manualBb.required⟩

def GateSummary.merge (s : GateSummary) (external : ExternalRunSystemCliReport) : GateSummary where
  gatefield := maxGatefield s.gatefield (external.gatefieldDecision.getD .pass)
  stateGate := maxStateGate s.stateGate (external.stateGateVerdict.getD .allow)
  hasBlockers := s.hasBlockers || !external.blockers.isEmpty
  hasRisks := s.hasRisks || !external.residualRisks.isEmpty
  manual := s.manual || !external.residualRisks.isEmpty || !external.blockers.isEmpty

theorem summary_merge (report : RunSystemGateReport) (external : ExternalRunSystemCliReport) :
    summary (mergeExternalCliGateReport report external) = (summary report).merge external := by
  have hempty : ∀ l l' : List String, (!(l ++ l').isEmpty) = (!l.isEmpty || !l'.isEmpty) := by
    intro l l'
    cases l <;> rfl
  unfold summary GateSummary.merge
  rw [gatefield_merge, stateGate_merge]
  simp only [mergeExternalCliGateReport, hempty]

theorem GateSummary.merge_comm (s : GateSummary) (a b : ExternalRunSystemCliReport) :
    (s.merge a).merge b = (s.merge b).merge a := by
  have hgatefield : ∀ u v w,
      maxGatefield (maxGatefield u v) w = maxGatefield (maxGatefield u w) v := by
    intro u v w
    cases u <;> cases v <;> cases w <;> rfl
  have hstate : ∀ u v w, maxStateGate (maxStateGate u v) w = maxStateGate (maxStateGate u w) v := by
    intro u v w
    cases u <;> cases v <;> cases w <;> rfl
  unfold GateSummary.merge
  simp only [GateSummary.mk.injEq]
  exact ⟨hgatefield _ _ _, hstate _ _ _, Bool.or_right_comm _ _ _, Bool.or_right_comm _ _ _,
    by ac_rfl⟩

theorem sameVerdicts_of_perm (packet : GatePacket)
    {externals externals' : List ExternalRunSystemCliReport} (hperm : externals.Perm externals') :
    SameVerdicts (mergedReport packet externals) (mergedReport packet externals') := by
  have hsummary : summary (mergedReport packet externals) =
      summary (mergedReport packet externals') := by
    have hfold : ∀ externals, summary (mergedReport packet externals) =
        externals.foldl GateSummary.merge (summary (evaluateRunSystemGate packet)) :=
      fun externals => (List.foldl_hom summary fun r e => (summary_merge r e).symm).symm
    rw [hfold, hfold]
    exact hperm.foldl_eq' (fun a _ b _ s => s.merge_comm a b) _
  have hmode : ∀ externals, (mergedReport packet externals).mode = packet.mode := by
    intro externals
    induction externals using List.reverseRecOn with
    | nil => rfl
    | append_singleton externals external ih =>
      rw [mergedReport, List.foldl_append]
      exact ih
  have hderived := derived_mergedReport packet externals
  have hderived' := derived_mergedReport packet externals'
  simp only [summary, GateSummary.mk.injEq] at hsummary
  obtain ⟨hgatefield, hstate, hblockers, hrisks, hmanual⟩ := hsummary
  refine ⟨hgatefield, hstate, ?_, ?_⟩
  · rw [hderived.expected, hderived'.expected, expectedVerdict, expectedVerdict, hblockers, hrisks,
      hmanual]
  · rw [hderived.blocks, hderived'.blocks, blockingVerdicts, blockingVerdicts, hgatefield, hstate,
      hmode, hmode]

/-- Merging a report into one of the evaluation, whatever was merged into that before, weakens no gate
exactly when blocking verdicts come with something named; and the verdicts after several merges do not
depend on their order. -/
theorem merge_keeps_gate_iff (packet : GatePacket) (externals : List ExternalRunSystemCliReport)
    (external : ExternalRunSystemCliReport) :
    (MergesGate (mergedReport packet externals) external
        (mergeExternalCliGateReport (mergedReport packet externals) external) ↔
      ((blockingVerdicts (mergedReport packet externals) || external.blocks) = true →
        (givesGrounds (mergedReport packet externals) || givesGroundsExternal external) = true)) ∧
    ∀ externals', externals.Perm externals' →
      SameVerdicts (mergedReport packet externals) (mergedReport packet externals') :=
  ⟨mergesGate_iff (derived_mergedReport packet externals),
    fun _ hperm => sameVerdicts_of_perm packet hperm⟩

def cleanPacket : GatePacket := ⟨.enforce, ⟨.succeeded, 0, 0, [], none⟩⟩

/-- What the external state gate says by a verdict alone. -/
def denyingReport (verdict : StateGateVerdict) : ExternalRunSystemCliReport where
  invoked := true
  mode := .enforce
  results := []
  gatefieldDecision := none
  stateGateVerdict := some verdict
  blockers := []
  residualRisks := []
  artifactPath := none

/-- A report with nothing named that the external state gate denies still expects a go. -/
theorem denied_report_expects_go :
    ¬∀ packet externals external, MergesGate (mergedReport packet externals) external
      (mergeExternalCliGateReport (mergedReport packet externals) external) := by
  intro hmerges
  have hexpected := (hmerges cleanPacket [] (denyingReport .deny)).expected rfl
  exact absurd hexpected (by decide)

/-- Two external verdicts merged the other way round. -/
theorem denials_merged_in_any_order :
    SameVerdicts (mergedReport cleanPacket [denyingReport .revise, denyingReport .deny])
      (mergedReport cleanPacket [denyingReport .deny, denyingReport .revise]) :=
  (merge_keeps_gate_iff cleanPacket [denyingReport .revise, denyingReport .deny]
    (denyingReport .allow)).2 _ (List.Perm.swap _ _ [])

end ShipyardCp.Properties
