import ShipyardCp.Domain.RunSystemGate
import ShipyardCp.Domain.ToolPlanExecutor

/-! The internal evaluation of the run-system gate: what in the result of a worker raises its
verdicts. -/

namespace ShipyardCp.Domain

open Types

structure ToolPlanRunSummary where
  executionVerdict : ToolPlanExecutionVerdict
  dryRun : Bool
  errors : Option String
  acceptanceGateRequired : Bool

/-- The parts of a decision input that the evaluation reads. -/
structure GateDecisionInput where
  workerStatus : ResultStatus
  testsFailed : Nat
  requestedEscalationCount : Nat
  sideEffects : List String
  toolPlan : Option ToolPlanRunSummary

/-- The parts of a packet that the evaluation reads. -/
structure GatePacket where
  mode : RunSystemMode
  decisionInput : GateDecisionInput

def ResultStatus.gateText : ResultStatus → String
  | .succeeded => "succeeded"
  | .failed => "failed"
  | .blocked => "blocked"

structure RaiseOptions where
  blocker : Bool := false
  residualRisk : Bool := false
  manual : Bool := false

/-- What the evaluation has come to so far. -/
structure GateEvaluation where
  gatefieldVerdict : GatefieldVerdict := .pass
  stateGateVerdict : StateGateVerdict := .allow
  reasons : List String := []
  blockers : List String := []
  residualRisks : List String := []
  manualRequired : Bool := false
  manualReason : Option String := none

namespace GateEvaluation

def raise (e : GateEvaluation) (gatefield : GatefieldVerdict) (stateGate : StateGateVerdict)
    (reason : String) (options : RaiseOptions) : GateEvaluation where
  gatefieldVerdict := maxGatefield e.gatefieldVerdict gatefield
  stateGateVerdict := maxStateGate e.stateGateVerdict stateGate
  reasons := e.reasons ++ [reason]
  blockers := if options.blocker then e.blockers ++ [reason] else e.blockers
  residualRisks := if options.residualRisk then e.residualRisks ++ [reason] else e.residualRisks
  manualRequired := e.manualRequired || options.manual
  manualReason := if options.manual then some (e.manualReason.getD reason) else e.manualReason

def raiseIf (e : GateEvaluation) (condition : Bool) (gatefield : GatefieldVerdict)
    (stateGate : StateGateVerdict) (reason : String) (options : RaiseOptions) : GateEvaluation :=
  if condition then e.raise gatefield stateGate reason options else e

def raiseToolPlan (e : GateEvaluation) (toolPlan : ToolPlanRunSummary) : GateEvaluation :=
  ((((e.raiseIf (toolPlan.executionVerdict = .failed) .block .deny "tool_plan execution failed"
      { blocker := true, manual := true }).raiseIf
    (toolPlan.executionVerdict = .skipped) .warn .revise
      "tool_plan was skipped by policy or unsupported operation" { residualRisk := true }).raiseIf
    toolPlan.dryRun .warn .revise
      "tool_plan dry-run must be applied and accepted before publish" { residualRisk := true }).raiseIf
    toolPlan.acceptanceGateRequired .hold .needsApproval
      "shipyard acceptance gate is required for applied tool_plan output" { manual := true }).raiseIf
    (isTruthy toolPlan.errors) .hold .revise "tool_plan reported execution errors"
      { blocker := true }

def ofDecisionInput (decisionInput : GateDecisionInput) : GateEvaluation :=
  let e : GateEvaluation := {}
  let e := e.raiseIf (decisionInput.workerStatus = .failed || decisionInput.workerStatus = .blocked)
    .block .deny s!"worker result is {ResultStatus.gateText decisionInput.workerStatus}"
    { blocker := true, manual := true }
  let e := e.raiseIf (decisionInput.testsFailed > 0) .hold .revise
    "test failure requires rework before publish" { blocker := true }
  let e := e.raiseIf (decisionInput.requestedEscalationCount > 0) .hold .needsApproval
    "permission escalation requires approval evidence" { residualRisk := true, manual := true }
  let e := e.raiseIf (decisionInput.sideEffects.length > 0) .warn .needsApproval
    "side effects require explicit review" { residualRisk := true, manual := true }
  match decisionInput.toolPlan with
  | some toolPlan => e.raiseToolPlan toolPlan
  | none => e

end GateEvaluation

/-- `evaluateRunSystemGate` of run-system-gate.ts. -/
def evaluateRunSystemGate (packet : GatePacket) : RunSystemGateReport :=
  let e := GateEvaluation.ofDecisionInput packet.decisionInput
  { mode := packet.mode
    gatefield := { verdict := e.gatefieldVerdict, reasons := e.reasons }
    agentStateGate := { verdict := e.stateGateVerdict, reasons := e.reasons }
    manualBb := { required := e.manualRequired, reason := e.manualReason }
    qeg :=
      { expectedVerdict :=
          if !e.blockers.isEmpty then .noGo
          else if !e.residualRisks.isEmpty || e.manualRequired then .conditionalGo
          else .go
        blockers := e.blockers
        residualRisks := e.residualRisks }
    blocksShipyardTransition :=
      packet.mode = .enforce && shouldBlock e.gatefieldVerdict e.stateGateVerdict }

section named

variable {e : GateEvaluation} {gatefield : GatefieldVerdict} {stateGate : StateGateVerdict}
  {reason : String} {options : RaiseOptions}

end named

end ShipyardCp.Domain
