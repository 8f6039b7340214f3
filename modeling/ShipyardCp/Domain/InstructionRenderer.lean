import Mathlib.Data.List.Sort
import ShipyardCp.Lib.JsonText
import ShipyardCp.Types.Base

/-! The instruction renderer: an envelope as the lines of a worker's prompt. Tiers are numbers of a
type `Tier` with the texts that `String(n)` gives them. -/

namespace ShipyardCp.Domain

open Types Lib

inductive AuthoritySource where
  | system | policy | task | developer | user | tool | retrievedDoc

inductive RequiredOutputKind where
  | planIntent | toolPlan | editIntent | testPlan | acceptanceVerdict

structure AuthorityInstruction (Tier : Type) where
  tier : Tier
  source : AuthoritySource
  instruction : String

structure AllowedTool where
  name : String
  argsSchema : JsonValue

structure RequiredOutputContract where
  kind : RequiredOutputKind
  jsonSchema : JsonValue

structure InstructionEnvelopeV2 (Tier : Type) where
  jobId : String
  taskId : String
  stage : WorkerStage
  authority : List (AuthorityInstruction Tier)
  objective : String
  must : List String
  mustNot : List String
  allowedTools : List AllowedTool
  requiredOutput : RequiredOutputContract

def AuthoritySource.text : AuthoritySource → String
  | system => "system"
  | policy => "policy"
  | task => "task"
  | developer => "developer"
  | user => "user"
  | tool => "tool"
  | retrievedDoc => "retrieved_doc"

def RequiredOutputKind.text : RequiredOutputKind → String
  | planIntent => "plan_intent"
  | toolPlan => "tool_plan"
  | editIntent => "edit_intent"
  | testPlan => "test_plan"
  | acceptanceVerdict => "acceptance_verdict"

variable {Tier : Type}

section rendering

variable (tierText : Tier → NumberText)

def authorityHead (tier : Tier) (source : AuthoritySource) : List Char :=
  "- Tier ".toList ++ ((tierText tier).text ++
    ' ' :: '(' :: (source.text.toList ++ ')' :: ':' :: [' ']))

def authorityLine (item : AuthorityInstruction Tier) : List Char :=
  authorityHead tierText item.tier item.source ++ item.instruction.toList

def toolLine (tool : AllowedTool) : List Char :=
  tool.name.toList ++ ':' :: ' ' :: tool.argsSchema.stringify

def appendList (title : String) (values : List (List Char)) : List (List Char) :=
  [] :: ("## ".toList ++ title.toList) ::
    (if values = [] then ["None".toList] else values).map ("- ".toList ++ ·)

variable [LinearOrder Tier]

/-- `[...envelope.authority].sort((a, b) => a.tier - b.tier)` -/
def sortedAuthority (authority : List (AuthorityInstruction Tier)) :
    List (AuthorityInstruction Tier) :=
  authority.insertionSort fun a b => a.tier ≤ b.tier

/-- What `renderInstructionEnvelope` joins; the texts of the envelope may have several lines. -/
def renderedLines (envelope : InstructionEnvelopeV2 Tier) : List (List Char) :=
  ["# Instruction Envelope 2.0".toList, "Job ID: ".toList ++ envelope.jobId.toList,
    "Task ID: ".toList ++ envelope.taskId.toList, "Stage: ".toList ++ envelope.stage.text.toList,
    [], "## Authority".toList] ++
  (sortedAuthority envelope.authority).map (authorityLine tierText) ++
  [[], "## Objective".toList, envelope.objective.toList] ++
  appendList "Must" (envelope.must.map String.toList) ++
  appendList "Must Not" (envelope.mustNot.map String.toList) ++
  appendList "Allowed Tools" (envelope.allowedTools.map toolLine) ++
  [[], "## Required Output".toList, "Kind: ".toList ++ envelope.requiredOutput.kind.text.toList,
    "Return valid JSON matching this schema:".toList, "```json".toList,
    envelope.requiredOutput.jsonSchema.stringifyIndented [], "```".toList]

def renderInstructionEnvelope (envelope : InstructionEnvelopeV2 Tier) : String :=
  .ofList (['\n'].intercalate (renderedLines tierText envelope))

end rendering

end ShipyardCp.Domain
