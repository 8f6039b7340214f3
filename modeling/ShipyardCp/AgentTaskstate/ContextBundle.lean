import ShipyardCp.AgentTaskstate.TaskService
import ShipyardCp.Lib.Json

/-! Context bundles: what a bundle tells of a task, and the services over any backend. -/

namespace ShipyardCp.AgentTaskstate

open Types (Timestamp)
open Lib

inductive DecisionStatus where
  | pending | accepted | rejected
  deriving DecidableEq

structure Decision where
  id : String
  taskId : String
  question : String
  options : List String
  chosen : Option String
  rationale : Option String
  status : DecisionStatus
  createdAt : Timestamp
  updatedAt : Timestamp

inductive QuestionStatus where
  | «open» | answered | deferred
  deriving DecidableEq

structure OpenQuestion where
  id : String
  taskId : String
  question : String
  answer : Option String
  status : QuestionStatus
  createdAt : Timestamp
  updatedAt : Timestamp

inductive RunStatus where
  | running | finished | failed

structure Run where
  id : String
  taskId : String
  startedAt : Timestamp
  finishedAt : Option Timestamp
  status : RunStatus
  errorMessage : Option String

inductive BundlePurpose where
  | continueWork | reviewPrepare | resumeAfterBlock | decisionSupport | other

inductive RebuildLevel where
  | l1 | l2 | l3

inductive SourceKind where
  | task | decision | openQuestion | evidence | artifact | run | trackerIssue

structure BundleSource where
  id : String
  contextBundleId : String
  typedRef : String
  sourceKind : SourceKind
  selectedRaw : Bool
  metadata : Option Json
  createdAt : Timestamp

structure LastTransition where
  source : Option TaskState
  target : TaskState
  changedAt : Timestamp
  reason : String

structure LatestRun where
  id : String
  startedAt : Timestamp
  finishedAt : Option Timestamp
  status : RunStatus
  error : Option String

structure StateSnapshot where
  task : Task
  transitionCount : Nat
  currentState : TaskState
  lastTransition : Option LastTransition
  runCount : Nat
  latestRun : Option LatestRun

structure DigestedDecision where
  id : String
  question : String
  options : List String
  chosen : Option String
  rationale : Option String
  status : DecisionStatus

structure DecisionDigest where
  total : Nat
  pendingCount : Nat
  acceptedCount : Nat
  decisions : List DigestedDecision

structure DigestedQuestion where
  id : String
  question : String
  answer : Option String
  status : QuestionStatus

structure QuestionDigest where
  total : Nat
  openCount : Nat
  answeredCount : Nat
  questions : List DigestedQuestion

structure ContextBundle where
  id : String
  taskId : String
  purpose : BundlePurpose
  rebuildLevel : RebuildLevel
  summary : Option String
  stateSnapshot : StateSnapshot
  decisionDigest : Option DecisionDigest
  questionDigest : Option QuestionDigest
  rawIncluded : Bool
  generatorVersion : String
  generatedAt : Timestamp
  createdAt : Timestamp
  sources : List BundleSource

inductive TaskStateError where
  | taskNotFound (taskId : String)
  | bundleNotFound (bundleId : String)
  | missingParameter (name : String)
  | uniqueConstraint
  | foreignKeyConstraint

def TaskStateError.message? : TaskStateError → Option String
  | .taskNotFound taskId => some ("Task not found: " ++ taskId)
  | .bundleNotFound bundleId => some ("Bundle not found: " ++ bundleId)
  | _ => none

abbrev Answer (σ α : Type) := Except TaskStateError α × σ

def Answer.returning {σ α : Type} (answer : Answer σ Unit) (a : α) : Answer σ α :=
  (answer.1.map fun _ => a, answer.2)

/-- The operations of a backend that the services below use. -/
structure TaskStateBackend (σ : Type) where
  getTask : σ → String → Option Task
  createTask : σ → Task → Answer σ Unit
  getTransitions : σ → String → List StateTransition
  addTransition : σ → StateTransition → Answer σ Unit
  getDecisions : σ → String → List Decision
  createDecision : σ → Decision → Answer σ Unit
  getQuestions : σ → String → List OpenQuestion
  createQuestion : σ → OpenQuestion → Answer σ Unit
  getRuns : σ → String → List Run
  createRun : σ → Run → Answer σ Unit
  getBundle : σ → String → Option ContextBundle
  getBundles : σ → String → List ContextBundle
  createBundle : σ → ContextBundle → Answer σ Unit
  addBundleSource : σ → BundleSource → Answer σ Unit

def latestRunOf (run : Run) : LatestRun where
  id := run.id
  startedAt := run.startedAt
  finishedAt := run.finishedAt
  status := run.status
  error := run.errorMessage

def buildStateSnapshot (task : Task) (transitions : List StateTransition) (runs : List Run) :
    StateSnapshot where
  task := task
  transitionCount := transitions.length
  currentState := task.status
  lastTransition := transitions.getLast?.map fun t => ⟨t.fromStatus, t.toStatus, t.changedAt, t.reason⟩
  runCount := runs.length
  latestRun := runs.head?.map latestRunOf

def buildDecisionDigest (decisions : List Decision) : Option DecisionDigest :=
  if decisions.isEmpty then none
  else some {
    total := decisions.length
    pendingCount := (decisions.filter fun d => d.status = .pending).length
    acceptedCount := (decisions.filter fun d => d.status = .accepted).length
    decisions := decisions.map fun d => ⟨d.id, d.question, d.options, d.chosen, d.rationale, d.status⟩ }

def buildQuestionDigest (questions : List OpenQuestion) : Option QuestionDigest :=
  if questions.isEmpty then none
  else some {
    total := questions.length
    openCount := (questions.filter fun q => q.status = .open).length
    answeredCount := (questions.filter fun q => q.status = .answered).length
    questions := questions.map fun q => ⟨q.id, q.question, q.answer, q.status⟩ }

def builtSource (id : String) (now : Timestamp) (typedRef : String) (kind : SourceKind) :
    BundleSource :=
  ⟨id, "", typedRef, kind, false, none, now⟩

/-- The task, then its decisions, questions and runs; `ids` draws the id of each. -/
def buildSources (ids : Nat → String) (now : Timestamp) (taskId : String)
    (decisions : List Decision) (questions : List OpenQuestion) (runs : List Run) :
    List BundleSource :=
  let refs := ("task:" ++ taskId, SourceKind.task) ::
    decisions.map (fun d => ("decision:" ++ d.id, SourceKind.decision)) ++
    questions.map (fun q => ("open_question:" ++ q.id, SourceKind.openQuestion)) ++
    runs.map fun r => ("run:" ++ r.id, SourceKind.run)
  refs.zipIdx.map fun entry => builtSource (ids entry.2) now entry.1.1 entry.1.2

structure BundleOptions where
  purpose : BundlePurpose
  rebuildLevel : Option RebuildLevel
  summary : Option String
  rawIncluded : Option Bool

structure SourceOptions where
  typedRef : String
  sourceKind : SourceKind
  selectedRaw : Option Bool
  metadata : Option Json

section services

variable {σ : Type} (backend : TaskStateBackend σ) (ids : Nat → String) (now : Timestamp) (s : σ)

/-- `ids` draws the ids of a call, one after the other. -/
def createTask (request : CreateTaskRequest) : Answer σ Task :=
  let task := proposedTask (ids 0) now request
  match backend.createTask s task with
  | (.error e, s) => (.error e, s)
  | (.ok (), s) => (backend.addTransition s (proposedRecord (ids 1) task)).returning task

def createDecision (taskId question : String) (options : List String) : Answer σ Decision :=
  match backend.getTask s taskId with
  | none => (.error (.taskNotFound taskId), s)
  | some _ =>
    let decision : Decision :=
      ⟨"decision-" ++ ids 0, taskId, question, options, none, none, .pending, now, now⟩
    (backend.createDecision s decision).returning decision

def createQuestion (taskId question : String) : Answer σ OpenQuestion :=
  match backend.getTask s taskId with
  | none => (.error (.taskNotFound taskId), s)
  | some _ =>
    let openQuestion : OpenQuestion := ⟨"question-" ++ ids 0, taskId, question, none, .open, now, now⟩
    (backend.createQuestion s openQuestion).returning openQuestion

def startRun (taskId : String) : Answer σ Run :=
  match backend.getTask s taskId with
  | none => (.error (.taskNotFound taskId), s)
  | some _ =>
    let run : Run := ⟨"run-" ++ ids 0, taskId, now, none, .running, none⟩
    (backend.createRun s run).returning run

/-- The bundle that is made of a task. -/
def newBundle (task : Task) (taskId : String) (options : BundleOptions) : ContextBundle :=
  let runs := backend.getRuns s taskId
  { id := ids 0
    taskId := taskId
    purpose := options.purpose
    rebuildLevel := options.rebuildLevel.getD .l2
    summary := options.summary
    stateSnapshot := buildStateSnapshot task (backend.getTransitions s taskId) runs
    decisionDigest := buildDecisionDigest (backend.getDecisions s taskId)
    questionDigest := buildQuestionDigest (backend.getQuestions s taskId)
    rawIncluded := options.rawIncluded.getD false
    generatorVersion := "1.0.0"
    generatedAt := now
    createdAt := now
    sources := buildSources (fun i => ids (i + 1)) now taskId (backend.getDecisions s taskId)
      (backend.getQuestions s taskId) runs }

def createBundle (taskId : String) (options : BundleOptions) : Answer σ ContextBundle :=
  match backend.getTask s taskId with
  | none => (.error (.taskNotFound taskId), s)
  | some task =>
    let bundle := newBundle backend ids now s task taskId options
    (backend.createBundle s bundle).returning bundle

def getLatestBundle (taskId : String) : Option ContextBundle := (backend.getBundles s taskId).head?

def addSource (bundleId : String) (options : SourceOptions) : Answer σ BundleSource :=
  match backend.getBundle s bundleId with
  | none => (.error (.bundleNotFound bundleId), s)
  | some _ =>
    let source : BundleSource := ⟨ids 0, bundleId, options.typedRef, options.sourceKind,
      options.selectedRaw.getD false, options.metadata, now⟩
    (backend.addBundleSource s source).returning source

end services

end ShipyardCp.AgentTaskstate
