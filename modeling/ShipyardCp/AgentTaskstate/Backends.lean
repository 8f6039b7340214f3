import Mathlib.Data.List.Sort
import ShipyardCp.AgentTaskstate.ContextBundle
import ShipyardCp.Store.RedisBackend

/-! The three backends: maps in memory, keys of Redis whose sets have no order, and tables of SQLite. -/

namespace ShipyardCp.AgentTaskstate

open Lib
open Types (Timestamp)
open Store (SetOrder sadd)
open Store (SetOrder)

section memory

/-- The maps of the in-memory backend. -/
structure TaskstateMemory where
  tasks : InsertionMap String Task
  transitions : InsertionMap String (List StateTransition)
  decisions : InsertionMap String Decision
  questions : InsertionMap String OpenQuestion
  runs : InsertionMap String Run
  bundles : InsertionMap String ContextBundle
  bundleSources : InsertionMap String (List BundleSource)

namespace TaskstateMemory

def empty : TaskstateMemory := ⟨.empty, .empty, .empty, .empty, .empty, .empty, .empty⟩

variable (m : TaskstateMemory)

def withSources (bundle : ContextBundle) : ContextBundle :=
  { bundle with sources := (m.bundleSources.get? bundle.id).getD [] }

end TaskstateMemory

def inMemoryBackend : TaskStateBackend TaskstateMemory where
  getTask m taskId := m.tasks.get? taskId
  createTask m task := (.ok (), { m with tasks := m.tasks.set task.id task })
  getTransitions m taskId := (m.transitions.get? taskId).getD []
  addTransition m transition := (.ok (), { m with
    transitions := m.transitions.set transition.taskId
      ((m.transitions.get? transition.taskId).getD [] ++ [transition]) })
  getDecisions m taskId := m.decisions.values.filter fun d => d.taskId = taskId
  createDecision m decision := (.ok (), { m with decisions := m.decisions.set decision.id decision })
  getQuestions m taskId := m.questions.values.filter fun q => q.taskId = taskId
  createQuestion m question := (.ok (), { m with questions := m.questions.set question.id question })
  getRuns m taskId := m.runs.values.filter fun r => r.taskId = taskId
  createRun m run := (.ok (), { m with runs := m.runs.set run.id run })
  getBundle m bundleId := (m.bundles.get? bundleId).map fun bundle =>
    { bundle with sources := (m.bundleSources.get? bundleId).getD [] }
  getBundles m taskId := (m.bundles.values.filter fun b => b.taskId = taskId).map m.withSources
  createBundle m bundle := (.ok (), { m with
    bundles := m.bundles.set bundle.id bundle
    bundleSources := m.bundleSources.set bundle.id bundle.sources })
  addBundleSource m source := (.ok (), { m with
    bundleSources := m.bundleSources.set source.contextBundleId
      ((m.bundleSources.get? source.contextBundleId).getD [] ++ [source]) })

end memory

section redis

abbrev IndexSets := InsertionMap String (List String)

def IndexSets.members (sets : IndexSets) (taskId : String) : List String := (sets.get? taskId).getD []

def IndexSets.add (sets : IndexSets) (taskId id : String) : IndexSets :=
  sets.set taskId (sadd id (sets.members taskId))

/-- The keys of the Redis backend. -/
structure TaskstateRedis where
  tasks : InsertionMap String Task
  transitions : InsertionMap String (List StateTransition)
  decisions : InsertionMap String Decision
  decisionIds : IndexSets
  questions : InsertionMap String OpenQuestion
  questionIds : IndexSets
  runs : InsertionMap String Run
  runIds : IndexSets
  /-- A bundle is kept without its sources. -/
  bundles : InsertionMap String ContextBundle
  bundleIds : IndexSets
  bundleSources : InsertionMap String (List BundleSource)

namespace TaskstateRedis

def empty : TaskstateRedis :=
  ⟨.empty, .empty, .empty, .empty, .empty, .empty, .empty, .empty, .empty, .empty, .empty⟩

variable (r : TaskstateRedis)

def getBundle (bundleId : String) : Option ContextBundle :=
  (r.bundles.get? bundleId).map fun bundle =>
    { bundle with sources := (r.bundleSources.get? bundleId).getD [] }

/-- `RPUSH` under the key of a bundle. -/
def pushSources (bundleId : String) (sources : List BundleSource) :
    InsertionMap String (List BundleSource) :=
  if sources.isEmpty then r.bundleSources
  else r.bundleSources.set bundleId ((r.bundleSources.get? bundleId).getD [] ++ sources)

end TaskstateRedis

/-- The backend while the server answers sets in an order. -/
def redisBackend (order : SetOrder) : TaskStateBackend TaskstateRedis where
  getTask r taskId := r.tasks.get? taskId
  createTask r task := (.ok (), { r with tasks := r.tasks.set task.id task })
  getTransitions r taskId := (r.transitions.get? taskId).getD []
  addTransition r transition := (.ok (), { r with
    transitions := r.transitions.set transition.taskId
      ((r.transitions.get? transition.taskId).getD [] ++ [transition]) })
  getDecisions r taskId := (order.smembers (r.decisionIds.members taskId)).filterMap r.decisions.get?
  createDecision r decision := (.ok (), { r with
    decisions := r.decisions.set decision.id decision
    decisionIds := r.decisionIds.add decision.taskId decision.id })
  getQuestions r taskId := (order.smembers (r.questionIds.members taskId)).filterMap r.questions.get?
  createQuestion r question := (.ok (), { r with
    questions := r.questions.set question.id question
    questionIds := r.questionIds.add question.taskId question.id })
  getRuns r taskId := (order.smembers (r.runIds.members taskId)).filterMap r.runs.get?
  createRun r run := (.ok (), { r with
    runs := r.runs.set run.id run
    runIds := r.runIds.add run.taskId run.id })
  getBundle r bundleId := r.getBundle bundleId
  getBundles r taskId := (order.smembers (r.bundleIds.members taskId)).filterMap r.getBundle
  createBundle r bundle := (.ok (), { r with
    bundles := r.bundles.set bundle.id { bundle with sources := [] }
    bundleIds := r.bundleIds.add bundle.taskId bundle.id
    bundleSources := r.pushSources bundle.id bundle.sources })
  addBundleSource r source := (.ok (), { r with
    bundleSources := r.pushSources source.contextBundleId [source] })

end redis

section sqlite

/-- The rows of the tables, in the order of their row ids. -/
structure TaskstateTables where
  tasks : List Task
  transitions : List StateTransition
  decisions : List Decision
  questions : List OpenQuestion
  runs : List Run
  /-- The rows of bundles have no sources. -/
  bundles : List ContextBundle
  bundleSources : List BundleSource

namespace TaskstateTables

def empty : TaskstateTables := ⟨[], [], [], [], [], [], []⟩

variable (t : TaskstateTables)

def getBundle (bundleId : String) : Option ContextBundle :=
  (t.bundles.find? fun b => b.id = bundleId).map fun bundle =>
    { bundle with sources := t.bundleSources.filter fun source => source.contextBundleId = bundleId }

end TaskstateTables

/-- What depends on the driver: whether it binds NULL for a parameter that an object has no key for, and
whether it enforces foreign keys. -/
structure SqlDriver where
  bindsAbsent : Bool
  foreignKeys : Bool

/-- `ORDER BY time DESC` -/
def orderByDesc {α : Type} (time : α → Timestamp) (rows : List α) : List α :=
  rows.insertionSort fun a b => time b ≤ time a

/-- Why an insert fails: a parameter without a key, an id that is taken, a parent that is missing. -/
def SqlDriver.checkInsert (driver : SqlDriver) (absent : List String) (taken parent : Bool) :
    Except TaskStateError Unit :=
  match driver.bindsAbsent, absent with
  | false, name :: _ => .error (.missingParameter name)
  | _, _ =>
    if taken then .error .uniqueConstraint
    else if driver.foreignKeys && !parent then .error .foreignKeyConstraint
    else .ok ()

def absentKeys (fields : List (String × Bool)) : List String :=
  (fields.filter fun field => !field.2).map Prod.fst

namespace TaskstateTables

variable (driver : SqlDriver) (t : TaskstateTables)

def hasTask (taskId : String) : Bool := t.tasks.any fun task => task.id = taskId

def insertSource (source : BundleSource) : Answer TaskstateTables Unit :=
  match driver.checkInsert [] (t.bundleSources.any fun s => s.id = source.id)
      (t.bundles.any fun b => b.id = source.contextBundleId) with
  | .error e => (.error e, t)
  | .ok () => (.ok (), { t with bundleSources := t.bundleSources ++ [source] })

def insertSources : TaskstateTables → List BundleSource → Answer TaskstateTables Unit
  | t, [] => (.ok (), t)
  | t, source :: sources =>
    match t.insertSource driver source with
    | (.error e, t) => (.error e, t)
    | (.ok (), t) => insertSources t sources

/-- The row of the bundle, then its sources; what is inserted stays when a later insert fails. -/
def createBundle (bundle : ContextBundle) : Answer TaskstateTables Unit :=
  match driver.checkInsert ["diagnostics"] (t.bundles.any fun b => b.id = bundle.id)
      (t.hasTask bundle.taskId) with
  | .error e => (.error e, t)
  | .ok () =>
    insertSources driver { t with bundles := t.bundles ++ [{ bundle with sources := [] }] }
      bundle.sources

end TaskstateTables

def sqliteBackend (driver : SqlDriver) : TaskStateBackend TaskstateTables where
  getTask t taskId := t.tasks.find? fun task => task.id = taskId
  createTask t task :=
    match driver.checkInsert (absentKeys [("completed_at", task.completedAt.isSome)])
        (t.hasTask task.id) true with
    | .error e => (.error e, t)
    | .ok () => (.ok (), { t with tasks := t.tasks ++ [task] })
  getTransitions t taskId := (t.transitions.filter fun tr => tr.taskId = taskId).insertionSort
      fun a b => a.changedAt ≤ b.changedAt
  addTransition t transition :=
    match driver.checkInsert (absentKeys [("actor_id", transition.actorId.isSome),
        ("run_id", transition.runId.isSome)])
        (t.transitions.any fun tr => tr.id = transition.id) (t.hasTask transition.taskId) with
    | .error e => (.error e, t)
    | .ok () => (.ok (), { t with transitions := t.transitions ++ [transition] })
  getDecisions t taskId := t.decisions.filter fun d => d.taskId = taskId
  createDecision t decision :=
    match driver.checkInsert (absentKeys [("chosen", decision.chosen.isSome),
        ("rationale", decision.rationale.isSome)])
        (t.decisions.any fun d => d.id = decision.id) (t.hasTask decision.taskId) with
    | .error e => (.error e, t)
    | .ok () => (.ok (), { t with decisions := t.decisions ++ [decision] })
  getQuestions t taskId := t.questions.filter fun q => q.taskId = taskId
  createQuestion t question :=
    match driver.checkInsert (absentKeys [("answer", question.answer.isSome)])
        (t.questions.any fun q => q.id = question.id) (t.hasTask question.taskId) with
    | .error e => (.error e, t)
    | .ok () => (.ok (), { t with questions := t.questions ++ [question] })
  getRuns t taskId := orderByDesc (·.startedAt) (t.runs.filter fun r => r.taskId = taskId)
  createRun t run :=
    match driver.checkInsert (absentKeys [("finished_at", run.finishedAt.isSome),
        ("error_message", run.errorMessage.isSome)])
        (t.runs.any fun r => r.id = run.id) (t.hasTask run.taskId) with
    | .error e => (.error e, t)
    | .ok () => (.ok (), { t with runs := t.runs ++ [run] })
  getBundle t bundleId := t.getBundle bundleId
  getBundles t taskId :=
    (orderByDesc (·.createdAt) (t.bundles.filter fun b => b.taskId = taskId)).filterMap fun b =>
      t.getBundle b.id
  createBundle t bundle := t.createBundle driver bundle
  addBundleSource t source := t.insertSource driver source

end sqlite

/-! Calls on the services over one of the backends, one after the other at increasing times, with the
runs and bundles that they have answered. -/

inductive BackendKind where
  | memory
  | redis
  | sqlite (driver : SqlDriver)

namespace BackendKind

def State : BackendKind → Type
  | .memory => TaskstateMemory
  | .redis => TaskstateRedis
  | .sqlite _ => TaskstateTables

def empty : (kind : BackendKind) → kind.State
  | .memory => TaskstateMemory.empty
  | .redis => TaskstateRedis.empty
  | .sqlite _ => TaskstateTables.empty

def backend (order : SetOrder) : (kind : BackendKind) → TaskStateBackend kind.State
  | .memory => inMemoryBackend
  | .redis => redisBackend order
  | .sqlite driver => sqliteBackend driver

end BackendKind

inductive BundleOp where
  | createTask (request : CreateTaskRequest)
  | createDecision (taskId question : String) (options : List String)
  | createQuestion (taskId question : String)
  | startRun (taskId : String)
  | createBundle (taskId : String) (options : BundleOptions)
  | addSource (bundleId : String) (options : SourceOptions)
  | getLatestBundle (taskId : String)

/-- A call, with the ids that it draws, its time and the order in which Redis answers sets. -/
structure BundleCall where
  ids : Nat → String
  now : Timestamp
  order : SetOrder
  op : BundleOp

inductive BundleReply where
  | failed (error : TaskStateError)
  | task (task : Task)
  | decision (decision : Decision)
  | question (question : OpenQuestion)
  | run (run : Run)
  | bundle (bundle : ContextBundle)
  | source (source : BundleSource)
  | latest (bundle : Option ContextBundle)

def Answer.reply {σ α : Type} (answer : Answer σ α) (ok : α → BundleReply) : BundleReply × σ :=
  match answer with
  | (.ok a, s) => (ok a, s)
  | (.error e, s) => (.failed e, s)

def BundleCall.perform {σ : Type} (backend : TaskStateBackend σ) (call : BundleCall) (s : σ) :
    BundleReply × σ :=
  match call.op with
  | .createTask request => (createTask backend call.ids call.now s request).reply .task
  | .createDecision taskId question options =>
    (createDecision backend call.ids call.now s taskId question options).reply .decision
  | .createQuestion taskId question =>
    (createQuestion backend call.ids call.now s taskId question).reply .question
  | .startRun taskId => (startRun backend call.ids call.now s taskId).reply .run
  | .createBundle taskId options =>
    (createBundle backend call.ids call.now s taskId options).reply .bundle
  | .addSource bundleId options =>
    (addSource backend call.ids call.now s bundleId options).reply .source
  | .getLatestBundle taskId => (.latest (getLatestBundle backend s taskId), s)

/-- The runs that were started and the bundles that were created, each with the sources added since. -/
structure BundleLog where
  runs : List Run
  bundles : List ContextBundle

namespace BundleLog

variable (log : BundleLog)

def runsOf (taskId : String) : List Run := log.runs.filter fun r => r.taskId = taskId

def bundlesOf (taskId : String) : List ContextBundle := log.bundles.filter fun b => b.taskId = taskId

def attach (source : BundleSource) (bundle : ContextBundle) : ContextBundle :=
  if bundle.id = source.contextBundleId then { bundle with sources := bundle.sources ++ [source] }
  else bundle

def record : BundleReply → BundleLog
  | .run run => { log with runs := log.runs ++ [run] }
  | .bundle bundle => { log with bundles := log.bundles ++ [bundle] }
  | .source source => { log with bundles := log.bundles.map (attach source) }
  | _ => log

end BundleLog

structure BundleSystem (σ : Type) where
  store : σ
  log : BundleLog
  now : Timestamp

def BundleSystem.perform {kind : BackendKind} (sys : BundleSystem kind.State) (call : BundleCall) :
    BundleSystem kind.State where
  store := (call.perform (kind.backend call.order) sys.store).2
  log := sys.log.record (call.perform (kind.backend call.order) sys.store).1
  now := call.now

/-- The ids that are drawn are new. -/
structure DrawsNew (log : BundleLog) (ids : Nat → String) : Prop where
  nonempty : ids 0 ≠ ""
  bundles : ∀ b ∈ log.bundles, b.id ≠ ids 0
  runs : ∀ r ∈ log.runs, r.id ≠ "run-" ++ ids 0

def bundleCalls (kind : BackendKind) : Machine (BundleSystem kind.State) BundleCall where
  init := (· = ⟨kind.empty, ⟨[], []⟩, 0⟩)
  step sys call sys' := sys.now < call.now ∧ DrawsNew sys.log call.ids ∧ sys' = sys.perform call

end ShipyardCp.AgentTaskstate
