import ShipyardCp.Store.Persistence

/-! The operations of a store backend, in memory and in Redis. Records are of any type of values. -/

namespace ShipyardCp.Store

open Types Lib

/-- The texts of tasks, with what `JSON.parse` reads of them. -/
structure TaskTexts extends TaskCodec where
  parse : String → Option Task

/-- The operations; Redis answers a listing in the order that its set has at the time. -/
inductive BackendOp (ρ : Type) where
  | getTask (taskId : String)
  | setTask (task : Task)
  | deleteTask (taskId : String)
  | listTasks (state : Option TaskState) (limit : Option Int) (order : SetOrder)
  | getJob (jobId : String)
  | setJob (job : WorkerJob)
  | deleteJob (jobId : String)
  | listJobsByTask (taskId : String) (order : SetOrder)
  | getResult (jobId : String)
  | setResult (result : WorkerResult)
  | deleteResult (jobId : String)
  | getEvents (taskId : String)
  | addEvent (taskId : String) (event : StateTransitionEvent)
  | replaceEvents (taskId : String) (events : List StateTransitionEvent)
  | setRecord (kind id : String) (value : ρ)
  | getRecord (kind id : String)
  | listRecords (kind : String) (order : SetOrder)
  | deleteRecord (kind id : String)
  | getRetryCount (key : String)
  | setRetryCount (key : String) (count : Int)
  | incrementRetryCount (key : String)
  | clear

inductive BackendAnswer (ρ : Type) where
  | done
  | versionConflict
  | task (task : Option Task)
  | tasks (tasks : List Task)
  | job (job : Option WorkerJob)
  | jobs (jobs : List WorkerJob)
  | result (result : Option WorkerResult)
  | events (events : List StateTransitionEvent)
  | record (value : Option ρ)
  | records (values : List ρ)
  | count (count : Int)

/-- The maps of the in-memory backend. Objects are values, since no operation writes into one; the
arrays of events are pushed to in place, so that the map holds their addresses. -/
structure InMemoryBackend (ρ : Type) where
  tasks : InsertionMap String Task
  jobs : InsertionMap String WorkerJob
  results : InsertionMap String WorkerResult
  events : InsertionMap String Nat
  retryTracker : InsertionMap String Int
  records : InsertionMap String (InsertionMap String ρ)
  jobsByTask : InsertionMap String (List String)
  /-- The arrays made so far, by address. -/
  arrays : List (List StateTransitionEvent)

namespace InMemoryBackend

variable {ρ : Type}

def empty : InMemoryBackend ρ := ⟨.empty, .empty, .empty, .empty, .empty, .empty, .empty, []⟩

variable (m : InMemoryBackend ρ)

def setTask (task : Task) : InMemoryBackend ρ := { m with tasks := m.tasks.set task.taskId task }

def deleteTask (taskId : String) : InMemoryBackend ρ :=
  { m with tasks := m.tasks.delete taskId, events := m.events.delete taskId }

def matchingTasks (state : Option TaskState) : List Task :=
  match state with
  | some state => m.tasks.values.filter fun task => task.state = state
  | none => m.tasks.values

def listTasks (state : Option TaskState) (limit : Option Int) : List Task :=
  match limit with
  | some limit => if limit = 0 then m.matchingTasks state else sliceTo limit (m.matchingTasks state)
  | none => m.matchingTasks state

def jobIdsOf (taskId : String) : List String := (m.jobsByTask.get? taskId).getD []

def setJob (job : WorkerJob) : InMemoryBackend ρ :=
  { m with
    jobs := m.jobs.set job.jobId job
    jobsByTask := m.jobsByTask.set job.taskId (sadd job.jobId (m.jobIdsOf job.taskId)) }

def deleteJob (jobId : String) : InMemoryBackend ρ :=
  { m with
    jobs := m.jobs.delete jobId
    jobsByTask := match m.jobs.get? jobId with
      | some job => m.jobsByTask.set job.taskId ((m.jobIdsOf job.taskId).erase jobId)
      | none => m.jobsByTask }

def listJobsByTask (taskId : String) : List WorkerJob := (m.jobIdsOf taskId).filterMap m.jobs.get?

def getEvents (taskId : String) : List StateTransitionEvent :=
  ((m.events.get? taskId).bind fun address => m.arrays[address]?).getD []

def replaceEvents (taskId : String) (events : List StateTransitionEvent) : InMemoryBackend ρ :=
  { m with arrays := m.arrays ++ [events], events := m.events.set taskId m.arrays.length }

def addEvent (taskId : String) (event : StateTransitionEvent) : InMemoryBackend ρ :=
  match m.events.get? taskId with
  | some address => { m with arrays := m.arrays.modify address (· ++ [event]) }
  | none => m.replaceEvents taskId [event]

def recordsOf (kind : String) : InsertionMap String ρ := (m.records.get? kind).getD .empty

def setRecord (kind id : String) (value : ρ) : InMemoryBackend ρ :=
  { m with records := m.records.set kind ((m.recordsOf kind).set id value) }

def getRecord (kind id : String) : Option ρ := (m.recordsOf kind).get? id

def deleteRecord (kind id : String) : InMemoryBackend ρ :=
  { m with records := m.records.set kind ((m.recordsOf kind).delete id) }

def getRetryCount (key : String) : Int := (m.retryTracker.get? key).getD 0

def setRetryCount (key : String) (count : Int) : InMemoryBackend ρ :=
  { m with retryTracker := m.retryTracker.set key count }

def clear : InMemoryBackend ρ := { empty with arrays := m.arrays }

def perform : BackendOp ρ → BackendAnswer ρ × InMemoryBackend ρ
  | .getTask taskId => (.task (m.tasks.get? taskId), m)
  | .setTask task => (.done, m.setTask task)
  | .deleteTask taskId => (.done, m.deleteTask taskId)
  | .listTasks state limit _ => (.tasks (m.listTasks state limit), m)
  | .getJob jobId => (.job (m.jobs.get? jobId), m)
  | .setJob job => (.done, m.setJob job)
  | .deleteJob jobId => (.done, m.deleteJob jobId)
  | .listJobsByTask taskId _ => (.jobs (m.listJobsByTask taskId), m)
  | .getResult jobId => (.result (m.results.get? jobId), m)
  | .setResult result => (.done, { m with results := m.results.set result.jobId result })
  | .deleteResult jobId => (.done, { m with results := m.results.delete jobId })
  | .getEvents taskId => (.events (m.getEvents taskId), m)
  | .addEvent taskId event => (.done, m.addEvent taskId event)
  | .replaceEvents taskId events => (.done, m.replaceEvents taskId events)
  | .setRecord kind id value => (.done, m.setRecord kind id value)
  | .getRecord kind id => (.record (m.getRecord kind id), m)
  | .listRecords kind _ => (.records (m.recordsOf kind).values, m)
  | .deleteRecord kind id => (.done, m.deleteRecord kind id)
  | .getRetryCount key => (.count (m.getRetryCount key), m)
  | .setRetryCount key count => (.done, m.setRetryCount key count)
  | .incrementRetryCount key =>
    (.count (m.getRetryCount key + 1), m.setRetryCount key (m.getRetryCount key + 1))
  | .clear => (.done, m.clear)

end InMemoryBackend

/-- The keys of the Redis backend, with those of retries and records. -/
structure RedisStore (ρ : Type) extends Redis where
  /-- `retry:<key>` -/
  retryCounts : InsertionMap String Int
  /-- `record:<kind>:<id>` -/
  records : InsertionMap String ρ
  /-- `records:<kind>` -/
  recordIds : InsertionMap String (List String)

def recordKey (kind id : String) : String := kind ++ ":" ++ id

namespace RedisStore

variable {ρ : Type}

def empty : RedisStore ρ := ⟨.empty, .empty, .empty, .empty⟩

variable (texts : TaskTexts) (r : RedisStore ρ)

def getTask (taskId : String) : Option Task := (r.task? taskId).bind texts.parse

def setTask (task : Task) : BackendAnswer ρ × RedisStore ρ :=
  let (stored, redis) := r.toRedis.setTask texts.decode task.taskId (texts.stringify task)
  (if stored then .done else .versionConflict, { r with toRedis := redis })

def listTasks (order : SetOrder) (state : Option TaskState) (limit : Option Int) : List Task :=
  (r.listTasksBy order state limit).filterMap fun task => texts.parse task.2

def deleteJob (jobId : String) : RedisStore ρ :=
  { r with
    jobs := r.jobs.delete jobId
    jobIds := match r.jobs.get? jobId with
      | some job => r.jobIds.set job.taskId ((r.jobIdsOf job.taskId).erase jobId)
      | none => r.jobIds }

def listJobsByTask (order : SetOrder) (taskId : String) : List WorkerJob :=
  (order.smembers (r.jobIdsOf taskId)).filterMap r.jobs.get?

def addEvent (taskId : String) (event : StateTransitionEvent) : RedisStore ρ :=
  { r with events := r.events.set taskId (r.getEvents taskId ++ [event]) }

def recordIdsOf (kind : String) : List String := (r.recordIds.get? kind).getD []

def setRecord (kind id : String) (value : ρ) : RedisStore ρ :=
  { r with
    records := r.records.set (recordKey kind id) value
    recordIds := r.recordIds.set kind (sadd id (r.recordIdsOf kind)) }

def getRecord (kind id : String) : Option ρ := r.records.get? (recordKey kind id)

def listRecords (order : SetOrder) (kind : String) : List ρ :=
  (order.smembers (r.recordIdsOf kind)).filterMap (r.getRecord kind)

def deleteRecord (kind id : String) : RedisStore ρ :=
  { r with
    records := r.records.delete (recordKey kind id)
    recordIds := r.recordIds.set kind ((r.recordIdsOf kind).erase id) }

def getRetryCount (key : String) : Int := (r.retryCounts.get? key).getD 0

def setRetryCount (key : String) (count : Int) : RedisStore ρ :=
  { r with retryCounts := r.retryCounts.set key count }

def perform : BackendOp ρ → BackendAnswer ρ × RedisStore ρ
  | .getTask taskId => (.task (r.getTask texts taskId), r)
  | .setTask task => r.setTask texts task
  | .deleteTask taskId => (.done, { r with toRedis := r.toRedis.deleteTask texts.decode taskId })
  | .listTasks state limit order => (.tasks (r.listTasks texts order state limit), r)
  | .getJob jobId => (.job (r.jobs.get? jobId), r)
  | .setJob job => (.done, { r with toRedis := r.toRedis.setJob job })
  | .deleteJob jobId => (.done, r.deleteJob jobId)
  | .listJobsByTask taskId order => (.jobs (r.listJobsByTask order taskId), r)
  | .getResult jobId => (.result (r.results.get? jobId), r)
  | .setResult result => (.done, { r with toRedis := r.toRedis.setResult result })
  | .deleteResult jobId => (.done, { r with results := r.results.delete jobId })
  | .getEvents taskId => (.events (r.getEvents taskId), r)
  | .addEvent taskId event => (.done, r.addEvent taskId event)
  | .replaceEvents taskId events =>
    (.done, { r with toRedis := r.toRedis.replaceEvents taskId events })
  | .setRecord kind id value => (.done, r.setRecord kind id value)
  | .getRecord kind id => (.record (r.getRecord kind id), r)
  | .listRecords kind order => (.records (r.listRecords order kind), r)
  | .deleteRecord kind id => (.done, r.deleteRecord kind id)
  | .getRetryCount key => (.count (r.getRetryCount key), r)
  | .setRetryCount key count => (.done, r.setRetryCount key count)
  | .incrementRetryCount key =>
    (.count (r.getRetryCount key + 1), r.setRetryCount key (r.getRetryCount key + 1))
  | .clear => (.done, empty)

end RedisStore

/-- Both backends, and the arrays of events that the one in memory has handed out. -/
structure Backends (ρ : Type) where
  memory : InMemoryBackend ρ
  redis : RedisStore ρ
  handedOut : List (Nat × List StateTransitionEvent)

namespace Backends

variable {ρ : Type} (texts : TaskTexts)

def handsOut (sys : Backends ρ) : BackendOp ρ → List (Nat × List StateTransitionEvent)
  | .getEvents taskId =>
    (sys.memory.events.get? taskId).toList.map fun address => (address, sys.memory.getEvents taskId)
  | _ => []

def perform (sys : Backends ρ) (op : BackendOp ρ) : Backends ρ where
  memory := (sys.memory.perform op).2
  redis := (sys.redis.perform texts op).2
  handedOut := sys.handedOut ++ sys.handsOut op

end Backends

def backends (ρ : Type) (texts : TaskTexts) : Machine (Backends ρ) (BackendOp ρ) :=
  .ofNext (· = ⟨.empty, .empty, []⟩) fun sys op => some (sys.perform texts op)

end ShipyardCp.Store
