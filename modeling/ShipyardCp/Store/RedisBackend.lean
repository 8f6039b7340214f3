import ShipyardCp.Lib.InsertionMap
import ShipyardCp.Lib.Transition
import ShipyardCp.Lib.VersionedRegister
import ShipyardCp.Types.Job

/-! The Redis backend: the keys it writes, and the script by which it stores a task. -/

namespace ShipyardCp.Store

open Types Lib VersionedRegister InsertionMap

/-- What the script reads of the text of a task. -/
structure TaskHead where
  version : Nat
  state : TaskState

/-- The keys of the backend. Jobs, results and events are kept as the values their texts stand for. -/
structure Redis where
  /-- `task:<id>` -/
  tasks : InsertionMap String String
  /-- `tasks:list` -/
  taskIds : List String
  /-- `tasks:state:<state>` -/
  stateIds : TaskState → List String
  /-- `events:<id>` -/
  events : InsertionMap String (List StateTransitionEvent)
  /-- `job:<id>` -/
  jobs : InsertionMap String WorkerJob
  /-- `jobs:task:<id>` -/
  jobIds : InsertionMap String (List String)
  /-- `result:<id>` -/
  results : InsertionMap String WorkerResult

def sadd (member : String) (members : List String) : List String :=
  if member ∈ members then members else members ++ [member]

namespace Redis

def empty : Redis := ⟨.empty, [], fun _ => [], .empty, .empty, .empty, .empty⟩

def task? (r : Redis) (taskId : String) : Option String := r.tasks.get? taskId

/-- The last commands of the script: the text is set and the task is added to its sets. -/
def putTask (r : Redis) (taskId text : String) (state : TaskState) : Redis :=
  { r with
    tasks := r.tasks.set taskId text
    stateIds := fun s => if s = state then sadd taskId (r.stateIds s) else r.stateIds s
    taskIds := sadd taskId r.taskIds }

def sremState (r : Redis) (state : TaskState) (taskId : String) : Redis :=
  { r with stateIds := fun s => if s = state then (r.stateIds s).erase taskId else r.stateIds s }

def getEvents (r : Redis) (taskId : String) : List StateTransitionEvent :=
  (r.events.get? taskId).getD []

def replaceEvents (r : Redis) (taskId : String) (events : List StateTransitionEvent) : Redis :=
  let r := { r with events := r.events.delete taskId }
  if events = [] then r else { r with events := r.events.set taskId events }

def jobIdsOf (r : Redis) (taskId : String) : List String := (r.jobIds.get? taskId).getD []

def setJob (r : Redis) (job : WorkerJob) : Redis :=
  { r with
    jobs := r.jobs.set job.jobId job
    jobIds := r.jobIds.set job.taskId (sadd job.jobId (r.jobIdsOf job.taskId)) }

def setResult (r : Redis) (result : WorkerResult) : Redis :=
  { r with results := r.results.set result.jobId result }

end Redis

-- What `cjson.decode` reads of the text that `JSON.stringify` makes of a task.
variable (decode : String → TaskHead)

/-- `TASK_CAS_SCRIPT`, with the number it returns. -/
def taskCasScript (r : Redis) (taskId text : String) (state : TaskState) (expectedVersion : Int) :
    Nat × Redis :=
  let next := decode text
  match r.task? taskId with
  | none => (1, r.putTask taskId text state)
  | some existing =>
    let current := decode existing
    if current.version = next.version then
      if existing = text then (1, r) else (0, r)
    else if (current.version : Int) ≠ expectedVersion then (0, r)
    else
      let r := if current.state ≠ next.state then r.sremState current.state taskId else r
      (1, r.putTask taskId text state)

/-- Stores the task of a text; `false` is the version conflict that the caller sees as an error. -/
def Redis.setTask (r : Redis) (taskId text : String) : Bool × Redis :=
  let task := decode text
  let expectedVersion : Int := if task.version = 0 then -1 else task.version - 1
  let (result, r) := taskCasScript decode r taskId text task.state expectedVersion
  (result = 1, r)

section setTask

variable {decode} {r : Redis} {taskId text : String}

variable {state : TaskState}

@[simp] theorem Redis.putTask_task? {id : String} :
    (r.putTask taskId text state).task? id = if id = taskId then some text else r.task? id :=
  get?_set ..

@[simp] theorem Redis.sremState_task? {id : String} :
    (r.sremState state taskId).task? id = r.task? id := rfl

theorem expectedVersion_iff (current next : Nat) :
    (current : Int) = (if next = 0 then -1 else (next : Int) - 1) ↔ next = current + 1 := by
  by_cases hzero : next = 0
  · simp [hzero]
  · rw [if_neg hzero]
    omega

theorem Redis.setTask_spec (id : String) : ((r.setTask decode taskId text).1 = true ↔
      VersionedRegister.Accepts (fun t => (decode t).version) (r.task? taskId) text) ∧
    (r.setTask decode taskId text).2.task? id =
      if id = taskId then
        write (fun t => (decode t).version) (r.task? taskId) text
      else r.task? id := by
  unfold Redis.setTask taskCasScript
  cases hstored : r.task? taskId with
  | none => simp [write, accepts_none]
  | some existing =>
    have hkept : id = taskId → r.task? id = some existing := by
      rintro rfl
      exact hstored
    by_cases hversion : (decode existing).version = (decode text).version
    · by_cases hsame : existing = text
      · simpa [write, hversion, hsame] using fun hid => hsame ▸ hkept hid
      · simpa [write, hversion, hsame] using hkept
    · have hsame : existing ≠ text := fun hsame => hversion (by rw [hsame])
      have hnext := expectedVersion_iff (decode existing).version (decode text).version
      by_cases hsucc : (decode text).version = (decode existing).version + 1
      · simp only [hversion, if_false, hnext.mpr hsucc, ne_eq, not_true_eq_false]
        have haccepts : VersionedRegister.Accepts (fun t => (decode t).version) (some existing) text :=
          (accepts_some_iff _).mpr (Or.inr hsucc)
        rw [write, if_pos haccepts]
        split_ifs <;> simp_all
      · have hnot := mt hnext.mp hsucc
        simpa [write, hversion, hsame, hsucc, hnot] using hkept

theorem Redis.setTask_beside : (r.setTask decode taskId text).2.events = r.events ∧
    (r.setTask decode taskId text).2.jobs = r.jobs ∧
    (r.setTask decode taskId text).2.jobIds = r.jobIds ∧
    (r.setTask decode taskId text).2.results = r.results := by
  unfold Redis.setTask taskCasScript
  cases r.task? taskId with
  | none => exact ⟨rfl, rfl, rfl, rfl⟩
  | some existing =>
    dsimp only
    split_ifs <;> exact ⟨rfl, rfl, rfl, rfl⟩

theorem mem_sadd {member id : String} {members : List String} :
    id ∈ sadd member members ↔ id = member ∨ id ∈ members := by
  unfold sadd
  split_ifs with hmem
  · refine ⟨Or.inr, fun h => ?_⟩
    rcases h with rfl | h
    · exact hmem
    · exact h
  · rw [List.mem_append, List.mem_singleton, or_comm]

def Redis.Listed (r : Redis) : Prop := ∀ id, id ∈ r.taskIds ↔ ∃ text, r.task? id = some text

theorem Redis.Listed.putTask (h : r.Listed) : (r.putTask taskId text state).Listed := by
  intro id
  rw [putTask_task?]
  show id ∈ sadd taskId r.taskIds ↔ _
  rw [mem_sadd, h id]
  split_ifs with hid <;> simp [hid]

theorem Redis.Listed.taskCasScript (h : r.Listed) {expectedVersion : Int} :
    (taskCasScript decode r taskId text state expectedVersion).2.Listed := by
  unfold Store.taskCasScript
  cases r.task? taskId with
  | none => exact h.putTask
  | some existing =>
    dsimp only
    split_ifs
    · exact h
    · exact h
    · exact h
    · have hsrem : (r.sremState (decode existing).state taskId).Listed := h
      exact hsrem.putTask
    · exact h.putTask

theorem Redis.Listed.setTask (h : r.Listed) : (r.setTask decode taskId text).2.Listed :=
  h.taskCasScript

end setTask

section records

variable (r : Redis) (taskId id : String) (events : List StateTransitionEvent) (job : WorkerJob)
  (result : WorkerResult)

@[simp] theorem Redis.replaceEvents_task? : (r.replaceEvents taskId events).task? id = r.task? id := by
  unfold Redis.replaceEvents
  dsimp only
  split_ifs <;> rfl

theorem Redis.replaceEvents_taskIds : (r.replaceEvents taskId events).taskIds = r.taskIds := by
  unfold Redis.replaceEvents
  dsimp only
  split_ifs <;> rfl

theorem Redis.replaceEvents_getEvents : (r.replaceEvents taskId events).getEvents id =
    if id = taskId then events else r.getEvents id := by
  unfold Redis.replaceEvents Redis.getEvents
  dsimp only
  by_cases hempty : events = []
  · rw [if_pos hempty, InsertionMap.get?_delete]
    split_ifs <;> simp [hempty]
  · rw [if_neg hempty, get?_set, InsertionMap.get?_delete]
    split_ifs <;> rfl

theorem Redis.replaceEvents_beside : (r.replaceEvents taskId events).jobs = r.jobs ∧
    (r.replaceEvents taskId events).jobIds = r.jobIds ∧
    (r.replaceEvents taskId events).results = r.results := by
  unfold Redis.replaceEvents
  dsimp only
  split_ifs <;> exact ⟨rfl, rfl, rfl⟩

theorem Redis.setJob_get? : (r.setJob job).jobs.get? id =
    if id = job.jobId then some job else r.jobs.get? id := get?_set ..

theorem Redis.mem_setJob_jobIdsOf {jobId : String} : jobId ∈ (r.setJob job).jobIdsOf taskId ↔
    (taskId = job.taskId ∧ jobId = job.jobId) ∨ jobId ∈ r.jobIdsOf taskId := by
  have hset : (r.setJob job).jobIdsOf taskId =
      if taskId = job.taskId then sadd job.jobId (r.jobIdsOf job.taskId)
      else r.jobIdsOf taskId := by
    unfold Redis.setJob Redis.jobIdsOf
    rw [get?_set]
    split_ifs <;> rfl
  rw [hset]
  by_cases htask : taskId = job.taskId
  · rw [if_pos htask, mem_sadd, htask]
    simp
  · rw [if_neg htask]
    simp [htask]

theorem Redis.setResult_get? : (r.setResult result).results.get? id =
    if id = result.jobId then some result else r.results.get? id := get?_set ..

end records

end ShipyardCp.Store

/-! Deleting and listing tasks in Redis, and the keys that expire on their own. A deletion is one call or
a sequence of commands between which others run. -/

namespace ShipyardCp.Store

open Types Lib

/-- `xs.slice(0, end)`; a negative end counts from the end of the list. -/
def sliceTo {α : Type} (stop : Int) (xs : List α) : List α :=
  if 0 ≤ stop then xs.take stop.toNat else xs.take (xs.length + stop).toNat

/-- The order in which the server answers the members of sets. -/
structure SetOrder where
  smembers : List String → List String
  perm : ∀ members, (smembers members).Perm members

def SetOrder.added : SetOrder := ⟨id, .refl⟩

/-- The commands of a deletion, after the one that reads the task. -/
inductive DeleteCommand where
  | sremState (state : TaskState)
  | sremList
  | delTask
  | delEvents
  deriving DecidableEq

namespace Redis

variable (decode : String → TaskHead) (r : Redis)

def sremList (taskId : String) : Redis := { r with taskIds := r.taskIds.erase taskId }

def runDelete (taskId : String) : DeleteCommand → Redis
  | .sremState state => r.sremState state taskId
  | .sremList => r.sremList taskId
  | .delTask => { r with tasks := r.tasks.delete taskId }
  | .delEvents => { r with events := r.events.delete taskId }

def deleteCommands (taskId : String) : List DeleteCommand := (match r.task? taskId with
    | some text => [.sremState (decode text).state]
    | none => []) ++ [.sremList, .delTask, .delEvents]

def deleteTask (taskId : String) : Redis :=
  (r.deleteCommands decode taskId).foldl (fun r command => r.runDelete taskId command) r

def listedIds (order : SetOrder) (state : Option TaskState) (limit : Option Int) : List String :=
  sliceTo (limit.getD 100) (order.smembers (match state with
    | some state => r.stateIds state
    | none => r.taskIds))

def listTasksBy (order : SetOrder) (state : Option TaskState) (limit : Option Int) :
    List (String × String) :=
  (r.listedIds order state limit).filterMap fun id => (r.task? id).map (id, ·)

def expireState (state : TaskState) : Redis :=
  { r with stateIds := fun s => if s = state then [] else r.stateIds s }

end Redis

/-- A deletion with the commands it still has to run. -/
structure PendingDelete where
  taskId : String
  commands : List DeleteCommand
  deriving DecidableEq

/-- The backend, and the deletions that are under way. -/
structure RedisSystem where
  redis : Redis
  deleting : List PendingDelete

inductive RedisOp where
  | setTask (taskId text : String)
  | deleteTask (taskId : String)
  | beginDelete (taskId : String)
  | deleteCommand (d : PendingDelete)
  | expireTask (taskId : String)
  | expireState (state : TaskState)
  | expireList
  | expireEvents (taskId : String)

namespace RedisSystem

variable (decode : String → TaskHead)

def next (sys : RedisSystem) : RedisOp → Option RedisSystem
  | .setTask taskId text => some { sys with redis := (sys.redis.setTask decode taskId text).2 }
  | .deleteTask taskId => some { sys with redis := sys.redis.deleteTask decode taskId }
  | .beginDelete taskId =>
    some { sys with
      deleting := sys.deleting ++ [⟨taskId, sys.redis.deleteCommands decode taskId⟩] }
  | .deleteCommand d =>
    match d.commands with
    | [] => none
    | command :: commands =>
      if d ∈ sys.deleting then
        some
          { redis := sys.redis.runDelete d.taskId command
            deleting := ⟨d.taskId, commands⟩ :: sys.deleting.erase d }
      else none
  | .expireTask taskId =>
    some { sys with redis := { sys.redis with tasks := sys.redis.tasks.delete taskId } }
  | .expireState state => some { sys with redis := sys.redis.expireState state }
  | .expireList => some { sys with redis := { sys.redis with taskIds := [] } }
  | .expireEvents taskId =>
    some { sys with redis := { sys.redis with events := sys.redis.events.delete taskId } }

end RedisSystem

def redisMachine (decode : String → TaskHead) : Machine RedisSystem RedisOp :=
  .ofNext (· = ⟨.empty, []⟩) (RedisSystem.next decode)

section spec

variable {r : Redis}

theorem mem_of_mem_sliceTo {α : Type} {stop : Int} {xs : List α} {a : α} (h : a ∈ sliceTo stop xs) :
    a ∈ xs := by
  unfold sliceTo at h
  split_ifs at h <;> exact List.mem_of_mem_take h

theorem sliceTo_of_length_le {α : Type} {stop : Int} {xs : List α} (h : (xs.length : Int) ≤ stop) :
    sliceTo stop xs = xs := by
  unfold sliceTo
  rw [if_pos (by omega), List.take_of_length_le (by omega)]

theorem sliceTo_sublist {α : Type} (stop : Int) (xs : List α) : (sliceTo stop xs).Sublist xs := by
  unfold sliceTo
  split_ifs <;> exact List.take_sublist _ _

theorem Redis.mem_listTasksBy {order : SetOrder} {state : Option TaskState} {limit : Option Int}
    {id text : String} : (id, text) ∈ r.listTasksBy order state limit ↔
      id ∈ r.listedIds order state limit ∧ r.task? id = some text := by
  unfold Redis.listTasksBy
  rw [List.mem_filterMap]
  constructor
  · rintro ⟨id', hmem, hmap⟩
    obtain ⟨text', htext, heq⟩ := Option.map_eq_some_iff.mp hmap
    obtain ⟨rfl, rfl⟩ := Prod.mk.inj heq
    exact ⟨hmem, htext⟩
  · rintro ⟨hmem, htext⟩
    exact ⟨id, hmem, by rw [htext]; rfl⟩

theorem Redis.setTask_cases (decode : String → TaskHead) (r : Redis) (taskId text : String) :
    ((r.setTask decode taskId text).2 = r ∧
        ((r.setTask decode taskId text).1 = false ∨ r.task? taskId = some text)) ∨
      ((r.setTask decode taskId text).1 = true ∧ r.task? taskId = none ∧
        (r.setTask decode taskId text).2 = r.putTask taskId text (decode text).state) ∨
      ∃ existing, (r.setTask decode taskId text).1 = true ∧ r.task? taskId = some existing ∧
        existing ≠ text ∧ (r.setTask decode taskId text).2 =
          (if (decode existing).state ≠ (decode text).state then
            r.sremState (decode existing).state taskId else r).putTask taskId text
              (decode text).state := by
  unfold Redis.setTask taskCasScript
  cases hstored : r.task? taskId with
  | none => exact Or.inr (Or.inl ⟨rfl, rfl, rfl⟩)
  | some existing =>
    by_cases hversion : (decode existing).version = (decode text).version
    · by_cases hsame : existing = text
      · exact Or.inl ⟨by simp [hsame], Or.inr (by rw [hsame])⟩
      · exact Or.inl ⟨by simp [hversion, hsame], Or.inl (by simp [hversion, hsame])⟩
    · have hne : existing ≠ text := fun hsame => hversion (by rw [hsame])
      by_cases hexpected : ((decode existing).version : Int) =
          if (decode text).version = 0 then -1 else ((decode text).version : Int) - 1
      · exact Or.inr (Or.inr ⟨existing, by simp [hversion, hexpected], rfl, hne,
          by simp only [hversion, if_false, hexpected, ne_eq, not_true_eq_false]⟩)
      · exact Or.inl ⟨by simp [hversion, hexpected], Or.inl (by simp [hversion, hexpected])⟩

end spec

/-- No set holds an id twice. -/
structure SetsNodup (r : Redis) : Prop where
  taskIds : r.taskIds.Nodup
  stateIds : ∀ state, (r.stateIds state).Nodup

section deletions

variable {r : Redis} {id : String}

theorem nodup_sadd {member : String} {members : List String} (h : members.Nodup) :
    (sadd member members).Nodup := by
  unfold sadd
  split_ifs with hmem
  · exact h
  · exact List.Nodup.append h (List.nodup_singleton member) (by simpa using hmem)

theorem SetsNodup.sremState (h : SetsNodup r) (state : TaskState) (taskId : String) :
    SetsNodup (r.sremState state taskId) where
  taskIds := h.taskIds
  stateIds s := by
    unfold Redis.sremState
    dsimp only
    split_ifs
    · exact (h.stateIds s).erase taskId
    · exact h.stateIds s

theorem SetsNodup.putTask (h : SetsNodup r) (taskId text : String) (state : TaskState) :
    SetsNodup (r.putTask taskId text state) where
  taskIds := nodup_sadd h.taskIds
  stateIds s := by
    unfold Redis.putTask
    dsimp only
    split_ifs
    · exact nodup_sadd (h.stateIds s)
    · exact h.stateIds s

theorem SetsNodup.runDelete (h : SetsNodup r) (taskId : String) (command : DeleteCommand) :
    SetsNodup (r.runDelete taskId command) := by
  cases command with
  | sremState state => exact h.sremState state taskId
  | sremList => exact ⟨h.taskIds.erase taskId, h.stateIds⟩
  | delTask => exact ⟨h.taskIds, h.stateIds⟩
  | delEvents => exact ⟨h.taskIds, h.stateIds⟩

theorem runDelete_task? (command : DeleteCommand) {x : String} : (r.runDelete id command).task? x =
      if x = id ∧ command = .delTask then none else r.task? x := by
  cases command with
  | delTask =>
    change (r.tasks.delete id).get? x = _
    rw [InsertionMap.get?_delete]
    simp [Redis.task?]
  | _ => simp [Redis.runDelete, Redis.sremList, Redis.task?, Redis.sremState]

theorem mem_runDelete_stateIds (command : DeleteCommand) {x : String} {state : TaskState}
    (hnodup : SetsNodup r) : x ∈ (r.runDelete id command).stateIds state ↔
      x ∈ r.stateIds state ∧ ¬(x = id ∧ command = .sremState state) := by
  cases command with
  | sremState state' =>
    change x ∈ (if state = state' then (r.stateIds state).erase id else r.stateIds state) ↔ _
    split_ifs with hstate
    · rw [(hnodup.stateIds state).mem_erase_iff, hstate]
      simp [and_comm]
    · simp [Ne.symm hstate]
  | _ => simp [Redis.runDelete, Redis.sremList]

theorem mem_runDelete_taskIds (command : DeleteCommand) {x : String} (hnodup : SetsNodup r) :
    x ∈ (r.runDelete id command).taskIds ↔ x ∈ r.taskIds ∧ ¬(x = id ∧ command = .sremList) := by
  cases command with
  | sremList =>
    change x ∈ r.taskIds.erase id ↔ _
    rw [hnodup.taskIds.mem_erase_iff]
    simp [and_comm]
  | _ => simp [Redis.runDelete, Redis.sremState]

/-- What a sequence of commands of a deletion leaves. -/
structure Deletes (id : String) (commands : List DeleteCommand) (r r' : Redis) : Prop where
  task? : ∀ x, r'.task? x = if x = id ∧ .delTask ∈ commands then none else r.task? x
  stateIds : ∀ state x, x ∈ r'.stateIds state ↔
    x ∈ r.stateIds state ∧ ¬(x = id ∧ .sremState state ∈ commands)
  taskIds : ∀ x, x ∈ r'.taskIds ↔ x ∈ r.taskIds ∧ ¬(x = id ∧ .sremList ∈ commands)
  getEvents : ∀ x, r'.getEvents x = if x = id ∧ .delEvents ∈ commands then [] else r.getEvents x
  nodup : SetsNodup r'
  beside : r'.jobs = r.jobs ∧ r'.jobIds = r.jobIds ∧ r'.results = r.results

theorem runDelete_getEvents (command : DeleteCommand) {x : String} :
    (r.runDelete id command).getEvents x =
      if x = id ∧ command = .delEvents then [] else r.getEvents x := by
  cases command with
  | delEvents =>
    change ((r.events.delete id).get? x).getD [] = _
    rw [InsertionMap.get?_delete]
    by_cases hx : x = id <;> simp [hx, Redis.getEvents]
  | _ => simp [Redis.runDelete, Redis.sremList, Redis.getEvents, Redis.sremState]

theorem foldl_runDelete (id : String) (commands : List DeleteCommand) (hnodup : SetsNodup r) :
    Deletes id commands r (commands.foldl (fun r command => r.runDelete id command) r) := by
  induction commands generalizing r with
  | nil => exact ⟨by simp, by simp, by simp, by simp, hnodup, rfl, rfl, rfl⟩
  | cons command commands ih =>
    have hrest := ih (hnodup.runDelete id command)
    rw [List.foldl_cons]
    constructor
    · intro x
      rw [hrest.task?, runDelete_task?]
      by_cases hx : x = id <;> by_cases hcommand : command = .delTask <;> simp [hx, hcommand, eq_comm]
    · intro state x
      rw [hrest.stateIds, mem_runDelete_stateIds command hnodup, List.mem_cons]
      tauto
    · intro x
      rw [hrest.taskIds, mem_runDelete_taskIds command hnodup, List.mem_cons]
      tauto
    · intro x
      rw [hrest.getEvents, runDelete_getEvents]
      by_cases hx : x = id <;> by_cases hcommand : command = .delEvents <;>
        simp [hx, hcommand, eq_comm]
    · exact hrest.nodup
    · obtain ⟨hjobs, hjobIds, hresults⟩ := hrest.beside
      cases command <;> exact ⟨hjobs, hjobIds, hresults⟩

theorem Redis.deletes_deleteTask (decode : String → TaskHead) (id : String) (hnodup : SetsNodup r) :
    Deletes id (r.deleteCommands decode id) r (r.deleteTask decode id) :=
  foldl_runDelete id _ hnodup

end deletions

end ShipyardCp.Store
