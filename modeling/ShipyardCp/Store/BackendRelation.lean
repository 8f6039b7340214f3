import ShipyardCp.Store.StoreBackend

/-! What relates the two backends after the same operations: the keys of Redis hold what the maps in
memory do. -/

namespace ShipyardCp.Store

open Types Lib InsertionMap InMemoryBackend

variable {ρ : Type}

def KeyUnshared (m : InMemoryBackend ρ) (kind id : String) : Prop :=
  ∀ kind' id' value, m.getRecord kind' id' = some value →
    recordKey kind' id' = recordKey kind id → kind' = kind ∧ id' = id

section relation

variable (texts : TaskTexts)

/-- The keys of tasks hold the texts of the tasks in memory, and the sets their ids. -/
structure TasksRelated (tasks : InsertionMap String Task) (r : Redis) : Prop where
  nodup : SetsNodup r
  task? : ∀ id, r.task? id = (tasks.get? id).map texts.stringify
  readsBack : ∀ id task, tasks.get? id = some task → texts.parse (texts.stringify task) = some task
  taskIds : ∀ id, id ∈ r.taskIds ↔ ∃ task, tasks.get? id = some task
  stateIds : ∀ state id, id ∈ r.stateIds state ↔
    ∃ task, tasks.get? id = some task ∧ task.state = state

/-- The logs are the arrays in memory, of which no two tasks share one. -/
structure EventsRelated (m : InMemoryBackend ρ) (r : Redis) : Prop where
  getEvents : ∀ id, r.getEvents id = m.getEvents id
  inArrays : ∀ id address, m.events.get? id = some address → address < m.arrays.length
  unshared : ∀ id id' address, m.events.get? id = some address →
    m.events.get? id' = some address → id = id'

/-- The keys of records hold the records in memory, of which no two share a key. -/
structure RecordsRelated (m : InMemoryBackend ρ) (r : RedisStore ρ) : Prop where
  stored : ∀ kind id value, m.getRecord kind id = some value → r.getRecord kind id = some value
  holds : ∀ key value, r.records.get? key = some value →
    ∃ kind id, recordKey kind id = key ∧ m.getRecord kind id = some value
  unshared : ∀ kind id value, m.getRecord kind id = some value → KeyUnshared m kind id
  nodup : ∀ kind, (r.recordIdsOf kind).Nodup
  recordIds : ∀ kind id, id ∈ r.recordIdsOf kind ↔ ∃ value, m.getRecord kind id = some value

structure Related (m : InMemoryBackend ρ) (r : RedisStore ρ) : Prop where
  tasks : TasksRelated texts m.tasks r.toRedis
  events : EventsRelated m r.toRedis
  records : RecordsRelated m r
  jobs : r.jobs = m.jobs
  jobIds : r.jobIds = m.jobsByTask
  results : r.results = m.results
  retryCounts : r.retryCounts = m.retryTracker

end relation

section tasks

variable {texts : TaskTexts} {tasks : InsertionMap String Task} {r : Redis} {task : Task}

theorem tasksRelated_empty : TasksRelated texts .empty Redis.empty where
  nodup := ⟨List.nodup_nil, fun _ => List.nodup_nil⟩
  task? _ := rfl
  readsBack _ _ hget := nomatch hget
  taskIds _ := by simp [Redis.empty]
  stateIds _ _ := by simp [Redis.empty]

theorem TasksRelated.congr {r' : Redis} (hrel : TasksRelated texts tasks r)
    (htasks : r'.tasks = r.tasks) (htaskIds : r'.taskIds = r.taskIds)
    (hstateIds : r'.stateIds = r.stateIds) : TasksRelated texts tasks r' where
  nodup := ⟨htaskIds ▸ hrel.nodup.taskIds, fun state => hstateIds ▸ hrel.nodup.stateIds state⟩
  task? id := by
    rw [← hrel.task?]
    exact congrArg (fun t => t.get? id) htasks
  readsBack := hrel.readsBack
  taskIds id := htaskIds ▸ hrel.taskIds id
  stateIds state id := hstateIds ▸ hrel.stateIds state id

theorem mem_putTask_stateIds {id text x : String} {state state' : TaskState} :
    x ∈ (r.putTask id text state).stateIds state' ↔
      (x = id ∧ state' = state) ∨ x ∈ r.stateIds state' := by
  unfold Redis.putTask
  dsimp only
  split_ifs with hstate
  · rw [mem_sadd]
    simp [hstate]
  · simp [hstate]

theorem TasksRelated.putTask {r' : Redis} (hrel : TasksRelated texts tasks r)
    (hparse : texts.parse (texts.stringify task) = some task) (hnodup : SetsNodup r')
    (htask? : ∀ id, r'.task? id = r.task? id) (htaskIds : r'.taskIds = r.taskIds)
    (hothers : ∀ state id, id ≠ task.taskId → (id ∈ r'.stateIds state ↔ id ∈ r.stateIds state))
    (hown : ∀ state, task.taskId ∈ r'.stateIds state → state = task.state) :
    TasksRelated texts (tasks.set task.taskId task)
      (r'.putTask task.taskId (texts.stringify task) task.state) where
  nodup := hnodup.putTask _ _ _
  task? id := by
    rw [Redis.putTask_task?, htask?, hrel.task?, get?_set]
    split_ifs <;> rfl
  readsBack id task' hget := by
    rw [get?_set] at hget
    split_ifs at hget with hid
    · obtain rfl := Option.some.inj hget
      exact hparse
    · exact hrel.readsBack id task' hget
  taskIds id := by
    change id ∈ sadd task.taskId r'.taskIds ↔ _
    rw [mem_sadd, htaskIds, hrel.taskIds, get?_set]
    split_ifs with hid <;> simp [hid]
  stateIds state id := by
    rw [mem_putTask_stateIds, get?_set]
    split_ifs with hid
    · subst hid
      constructor
      · rintro (⟨_, rfl⟩ | hmem)
        · exact ⟨task, rfl, rfl⟩
        · exact ⟨task, rfl, (hown state hmem).symm⟩
      · rintro ⟨task', hget, rfl⟩
        obtain rfl := Option.some.inj hget
        exact Or.inl ⟨rfl, rfl⟩
    · rw [hothers state id hid, hrel.stateIds]
      simp [hid]

theorem accepts_of_successor {existing : Option Task} (hversion : task.version = match existing with
      | some stored => stored.version + 1
      | none => 0) :
    VersionedRegister.Accepts (fun t => (texts.decode t).version) (existing.map texts.stringify)
      (texts.stringify task) := by
  cases existing with
  | none => exact VersionedRegister.accepts_none _ _
  | some stored =>
    refine (VersionedRegister.accepts_some_iff _).mpr (Or.inr ?_)
    simp only [texts.decode_stringify]
    exact hversion

theorem TasksRelated.setTask (hrel : TasksRelated texts tasks r)
    (hparse : texts.parse (texts.stringify task) = some task)
    (hversion : task.version = match tasks.get? task.taskId with
      | some stored => stored.version + 1
      | none => 0) :
    (r.setTask texts.decode task.taskId (texts.stringify task)).1 = true ∧
      TasksRelated texts (tasks.set task.taskId task)
        (r.setTask texts.decode task.taskId (texts.stringify task)).2 := by
  have hstored : (r.setTask texts.decode task.taskId (texts.stringify task)).1 = true := by
    rw [(Redis.setTask_spec task.taskId).1, hrel.task?]
    exact accepts_of_successor hversion
  refine ⟨hstored, ?_⟩
  have hstate : (texts.decode (texts.stringify task)).state = task.state := by
    rw [texts.decode_stringify]
  have hown : ∀ state, task.taskId ∈ r.stateIds state → ∃ stored,
      tasks.get? task.taskId = some stored ∧ stored.state = state :=
    fun state => (hrel.stateIds state task.taskId).mp
  rcases Redis.setTask_cases texts.decode r task.taskId (texts.stringify task) with
    ⟨_, hkept | hsame⟩ | ⟨_, hnone, hput⟩ | ⟨existing, _, hexisting, _, hput⟩
  · rw [hstored] at hkept
    cases hkept
  · rw [hrel.task?] at hsame
    obtain ⟨stored, hget, htext⟩ := Option.map_eq_some_iff.mp hsame
    have hhead := congrArg texts.decode htext
    rw [texts.decode_stringify, texts.decode_stringify] at hhead
    rw [hget] at hversion
    have := congrArg TaskHead.version hhead
    simp only at this hversion
    omega
  · rw [hput, hstate]
    refine hrel.putTask hparse hrel.nodup (fun _ => rfl) rfl (fun _ _ _ => Iff.rfl) ?_
    intro state hmem
    obtain ⟨stored, hget, _⟩ := hown state hmem
    rw [hrel.task?, hget] at hnone
    cases hnone
  · rw [hrel.task?] at hexisting
    obtain ⟨stored, hget, rfl⟩ := Option.map_eq_some_iff.mp hexisting
    rw [hput, hstate, texts.decode_stringify]
    dsimp only
    split_ifs with hmoved
    · refine hrel.putTask hparse (hrel.nodup.sremState _ _) (fun _ => rfl) rfl ?_ ?_
      · intro state id hid
        rw [show r.sremState stored.state task.taskId =
          r.runDelete task.taskId (.sremState stored.state) from rfl,
          mem_runDelete_stateIds _ hrel.nodup]
        simp [hid]
      · intro state hmem
        rw [show r.sremState stored.state task.taskId =
          r.runDelete task.taskId (.sremState stored.state) from rfl,
          mem_runDelete_stateIds _ hrel.nodup] at hmem
        obtain ⟨stored', hget', hstate'⟩ := hown state hmem.1
        rw [hget] at hget'
        obtain rfl := Option.some.inj hget'
        exact absurd ⟨rfl, by rw [hstate']⟩ hmem.2
    · refine hrel.putTask hparse hrel.nodup (fun _ => rfl) rfl (fun _ _ _ => Iff.rfl) ?_
      intro state hmem
      obtain ⟨stored', hget', hstate'⟩ := hown state hmem
      rw [hget] at hget'
      obtain rfl := Option.some.inj hget'
      rw [← hstate']
      exact not_not.mp hmoved

theorem TasksRelated.deleteTask (hrel : TasksRelated texts tasks r) (id : String) :
    TasksRelated texts (tasks.delete id) (r.deleteTask texts.decode id) := by
  have hdeletes := r.deletes_deleteTask texts.decode id hrel.nodup
  have hcommands : ∀ state, id ∈ r.stateIds state →
      .sremState state ∈ r.deleteCommands texts.decode id := by
    intro state hmem
    obtain ⟨task, hget, rfl⟩ := (hrel.stateIds state id).mp hmem
    simp [Redis.deleteCommands, hrel.task?, hget, texts.decode_stringify]
  constructor
  · exact hdeletes.nodup
  · intro x
    rw [hdeletes.task?, hrel.task?, get?_delete]
    by_cases hx : x = id <;> simp [hx, Redis.deleteCommands]
  · intro x task hget
    rw [get?_delete] at hget
    split_ifs at hget
    exact hrel.readsBack x task hget
  · intro x
    rw [hdeletes.taskIds, hrel.taskIds, get?_delete]
    by_cases hx : x = id <;> simp [hx, Redis.deleteCommands]
  · intro state x
    rw [hdeletes.stateIds, get?_delete]
    by_cases hx : x = id
    · subst hx
      simpa using hcommands state
    · simpa [hx] using hrel.stateIds state x

theorem TasksRelated.filterMap_ids (hrel : TasksRelated texts tasks r) (ids : List String) :
    (ids.filterMap fun id => (r.task? id).map (id, ·)).filterMap (fun task => texts.parse task.2) =
      ids.filterMap tasks.get? := by
  rw [List.filterMap_filterMap]
  refine List.filterMap_congr fun id _ => ?_
  rw [hrel.task?]
  cases hget : tasks.get? id with
  | none => rfl
  | some task => exact hrel.readsBack id task hget

end tasks

section listing

variable {texts : TaskTexts} {m : InMemoryBackend ρ} {r : RedisStore ρ}

theorem length_sliceTo_congr {α β : Type} {xs : List α} {ys : List β} (stop : Int)
    (hlength : xs.length = ys.length) : (sliceTo stop xs).length = (sliceTo stop ys).length := by
  unfold sliceTo
  split_ifs <;> simp [hlength]

def listedSet (r : Redis) : Option TaskState → List String
  | some state => r.stateIds state
  | none => r.taskIds

theorem TasksRelated.perm_matchingTasks (hrel : TasksRelated texts m.tasks r.toRedis)
    (state : Option TaskState) {ids : List String} (hids : ids.Perm (listedSet r.toRedis state)) :
    (ids.filterMap m.tasks.get?).Perm (m.matchingTasks state) ∧
      ∀ id ∈ ids, (m.tasks.get? id).isSome := by
  cases state with
  | some state =>
    constructor
    · refine m.tasks.filterMap_get?_perm (hids.nodup_iff.mpr (hrel.nodup.stateIds state)) fun id => ?_
      rw [hids.mem_iff, listedSet, hrel.stateIds]
      simp
    · intro id hid
      obtain ⟨task, hget, _⟩ := (hrel.stateIds state id).mp (hids.mem_iff.mp hid)
      rw [hget]
      rfl
  | none =>
    constructor
    · have hall : m.tasks.values.filter (fun _ => true) = m.matchingTasks none := by
        rw [List.filter_true]
        rfl
      rw [← hall]
      refine m.tasks.filterMap_get?_perm (hids.nodup_iff.mpr hrel.nodup.taskIds) fun id => ?_
      rw [hids.mem_iff, listedSet, hrel.taskIds]
      simp
    · intro id hid
      obtain ⟨task, hget⟩ := (hrel.taskIds id).mp (hids.mem_iff.mp hid)
      rw [hget]
      rfl

theorem length_filterMap_of_isSome {α β : Type} {f : α → Option β} {xs : List α}
    (hsome : ∀ x ∈ xs, (f x).isSome) : (xs.filterMap f).length = xs.length :=
  List.filterMap_length_eq_length.mpr hsome

theorem TasksRelated.listTasks (hrel : TasksRelated texts m.tasks r.toRedis) (order : SetOrder)
    (state : Option TaskState) (limit : Option Int) :
    (r.listTasks texts order state limit).length =
        (sliceTo (limit.getD 100) (m.matchingTasks state)).length ∧
      ((m.matchingTasks state).length ≤ limit.getD 100 →
        (r.listTasks texts order state limit).Perm (m.matchingTasks state)) := by
  obtain ⟨hperm, hsome⟩ := hrel.perm_matchingTasks state (order.perm _)
  have hlisted : r.listTasks texts order state limit =
      (sliceTo (limit.getD 100) (order.smembers (listedSet r.toRedis state))).filterMap
        m.tasks.get? := by
    rw [← hrel.filterMap_ids]
    cases state <;> rfl
  have hlength := hperm.length_eq
  rw [length_filterMap_of_isSome hsome] at hlength
  rw [hlisted]
  constructor
  · rw [length_filterMap_of_isSome fun id hid => hsome id (mem_of_mem_sliceTo hid)]
    exact length_sliceTo_congr _ hlength
  · intro hfits
    rw [sliceTo_of_length_le (by rw [hlength]; exact hfits)]
    exact hperm

end listing

section events

variable {m m' : InMemoryBackend ρ} {r r' : Redis}

theorem eventsRelated_clear : EventsRelated m.clear Redis.empty where
  getEvents _ := rfl
  inArrays _ _ hget := nomatch hget
  unshared _ _ _ hget := nomatch hget

theorem EventsRelated.congr (hrel : EventsRelated m r) (hevents : m'.events = m.events)
    (harrays : m'.arrays = m.arrays) (hlogs : r'.events = r.events) : EventsRelated m' r' where
  getEvents id := by
    unfold Redis.getEvents InMemoryBackend.getEvents
    rw [hevents, harrays, hlogs]
    exact hrel.getEvents id
  inArrays id address hget := by
    rw [harrays]
    exact hrel.inArrays id address (hevents ▸ hget)
  unshared id id' address hget hget' :=
    hrel.unshared id id' address (hevents ▸ hget) (hevents ▸ hget')

theorem EventsRelated.getEvents_eq (hrel : EventsRelated m r) {id : String} {address : Nat}
    (hget : m.events.get? id = some address) :
    m.arrays[address]? = some (m.getEvents id) := by
  have hin := hrel.inArrays id address hget
  simp [InMemoryBackend.getEvents, hget, List.getElem?_eq_getElem hin]

theorem EventsRelated.replaceEvents (hrel : EventsRelated m r) (taskId : String)
    (events : List StateTransitionEvent)
    (hlogs : ∀ id, r'.getEvents id = if id = taskId then events else r.getEvents id) :
    EventsRelated (m.replaceEvents taskId events) r' := by
  have hget : ∀ id, (m.replaceEvents taskId events).events.get? id =
      if id = taskId then some m.arrays.length else m.events.get? id :=
    fun id => get?_set ..
  constructor
  · intro id
    rw [hlogs, hrel.getEvents]
    unfold InMemoryBackend.getEvents
    rw [hget]
    split_ifs with hid
    · simp [InMemoryBackend.replaceEvents]
    · cases haddress : m.events.get? id with
      | none => rfl
      | some address =>
        have hin := hrel.inArrays id address haddress
        simp [InMemoryBackend.replaceEvents, List.getElem?_append_left hin]
  · intro id address haddress
    rw [hget] at haddress
    change address < (m.arrays ++ [events]).length
    rw [List.length_append, List.length_singleton]
    split_ifs at haddress with hid
    · rw [← Option.some.inj haddress]
      exact Nat.lt_succ_self _
    · exact Nat.lt_succ_of_lt (hrel.inArrays id address haddress)
  · intro id id' address haddress haddress'
    rw [hget] at haddress haddress'
    split_ifs at haddress haddress' with hid hid' hid'
    · rw [hid, hid']
    · have hin := hrel.inArrays id' address haddress'
      rw [← Option.some.inj haddress] at hin
      exact absurd hin (lt_irrefl _)
    · have hin := hrel.inArrays id address haddress
      rw [← Option.some.inj haddress'] at hin
      exact absurd hin (lt_irrefl _)
    · exact hrel.unshared id id' address haddress haddress'

theorem EventsRelated.addEvent (hrel : EventsRelated m r) (taskId : String)
    (event : StateTransitionEvent)
    (hlogs : ∀ id, r'.getEvents id =
      if id = taskId then r.getEvents taskId ++ [event] else r.getEvents id) :
    EventsRelated (m.addEvent taskId event) r' := by
  unfold InMemoryBackend.addEvent
  cases haddress : m.events.get? taskId with
  | none =>
    refine hrel.replaceEvents taskId [event] fun id => ?_
    have hempty : r.getEvents taskId = [] := by
      rw [hrel.getEvents]
      simp [InMemoryBackend.getEvents, haddress]
    rw [hlogs, hempty]
    rfl
  | some address =>
    constructor
    · intro id
      rw [hlogs]
      unfold InMemoryBackend.getEvents
      dsimp only
      split_ifs with hid
      · have harray := hrel.getEvents_eq haddress
        rw [hid, haddress, hrel.getEvents]
        simp [List.getElem?_modify, harray]
      · rw [hrel.getEvents]
        unfold InMemoryBackend.getEvents
        cases haddress' : m.events.get? id with
        | none => rfl
        | some address' =>
          have hne : address ≠ address' := by
            rintro rfl
            exact hid (hrel.unshared id taskId address haddress' haddress)
          simp [List.getElem?_modify, hne]
    · intro id address' haddress'
      simpa using hrel.inArrays id address' haddress'
    · exact hrel.unshared

theorem EventsRelated.deleteTask (hrel : EventsRelated m r) (taskId : String)
    (hlogs : ∀ id, r'.getEvents id = if id = taskId then [] else r.getEvents id) :
    EventsRelated (m.deleteTask taskId) r' := by
  have hget : ∀ id, (m.deleteTask taskId).events.get? id =
      if id = taskId then none else m.events.get? id := fun id => get?_delete ..
  constructor
  · intro id
    rw [hlogs, hrel.getEvents]
    unfold InMemoryBackend.getEvents
    rw [hget]
    split_ifs <;> rfl
  · intro id address haddress
    rw [hget] at haddress
    split_ifs at haddress
    exact hrel.inArrays id address haddress
  · intro id id' address haddress haddress'
    rw [hget] at haddress haddress'
    split_ifs at haddress haddress'
    exact hrel.unshared id id' address haddress haddress'

end events

section records

variable {m m' : InMemoryBackend ρ} {r r' : RedisStore ρ}

theorem recordsRelated_clear : RecordsRelated m.clear RedisStore.empty where
  stored _ _ _ hget := nomatch hget
  holds _ _ hget := nomatch hget
  unshared _ _ _ hget := nomatch hget
  nodup _ := List.nodup_nil
  recordIds _ _ := by simp [RedisStore.recordIdsOf, RedisStore.empty, getRecord,
    recordsOf, InMemoryBackend.clear, InMemoryBackend.empty]

theorem RecordsRelated.congr (hrel : RecordsRelated m r) (hmemory : m'.records = m.records)
    (hrecords : r'.records = r.records) (hids : r'.recordIds = r.recordIds) :
    RecordsRelated m' r' := by
  have hget : ∀ kind id, m'.getRecord kind id = m.getRecord kind id := by
    intro kind id
    unfold getRecord recordsOf
    rw [hmemory]
  have hgetRedis : ∀ kind id, r'.getRecord kind id = r.getRecord kind id := by
    intro kind id
    unfold RedisStore.getRecord
    rw [hrecords]
  have hidsOf : ∀ kind, r'.recordIdsOf kind = r.recordIdsOf kind := by
    intro kind
    unfold RedisStore.recordIdsOf
    rw [hids]
  constructor
  · intro kind id value
    rw [hget, hgetRedis]
    exact hrel.stored kind id value
  · intro key value
    rw [hrecords]
    simpa only [hget] using hrel.holds key value
  · intro kind id value hstored kind' id' value' hstored' hkey
    rw [hget] at hstored hstored'
    exact hrel.unshared kind id value hstored kind' id' value' hstored' hkey
  · intro kind
    rw [hidsOf]
    exact hrel.nodup kind
  · intro kind id
    rw [hidsOf, hget]
    exact hrel.recordIds kind id

theorem getRecord_setRecord (kind id kind' id' : String) (value : ρ) :
    (m.setRecord kind id value).getRecord kind' id' =
      if kind' = kind ∧ id' = id then some value else m.getRecord kind' id' := by
  unfold InMemoryBackend.setRecord getRecord
  rw [show ∀ rs, ({ m with records := rs } : InMemoryBackend ρ).recordsOf kind' =
    (rs.get? kind').getD .empty from fun _ => rfl, get?_set]
  by_cases hkind : kind' = kind
  · subst hkind
    simp [get?_set]
  · simp [hkind, recordsOf]

theorem getRecord_deleteRecord (kind id kind' id' : String) :
    (m.deleteRecord kind id).getRecord kind' id' =
      if kind' = kind ∧ id' = id then none else m.getRecord kind' id' := by
  unfold InMemoryBackend.deleteRecord getRecord
  rw [show ∀ rs, ({ m with records := rs } : InMemoryBackend ρ).recordsOf kind' =
    (rs.get? kind').getD .empty from fun _ => rfl, get?_set]
  by_cases hkind : kind' = kind
  · subst hkind
    simp [get?_delete]
  · simp [hkind, recordsOf]

theorem recordIdsOf_setRecord (kind id kind' : String) (value : ρ) :
    (r.setRecord kind id value).recordIdsOf kind' =
      if kind' = kind then sadd id (r.recordIdsOf kind) else r.recordIdsOf kind' := by
  unfold RedisStore.setRecord RedisStore.recordIdsOf
  rw [get?_set]
  split_ifs <;> rfl

theorem recordIdsOf_deleteRecord (kind id kind' : String) :
    (r.deleteRecord kind id).recordIdsOf kind' =
      if kind' = kind then (r.recordIdsOf kind).erase id else r.recordIdsOf kind' := by
  unfold RedisStore.deleteRecord RedisStore.recordIdsOf
  rw [get?_set]
  split_ifs <;> rfl

theorem RecordsRelated.getRecord_eq (hrel : RecordsRelated m r) {kind id : String}
    (hunshared : KeyUnshared m kind id) : r.getRecord kind id = m.getRecord kind id := by
  cases hget : m.getRecord kind id with
  | some value => exact hrel.stored kind id value hget
  | none =>
    cases hfound : r.getRecord kind id with
    | none => rfl
    | some value =>
      obtain ⟨kind', id', hkey, hstored⟩ := hrel.holds _ value hfound
      obtain ⟨rfl, rfl⟩ := hunshared kind' id' value hstored hkey
      rw [hget] at hstored
      cases hstored

theorem RecordsRelated.setRecord (hrel : RecordsRelated m r) {kind id : String} (value : ρ)
    (hunshared : KeyUnshared m kind id) :
    RecordsRelated (m.setRecord kind id value) (r.setRecord kind id value) := by
  constructor
  · intro kind' id' value'
    rw [getRecord_setRecord]
    change _ → (r.records.set (recordKey kind id) value).get? (recordKey kind' id') = some value'
    rw [get?_set]
    split_ifs with hsame hkey hkey
    · exact fun hget => hget
    · exact absurd (by rw [hsame.1, hsame.2]) hkey
    · exact fun hget => absurd (hunshared kind' id' value' hget hkey) hsame
    · exact hrel.stored kind' id' value'
  · intro key value'
    change (r.records.set (recordKey kind id) value).get? key = some value' → _
    rw [get?_set]
    split_ifs with hkey
    · intro hvalue
      exact ⟨kind, id, hkey.symm, by rw [getRecord_setRecord, if_pos ⟨rfl, rfl⟩, hvalue]⟩
    · intro hfound
      obtain ⟨kind', id', hkey', hget⟩ := hrel.holds key value' hfound
      refine ⟨kind', id', hkey', ?_⟩
      rw [getRecord_setRecord, if_neg, hget]
      rintro ⟨rfl, rfl⟩
      exact hkey hkey'.symm
  · intro kind' id' value' hget kind'' id'' value'' hget' hkey
    rw [getRecord_setRecord] at hget hget'
    split_ifs at hget hget' with hsame hsame' hsame'
    · rw [hsame.1, hsame.2, hsame'.1, hsame'.2]
      exact ⟨rfl, rfl⟩
    · rw [hsame.1, hsame.2] at hkey ⊢
      exact hunshared kind'' id'' value'' hget' hkey
    · rw [hsame'.1, hsame'.2] at hkey ⊢
      obtain ⟨hkind, hid⟩ := hunshared kind' id' value' hget hkey.symm
      exact ⟨hkind.symm, hid.symm⟩
    · exact hrel.unshared kind' id' value' hget kind'' id'' value'' hget' hkey
  · intro kind'
    rw [recordIdsOf_setRecord]
    split_ifs
    · exact nodup_sadd (hrel.nodup kind)
    · exact hrel.nodup kind'
  · intro kind' id'
    rw [recordIdsOf_setRecord, getRecord_setRecord]
    by_cases hkind : kind' = kind
    · subst hkind
      rw [if_pos rfl, mem_sadd, hrel.recordIds]
      by_cases hid : id' = id <;> simp [hid]
    · rw [if_neg hkind, hrel.recordIds]
      simp [hkind]

theorem RecordsRelated.deleteRecord (hrel : RecordsRelated m r) {kind id : String}
    (hunshared : KeyUnshared m kind id) :
    RecordsRelated (m.deleteRecord kind id) (r.deleteRecord kind id) := by
  constructor
  · intro kind' id' value'
    rw [getRecord_deleteRecord]
    change _ → (r.records.delete (recordKey kind id)).get? (recordKey kind' id') = some value'
    rw [get?_delete]
    split_ifs with hsame hkey hkey
    · exact fun hnone => nomatch hnone
    · exact fun hnone => nomatch hnone
    · exact fun hget => absurd (hunshared kind' id' value' hget hkey) hsame
    · exact hrel.stored kind' id' value'
  · intro key value'
    change (r.records.delete (recordKey kind id)).get? key = some value' → _
    rw [get?_delete]
    split_ifs with hkey
    · exact fun hnone => nomatch hnone
    · intro hfound
      obtain ⟨kind', id', hkey', hget⟩ := hrel.holds key value' hfound
      refine ⟨kind', id', hkey', ?_⟩
      rw [getRecord_deleteRecord, if_neg, hget]
      rintro ⟨rfl, rfl⟩
      exact hkey hkey'.symm
  · intro kind' id' value' hget kind'' id'' value'' hget' hkey
    rw [getRecord_deleteRecord] at hget hget'
    split_ifs at hget hget'
    exact hrel.unshared kind' id' value' hget kind'' id'' value'' hget' hkey
  · intro kind'
    rw [recordIdsOf_deleteRecord]
    split_ifs
    · exact (hrel.nodup kind).erase id
    · exact hrel.nodup kind'
  · intro kind' id'
    rw [recordIdsOf_deleteRecord, getRecord_deleteRecord]
    by_cases hkind : kind' = kind
    · subst hkind
      rw [if_pos rfl, (hrel.nodup kind').mem_erase_iff, hrel.recordIds]
      by_cases hid : id' = id <;> simp [hid]
    · rw [if_neg hkind, hrel.recordIds]
      simp [hkind]

theorem RecordsRelated.listRecords (hrel : RecordsRelated m r) (order : SetOrder) (kind : String) :
    (r.listRecords order kind).Perm (m.recordsOf kind).values := by
  have hget : (order.smembers (r.recordIdsOf kind)).filterMap (r.getRecord kind) =
      (order.smembers (r.recordIdsOf kind)).filterMap (m.recordsOf kind).get? := by
    refine List.filterMap_congr fun id hid => ?_
    obtain ⟨value, hvalue⟩ := (hrel.recordIds kind id).mp ((order.perm _).mem_iff.mp hid)
    rw [hrel.stored kind id value hvalue]
    exact hvalue.symm
  have hperm := (m.recordsOf kind).filterMap_get?_perm
    (p := fun _ => true) ((order.perm _).nodup_iff.mpr (hrel.nodup kind)) fun id => by
      rw [(order.perm _).mem_iff, hrel.recordIds]
      simp [getRecord]
  rw [List.filter_true] at hperm
  rw [RedisStore.listRecords, hget]
  exact hperm

end records

theorem related_clear {texts : TaskTexts} (m : InMemoryBackend ρ) : Related texts m.clear .empty where
  tasks := tasksRelated_empty
  events := eventsRelated_clear
  records := recordsRelated_clear
  jobs := rfl
  jobIds := rfl
  results := rfl
  retryCounts := rfl

theorem replaceEvents_tasks (r : Redis) (taskId : String) (events : List StateTransitionEvent) :
    (r.replaceEvents taskId events).tasks = r.tasks ∧
      (r.replaceEvents taskId events).taskIds = r.taskIds ∧
      (r.replaceEvents taskId events).stateIds = r.stateIds := by
  unfold Redis.replaceEvents
  dsimp only
  split_ifs <;> exact ⟨rfl, rfl, rfl⟩

end ShipyardCp.Store
