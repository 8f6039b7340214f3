import ShipyardCp.Store.BackendRelation
import ShipyardCp.Properties.PersistenceConvergence

/-! Where the two backends answer alike. Redis lists a hundred tasks unless told otherwise and none for a
limit of zero, an array of events that was handed out grows with the log, and two records can share a
key. -/

namespace ShipyardCp.Properties

open Types Store Lib InMemoryBackend Machine

variable {ρ : Type}

/-- A task is written with the version after the stored one, or the first. -/
def Successor (sys : Backends ρ) : BackendOp ρ → Prop
  | .setTask task => task.version = match sys.memory.tasks.get? task.taskId with
    | some stored => stored.version + 1
    | none => 0
  | _ => True

def ReadsBack (texts : TaskTexts) (_ : Backends ρ) : BackendOp ρ → Prop
  | .setTask task => texts.parse (texts.stringify task) = some task
  | _ => True

/-- A listing of tasks without a limit finds a hundred at most, and one with the limit zero finds none;
an event is added to no array that was handed out; a record shares its key with no other. -/
def Agreeing (sys : Backends ρ) : BackendOp ρ → Prop
  | .listTasks state limit _ =>
    (limit = none → (sys.memory.matchingTasks state).length ≤ 100) ∧
      (limit = some 0 → sys.memory.matchingTasks state = [])
  | .addEvent taskId _ => ∀ p ∈ sys.handedOut, sys.memory.events.get? taskId ≠ some p.1
  | .setRecord kind id _ | .getRecord kind id | .deleteRecord kind id =>
    KeyUnshared sys.memory kind id
  | _ => True

def limitCuts (sys : Backends ρ) : BackendOp ρ → Prop
  | .listTasks state (some limit) _ => limit < (sys.memory.matchingTasks state).length
  | _ => False

/-- The answers of the two backends; lists are compared as sets, and by length alone where a limit
cuts. -/
def SameAnswer (cuts : Prop) : BackendAnswer ρ → BackendAnswer ρ → Prop
  | .tasks tasks, .tasks tasks' => tasks.length = tasks'.length ∧ (¬cuts → tasks.Perm tasks')
  | .jobs jobs, .jobs jobs' => jobs.Perm jobs'
  | .records values, .records values' => values.Perm values'
  | answer, answer' => answer = answer'

def HandedOutKept (sys : Backends ρ) : Prop := ∀ p ∈ sys.handedOut, sys.memory.arrays[p.1]? = some p.2

section steps

variable {texts : TaskTexts} {sys : Backends ρ} {op : BackendOp ρ}

theorem sameAnswer_listTasks
    (hrel : TasksRelated texts sys.memory.tasks sys.redis.toRedis) {order : SetOrder}
    {state : Option TaskState} {limit : Option Int}
    (hagree : Agreeing sys (.listTasks state limit order)) :
    SameAnswer (limitCuts sys (.listTasks state limit order))
      (.tasks (sys.memory.listTasks state limit) : BackendAnswer ρ)
      (.tasks (sys.redis.listTasks texts order state limit)) := by
  obtain ⟨hlength, hperm⟩ := hrel.listTasks order state limit
  obtain ⟨hnone, hzero⟩ := hagree
  cases limit with
  | none =>
    have hfits : ((sys.memory.matchingTasks state).length : Int) ≤ 100 := by
      exact_mod_cast hnone rfl
    exact ⟨(hperm hfits).length_eq.symm, fun _ => (hperm hfits).symm⟩
  | some limit =>
    unfold listTasks
    dsimp only
    split_ifs with hlimit
    · subst hlimit
      rw [hzero rfl] at hlength hperm ⊢
      exact ⟨hlength.symm, fun _ => (hperm (by simp)).symm⟩
    · refine ⟨hlength.symm, fun hcut => ?_⟩
      have hfits : ((sys.memory.matchingTasks state).length : Int) ≤ limit := by
        rw [limitCuts] at hcut
        exact Int.not_lt.mp hcut
      rw [sliceTo_of_length_le hfits]
      exact (hperm hfits).symm

theorem related_perform (hrel : Related texts sys.memory sys.redis) (hsucc : Successor sys op)
    (hreads : ReadsBack texts sys op) (hagree : Agreeing sys op) :
    Related texts (sys.memory.perform op).2 (sys.redis.perform texts op).2 := by
  cases op with
  | setTask task =>
    obtain ⟨hevents, hjobs, hjobIds, hresults⟩ := @Redis.setTask_beside texts.decode
      sys.redis.toRedis task.taskId (texts.stringify task)
    exact
      { tasks := (hrel.tasks.setTask hreads hsucc).2
        events := hrel.events.congr rfl rfl hevents
        records := hrel.records.congr rfl rfl rfl
        jobs := hjobs.trans hrel.jobs
        jobIds := hjobIds.trans hrel.jobIds
        results := hresults.trans hrel.results
        retryCounts := hrel.retryCounts }
  | deleteTask taskId =>
    have hdeletes := sys.redis.deletes_deleteTask texts.decode taskId hrel.tasks.nodup
    obtain ⟨hjobs, hjobIds, hresults⟩ := hdeletes.beside
    exact
      { tasks := hrel.tasks.deleteTask taskId
        events := hrel.events.deleteTask taskId fun id => by
          rw [show (sys.redis.perform texts (.deleteTask taskId)).2.toRedis =
            sys.redis.deleteTask texts.decode taskId from rfl, hdeletes.getEvents]
          simp [Redis.deleteCommands]
        records := hrel.records.congr rfl rfl rfl
        jobs := hjobs.trans hrel.jobs
        jobIds := hjobIds.trans hrel.jobIds
        results := hresults.trans hrel.results
        retryCounts := hrel.retryCounts }
  | setJob job =>
    exact
      { tasks := hrel.tasks.congr rfl rfl rfl
        events := hrel.events.congr rfl rfl rfl
        records := hrel.records.congr rfl rfl rfl
        jobs := congrArg (fun jobs => jobs.set job.jobId job) hrel.jobs
        jobIds := by
          change sys.redis.jobIds.set _ _ = sys.memory.jobsByTask.set _ _
          unfold Redis.jobIdsOf jobIdsOf
          rw [hrel.jobIds]
        results := hrel.results
        retryCounts := hrel.retryCounts }
  | deleteJob jobId =>
    exact
      { tasks := hrel.tasks.congr rfl rfl rfl
        events := hrel.events.congr rfl rfl rfl
        records := hrel.records.congr rfl rfl rfl
        jobs := congrArg (fun jobs => jobs.delete jobId) hrel.jobs
        jobIds := by
          change (sys.redis.deleteJob jobId).jobIds = (sys.memory.deleteJob jobId).jobsByTask
          unfold RedisStore.deleteJob deleteJob Redis.jobIdsOf jobIdsOf
          rw [hrel.jobs, hrel.jobIds]
        results := hrel.results
        retryCounts := hrel.retryCounts }
  | setResult result =>
    exact
      { hrel with
        tasks := hrel.tasks.congr rfl rfl rfl
        events := hrel.events.congr rfl rfl rfl
        records := hrel.records.congr rfl rfl rfl
        results := congrArg (fun results => results.set result.jobId result) hrel.results }
  | deleteResult jobId =>
    exact
      { hrel with
        tasks := hrel.tasks.congr rfl rfl rfl
        events := hrel.events.congr rfl rfl rfl
        records := hrel.records.congr rfl rfl rfl
        results := congrArg (fun results => results.delete jobId) hrel.results }
  | addEvent taskId event =>
    have hkept : ∀ {m : InMemoryBackend ρ}, m = sys.memory.addEvent taskId event →
        m.tasks = sys.memory.tasks ∧ m.records = sys.memory.records ∧ m.jobs = sys.memory.jobs ∧
        m.jobsByTask = sys.memory.jobsByTask ∧ m.results = sys.memory.results ∧
        m.retryTracker = sys.memory.retryTracker := by
      rintro _ rfl
      unfold addEvent
      cases sys.memory.events.get? taskId <;> exact ⟨rfl, rfl, rfl, rfl, rfl, rfl⟩
    obtain ⟨htasks, hrecords, hjobs, hjobIds, hresults, hretries⟩ := hkept rfl
    exact
      { tasks := by
          change TasksRelated texts (sys.memory.addEvent taskId event).tasks _
          rw [htasks]
          exact hrel.tasks.congr rfl rfl rfl
        events := hrel.events.addEvent taskId event fun id => by
          change ((sys.redis.events.set _ _).get? id).getD [] = _
          rw [InsertionMap.get?_set]
          split_ifs <;> rfl
        records := hrel.records.congr hrecords rfl rfl
        jobs := hrel.jobs.trans hjobs.symm
        jobIds := hrel.jobIds.trans hjobIds.symm
        results := hrel.results.trans hresults.symm
        retryCounts := hrel.retryCounts.trans hretries.symm }
  | replaceEvents taskId events =>
    obtain ⟨hjobs, hjobIds, hresults⟩ := Redis.replaceEvents_beside sys.redis.toRedis taskId events
    obtain ⟨htasks, htaskIds, hstateIds⟩ := replaceEvents_tasks sys.redis.toRedis taskId events
    exact
      { tasks := hrel.tasks.congr htasks htaskIds hstateIds
        events := hrel.events.replaceEvents taskId events fun id =>
          Redis.replaceEvents_getEvents ..
        records := hrel.records.congr rfl rfl rfl
        jobs := hjobs.trans hrel.jobs
        jobIds := hjobIds.trans hrel.jobIds
        results := hresults.trans hrel.results
        retryCounts := hrel.retryCounts }
  | setRecord kind id value =>
    exact { hrel with
      tasks := hrel.tasks.congr rfl rfl rfl
      events := hrel.events.congr rfl rfl rfl
      records := hrel.records.setRecord value hagree }
  | deleteRecord kind id =>
    exact { hrel with
      tasks := hrel.tasks.congr rfl rfl rfl
      events := hrel.events.congr rfl rfl rfl
      records := hrel.records.deleteRecord hagree }
  | setRetryCount key count =>
    exact { hrel with
      events := hrel.events.congr rfl rfl rfl
      records := hrel.records.congr rfl rfl rfl
      retryCounts := congrArg (fun counts => counts.set key count) hrel.retryCounts }
  | incrementRetryCount key =>
    exact { hrel with
      events := hrel.events.congr rfl rfl rfl
      records := hrel.records.congr rfl rfl rfl
      retryCounts := by
        change sys.redis.retryCounts.set _ _ = sys.memory.retryTracker.set _ _
        unfold RedisStore.getRetryCount getRetryCount
        rw [hrel.retryCounts] }
  | clear =>
    exact related_clear sys.memory
  | _ => exact hrel

theorem sameAnswer_of_related (hrel : Related texts sys.memory sys.redis) (hsucc : Successor sys op)
    (hreads : ReadsBack texts sys op) (hagree : Agreeing sys op) :
    SameAnswer (limitCuts sys op) (sys.memory.perform op).1 (sys.redis.perform texts op).1 := by
  cases op with
  | getTask taskId =>
    have htask : sys.redis.getTask texts taskId = sys.memory.tasks.get? taskId := by
      unfold RedisStore.getTask
      rw [hrel.tasks.task?]
      cases hget : sys.memory.tasks.get? taskId with
      | none => rfl
      | some task => exact hrel.tasks.readsBack taskId task hget
    exact (congrArg BackendAnswer.task htask).symm
  | setTask task =>
    obtain ⟨hstored, _⟩ := hrel.tasks.setTask hreads hsucc
    exact (if_pos hstored).symm
  | listTasks state limit order => exact sameAnswer_listTasks hrel.tasks hagree
  | getJob jobId => exact congrArg (fun jobs => (.job (jobs.get? jobId) : BackendAnswer ρ)) hrel.jobs.symm
  | listJobsByTask taskId order =>
    change ((sys.memory.jobIdsOf taskId).filterMap _).Perm
      ((order.smembers (sys.redis.jobIdsOf taskId)).filterMap _)
    unfold Redis.jobIdsOf jobIdsOf
    rw [hrel.jobs, hrel.jobIds]
    exact ((order.perm _).filterMap _).symm
  | getResult jobId =>
    exact congrArg (fun results => (.result (results.get? jobId) : BackendAnswer ρ))
      hrel.results.symm
  | getEvents taskId => exact congrArg BackendAnswer.events (hrel.events.getEvents taskId).symm
  | getRecord kind id => exact congrArg BackendAnswer.record (hrel.records.getRecord_eq hagree).symm
  | listRecords kind order => exact (hrel.records.listRecords order kind).symm
  | getRetryCount key =>
    exact congrArg (fun counts => (.count ((counts.get? key).getD 0) : BackendAnswer ρ))
      hrel.retryCounts.symm
  | incrementRetryCount key =>
    exact congrArg (fun counts => (.count ((counts.get? key).getD 0 + 1) : BackendAnswer ρ))
      hrel.retryCounts.symm
  | _ => exact rfl

theorem handedOutKept_perform (hrel : Related texts sys.memory sys.redis)
    (hkept : HandedOutKept sys) (hagree : Agreeing sys op) :
    HandedOutKept (sys.perform texts op) := by
  have hstays : ∀ p ∈ sys.handedOut, (sys.memory.perform op).2.arrays[p.1]? = some p.2 := by
    intro p hp
    have hholds := hkept p hp
    have hin : p.1 < sys.memory.arrays.length := (List.getElem?_eq_some_iff.mp hholds).1
    cases op with
    | addEvent taskId event =>
      change (sys.memory.addEvent taskId event).arrays[p.1]? = _
      unfold addEvent
      cases haddress : sys.memory.events.get? taskId with
      | none => exact (List.getElem?_append_left hin).trans hholds
      | some address =>
        have hne : address ≠ p.1 := fun heq => hagree p hp (haddress.trans (congrArg some heq))
        simp [hne, hholds]
    | replaceEvents taskId events => exact (List.getElem?_append_left hin).trans hholds
    | _ => exact hholds
  intro p hp
  rcases List.mem_append.mp hp with hp | hp
  · exact hstays p hp
  · cases op with
    | getEvents taskId =>
      obtain ⟨address, haddress, rfl⟩ := List.mem_map.mp hp
      exact hrel.events.getEvents_eq (Option.mem_toList.mp haddress)
    | _ => cases hp

/-- In every run whose task writes carry the next version, and whose steps agree, each operation is
answered alike by the two backends and what was handed out stays as it was. -/
theorem backends_agree {h : History (Backends ρ) (BackendOp ρ)} (hrun : (backends ρ texts).Run h sys)
    (hsucc : Machine.Steps Successor h) (hreads : Machine.Steps (ReadsBack texts) h)
    (hagree : Machine.Steps Agreeing h) :
    Machine.Steps (fun sys op => SameAnswer (limitCuts sys op) (sys.memory.perform op).1
      (sys.redis.perform texts op).1) h ∧ HandedOutKept sys := by
  have hall : Machine.Steps (fun sys op =>
      Successor sys op ∧ ReadsBack texts sys op ∧ Agreeing sys op) h :=
    fun p hp => ⟨hsucc p hp, hreads p hp, hagree p hp⟩
  have hinvariant := Machine.Run.invariant
    (I := fun h sys => Related texts sys.memory sys.redis ∧ HandedOutKept sys ∧
      Machine.Steps (fun sys op => SameAnswer (limitCuts sys op) (sys.memory.perform op).1
        (sys.redis.perform texts op).1) h) ?_ ?_ hrun hall
  · exact ⟨hinvariant.2.2, hinvariant.2.1⟩
  · rintro _ rfl
    refine ⟨related_clear .empty, ?_, steps_nil _⟩
    intro p hp
    cases hp
  · rintro h sys op sys' _ _ ⟨hrel, hkept, hsame⟩ ⟨hsucc, hreads, hagree⟩ hstep
    obtain rfl : sys.perform texts op = sys' := Option.some.inj hstep
    refine ⟨related_perform hrel hsucc hreads hagree, handedOutKept_perform hrel hkept hagree, ?_⟩
    simp only [steps_append, steps_cons, steps_nil, and_true]
    exact ⟨hsame, sameAnswer_of_related hrel hsucc hreads hagree⟩

end steps

section samples

def storedTask : Task := newTask (sampleEnv "0") sampleRequest

def storedText : String :=
  "\x7b\"task_id\":\"task_0\",\"title\":\"title\",\"objective\":\"objective\"," ++
  "\"typed_ref\":\"memx:task:local:1\",\"state\":\"queued\",\"version\":0,\"risk_level\":\"low\"," ++
  "\"repo_ref\":\x7b\"owner\":\"owner\",\"name\":\"name\",\"default_branch\":\"main\"\x7d," ++
  "\"labels\":[],\"artifacts\":[],\"external_refs\":[]," ++
  "\"created_at\":\"1970-01-01T00:00:00.000Z\",\"updated_at\":\"1970-01-01T00:00:00.000Z\"\x7d"

theorem sampleCodec_stringify_ne (task : Task) : sampleCodec.stringify task ≠ storedText := by
  have hopen : storedText.toList.head? = some '\x7b' := by decide +kernel
  have hstate : ∀ state : TaskState, state.text.toList.head? ≠ some '\x7b' := by
    intro state
    cases state <;> decide +kernel
  have hstrokes : ∀ (version : Nat) (state : TaskState),
      (List.replicate version '1' ++ state.text.toList).head? ≠ some '\x7b' := by
    intro version state
    cases version with
    | zero => exact hstate state
    | succ version =>
      rw [List.replicate_succ, List.cons_append, List.head?_cons]
      decide +kernel
  intro htext
  refine hstrokes task.version task.state ?_
  rw [← hopen, ← htext, sampleCodec, String.toList_ofList]

/-- The text of the stored task, beside texts that say less of other tasks. -/
def sampleTexts : TaskTexts where
  stringify task := if task = storedTask then storedText else sampleCodec.stringify task
  decode text := if text = storedText then ⟨0, .queued⟩ else sampleCodec.decode text
  decode_stringify task := by
    split_ifs with htask htext htext
    · rw [htask]
      rfl
    · exact absurd rfl htext
    · exact absurd htext (sampleCodec_stringify_ne task)
    · exact sampleCodec.decode_stringify task
  parse text := if text = storedText then some storedTask else none

def storedEvent : StateTransitionEvent := createdEvent (sampleEnv "0") storedTask

theorem run_operation {h : History (Backends Unit) (BackendOp Unit)} {sys : Backends Unit}
    (hrun : (backends Unit sampleTexts).Run h sys) (op : BackendOp Unit) :
    (backends Unit sampleTexts).Run (h ++ [(sys, op)]) (sys.perform sampleTexts op) :=
  .snoc hrun rfl

theorem listed_task_agrees : ∃ h sys, (backends Unit sampleTexts).Run h sys ∧
    sys.redis.listTasks sampleTexts .added (some .queued) none = [storedTask] ∧
    Machine.Steps (fun sys op => SameAnswer (limitCuts sys op) (sys.memory.perform op).1
      (sys.redis.perform sampleTexts op).1) h ∧ HandedOutKept sys := by
  have hstored := run_operation (.start rfl) (.setTask storedTask)
  have hrun := run_operation hstored (.listTasks (some .queued) none .added)
  refine ⟨_, _, hrun, by decide +kernel, backends_agree hrun ?_ ?_ ?_⟩
  · simp only [steps_append, steps_cons, steps_nil, and_true, true_and]
    exact ⟨rfl, trivial⟩
  · simp only [steps_append, steps_cons, steps_nil, and_true, true_and]
    exact ⟨by rw [ReadsBack]; decide +kernel, trivial⟩
  · simp only [steps_append, steps_cons, steps_nil, and_true, true_and]
    exact ⟨trivial, fun _ => by decide +kernel, fun hlimit => by cases hlimit⟩

/-- The array of events that was handed out has grown with the log. -/
theorem handed_out_events_grow : ¬∀ (ρ : Type) texts h (sys : Backends ρ),
    (backends ρ texts).Run h sys → Machine.Steps Successor h → Machine.Steps (ReadsBack texts) h →
      Machine.Steps (fun sys op => SameAnswer (limitCuts sys op) (sys.memory.perform op).1
        (sys.redis.perform texts op).1) h ∧ HandedOutKept sys := by
  intro hall
  have hadded := run_operation (.start rfl) (.addEvent "task_0" storedEvent)
  have hread := run_operation hadded (.getEvents "task_0")
  have hrun := run_operation hread (.addEvent "task_0" storedEvent)
  have hkept := (hall Unit sampleTexts _ _ hrun
    (by simp [Machine.Steps, Successor]) (by simp [Machine.Steps, ReadsBack])).2
  have harray := hkept (0, [storedEvent]) (by decide +kernel)
  exact absurd harray (by decide +kernel)

end samples

end ShipyardCp.Properties
