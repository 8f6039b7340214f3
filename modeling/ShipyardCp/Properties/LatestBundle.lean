import ShipyardCp.AgentTaskstate.Backends

/-! Which bundle of a task is the latest. The backend in memory answers the first one, Redis whichever
its set has first, and the tables of SQLite lose the sources that a bundle is created with. -/

namespace ShipyardCp.Properties

open AgentTaskstate Lib
open Types (Timestamp)
open Store (SetOrder sadd)
open BundleLog InsertionMap TaskstateRedis TaskstateMemory BackendKind Answer

/-- The latest bundle of a task is the one created last, with the sources added since, and the latest run
in the snapshot of a new bundle the one started last. -/
def AnswersLatest (log : BundleLog) (op : BundleOp) : BundleReply → Prop
  | .latest bundle => ∀ taskId, op = .getLatestBundle taskId → bundle = (log.bundlesOf taskId).getLast?
  | .bundle bundle => bundle.stateSnapshot.latestRun =
      (log.runsOf bundle.taskId).getLast?.map latestRunOf
  | _ => True

/-- In memory a task has at most one bundle or run; Redis answers the id added last first; and in SQLite
the task has no bundle. -/
def FindsLatest : (kind : BackendKind) → BundleSystem kind.State → BundleCall → Prop
  | .memory, sys, call =>
    match call.op with
    | .getLatestBundle taskId => (sys.log.bundlesOf taskId).length ≤ 1
    | .createBundle taskId _ =>
      (inMemoryBackend.getTask sys.store taskId).isSome → (sys.log.runsOf taskId).length ≤ 1
    | _ => True
  | .redis, sys, call =>
    let backend := redisBackend call.order
    match call.op with
    | .getLatestBundle taskId => (call.order.smembers (bundleIds sys.store
        |>.members taskId)).head? = (sys.log.bundlesOf taskId).getLast?.map (·.id)
    | .createBundle taskId _ => (backend.getTask sys.store taskId).isSome →
      (call.order.smembers (runIds sys.store |>.members taskId)).head? =
        (sys.log.runsOf taskId).getLast?.map (·.id)
    | _ => True
  | .sqlite _, sys, call =>
    match call.op with
    | .getLatestBundle taskId => ∀ b ∈ TaskstateTables.bundles sys.store, b.taskId ≠ taskId
    | _ => True

section lists

variable {α : Type} {time : α → Timestamp} {xs : List α}

theorem head?_eq_getLast?_iff (hsorted : xs.Pairwise fun a b => time a < time b) :
    xs.head? = xs.getLast? ↔ xs.length ≤ 1 := by
  cases xs with
  | nil => simp
  | cons x xs =>
    cases xs with
    | nil => simp
    | cons y ys =>
      have hlast : (y :: ys).getLast (by simp) ∈ y :: ys := List.getLast_mem _
      have hless := (List.pairwise_cons.mp hsorted).1 _ hlast
      refine iff_of_false (fun heq => ?_) (by simp)
      have hx : x = (y :: ys).getLast (by simp) := by
        simpa [List.getLast?_eq_some_getLast] using heq
      rw [← hx] at hless
      exact absurd hless (Nat.lt_irrefl _)

theorem eq_of_time_eq (hsorted : xs.Pairwise fun a b => time a < time b) {a b : α} (ha : a ∈ xs)
    (hb : b ∈ xs) (htime : time a = time b) : a = b := by
  induction xs with
  | nil => cases ha
  | cons x xs ih =>
    obtain ⟨hfirst, hrest⟩ := List.pairwise_cons.mp hsorted
    rcases List.mem_cons.mp ha with ha | ha <;> rcases List.mem_cons.mp hb with hb | hb
    · rw [ha, hb]
    · exact absurd htime (Nat.ne_of_lt (ha ▸ hfirst b hb))
    · exact absurd htime.symm (Nat.ne_of_lt (hb ▸ hfirst a ha))
    · exact ih hrest ha hb

theorem orderByDesc_eq_reverse (hsorted : xs.Pairwise fun a b => time a < time b) :
    orderByDesc time xs = xs.reverse := by
  have hperm : (orderByDesc time xs).Perm xs := List.perm_insertionSort _ xs
  have hordered : (orderByDesc time xs).Pairwise fun a b => time b ≤ time a := by
    have : Std.Total fun a b : α => time b ≤ time a := ⟨fun a b => Nat.le_total (time b) (time a)⟩
    have : IsTrans α fun a b => time b ≤ time a := ⟨fun _ _ _ hab hbc => Nat.le_trans hbc hab⟩
    exact List.pairwise_insertionSort _ xs
  have hreverse : xs.reverse.Pairwise fun a b => time b ≤ time a :=
    List.pairwise_reverse.mpr (hsorted.imp fun hless => Nat.le_of_lt hless)
  refine List.Perm.eq_of_pairwise ?_ hordered hreverse (hperm.trans (List.reverse_perm xs).symm)
  intro a b ha hb hab hba
  exact eq_of_time_eq hsorted (hperm.mem_iff.mp ha) (List.mem_reverse.mp hb) (Nat.le_antisymm hba hab)

theorem head?_filterMap {β : Type} {f : β → Option α} {ks : List β} (hsome : ∀ k ∈ ks, (f k).isSome) :
    (ks.filterMap f).head? = ks.head?.bind f := by
  cases ks with
  | nil => rfl
  | cons k ks =>
    obtain ⟨a, ha⟩ := Option.isSome_iff_exists.mp (hsome k List.mem_cons_self)
    rw [List.filterMap_cons_some ha]
    exact ha.symm

end lists

section log

variable {σ : Type} {backend : TaskStateBackend σ} {call : BundleCall} {s : σ}

theorem BundleReply.of_reply {α : Type} {answer : Answer σ α} {ok : α → BundleReply}
    {P : BundleReply → Prop} (hok : ∀ a, answer.1 = .ok a → P (ok a)) (hfailed : ∀ e, P (.failed e)) :
    P (answer.reply ok).1 := by
  obtain ⟨result, s'⟩ := answer
  cases result with
  | ok a => exact hok a rfl
  | error e => exact hfailed e

theorem returning_eq_ok {α : Type} {answer : Answer σ Unit} {a b : α}
    (h : (answer.returning a).1 = .ok b) : answer.1 = .ok () ∧ b = a := by
  obtain ⟨result, s'⟩ := answer
  cases result with
  | ok u => exact ⟨rfl, (Except.ok.inj h).symm⟩
  | error e => cases h

/-- What a reply says of a run or a bundle that it answers. -/
def ReplyOf (call : BundleCall) : BundleReply → Prop
  | .run run => run.id = "run-" ++ call.ids 0 ∧ run.startedAt = call.now
  | .bundle bundle => bundle.id = call.ids 0 ∧ bundle.createdAt = call.now ∧
    ∃ source ∈ bundle.sources, source.contextBundleId = ""
  | _ => True

theorem replyOf_perform : ReplyOf call (call.perform backend s).1 := by
  unfold BundleCall.perform
  cases call.op with
  | startRun taskId =>
    refine BundleReply.of_reply (P := ReplyOf call) (fun run hrun => ?_) fun _ => trivial
    unfold startRun at hrun
    cases htask : backend.getTask s taskId with
    | none => simp [htask] at hrun
    | some task =>
      rw [htask] at hrun
      obtain ⟨_, rfl⟩ := returning_eq_ok hrun
      exact ⟨rfl, rfl⟩
  | createBundle taskId options =>
    refine BundleReply.of_reply (P := ReplyOf call) (fun bundle hbundle => ?_) fun _ => trivial
    unfold createBundle at hbundle
    cases htask : backend.getTask s taskId with
    | none => simp [htask] at hbundle
    | some task =>
      rw [htask] at hbundle
      obtain ⟨_, rfl⟩ := returning_eq_ok hbundle
      refine ⟨rfl, rfl, ?_⟩
      exact ⟨_, List.mem_cons_self, rfl⟩
  | getLatestBundle taskId => trivial
  | _ => exact BundleReply.of_reply (P := ReplyOf call) (fun _ _ => trivial) fun _ => trivial

theorem answersLatest_other {log : BundleLog} (hcreate : ∀ taskId options, call.op ≠ .createBundle taskId options)
    (hget : ∀ taskId, call.op ≠ .getLatestBundle taskId) :
    AnswersLatest log call.op (call.perform backend s).1 := by
  unfold BundleCall.perform
  cases hop : call.op with
  | createBundle taskId options => exact absurd hop (hcreate taskId options)
  | getLatestBundle taskId => exact absurd hop (hget taskId)
  | _ => exact BundleReply.of_reply (fun _ _ => trivial) fun _ => trivial

theorem answersLatest_getLatestBundle_iff {log : BundleLog} {ids : Nat → String} {now : Timestamp}
    {order : SetOrder} {taskId : String} :
    AnswersLatest log (.getLatestBundle taskId)
      (BundleCall.perform backend ⟨ids, now, order, .getLatestBundle taskId⟩ s).1 ↔
      (backend.getBundles s taskId).head? = (log.bundlesOf taskId).getLast? := by
  constructor
  · exact fun hanswers => hanswers taskId rfl
  · rintro heq taskId' ⟨⟩
    exact heq

theorem answersLatest_createBundle_iff {log : BundleLog} {ids : Nat → String} {now : Timestamp}
    {order : SetOrder} {taskId : String} {options : BundleOptions} :
    AnswersLatest log (.createBundle taskId options)
      (BundleCall.perform backend ⟨ids, now, order, .createBundle taskId options⟩ s).1 ↔
      ∀ task, backend.getTask s taskId = some task →
        (backend.createBundle s (newBundle backend ids now s task taskId options)).1 = .ok () →
        (backend.getRuns s taskId).head?.map latestRunOf =
          (log.runsOf taskId).getLast?.map latestRunOf := by
  simp only [BundleCall.perform, createBundle]
  cases htask : backend.getTask s taskId with
  | none => simp [reply, AnswersLatest]
  | some task =>
    obtain ⟨result, s', hcreated⟩ : ∃ result s',
        backend.createBundle s (newBundle backend ids now s task taskId options) = (result, s') :=
      ⟨_, _, rfl⟩
    cases result with
    | ok u =>
      simp only [hcreated, returning, reply, Except.map]
      exact ⟨fun hanswers _ _ _ => hanswers, fun hall => hall task rfl (congrArg Prod.fst hcreated)⟩
    | error e => simp [hcreated, returning, reply, Except.map, AnswersLatest]

/-- What holds of the logged runs and bundles: they come at increasing times, and each bundle has a source
that names no bundle. -/
structure LogInvariant (log : BundleLog) (now : Timestamp) : Prop where
  runs : log.runs.Pairwise fun a b => a.startedAt < b.startedAt
  runsPast : ∀ r ∈ log.runs, r.startedAt ≤ now
  bundles : log.bundles.Pairwise fun a b => a.createdAt < b.createdAt
  bundlesPast : ∀ b ∈ log.bundles, b.createdAt ≤ now
  sources : ∀ b ∈ log.bundles, ∃ source ∈ b.sources, source.contextBundleId = ""

variable {log : BundleLog} {now : Timestamp}

theorem logInvariant_empty : LogInvariant ⟨[], []⟩ 0 where
  runs := List.Pairwise.nil
  runsPast _ hmem := nomatch hmem
  bundles := List.Pairwise.nil
  bundlesPast _ hmem := nomatch hmem
  sources _ hmem := nomatch hmem

theorem pairwise_concat {α : Type} {time : α → Timestamp} {xs : List α} {x : α}
    (hsorted : xs.Pairwise fun a b => time a < time b) (hpast : ∀ a ∈ xs, time a ≤ now)
    (hnow : now < time x) : (xs ++ [x]).Pairwise fun a b => time a < time b := by
  refine List.pairwise_append.mpr ⟨hsorted, List.pairwise_singleton _ _, fun a ha b hb => ?_⟩
  rw [List.mem_singleton.mp hb]
  exact Nat.lt_of_le_of_lt (hpast a ha) hnow

@[simp] theorem attach_id (source : BundleSource) (b : ContextBundle) :
    (attach source b).id = b.id := by
  unfold attach
  split_ifs <;> rfl

@[simp] theorem attach_taskId (source : BundleSource) (b : ContextBundle) :
    (attach source b).taskId = b.taskId := by
  unfold attach
  split_ifs <;> rfl

@[simp] theorem attach_createdAt (source : BundleSource) (b : ContextBundle) :
    (attach source b).createdAt = b.createdAt := by
  unfold attach
  split_ifs <;> rfl

theorem subset_attach_sources (source : BundleSource) (b : ContextBundle) :
    b.sources ⊆ (attach source b).sources := by
  unfold attach
  split_ifs
  · exact List.subset_append_left _ _
  · exact List.Subset.refl _

theorem LogInvariant.record (hinv : LogInvariant log now) (hnow : now < call.now)
    {reply : BundleReply} (hreply : ReplyOf call reply) :
    LogInvariant (log.record reply) call.now := by
  have hruns : ∀ r ∈ log.runs, r.startedAt ≤ call.now :=
    fun r hr => Nat.le_of_lt (Nat.lt_of_le_of_lt (hinv.runsPast r hr) hnow)
  have hbundles : ∀ b ∈ log.bundles, b.createdAt ≤ call.now :=
    fun b hb => Nat.le_of_lt (Nat.lt_of_le_of_lt (hinv.bundlesPast b hb) hnow)
  have hkept : LogInvariant log call.now := ⟨hinv.runs, hruns, hinv.bundles, hbundles, hinv.sources⟩
  cases reply with
  | run run =>
    obtain ⟨_, hstarted⟩ := hreply
    refine { hkept with
      runs := pairwise_concat hinv.runs hinv.runsPast (hstarted ▸ hnow)
      runsPast := fun r hr => ?_ }
    rcases List.mem_append.mp hr with hr | hr
    · exact hruns r hr
    · rw [List.mem_singleton.mp hr, hstarted]
  | bundle bundle =>
    obtain ⟨_, hcreated, hsource⟩ := hreply
    refine { hkept with
      bundles := pairwise_concat hinv.bundles hinv.bundlesPast (hcreated ▸ hnow)
      bundlesPast := fun b hb => ?_
      sources := fun b hb => ?_ } <;> rcases List.mem_append.mp hb with hb | hb
    · exact hbundles b hb
    · rw [List.mem_singleton.mp hb, hcreated]
    · exact hinv.sources b hb
    · rw [List.mem_singleton.mp hb]
      exact hsource
  | source source =>
    refine { hkept with
      bundles := List.pairwise_map.mpr (hinv.bundles.imp fun hless => by simpa using hless)
      bundlesPast := fun b hb => ?_
      sources := fun b hb => ?_ } <;> obtain ⟨b', hb', rfl⟩ := List.mem_map.mp hb
    · rw [attach_createdAt]
      exact hbundles b' hb'
    · obtain ⟨first, hfirst, hempty⟩ := hinv.sources b' hb'
      exact ⟨first, subset_attach_sources source b' hfirst, hempty⟩
  | _ => exact hkept

theorem LogInvariant.runsOf (hinv : LogInvariant log now) (taskId : String) :
    (log.runsOf taskId).Pairwise fun a b => a.startedAt < b.startedAt :=
  hinv.runs.sublist List.filter_sublist

theorem LogInvariant.bundlesOf (hinv : LogInvariant log now) (taskId : String) :
    (log.bundlesOf taskId).Pairwise fun a b => a.createdAt < b.createdAt :=
  hinv.bundles.sublist List.filter_sublist

end log

section memory

variable {m : TaskstateMemory} {log : BundleLog} {call : BundleCall}

/-- The maps hold the logged runs and bundles in order. -/
structure MemoryLogged (m : TaskstateMemory) (log : BundleLog) : Prop where
  runs : m.runs.values = log.runs
  runKeys : ∀ id run, m.runs.get? id = some run → run.id = id
  bundles : m.bundles.values.map m.withSources = log.bundles
  bundleKeys : ∀ id bundle, m.bundles.get? id = some bundle → bundle.id = id

theorem memoryLogged_empty : MemoryLogged .empty ⟨[], []⟩ where
  runs := rfl
  runKeys _ _ hget := nomatch hget
  bundles := rfl
  bundleKeys _ _ hget := nomatch hget

theorem MemoryLogged.congr {m' : TaskstateMemory} (hlogged : MemoryLogged m log)
    (hruns : m'.runs = m.runs) (hbundles : m'.bundles = m.bundles)
    (hsources : m'.bundleSources = m.bundleSources) : MemoryLogged m' log := by
  constructor
  · rw [hruns]
    exact hlogged.runs
  · rw [hruns]
    exact hlogged.runKeys
  · have hwith : m'.withSources = m.withSources := by
      funext bundle
      unfold withSources
      rw [hsources]
    rw [hbundles, hwith]
    exact hlogged.bundles
  · rw [hbundles]
    exact hlogged.bundleKeys

theorem MemoryLogged.addRun (hlogged : MemoryLogged m log) (run : Run)
    (hnew : ∀ r ∈ log.runs, r.id ≠ run.id) :
    MemoryLogged { m with runs := m.runs.set run.id run } { log with runs := log.runs ++ [run] } := by
  have hnone : m.runs.get? run.id = none := by
    rw [Option.eq_none_iff_forall_ne_some]
    intro r hget
    have hmem := m.runs.mem_values_iff.mpr ⟨_, hget⟩
    rw [hlogged.runs] at hmem
    exact hnew r hmem (hlogged.runKeys _ r hget)
  constructor
  · change (m.runs.set run.id run).values = _
    rw [m.runs.values_set_of_get?_eq_none hnone, hlogged.runs]
  · intro id r hget
    rw [get?_set] at hget
    split_ifs at hget with hid
    · rw [← Option.some.inj hget, hid]
    · exact hlogged.runKeys id r hget
  · exact hlogged.bundles
  · exact hlogged.bundleKeys

theorem MemoryLogged.addBundle (hlogged : MemoryLogged m log) (bundle : ContextBundle)
    (hnew : ∀ b ∈ log.bundles, b.id ≠ bundle.id) :
    MemoryLogged { m with
      bundles := m.bundles.set bundle.id bundle
      bundleSources := m.bundleSources.set bundle.id bundle.sources }
      { log with bundles := log.bundles ++ [bundle] } := by
  have hother : ∀ b ∈ m.bundles.values, b.id ≠ bundle.id := by
    intro b hb
    refine hnew (m.withSources b) ?_
    rw [← hlogged.bundles]
    exact List.mem_map_of_mem hb
  have hnone : m.bundles.get? bundle.id = none := by
    rw [Option.eq_none_iff_forall_ne_some]
    intro b hget
    exact hother b (m.bundles.mem_values_iff.mpr ⟨_, hget⟩) (hlogged.bundleKeys _ b hget)
  constructor
  · exact hlogged.runs
  · exact hlogged.runKeys
  · change ((m.bundles.set bundle.id bundle).values.map _) = _
    rw [m.bundles.values_set_of_get?_eq_none hnone, List.map_append, ← hlogged.bundles]
    congr 1
    · refine List.map_congr_left fun b hb => ?_
      simp [withSources, hother b hb]
    · simp [withSources]
  · intro id b hget
    rw [get?_set] at hget
    split_ifs at hget with hid
    · rw [← Option.some.inj hget, hid]
    · exact hlogged.bundleKeys id b hget

theorem MemoryLogged.addSource (hlogged : MemoryLogged m log) (source : BundleSource) :
    MemoryLogged { m with
      bundleSources := m.bundleSources.set source.contextBundleId
        ((m.bundleSources.get? source.contextBundleId).getD [] ++ [source]) }
      { log with bundles := log.bundles.map (attach source) } := by
  constructor
  · exact hlogged.runs
  · exact hlogged.runKeys
  · change m.bundles.values.map _ = log.bundles.map _
    rw [← hlogged.bundles, List.map_map]
    refine List.map_congr_left fun b _ => ?_
    by_cases hid : b.id = source.contextBundleId <;>
      simp [withSources, attach, hid]
  · exact hlogged.bundleKeys

theorem MemoryLogged.perform (hlogged : MemoryLogged m log) (hnew : DrawsNew log call.ids) :
    MemoryLogged (call.perform inMemoryBackend m).2
      (log.record (call.perform inMemoryBackend m).1) := by
  unfold BundleCall.perform
  cases call.op with
  | createTask request => exact hlogged.congr rfl rfl rfl
  | createDecision taskId question options =>
    dsimp only
    unfold createDecision
    cases inMemoryBackend.getTask m taskId with
    | none => exact hlogged
    | some task => exact hlogged.congr rfl rfl rfl
  | createQuestion taskId question =>
    dsimp only
    unfold createQuestion
    cases inMemoryBackend.getTask m taskId with
    | none => exact hlogged
    | some task => exact hlogged.congr rfl rfl rfl
  | startRun taskId =>
    dsimp only
    unfold startRun
    cases inMemoryBackend.getTask m taskId with
    | none => exact hlogged
    | some task => exact hlogged.addRun _ hnew.runs
  | createBundle taskId options =>
    dsimp only
    unfold createBundle
    cases inMemoryBackend.getTask m taskId with
    | none => exact hlogged
    | some task => exact hlogged.addBundle _ hnew.bundles
  | addSource bundleId options =>
    dsimp only
    unfold AgentTaskstate.addSource
    cases inMemoryBackend.getBundle m bundleId with
    | none => exact hlogged
    | some bundle => exact hlogged.addSource _
  | getLatestBundle taskId => exact hlogged

theorem MemoryLogged.answersLatest_iff {now : Timestamp} (hlogged : MemoryLogged m log)
    (hinv : LogInvariant log now) :
    AnswersLatest log call.op (call.perform inMemoryBackend m).1 ↔
      FindsLatest .memory ⟨m, log, now⟩ call := by
  obtain ⟨ids, now', order, op⟩ := call
  cases op with
  | createBundle taskId options =>
    have hruns : inMemoryBackend.getRuns m taskId = log.runsOf taskId := by
      change m.runs.values.filter _ = _
      rw [hlogged.runs]
      rfl
    have hlatest := head?_eq_getLast?_iff (List.pairwise_map.mpr (hinv.runsOf taskId) :
      ((log.runsOf taskId).map latestRunOf).Pairwise fun a b => a.startedAt < b.startedAt)
    rw [List.head?_map, List.getLast?_map, List.length_map] at hlatest
    rw [answersLatest_createBundle_iff, hruns, hlatest]
    constructor
    · intro hall hsome
      obtain ⟨task, htask⟩ := Option.isSome_iff_exists.mp hsome
      exact hall task htask rfl
    · exact fun hfew task htask _ => hfew (Option.isSome_iff_exists.mpr ⟨task, htask⟩)
  | getLatestBundle taskId =>
    have hbundles : inMemoryBackend.getBundles m taskId = log.bundlesOf taskId := by
      change (m.bundles.values.filter fun b => b.taskId = taskId).map m.withSources = _
      rw [bundlesOf, ← hlogged.bundles, List.filter_map]
      rfl
    rw [answersLatest_getLatestBundle_iff, hbundles, head?_eq_getLast?_iff (hinv.bundlesOf taskId)]
    rfl
  | _ => exact iff_of_true (answersLatest_other nofun nofun) trivial

end memory

section redis

variable {r : TaskstateRedis} {log : BundleLog} {call : BundleCall}

/-- The keys hold the logged runs and bundles, and the sets their ids. -/
structure RedisLogged (r : TaskstateRedis) (log : BundleLog) : Prop where
  runs : ∀ run ∈ log.runs, r.runs.get? run.id = some run
  runIds : ∀ taskId, r.runIds.members taskId = (log.runsOf taskId).map (·.id)
  bundles : ∀ b ∈ log.bundles, r.getBundle b.id = some b
  bundleIds : ∀ taskId, r.bundleIds.members taskId = (log.bundlesOf taskId).map (·.id)
  sourceIds : ∀ id sources, r.bundleSources.get? id = some sources → ∃ b ∈ log.bundles, b.id = id
  logged : ∀ id b, r.bundles.get? id = some b → ∃ b ∈ log.bundles, b.id = id

theorem redisLogged_empty : RedisLogged .empty ⟨[], []⟩ where
  runs _ hmem := nomatch hmem
  runIds _ := rfl
  bundles _ hmem := nomatch hmem
  bundleIds _ := rfl
  sourceIds _ _ hget := nomatch hget
  logged _ _ hget := nomatch hget

theorem RedisLogged.congr {r' : TaskstateRedis} (hlogged : RedisLogged r log)
    (hruns : r'.runs = r.runs) (hrunIds : r'.runIds = r.runIds) (hbundles : r'.bundles = r.bundles)
    (hbundleIds : r'.bundleIds = r.bundleIds) (hsources : r'.bundleSources = r.bundleSources) :
    RedisLogged r' log where
  runs := hruns ▸ hlogged.runs
  runIds := hrunIds ▸ hlogged.runIds
  bundles b hb := by
    rw [← hlogged.bundles b hb]
    unfold getBundle
    rw [hbundles, hsources]
  bundleIds := hbundleIds ▸ hlogged.bundleIds
  sourceIds := hsources ▸ hlogged.sourceIds
  logged := hbundles ▸ hlogged.logged

theorem members_add (sets : IndexSets) (taskId id taskId' : String)
    (hnew : id ∉ sets.members taskId) : (sets.add taskId id).members taskId' =
      if taskId' = taskId then sets.members taskId ++ [id] else sets.members taskId' := by
  unfold IndexSets.add IndexSets.members
  rw [get?_set]
  split_ifs
  · exact if_neg hnew
  · rfl

theorem RedisLogged.addRun (hlogged : RedisLogged r log) (run : Run)
    (hnew : ∀ r ∈ log.runs, r.id ≠ run.id) :
    RedisLogged { r with
      runs := r.runs.set run.id run
      runIds := r.runIds.add run.taskId run.id } { log with runs := log.runs ++ [run] } := by
  have hmember : run.id ∉ r.runIds.members run.taskId := by
    rw [hlogged.runIds, List.mem_map]
    rintro ⟨other, hother, hid⟩
    exact hnew other (List.mem_of_mem_filter hother) hid
  constructor
  · intro other hother
    change (r.runs.set run.id run).get? other.id = some other
    rcases List.mem_append.mp hother with hother | hother
    · rw [get?_set, if_neg (hnew other hother)]
      exact hlogged.runs other hother
    · rw [List.mem_singleton.mp hother, get?_set_self]
  · intro taskId
    change (r.runIds.add run.taskId run.id).members taskId = _
    rw [members_add _ _ _ _ hmember, hlogged.runIds, hlogged.runIds]
    by_cases htask : taskId = run.taskId
    · simp [runsOf, htask]
    · simp [runsOf, htask, Ne.symm htask]
  · exact hlogged.bundles
  · exact hlogged.bundleIds
  · exact hlogged.sourceIds
  · exact hlogged.logged

theorem get?_pushSources (id id' : String) (sources : List BundleSource) :
    ((r.pushSources id sources).get? id').getD [] =
      if id' = id then (r.bundleSources.get? id).getD [] ++ sources
      else (r.bundleSources.get? id').getD [] := by
  unfold pushSources
  split_ifs with hempty hid hid
  · rw [List.isEmpty_iff.mp hempty, List.append_nil, hid]
  · rfl
  · rw [hid, get?_set_self]
    rfl
  · rw [get?_set_of_ne _ _ hid]

theorem id_of_get?_pushSources {id id' : String} {sources found : List BundleSource}
    (h : (r.pushSources id sources).get? id' = some found) :
    id' = id ∨ ∃ before, r.bundleSources.get? id' = some before := by
  unfold pushSources at h
  by_cases hid : id' = id
  · exact Or.inl hid
  · split_ifs at h
    · exact Or.inr ⟨_, h⟩
    · rw [get?_set_of_ne _ _ hid] at h
      exact Or.inr ⟨_, h⟩

theorem RedisLogged.addBundle (hlogged : RedisLogged r log) (bundle : ContextBundle)
    (hnew : ∀ b ∈ log.bundles, b.id ≠ bundle.id) :
    RedisLogged { r with
      bundles := r.bundles.set bundle.id { bundle with sources := [] }
      bundleIds := r.bundleIds.add bundle.taskId bundle.id
      bundleSources := r.pushSources bundle.id bundle.sources }
      { log with bundles := log.bundles ++ [bundle] } := by
  have hmember : bundle.id ∉ r.bundleIds.members bundle.taskId := by
    rw [hlogged.bundleIds, List.mem_map]
    rintro ⟨other, hother, hid⟩
    exact hnew other (List.mem_of_mem_filter hother) hid
  have hnone : r.bundleSources.get? bundle.id = none := by
    rw [Option.eq_none_iff_forall_ne_some]
    intro sources hget
    obtain ⟨b, hb, hid⟩ := hlogged.sourceIds _ sources hget
    exact hnew b hb hid
  constructor
  · exact hlogged.runs
  · exact hlogged.runIds
  · intro b hb
    unfold getBundle
    dsimp only
    rcases List.mem_append.mp hb with hb | hb
    · rw [get?_set_of_ne _ _ (hnew b hb), get?_pushSources, if_neg (hnew b hb)]
      exact hlogged.bundles b hb
    · rw [List.mem_singleton.mp hb, get?_set_self, get?_pushSources, if_pos rfl, hnone]
      rfl
  · intro taskId
    change (r.bundleIds.add bundle.taskId bundle.id).members taskId = _
    rw [members_add _ _ _ _ hmember, hlogged.bundleIds, hlogged.bundleIds]
    by_cases htask : taskId = bundle.taskId
    · simp [bundlesOf, htask]
    · simp [bundlesOf, htask, Ne.symm htask]
  · intro id sources hget
    rcases id_of_get?_pushSources hget with rfl | ⟨before, hbefore⟩
    · exact ⟨bundle, by simp, rfl⟩
    · obtain ⟨b, hb, hid⟩ := hlogged.sourceIds id before hbefore
      exact ⟨b, List.mem_append_left _ hb, hid⟩
  · intro id b hget
    change (r.bundles.set bundle.id _).get? id = some b at hget
    rw [get?_set] at hget
    split_ifs at hget with hid
    · exact ⟨bundle, by simp, hid.symm⟩
    · obtain ⟨b', hb', hid'⟩ := hlogged.logged id b hget
      exact ⟨b', List.mem_append_left _ hb', hid'⟩

theorem RedisLogged.addSource (hlogged : RedisLogged r log) (source : BundleSource)
    (hbundle : ∃ b ∈ log.bundles, b.id = source.contextBundleId) :
    RedisLogged { r with bundleSources := r.pushSources source.contextBundleId [source] }
      { log with bundles := log.bundles.map (attach source) } := by
  constructor
  · exact hlogged.runs
  · exact hlogged.runIds
  · intro b hb
    obtain ⟨b', hb', rfl⟩ := List.mem_map.mp hb
    have hstored := hlogged.bundles b' hb'
    unfold getBundle at hstored ⊢
    dsimp only
    rw [attach_id, get?_pushSources]
    obtain ⟨kept, hkept, hsame⟩ := Option.map_eq_some_iff.mp hstored
    rw [hkept]
    generalize hbefore : (r.bundleSources.get? b'.id).getD [] = before at hsame ⊢
    subst hsame
    unfold attach
    dsimp only [Option.map_some] at hbefore ⊢
    split_ifs with hid
    · rw [← hid, hbefore]
    · rfl
  · intro taskId
    change r.bundleIds.members taskId = _
    rw [hlogged.bundleIds, bundlesOf, bundlesOf, List.filter_map, List.map_map]
    congr 1
    · funext b
      simp
    · congr 1
      funext b
      simp
  · intro id sources hget
    have hlog : ∃ b ∈ log.bundles, b.id = id := by
      rcases id_of_get?_pushSources hget with rfl | ⟨before, hbefore⟩
      · exact hbundle
      · exact hlogged.sourceIds id before hbefore
    obtain ⟨b, hb, hid⟩ := hlog
    exact ⟨_, List.mem_map_of_mem hb, by rw [attach_id, hid]⟩
  · intro id b hget
    obtain ⟨b', hb', hid⟩ := hlogged.logged id b hget
    exact ⟨_, List.mem_map_of_mem hb', by rw [attach_id, hid]⟩

theorem RedisLogged.perform (hlogged : RedisLogged r log) (hnew : DrawsNew log call.ids) :
    RedisLogged (call.perform (redisBackend call.order) r).2
      (log.record (call.perform (redisBackend call.order) r).1) := by
  unfold BundleCall.perform
  cases call.op with
  | createTask request => exact hlogged.congr rfl rfl rfl rfl rfl
  | createDecision taskId question options =>
    dsimp only
    unfold createDecision
    cases (redisBackend call.order).getTask r taskId with
    | none => exact hlogged
    | some task => exact hlogged.congr rfl rfl rfl rfl rfl
  | createQuestion taskId question =>
    dsimp only
    unfold createQuestion
    cases (redisBackend call.order).getTask r taskId with
    | none => exact hlogged
    | some task => exact hlogged.congr rfl rfl rfl rfl rfl
  | startRun taskId =>
    dsimp only
    unfold startRun
    cases (redisBackend call.order).getTask r taskId with
    | none => exact hlogged
    | some task => exact hlogged.addRun _ hnew.runs
  | createBundle taskId options =>
    dsimp only
    unfold createBundle
    cases (redisBackend call.order).getTask r taskId with
    | none => exact hlogged
    | some task => exact hlogged.addBundle _ hnew.bundles
  | addSource bundleId options =>
    dsimp only
    unfold AgentTaskstate.addSource
    cases hbundle : (redisBackend call.order).getBundle r bundleId with
    | none => exact hlogged
    | some bundle =>
      obtain ⟨kept, hkept, _⟩ := Option.map_eq_some_iff.mp hbundle
      exact hlogged.addSource _ (hlogged.logged bundleId kept hkept)
  | getLatestBundle taskId => exact hlogged

theorem head?_members_iff {α β : Type} {f : String → Option α} {idOf : α → String} {xs : List α}
    {g : α → β} (order : SetOrder) (hfound : ∀ x ∈ xs, f (idOf x) = some x)
    (hg : ∀ x y, g x = g y → idOf x = idOf y) :
    ((order.smembers (xs.map idOf)).filterMap f).head?.map g = xs.getLast?.map g ↔
      (order.smembers (xs.map idOf)).head? = xs.getLast?.map idOf := by
  have hmember : ∀ id ∈ order.smembers (xs.map idOf), ∃ x ∈ xs, idOf x = id := fun id hid =>
    List.mem_map.mp ((order.perm _).mem_iff.mp hid)
  rw [head?_filterMap fun id hid => by
    obtain ⟨x, hx, rfl⟩ := hmember id hid
    rw [hfound x hx]
    rfl]
  cases hhead : (order.smembers (xs.map idOf)).head? with
  | none =>
    have hempty : xs = [] := by
      have hnil := List.head?_eq_none_iff.mp hhead
      have hlength := (order.perm (xs.map idOf)).length_eq
      rw [hnil] at hlength
      simpa using hlength.symm
    simp [hempty]
  | some id =>
    obtain ⟨x, hx, rfl⟩ := hmember id (List.mem_of_head? hhead)
    rw [Option.bind_some, hfound x hx]
    cases hlast : xs.getLast? with
    | none => simp
    | some y =>
      have hy := List.mem_of_getLast? hlast
      simp only [Option.map_some, Option.some.injEq]
      constructor
      · exact hg x y
      · intro hid
        have hsame : some x = some y := by rw [← hfound x hx, ← hfound y hy, hid]
        rw [Option.some.inj hsame]

theorem RedisLogged.answersLatest_iff {now : Timestamp} (hlogged : RedisLogged r log) :
    AnswersLatest log call.op (call.perform (redisBackend call.order) r).1 ↔
      FindsLatest .redis ⟨r, log, now⟩ call := by
  obtain ⟨ids, now', order, op⟩ := call
  cases op with
  | createBundle taskId options =>
    have hruns : (redisBackend order).getRuns r taskId =
        (order.smembers ((log.runsOf taskId).map (·.id))).filterMap r.runs.get? := by
      rw [← hlogged.runIds]
      rfl
    have hlatest := head?_members_iff order (f := r.runs.get?) (g := latestRunOf)
      (fun run hrun => hlogged.runs run (List.mem_of_mem_filter hrun) :
        ∀ run ∈ log.runsOf taskId, r.runs.get? run.id = some run)
      (fun x y hsame => congrArg LatestRun.id hsame)
    rw [← hruns] at hlatest
    rw [answersLatest_createBundle_iff, hlatest, ← hlogged.runIds]
    constructor
    · intro hall hsome
      obtain ⟨task, htask⟩ := Option.isSome_iff_exists.mp hsome
      exact hall task htask rfl
    · exact fun hfirst task htask _ => hfirst (Option.isSome_iff_exists.mpr ⟨task, htask⟩)
  | getLatestBundle taskId =>
    have hbundles : (redisBackend order).getBundles r taskId =
        (order.smembers ((log.bundlesOf taskId).map (·.id))).filterMap r.getBundle := by
      rw [← hlogged.bundleIds]
      rfl
    have hlatest := head?_members_iff order (f := r.getBundle) (g := id)
      (fun b hb => hlogged.bundles b (List.mem_of_mem_filter hb) :
        ∀ b ∈ log.bundlesOf taskId, r.getBundle b.id = some b)
      (fun x y hsame => congrArg ContextBundle.id hsame)
    rw [Option.map_id, id_eq, id_eq, ← hbundles, ← hlogged.bundleIds] at hlatest
    rw [answersLatest_getLatestBundle_iff, hlatest]
    rfl
  | _ => exact iff_of_true (answersLatest_other nofun nofun) trivial

end redis

section sqlite

variable {driver : SqlDriver} {t : TaskstateTables} {log : BundleLog} {call : BundleCall}

/-- The tables hold the logged runs and a row for each logged bundle. -/
structure TablesLogged (t : TaskstateTables) (log : BundleLog) : Prop where
  runs : t.runs = log.runs
  bundles : ∀ b ∈ log.bundles, ∃ row ∈ t.bundles, row.taskId = b.taskId
  nonempty : ∀ row ∈ t.bundles, row.id ≠ ""

theorem tablesLogged_empty : TablesLogged .empty ⟨[], []⟩ where
  runs := rfl
  bundles _ hmem := nomatch hmem
  nonempty _ hmem := nomatch hmem

def SameBundles (t t' : TaskstateTables) : Prop := t'.runs = t.runs ∧ t'.bundles = t.bundles

theorem TablesLogged.congr {t' : TaskstateTables} (hlogged : TablesLogged t log)
    (hbeside : SameBundles t t') : TablesLogged t' log where
  runs := hbeside.1.trans hlogged.runs
  bundles := hbeside.2 ▸ hlogged.bundles
  nonempty := hbeside.2 ▸ hlogged.nonempty

theorem createTask_beside (driver : SqlDriver) (t : TaskstateTables) (task : Task) :
    SameBundles t ((sqliteBackend driver).createTask t task).2 := by
  unfold sqliteBackend
  dsimp only
  split <;> exact ⟨rfl, rfl⟩

theorem addTransition_beside (driver : SqlDriver) (t : TaskstateTables) (transition : StateTransition) :
    SameBundles t ((sqliteBackend driver).addTransition t transition).2 := by
  unfold sqliteBackend
  dsimp only
  split <;> exact ⟨rfl, rfl⟩

theorem createDecision_beside (driver : SqlDriver) (t : TaskstateTables) (decision : Decision) :
    SameBundles t ((sqliteBackend driver).createDecision t decision).2 := by
  unfold sqliteBackend
  dsimp only
  split <;> exact ⟨rfl, rfl⟩

theorem createQuestion_beside (driver : SqlDriver) (t : TaskstateTables) (question : OpenQuestion) :
    SameBundles t ((sqliteBackend driver).createQuestion t question).2 := by
  unfold sqliteBackend
  dsimp only
  split <;> exact ⟨rfl, rfl⟩

theorem insertSource_beside (driver : SqlDriver) (t : TaskstateTables) (source : BundleSource) :
    SameBundles t (t.insertSource driver source).2 := by
  unfold TaskstateTables.insertSource
  split <;> exact ⟨rfl, rfl⟩

theorem insertSources_beside (driver : SqlDriver) (t : TaskstateTables) (sources : List BundleSource) :
    SameBundles t (TaskstateTables.insertSources driver t sources).2 := by
  induction sources generalizing t with
  | nil => exact ⟨rfl, rfl⟩
  | cons source sources ih =>
    have hbeside := insertSource_beside driver t source
    unfold TaskstateTables.insertSources
    split
    · next heq =>
      rw [heq] at hbeside
      exact hbeside
    · next t' heq =>
      rw [heq] at hbeside
      exact ⟨(ih t').1.trans hbeside.1, (ih t').2.trans hbeside.2⟩

theorem TablesLogged.createBundle (driver : SqlDriver) (hlogged : TablesLogged t log) (bundle : ContextBundle)
    (hid : bundle.id ≠ "") :
    TablesLogged (t.createBundle driver bundle).2 log ∧ ((t.createBundle driver bundle).1 = .ok () →
        TablesLogged (t.createBundle driver bundle).2
          { log with bundles := log.bundles ++ [bundle] }) := by
  unfold TaskstateTables.createBundle
  split
  · exact ⟨hlogged, nofun⟩
  · obtain ⟨hruns, hbundles⟩ := insertSources_beside driver
      { t with bundles := t.bundles ++ [{ bundle with sources := [] }] } bundle.sources
    have hnonempty : ∀ row ∈ t.bundles ++ [{ bundle with sources := [] }], row.id ≠ "" := by
      intro row hrow
      rcases List.mem_append.mp hrow with hrow | hrow
      · exact hlogged.nonempty row hrow
      · rw [List.mem_singleton.mp hrow]
        exact hid
    constructor
    · refine ⟨hruns.trans hlogged.runs, fun b hb => ?_, hbundles ▸ hnonempty⟩
      obtain ⟨row, hrow, htask⟩ := hlogged.bundles b hb
      exact ⟨row, hbundles ▸ List.mem_append_left _ hrow, htask⟩
    · refine fun _ => ⟨hruns.trans hlogged.runs, fun b hb => ?_, hbundles ▸ hnonempty⟩
      rcases List.mem_append.mp hb with hb | hb
      · obtain ⟨row, hrow, htask⟩ := hlogged.bundles b hb
        exact ⟨row, hbundles ▸ List.mem_append_left _ hrow, htask⟩
      · refine ⟨{ bundle with sources := [] }, hbundles ▸ List.mem_append_right _ ?_, ?_⟩
        · exact List.mem_singleton_self _
        · rw [List.mem_singleton.mp hb]

theorem TablesLogged.addSource (hlogged : TablesLogged t log) (source : BundleSource) :
    TablesLogged t { log with bundles := log.bundles.map (attach source) } := by
  refine ⟨hlogged.runs, fun b hb => ?_, hlogged.nonempty⟩
  obtain ⟨b', hb', rfl⟩ := List.mem_map.mp hb
  rw [attach_taskId]
  exact hlogged.bundles b' hb'

theorem TablesLogged.reply {α : Type} {answer : Answer TaskstateTables α} {ok : α → BundleReply}
    (hlogged : TablesLogged answer.2 log) (hok : ∀ a, log.record (ok a) = log) :
    TablesLogged (answer.reply ok).2 (log.record (answer.reply ok).1) := by
  obtain ⟨result, t'⟩ := answer
  cases result with
  | ok a => exact (hok a).symm ▸ hlogged
  | error e => exact hlogged

theorem TablesLogged.createRun (hlogged : TablesLogged t log) (run : Run) :
    TablesLogged ((((sqliteBackend driver).createRun t run).returning run).reply .run).2
      (log.record ((((sqliteBackend driver).createRun t run).returning run).reply .run).1) := by
  unfold sqliteBackend
  dsimp only
  split
  · exact hlogged
  · refine ⟨?_, hlogged.bundles, hlogged.nonempty⟩
    change t.runs ++ [run] = log.runs ++ [run]
    rw [hlogged.runs]

theorem TablesLogged.perform (hlogged : TablesLogged t log) (hnew : DrawsNew log call.ids) :
    TablesLogged (call.perform (sqliteBackend driver) t).2
      (log.record (call.perform (sqliteBackend driver) t).1) := by
  unfold BundleCall.perform
  cases call.op with
  | createTask request =>
    refine TablesLogged.reply ?_ fun _ => rfl
    unfold createTask
    dsimp only
    have hcreated := createTask_beside driver t (proposedTask (call.ids 0) call.now request)
    split
    · next heq =>
      rw [heq] at hcreated
      exact hlogged.congr hcreated
    · next t' heq =>
      rw [heq] at hcreated
      exact (hlogged.congr hcreated).congr (addTransition_beside driver t' _)
  | createDecision taskId question options =>
    refine TablesLogged.reply ?_ fun _ => rfl
    unfold createDecision
    cases (sqliteBackend driver).getTask t taskId with
    | none => exact hlogged
    | some task => exact hlogged.congr (createDecision_beside driver t _)
  | createQuestion taskId question =>
    refine TablesLogged.reply ?_ fun _ => rfl
    unfold createQuestion
    cases (sqliteBackend driver).getTask t taskId with
    | none => exact hlogged
    | some task => exact hlogged.congr (createQuestion_beside driver t _)
  | startRun taskId =>
    dsimp only
    unfold startRun
    cases (sqliteBackend driver).getTask t taskId with
    | none => exact hlogged
    | some task => exact hlogged.createRun _
  | createBundle taskId options =>
    dsimp only
    unfold AgentTaskstate.createBundle
    cases (sqliteBackend driver).getTask t taskId with
    | none => exact hlogged
    | some task =>
      obtain ⟨hfailed, hcreated⟩ := TablesLogged.createBundle driver hlogged
        (newBundle (sqliteBackend driver) call.ids call.now t task taskId options) hnew.nonempty
      dsimp only
      change TablesLogged (((t.createBundle driver _).returning _).reply .bundle).2
        (log.record (((t.createBundle driver _).returning _).reply .bundle).1)
      generalize t.createBundle driver _ = answer at hfailed hcreated ⊢
      obtain ⟨result, t'⟩ := answer
      cases result with
      | ok u => exact hcreated rfl
      | error e => exact hfailed
  | addSource bundleId options =>
    dsimp only
    unfold AgentTaskstate.addSource
    cases (sqliteBackend driver).getBundle t bundleId with
    | none => exact hlogged
    | some bundle =>
      dsimp only
      have hbeside := insertSource_beside driver t
        ⟨call.ids 0, bundleId, options.typedRef, options.sourceKind,
          options.selectedRaw.getD false, options.metadata, call.now⟩
      change TablesLogged (((t.insertSource driver _).returning _).reply .source).2
        (log.record (((t.insertSource driver _).returning _).reply .source).1)
      generalize t.insertSource driver _ = answer at hbeside ⊢
      obtain ⟨result, t'⟩ := answer
      cases result with
      | ok u => exact (hlogged.congr hbeside).addSource _
      | error e => exact hlogged.congr hbeside
  | getLatestBundle taskId => exact hlogged

theorem TablesLogged.answersLatest_iff {now : Timestamp} (hlogged : TablesLogged t log)
    (hinv : LogInvariant log now) :
    AnswersLatest log call.op (call.perform (sqliteBackend driver) t).1 ↔
      FindsLatest (.sqlite driver) ⟨t, log, now⟩ call := by
  obtain ⟨ids, now', order, op⟩ := call
  cases op with
  | createBundle taskId options =>
    have hruns : (sqliteBackend driver).getRuns t taskId = (log.runsOf taskId).reverse := by
      rw [← orderByDesc_eq_reverse (hinv.runsOf taskId), runsOf, ← hlogged.runs]
      rfl
    rw [answersLatest_createBundle_iff, hruns, List.head?_reverse]
    exact iff_of_true (fun _ _ _ => rfl) trivial
  | getLatestBundle taskId =>
    rw [answersLatest_getLatestBundle_iff]
    change ((orderByDesc (·.createdAt) (t.bundles.filter fun b => b.taskId = taskId)).filterMap
      fun b => t.getBundle b.id).head? = _ ↔ ∀ b ∈ t.bundles, b.taskId ≠ taskId
    have hperm : (orderByDesc (·.createdAt) (t.bundles.filter fun b => b.taskId = taskId)).Perm
        (t.bundles.filter fun b => b.taskId = taskId) := List.perm_insertionSort _ _
    have hrow : ∀ b ∈ t.bundles, (t.getBundle b.id).isSome := by
      intro b hb
      rw [TaskstateTables.getBundle, Option.isSome_map, List.find?_isSome]
      exact ⟨b, hb, by simp⟩
    rw [head?_filterMap fun b hb => hrow b (List.mem_of_mem_filter (hperm.mem_iff.mp hb))]
    cases hhead : (orderByDesc (·.createdAt) (t.bundles.filter fun b => b.taskId = taskId)).head? with
    | none =>
      have hempty : (t.bundles.filter fun b => b.taskId = taskId) = [] := by
        have hlength := hperm.length_eq
        rw [List.head?_eq_none_iff.mp hhead] at hlength
        simpa using hlength.symm
      have hnone : ∀ b ∈ t.bundles, b.taskId ≠ taskId := by
        simpa using List.filter_eq_nil_iff.mp hempty
      have hlog : log.bundlesOf taskId = [] := by
        refine List.filter_eq_nil_iff.mpr fun b hb htask => ?_
        obtain ⟨row, hmem, hsame⟩ := hlogged.bundles b hb
        exact hnone row hmem (hsame.trans (by simpa using htask))
      rw [hlog]
      exact iff_of_true rfl hnone
    | some row =>
      have hmem : row ∈ t.bundles.filter fun b => b.taskId = taskId :=
        hperm.mem_iff.mp (List.mem_of_head? hhead)
      obtain ⟨hrowMem, htask⟩ := List.mem_filter.mp hmem
      refine iff_of_false (fun heq => ?_) fun hall => hall row hrowMem (by simpa using htask)
      obtain ⟨found, hfound⟩ := Option.isSome_iff_exists.mp (hrow row hrowMem)
      rw [Option.bind_some, hfound] at heq
      obtain ⟨source, hsource, hempty⟩ :=
        hinv.sources found (List.mem_of_mem_filter (List.mem_of_getLast? heq.symm))
      obtain ⟨kept, _, rfl⟩ := Option.map_eq_some_iff.mp hfound
      have hid : source.contextBundleId = row.id := by
        simpa using (List.mem_filter.mp hsource).2
      exact hlogged.nonempty row hrowMem (hid.symm.trans hempty)
  | _ => exact iff_of_true (answersLatest_other nofun nofun) trivial

end sqlite

section runs

def Logged : (kind : BackendKind) → kind.State → BundleLog → Prop
  | .memory, m, log => MemoryLogged m log
  | .redis, r, log => RedisLogged r log
  | .sqlite _, t, log => TablesLogged t log

theorem logged_empty : (kind : BackendKind) → Logged kind kind.empty ⟨[], []⟩
  | .memory => memoryLogged_empty
  | .redis => redisLogged_empty
  | .sqlite _ => tablesLogged_empty

theorem logged_perform {log : BundleLog} {call : BundleCall} (hnew : DrawsNew log call.ids) :
    (kind : BackendKind) → {store : kind.State} → Logged kind store log →
      Logged kind (call.perform (kind.backend call.order) store).2
        (log.record (call.perform (kind.backend call.order) store).1)
  | .memory, _, hlogged => MemoryLogged.perform hlogged hnew
  | .redis, _, hlogged => RedisLogged.perform hlogged hnew
  | .sqlite _, _, hlogged => TablesLogged.perform hlogged hnew

theorem answersLatest_iff_findsLatest {log : BundleLog} {now : Timestamp} {call : BundleCall}
    (hinv : LogInvariant log now) : (kind : BackendKind) → {store : kind.State} →
      Logged kind store log →
      (AnswersLatest log call.op (call.perform (kind.backend call.order) store).1 ↔
        FindsLatest kind ⟨store, log, now⟩ call)
  | .memory, _, hlogged => MemoryLogged.answersLatest_iff hlogged hinv
  | .redis, _, hlogged => RedisLogged.answersLatest_iff hlogged
  | .sqlite _, _, hlogged => TablesLogged.answersLatest_iff hlogged hinv

/-- In every run over each of the backends, the answers tell the latest exactly where the backend finds
it. -/
theorem bundles_latest_iff {kind : BackendKind} {h : History (BundleSystem kind.State) BundleCall}
    {sys : BundleSystem kind.State} (hrun : (bundleCalls kind).Run h sys) :
    Machine.Steps (fun sys call => AnswersLatest sys.log call.op
      (call.perform (kind.backend call.order) sys.store).1) h ↔
      Machine.Steps (FindsLatest kind) h := by
  have hinvariant : ∀ {h sys}, (bundleCalls kind).Run h sys →
      LogInvariant sys.log sys.now ∧ Logged kind sys.store sys.log := by
    intro h sys hrun
    refine Machine.Run.stateInvariant (C := fun _ _ => True)
      (I := fun sys => LogInvariant sys.log sys.now ∧ Logged kind sys.store sys.log) ?_ ?_ hrun
      fun _ _ => trivial
    · rintro _ rfl
      exact ⟨logInvariant_empty, logged_empty kind⟩
    · rintro sys call _ ⟨hinv, hlogged⟩ _ ⟨hnow, hnew, rfl⟩
      have hlog : LogInvariant
          (sys.log.record (call.perform (kind.backend call.order) sys.store).1) call.now :=
        hinv.record hnow replyOf_perform
      have hstore : Logged kind (call.perform (kind.backend call.order) sys.store).2
          (sys.log.record (call.perform (kind.backend call.order) sys.store).1) :=
        logged_perform hnew kind hlogged
      exact ⟨hlog, hstore⟩
  have hstep : ∀ p ∈ h, AnswersLatest p.1.log p.2.op
      (p.2.perform (kind.backend p.2.order) p.1.store).1 ↔ FindsLatest kind p.1 p.2 := by
    intro p hp
    obtain ⟨h₁, h₂, rfl⟩ := List.append_of_mem hp
    obtain ⟨_, hbefore, _, _⟩ := hrun.split
    obtain ⟨hinv, hlogged⟩ := hinvariant hbefore
    exact answersLatest_iff_findsLatest hinv kind hlogged
  exact forall₂_congr hstep

end runs

section samples

def bundleRequest : CreateTaskRequest := ⟨.feature, "title", "goal", none, none, none⟩

def callAt (name : String) (now : Timestamp) (op : BundleOp) : BundleCall :=
  ⟨fun i => String.ofList (name.toList ++ List.replicate i '+'), now, .added, op⟩

def bundleOp : BundleOp := .createBundle "task-a" ⟨.continueWork, none, none, none⟩

def afterCalls (kind : BackendKind) (sys : BundleSystem kind.State) :
    List BundleCall → BundleSystem kind.State
  | [] => sys
  | call :: calls => afterCalls kind (sys.perform call) calls

def stepsOf (kind : BackendKind) (sys : BundleSystem kind.State) :
    List BundleCall → History (BundleSystem kind.State) BundleCall
  | [] => []
  | call :: calls => (sys, call) :: stepsOf kind (sys.perform call) calls

def inSequence (kind : BackendKind) (sys : BundleSystem kind.State) (calls : List BundleCall) : Bool :=
  (stepsOf kind sys calls).all fun p => p.1.now < p.2.now ∧ p.2.ids 0 ≠ "" ∧
    (∀ b ∈ p.1.log.bundles, b.id ≠ p.2.ids 0) ∧ ∀ r ∈ p.1.log.runs, r.id ≠ "run-" ++ p.2.ids 0

theorem path_of_inSequence {kind : BackendKind} {sys : BundleSystem kind.State}
    {calls : List BundleCall} (hcalls : inSequence kind sys calls = true) :
    (bundleCalls kind).Path sys (stepsOf kind sys calls) (afterCalls kind sys calls) := by
  induction calls generalizing sys with
  | nil => exact .nil
  | cons call calls ih =>
    rw [inSequence, stepsOf, List.all_cons, Bool.and_eq_true, decide_eq_true_eq] at hcalls
    obtain ⟨⟨hnow, hid, hbundles, hruns⟩, hrest⟩ := hcalls
    exact .cons ⟨hnow, ⟨hid, hbundles, hruns⟩, rfl⟩ (ih hrest)

theorem run_of_inSequence (kind : BackendKind) (calls : List BundleCall)
    (hcalls : inSequence kind ⟨kind.empty, ⟨[], []⟩, 0⟩ calls = true) :
    (bundleCalls kind).Run (stepsOf kind ⟨kind.empty, ⟨[], []⟩, 0⟩ calls)
      (afterCalls kind ⟨kind.empty, ⟨[], []⟩, 0⟩ calls) := by
  have hrun := Machine.Run.append (.start rfl) (path_of_inSequence hcalls)
  simpa using hrun

def firstCalls : List BundleCall := [callAt "a" 1 (.createTask bundleRequest), callAt "b" 2 bundleOp,
    callAt "c" 3 (.getLatestBundle "task-a")]

theorem findsLatest_of_few {sys : BundleSystem memory.State} {call : BundleCall}
    (hbundles : sys.log.bundles.length ≤ 1) (hruns : sys.log.runs.length ≤ 1) :
    FindsLatest .memory sys call := by
  obtain ⟨ids, now, order, op⟩ := call
  cases op with
  | createBundle taskId options =>
    exact fun _ => (List.length_filter_le _ _).trans hruns
  | getLatestBundle taskId => exact (List.length_filter_le _ _).trans hbundles
  | _ => trivial

theorem only_bundle_latest : ∃ h sys, (bundleCalls .memory).Run h sys ∧ sys.log.bundles.length = 1 ∧
    Machine.Steps (fun sys call => AnswersLatest sys.log call.op
      (call.perform (memory.backend call.order) sys.store).1) h := by
  have hrun := run_of_inSequence .memory firstCalls (by decide +kernel)
  have hfew : ((stepsOf .memory ⟨memory.empty, ⟨[], []⟩, 0⟩ firstCalls).all fun p =>
      p.1.log.bundles.length ≤ 1 ∧ p.1.log.runs.length ≤ 1) = true := by decide +kernel
  refine ⟨_, _, hrun, by decide +kernel, (bundles_latest_iff hrun).mpr fun p hp => ?_⟩
  obtain ⟨hbundles, hruns⟩ := of_decide_eq_true (List.all_eq_true.mp hfew p hp)
  exact findsLatest_of_few hbundles hruns

def secondCalls : List BundleCall :=
  [callAt "a" 1 (.createTask bundleRequest), callAt "b" 2 bundleOp, callAt "c" 3 bundleOp]

/-- The backend in memory goes on to answer the first of two bundles. -/
theorem first_bundle_answered : ¬∀ (kind : BackendKind) h (sys : BundleSystem kind.State),
    (bundleCalls kind).Run h sys → Machine.Steps (fun sys call => AnswersLatest sys.log call.op
      (call.perform (kind.backend call.order) sys.store).1) h := by
  intro hall
  have hrun := run_of_inSequence .memory
    (secondCalls ++ [callAt "d" 4 (.getLatestBundle "task-a")]) (by decide +kernel)
  have hanswers := hall .memory _ _ hrun (afterCalls .memory ⟨memory.empty, ⟨[], []⟩, 0⟩ secondCalls,
      callAt "d" 4 (.getLatestBundle "task-a"))
    (List.mem_cons_of_mem _ (List.mem_cons_of_mem _ (List.mem_cons_of_mem _ List.mem_cons_self)))
  have hids := congrArg (Option.map ContextBundle.id) (hanswers "task-a" rfl)
  exact absurd hids (by decide +kernel)

end samples

end ShipyardCp.Properties
