import ShipyardCp.Lib.Json
import ShipyardCp.Store.RedisBackend

/-! Whether the sets by which tasks are listed agree with the stored tasks, over any calls, commands of
deletions and expiries. -/

namespace ShipyardCp.Properties

open Types Lib Store Redis RedisSystem

variable (decode : String → TaskHead)

/-- The call writes the task of an id. -/
def writesKey (id : String) (sys : RedisSystem) (op : RedisOp) : Bool :=
  match op with
  | .setTask taskId text =>
    taskId = id && (sys.redis.setTask decode taskId text).1 && sys.redis.task? taskId ≠ some text
  | _ => false

/-- A set expires that lists the task of an id. -/
def fadesKey (id : String) (sys : RedisSystem) (op : RedisOp) : Bool :=
  match op with
  | .expireState state => (sys.redis.task? id).any fun text => (decode text).state = state
  | .expireList => true
  | _ => false

def Unexpired (id : String) (h : History RedisSystem RedisOp) : Prop :=
  Machine.Since (fun sys op => writesKey decode id sys op = true)
    (fun sys op => fadesKey decode id sys op = true) h

def Permits (limit : Option Int) (ids : List String) : Prop := (ids.length : Int) ≤ limit.getD 100

/-- The listings are exact. -/
structure IndexExact (h : History RedisSystem RedisOp) (r : Redis) : Prop where
  sound : ∀ order state limit, ∀ p ∈ r.listTasksBy order (some state) limit,
    (decode p.2).state = state
  once : ∀ order state limit, ((r.listTasksBy order state limit).map Prod.fst).Nodup
  complete : ∀ id text, r.task? id = some text → Unexpired decode id h → ∀ order,
    (∀ limit, Permits limit (r.stateIds (decode text).state) →
      (id, text) ∈ r.listTasksBy order (some (decode text).state) limit) ∧
    ∀ limit, Permits limit r.taskIds → (id, text) ∈ r.listTasksBy order none limit

/-- A task that is written where none is stored is in no set of another state, and a set loses no task
that is stored. -/
def KeepsIndex (h : History RedisSystem RedisOp) (sys : RedisSystem) (op : RedisOp) : Prop :=
  match op with
  | .setTask taskId text => sys.redis.task? taskId = none →
      ∀ state, taskId ∈ sys.redis.stateIds state → state = (decode text).state
  | .deleteCommand d => Unexpired decode d.taskId h →
      ∀ text, sys.redis.task? d.taskId = some text → ∀ command ∈ d.commands.head?,
        command ≠ .sremState (decode text).state ∧ command ≠ .sremList
  | _ => True

/-- The sets hold what they should. -/
structure IndexKept (h : History RedisSystem RedisOp) (r : Redis) : Prop where
  sound : ∀ state id text, id ∈ r.stateIds state → r.task? id = some text →
    (decode text).state = state
  complete : ∀ id text, r.task? id = some text → Unexpired decode id h →
    id ∈ r.stateIds (decode text).state ∧ id ∈ r.taskIds

section listings

variable {decode} {h : History RedisSystem RedisOp} {r : Redis}

theorem indexExact_iff (hnodup : SetsNodup r) : IndexExact decode h r ↔ IndexKept decode h r := by
  have hpermits : ∀ ids : List String, Permits (some ids.length) ids := fun ids => by simp [Permits]
  have hmembers : ∀ (order : SetOrder) (limit : Option Int) (members : List String),
      Permits limit members →
      ∀ id, id ∈ sliceTo (limit.getD 100) (order.smembers members) ↔ id ∈ members := by
    intro order limit members hpermit id
    have hlength : ((order.smembers members).length : Int) ≤ limit.getD 100 := by
      rw [(order.perm members).length_eq]
      exact hpermit
    rw [sliceTo_of_length_le hlength]
    exact (order.perm members).mem_iff
  have hlisted : ∀ order state limit, (r.listedIds order state limit).Nodup := by
    intro order state limit
    unfold listedIds
    refine List.Nodup.sublist (sliceTo_sublist _ _) ?_
    cases state with
    | none => exact (order.perm _).nodup_iff.mpr hnodup.taskIds
    | some state => exact (order.perm _).nodup_iff.mpr (hnodup.stateIds state)
  constructor
  · intro hexact
    constructor
    · intro state id text hmem htext
      refine hexact.sound .added state (some (r.stateIds state).length) (id, text) ?_
      exact mem_listTasksBy.mpr ⟨(hmembers _ _ _ (hpermits _) id).mpr hmem, htext⟩
    · intro id text htext hunexpired
      obtain ⟨hstate, hlist⟩ := hexact.complete id text htext hunexpired .added
      exact ⟨(hmembers _ _ _ (hpermits _) id).mp (mem_listTasksBy.mp (hstate _ (hpermits _))).1,
        (hmembers _ _ _ (hpermits _) id).mp (mem_listTasksBy.mp (hlist _ (hpermits _))).1⟩
  · intro hkept
    constructor
    · rintro order state limit ⟨id, text⟩ hmem
      obtain ⟨hid, htext⟩ := mem_listTasksBy.mp hmem
      exact hkept.sound state id text ((order.perm _).mem_iff.mp (mem_of_mem_sliceTo hid)) htext
    · intro order state limit
      have hsub : ((r.listTasksBy order state limit).map Prod.fst).Sublist
          (r.listedIds order state limit) := by
        unfold listTasksBy
        rw [List.map_filterMap]
        generalize r.listedIds order state limit = ids
        induction ids with
        | nil => exact List.Sublist.refl _
        | cons id ids ih =>
          cases htext : r.task? id with
          | none =>
            rw [List.filterMap_cons_none (by rw [htext]; rfl)]
            exact ih.cons id
          | some text =>
            rw [List.filterMap_cons_some (b := id) (by rw [htext]; rfl)]
            exact ih.cons_cons id
      exact (hlisted order state limit).sublist hsub
    · intro id text htext hunexpired order
      obtain ⟨hstate, hlist⟩ := hkept.complete id text htext hunexpired
      constructor
      · intro limit hpermit
        exact mem_listTasksBy.mpr ⟨(hmembers order limit _ hpermit id).mpr hstate, htext⟩
      · intro limit hpermit
        exact mem_listTasksBy.mpr ⟨(hmembers order limit _ hpermit id).mpr hlist, htext⟩

end listings

section steps

variable {decode} {h : History RedisSystem RedisOp} {sys sys' : RedisSystem} {op : RedisOp}
  {r : Redis} {id taskId text : String}

theorem setsNodup_of_step (hnodup : SetsNodup sys.redis)
    (hstep : (redisMachine decode).step sys op sys') : SetsNodup sys'.redis := by
  have hnext : sys.next decode op = some sys' := hstep
  cases op with
  | setTask taskId text =>
    obtain rfl := Option.some.inj hnext
    rcases setTask_cases decode sys.redis taskId text with
      ⟨heq, _⟩ | ⟨_, _, heq⟩ | ⟨existing, _, _, _, heq⟩
    · simpa only [heq] using hnodup
    · simpa only [heq] using hnodup.putTask taskId text _
    · simp only [heq]
      split_ifs
      · exact (hnodup.sremState _ taskId).putTask taskId text _
      · exact hnodup.putTask taskId text _
  | deleteTask taskId =>
    obtain rfl := Option.some.inj hnext
    change SetsNodup ((sys.redis.deleteCommands decode taskId).foldl _ sys.redis)
    generalize sys.redis.deleteCommands decode taskId = commands
    generalize sys.redis = r at hnodup
    induction commands generalizing r with
    | nil => exact hnodup
    | cons command commands ih => exact ih _ (hnodup.runDelete taskId command)
  | beginDelete taskId =>
    obtain rfl := Option.some.inj hnext
    exact hnodup
  | deleteCommand d =>
    simp only [next] at hnext
    split at hnext
    · cases hnext
    · split_ifs at hnext
      obtain rfl := Option.some.inj hnext
      exact hnodup.runDelete d.taskId _
  | expireTask taskId =>
    obtain rfl := Option.some.inj hnext
    exact ⟨hnodup.taskIds, hnodup.stateIds⟩
  | expireState state =>
    obtain rfl := Option.some.inj hnext
    refine ⟨hnodup.taskIds, fun s => ?_⟩
    change (if s = state then [] else sys.redis.stateIds s).Nodup
    split_ifs
    · exact List.nodup_nil
    · exact hnodup.stateIds s
  | expireList =>
    obtain rfl := Option.some.inj hnext
    exact ⟨List.nodup_nil, hnodup.stateIds⟩
  | expireEvents taskId =>
    obtain rfl := Option.some.inj hnext
    exact ⟨hnodup.taskIds, hnodup.stateIds⟩

theorem unexpired_snoc : Unexpired decode id (h ++ [(sys, op)]) ↔
    writesKey decode id sys op = true ∨ Unexpired decode id h ∧ ¬fadesKey decode id sys op = true :=
  Machine.since_snoc

variable {h' : History RedisSystem RedisOp}

theorem IndexKept.shrink {r' : Redis} (hkept : IndexKept decode h r)
    (htask : ∀ id text, r'.task? id = some text → r.task? id = some text)
    (hstate : ∀ state id, id ∈ r'.stateIds state → id ∈ r.stateIds state)
    (hstays : ∀ id text, r'.task? id = some text → Unexpired decode id h' → Unexpired decode id h ∧
        (id ∈ r.stateIds (decode text).state → id ∈ r'.stateIds (decode text).state) ∧
        (id ∈ r.taskIds → id ∈ r'.taskIds)) : IndexKept decode h' r' where
  sound state id text hmem htext := hkept.sound state id text (hstate state id hmem) (htask id text htext)
  complete id text htext hunexpired := by
    obtain ⟨hbefore, hstateIds, htaskIds⟩ := hstays id text htext hunexpired
    obtain ⟨hmemState, hmemList⟩ := hkept.complete id text (htask id text htext) hbefore
    exact ⟨hstateIds hmemState, htaskIds hmemList⟩

theorem IndexKept.put (hkept : IndexKept decode h r) (r₁ : Redis)
    (htask : ∀ x, x ≠ id → r₁.task? x = r.task? x)
    (hstate : ∀ state x, x ≠ id → (x ∈ r₁.stateIds state ↔ x ∈ r.stateIds state))
    (hlist : r₁.taskIds = r.taskIds)
    (hother : ∀ state, id ∈ r₁.stateIds state → (decode text).state = state)
    (hunexpired : ∀ x, x ≠ id → Unexpired decode x h' → Unexpired decode x h) :
    IndexKept decode h' (r₁.putTask id text (decode text).state) := by
  have hmemState : ∀ state x, x ∈ (r₁.putTask id text (decode text).state).stateIds state ↔
      (state = (decode text).state ∧ x = id) ∨ x ∈ r₁.stateIds state := by
    intro state x
    change x ∈ (if state = (decode text).state then sadd id (r₁.stateIds state)
      else r₁.stateIds state) ↔ _
    split_ifs with heq
    · rw [mem_sadd, heq]
      simp
    · simp [heq]
  have hmemList : ∀ x, x ∈ (r₁.putTask id text (decode text).state).taskIds ↔
      x = id ∨ x ∈ r.taskIds := fun x => by
    rw [← hlist]
    exact mem_sadd
  constructor
  · intro state x text' hmem htext
    rw [putTask_task?] at htext
    rcases (hmemState state x).mp hmem with ⟨hstate', hx⟩ | hbefore
    · rw [if_pos hx] at htext
      rw [← Option.some.inj htext, hstate']
    · by_cases hx : x = id
      · rw [if_pos hx] at htext
        rw [← Option.some.inj htext]
        exact hother state (hx ▸ hbefore)
      · rw [if_neg hx, htask x hx] at htext
        exact hkept.sound state x text' ((hstate state x hx).mp hbefore) htext
  · intro x text' htext hnow
    rw [putTask_task?] at htext
    rw [hmemState, hmemList]
    by_cases hx : x = id
    · rw [if_pos hx] at htext
      rw [← Option.some.inj htext]
      exact ⟨Or.inl ⟨rfl, hx⟩, Or.inl hx⟩
    · rw [if_neg hx, htask x hx] at htext
      obtain ⟨hmem, hmem'⟩ := hkept.complete x text' htext (hunexpired x hx hnow)
      exact ⟨Or.inr ((hstate _ x hx).mpr hmem), Or.inr hmem'⟩

theorem IndexKept.deleteTask (hkept : IndexKept decode h r) (hnodup : SetsNodup r)
    (hunexpired : ∀ x, Unexpired decode x h' → Unexpired decode x h) :
    IndexKept decode h' (r.deleteTask decode id) := by
  have hdeletes := deletes_deleteTask decode id hnodup
  refine hkept.shrink (fun x text htext => ?_) (fun state x hmem => ?_) fun x text htext hnow => ?_
  · rw [hdeletes.task?] at htext
    split_ifs at htext
    exact htext
  · exact ((hdeletes.stateIds state x).mp hmem).1
  · have hne : x ≠ id := fun heq => by
      rw [hdeletes.task?, if_pos ⟨heq, by simp [deleteCommands]⟩] at htext
      cases htext
    exact ⟨hunexpired x hnow,
      fun hmem => (hdeletes.stateIds _ x).mpr ⟨hmem, fun hboth => hne hboth.1⟩,
      fun hmem => (hdeletes.taskIds x).mpr ⟨hmem, fun hboth => hne hboth.1⟩⟩

theorem IndexKept.step (hkept : IndexKept decode h sys.redis) (hnodup : SetsNodup sys.redis)
    (hkeeps : KeepsIndex decode h sys op) (hstep : (redisMachine decode).step sys op sys') :
    IndexKept decode (h ++ [(sys, op)]) sys'.redis := by
  have hnext : sys.next decode op = some sys' := hstep
  have hbefore : ∀ x, writesKey decode x sys op = false → Unexpired decode x (h ++ [(sys, op)]) →
      Unexpired decode x h ∧ ¬fadesKey decode x sys op = true := fun x hwrites hnow => by
    rcases unexpired_snoc.mp hnow with hwritten | hold
    · rw [hwrites] at hwritten
      cases hwritten
    · exact hold
  cases op with
  | setTask taskId text =>
    obtain rfl := Option.some.inj hnext
    have hother : ∀ x, x ≠ taskId → writesKey decode x sys (.setTask taskId text) = false :=
      fun x hne => by simp [writesKey, Ne.symm hne]
    have hunexpired : ∀ x, x ≠ taskId →
        Unexpired decode x (h ++ [(sys, .setTask taskId text)]) → Unexpired decode x h :=
      fun x hne hnow => (hbefore x (hother x hne) hnow).1
    rcases setTask_cases decode sys.redis taskId text with
      ⟨heq, hkept'⟩ | ⟨_, hnone, heq⟩ | ⟨existing, _, hexisting, _, heq⟩
    · simp only [heq]
      refine hkept.shrink (fun _ _ htext => htext) (fun _ _ hmem => hmem) fun x text' _ hnow => ?_
      have hwrites : writesKey decode x sys (.setTask taskId text) = false := by
        rcases hkept' with hrejected | hsame
        · simp [writesKey, hrejected]
        · simp [writesKey, hsame]
      exact ⟨(hbefore x hwrites hnow).1, fun hmem => hmem, fun hmem => hmem⟩
    · simp only [heq]
      exact hkept.put _ (fun _ _ => rfl) (fun _ _ _ => Iff.rfl) rfl
        (fun state hmem => (hkeeps hnone state hmem).symm) hunexpired
    · simp only [heq]
      have hown : ∀ state, taskId ∈ sys.redis.stateIds state → (decode existing).state = state :=
        fun state hmem => hkept.sound state taskId existing hmem hexisting
      split_ifs with hmoved
      · refine hkept.put (sys.redis.sremState (decode existing).state taskId) (fun _ _ => rfl)
          (fun state x hne => ?_) rfl (fun state hmem => ?_) hunexpired
        · exact (mem_runDelete_stateIds (.sremState (decode existing).state) hnodup).trans
            (and_iff_left fun hboth => hne hboth.1)
        · obtain ⟨hmem, hremoved⟩ :=
            (mem_runDelete_stateIds (.sremState (decode existing).state) hnodup).mp hmem
          exact absurd ⟨rfl, congrArg _ (hown state hmem)⟩ hremoved
      · refine hkept.put _ (fun _ _ => rfl) (fun _ _ _ => Iff.rfl) rfl (fun state hmem => ?_) hunexpired
        rw [← hown state hmem]
        exact (not_not.mp hmoved).symm
  | deleteTask taskId =>
    obtain rfl := Option.some.inj hnext
    exact hkept.deleteTask hnodup fun x hnow => (hbefore x rfl hnow).1
  | beginDelete taskId =>
    obtain rfl := Option.some.inj hnext
    exact hkept.shrink (fun _ _ htext => htext) (fun _ _ hmem => hmem) fun x text _ hnow =>
      ⟨(hbefore x rfl hnow).1, fun hmem => hmem, fun hmem => hmem⟩
  | deleteCommand d =>
    cases hcommands : d.commands with
    | nil => simp [next, hcommands] at hnext
    | cons command commands =>
      simp only [next, hcommands] at hnext
      split_ifs at hnext
      obtain rfl := Option.some.inj hnext
      have htask : ∀ x text, (sys.redis.runDelete d.taskId command).task? x = some text →
          sys.redis.task? x = some text := fun x text htext => by
        rw [runDelete_task?] at htext
        split_ifs at htext
        exact htext
      refine hkept.shrink htask
        (fun state x hmem => ((mem_runDelete_stateIds command hnodup).mp hmem).1)
        fun x text htext hnow => ?_
      have hold := (hbefore x rfl hnow).1
      -- The condition is about the id of the deletion; the command concerns no other.
      have hstays : x = d.taskId →
          command ≠ .sremState (decode text).state ∧ command ≠ .sremList := fun hx => by
        subst hx
        exact hkeeps hold text (htask _ text htext) command (by rw [hcommands]; rfl)
      refine ⟨hold, fun hmem => (mem_runDelete_stateIds command hnodup).mpr ⟨hmem, ?_⟩,
        fun hmem => (mem_runDelete_taskIds command hnodup).mpr ⟨hmem, ?_⟩⟩
      · exact fun hboth => (hstays hboth.1).1 hboth.2
      · exact fun hboth => (hstays hboth.1).2 hboth.2
  | expireTask taskId =>
    obtain rfl := Option.some.inj hnext
    refine hkept.shrink (fun x text htext => ?_) (fun _ _ hmem => hmem) fun x text _ hnow =>
      ⟨(hbefore x rfl hnow).1, fun hmem => hmem, fun hmem => hmem⟩
    change (sys.redis.tasks.delete taskId).get? x = some text at htext
    rw [InsertionMap.get?_delete] at htext
    split_ifs at htext
    exact htext
  | expireState state =>
    obtain rfl := Option.some.inj hnext
    refine hkept.shrink (fun _ _ htext => htext) (fun state' x hmem => ?_) fun x text htext hnow => ?_
    · change x ∈ (if state' = state then [] else sys.redis.stateIds state') at hmem
      split_ifs at hmem
      · cases hmem
      · exact hmem
    · obtain ⟨hold, hfades⟩ := hbefore x rfl hnow
      have hne : (decode text).state ≠ state := fun heq => hfades (by
        have htext' : sys.redis.task? x = some text := htext
        simp [fadesKey, htext', heq])
      refine ⟨hold, fun hmem => ?_, fun hmem => hmem⟩
      change x ∈ (if (decode text).state = state then [] else sys.redis.stateIds (decode text).state)
      rwa [if_neg hne]
  | expireList =>
    obtain rfl := Option.some.inj hnext
    refine hkept.shrink (fun _ _ htext => htext) (fun _ _ hmem => hmem) fun x text _ hnow => ?_
    exact absurd rfl (hbefore x rfl hnow).2
  | expireEvents taskId =>
    obtain rfl := Option.some.inj hnext
    exact hkept.shrink (fun _ _ htext => htext) (fun _ _ hmem => hmem) fun x text _ hnow =>
      ⟨(hbefore x rfl hnow).1, fun hmem => hmem, fun hmem => hmem⟩

theorem keepsIndex_of_kept (hkept : IndexKept decode (h ++ [(sys, op)]) sys'.redis)
    (hnodup : SetsNodup sys.redis) (hstep : (redisMachine decode).step sys op sys') :
    KeepsIndex decode h sys op := by
  have hnext : sys.next decode op = some sys' := hstep
  cases op with
  | setTask taskId text =>
    obtain rfl := Option.some.inj hnext
    intro hnone state hmem
    have hput : (sys.redis.setTask decode taskId text).2 =
        sys.redis.putTask taskId text (decode text).state := by
      simp [setTask, taskCasScript, hnone]
    simp only [hput] at hkept
    refine (hkept.sound state taskId text ?_ (by rw [putTask_task?, if_pos rfl])).symm
    change taskId ∈ (if state = (decode text).state then sadd taskId (sys.redis.stateIds state)
      else sys.redis.stateIds state)
    split_ifs
    · exact mem_sadd.mpr (Or.inl rfl)
    · exact hmem
  | deleteCommand d =>
    intro hunexpired text htext command hcommand
    cases hcommands : d.commands with
    | nil => simp [hcommands] at hcommand
    | cons first commands =>
      obtain rfl : first = command := by simpa [hcommands] using hcommand
      simp only [next, hcommands] at hnext
      split_ifs at hnext
      obtain rfl := Option.some.inj hnext
      have hnow : Unexpired decode d.taskId (h ++ [(sys, .deleteCommand d)]) :=
        unexpired_snoc.mpr (Or.inr ⟨hunexpired, by simp [fadesKey]⟩)
      have hstays : first ≠ .delTask → d.taskId ∈
          (sys.redis.runDelete d.taskId first).stateIds (decode text).state ∧
          d.taskId ∈ (sys.redis.runDelete d.taskId first).taskIds := fun hne =>
        hkept.complete d.taskId text (by rw [runDelete_task?, if_neg fun hboth => hne hboth.2]; exact htext)
          hnow
      constructor
      · rintro rfl
        have hmem := (hstays (by simp)).1
        exact ((mem_runDelete_stateIds _ hnodup).mp hmem).2 ⟨rfl, rfl⟩
      · rintro rfl
        have hmem := (hstays (by simp)).2
        exact ((mem_runDelete_taskIds _ hnodup).mp hmem).2 ⟨rfl, rfl⟩
  | _ => trivial

/-- In every run of calls, single commands of deletions and expiries, the listings are exact after each
step exactly when each step keeps the index. -/
theorem indexExact_iff_keepsIndex (hrun : (redisMachine decode).Run h sys) :
    Machine.Guarded (fun h sys op => ∀ sys', (redisMachine decode).step sys op sys' →
      IndexExact decode (h ++ [(sys, op)]) sys'.redis) h ↔
    Machine.Guarded (KeepsIndex decode) h := by
  refine Machine.Run.guarded_iff
    (I := fun h sys => SetsNodup sys.redis ∧ IndexKept decode h sys.redis) ?_ ?_ ?_ hrun
  · rintro _ rfl
    refine ⟨⟨List.nodup_nil, fun _ => List.nodup_nil⟩, ?_, ?_⟩
    · intro _ id text hmem
      cases hmem
    · intro id text htext
      cases htext
  · rintro h sys op sys' _ ⟨hnodup, hkept⟩ hkeeps hstep
    exact ⟨setsNodup_of_step hnodup hstep, hkept.step hnodup hkeeps hstep⟩
  · rintro h sys op sys' _ ⟨hnodup, hkept⟩ hstep
    have hnodup' := setsNodup_of_step hnodup hstep
    constructor
    · intro hexact
      exact keepsIndex_of_kept ((indexExact_iff hnodup').mp (hexact sys' hstep)) hnodup hstep
    · intro hkeeps sys'' hstep'
      obtain rfl : sys' = sys'' := Option.some.inj (hstep.symm.trans hstep')
      exact (indexExact_iff hnodup').mpr (hkept.step hnodup hkeeps hstep)

end steps

section sample

/-- Reads the head of the text of a task, for the states of the samples. -/
def readHead (text : String) : TaskHead :=
  let task := (Json.parse text.toList).getD .null
  { version := match task.get? "version" with
      | some (.num mantissa _) => mantissa.toNat
      | _ => 0
    state := if (task.get? "state").bind Json.asString? = some "planning" then .planning
      else .queued }

def queuedText : String := "\x7b\"task_id\":\"task_0\",\"state\":\"queued\",\"version\":0\x7d"

def planningText : String := "\x7b\"task_id\":\"task_0\",\"state\":\"planning\",\"version\":1\x7d"

def laterText : String := "\x7b\"task_id\":\"task_1\",\"state\":\"queued\",\"version\":0\x7d"

theorem run_call {h : History RedisSystem RedisOp} {sys sys' : RedisSystem}
    (hrun : (redisMachine readHead).Run h sys) (op : RedisOp)
    (hnext : sys.next readHead op = some sys') :
    (redisMachine readHead).Run (h ++ [(sys, op)]) sys' :=
  .snoc hrun hnext

theorem moved_task_exact : ∃ h sys, (redisMachine readHead).Run h sys ∧
    Machine.Guarded (fun h sys op => ∀ sys', (redisMachine readHead).step sys op sys' →
      IndexExact readHead (h ++ [(sys, op)]) sys'.redis) h ∧
    sys.redis.listTasksBy .added (some .planning) none = [("task_0", planningText)] := by
  have hstored := run_call (.start rfl) (.setTask "task_0" queuedText) rfl
  have hrun := run_call hstored (.setTask "task_0" planningText) rfl
  refine ⟨_, _, hrun, (indexExact_iff_keepsIndex hrun).mpr ?_, by decide +kernel⟩
  refine Machine.guarded_snoc.mpr ⟨Machine.guarded_snoc.mpr ⟨Machine.guarded_nil _, ?_⟩, ?_⟩
  · intro _ state hmem
    cases hmem
  · exact fun hnone => absurd hnone (by decide +kernel)

/-- A task whose key expired is written anew in another state, and is listed in both. -/
theorem expired_task_listed_twice : ¬∀ decode h sys, (redisMachine decode).Run h sys →
    Machine.Guarded (fun h sys op => ∀ sys', (redisMachine decode).step sys op sys' →
      IndexExact decode (h ++ [(sys, op)]) sys'.redis) h := by
  intro hall
  have hstored := run_call (.start rfl) (.setTask "task_0" queuedText) rfl
  have hlater := run_call hstored (.setTask "task_1" laterText) rfl
  have hexpired := run_call hlater (.expireTask "task_0") rfl
  have hrun := run_call hexpired (.setTask "task_0" planningText) rfl
  have hexact := hall readHead _ _ hrun _ _ _ [] rfl _ rfl
  have hstate := hexact.sound .added .queued none ("task_0", planningText) (by decide +kernel)
  exact absurd hstate (by decide +kernel)

end sample

end ShipyardCp.Properties
