import ShipyardCp.AgentTaskstate.TaskService

/-! When the history and the revision of a task of the task-state package are faithful. Calls write back
the task that they read, so that what was written meanwhile is gone, and a task that is reopened stays
completed. -/

namespace ShipyardCp.Properties

open AgentTaskstate Lib
open Types (Timestamp)
open TaskCalls

def ValidFrom : Option TaskState → List StateTransition → Prop
  | _, [] => True
  | source, t :: ts =>
    t.fromStatus = source ∧ isValidTransition source t.toStatus = true ∧ ValidFrom (some t.toStatus) ts

def statusAfter (source : Option TaskState) (ts : List StateTransition) : Option TaskState :=
  ts.foldl (fun _ t => some t.toStatus) source

section completed

variable (id : String)

/-- The task that a step creates under an id. -/
def createdBy : TaskAction → Option Task
  | .createTask taskId now request =>
    let task := proposedTask taskId now request
    if task.id = id then some task else none
  | _ => none

def updateBy : TaskAction → Option TaskUpdates
  | .writeUpdate task updates _ => if task.id = id then some updates else none
  | _ => none

def transitionBy : TaskAction → Option StateTransition
  | .moveTask task transition => if task.id = id then some transition else none
  | _ => none

variable (h : History TaskCalls TaskAction)

def createdTasks : List Task := h.filterMap fun p => createdBy id p.2

def completedUpdates : List TaskUpdates := h.filterMap fun p => updateBy id p.2

def completedTransitions : List StateTransition := h.filterMap fun p => transitionBy id p.2

end completed

def lastNamed {α : Type} (field : TaskUpdates → Option α) (updates : List TaskUpdates) (first : α) : α :=
  updates.foldl (fun value u => (field u).getD value) first

/-- No update is lost. -/
structure FieldsKept (created : Task) (updates : List TaskUpdates) (task : Task) : Prop where
  title : task.title = lastNamed (·.title) updates created.title
  goal : task.goal = lastNamed (·.goal) updates created.goal
  priority : task.priority = lastNamed (·.priority) updates created.priority
  ownerType : task.ownerType = lastNamed (·.ownerType) updates created.ownerType
  ownerId : task.ownerId = lastNamed (·.ownerId) updates created.ownerId

def recordsStill : PendingCall → Bool
  | .propose _ | .move _ _ => true
  | _ => false

def Recorded (history transitions : List StateTransition) : Prop :=
  ∃ first, history = first :: transitions

/-- What the history, the revision and the fields of a stored task say of the calls on it. -/
structure Faithful (id : String) (h : History TaskCalls TaskAction) (s : TaskCalls) (task : Task) :
    Prop where
  valid : ValidFrom none (s.backend.getTransitions id)
  revision : task.revision = 1 + (completedUpdates id h).length + (completedTransitions id h).length
  updates : ∃ created, createdTasks id h = [created] ∧ FieldsKept created (completedUpdates id h) task
  completedAt : task.completedAt.isSome = task.status.isTerminal
  /-- Between a record and the write that follows, the history is ahead of the task. -/
  settled : (∀ call ∈ s.pending, call.task.id = id → recordsStill call = false) →
    Recorded (s.backend.getTransitions id) (completedTransitions id h) ∧
      statusAfter none (s.backend.getTransitions id) = some task.status

/-- A transition is recorded where its task still has the status that it starts from; a task is written
over the one that was read; and what is over is not reopened. -/
def InOrder (s : TaskCalls) : TaskAction → Prop
  | .addTransition task _ _ _ =>
    statusAfter none (s.backend.getTransitions task.id) = some task.status
  | .moveTask task transition =>
    s.backend.getTask task.id = some task ∧
      (task.status.isTerminal = true → transition.toStatus.isTerminal = true)
  | .writeUpdate task _ _ => s.backend.getTask task.id = some task
  | _ => True

instance (s : TaskCalls) : (a : TaskAction) → Decidable (InOrder s a)
  | .addTransition .. => inferInstanceAs (Decidable (_ = _))
  | .moveTask .. => inferInstanceAs (Decidable (_ ∧ (_ → _)))
  | .writeUpdate .. => inferInstanceAs (Decidable (_ = _))
  | .createTask .. | .addProposed .. | .transition .. | .updateTask .. =>
    inferInstanceAs (Decidable True)

section view

/-- What is stored and recorded of one task, the calls on it that wait and what was done to it. -/
structure TaskView where
  stored : Option Task
  history : List StateTransition
  calls : List PendingCall
  created : List Task
  updates : List TaskUpdates
  transitions : List StateTransition

def viewOf (id : String) (h : History TaskCalls TaskAction) (s : TaskCalls) : TaskView where
  stored := s.backend.getTask id
  history := s.backend.getTransitions id
  calls := s.pending.filter fun call => call.task.id = id
  created := createdTasks id h
  updates := completedUpdates id h
  transitions := completedTransitions id h

/-- What an orderly step does to one task. -/
inductive ViewStep : TaskView → TaskView → Prop
  | none (v : TaskView) : ViewStep v v
  | create {v : TaskView} {task : Task} : v.stored = .none → task.status = .proposed →
      task.revision = 1 → task.completedAt = .none →
      ViewStep v { v with
        stored := some task
        calls := v.calls ++ [.propose task]
        created := v.created ++ [task] }
  | addProposed {v : TaskView} {task : Task} (record : StateTransition) : .propose task ∈ v.calls →
      record.fromStatus = .none → record.toStatus = .proposed →
      ViewStep v { v with
        history := v.history ++ [record]
        calls := v.calls.erase (.propose task) }
  | begin {v : TaskView} (call : PendingCall) : v.stored = some call.task →
      (∀ task, call ≠ .propose task) → (∀ task transition, call ≠ .move task transition) →
      (∀ task request, call = .transition task request →
        isValidTransition (some task.status) request.toStatus = true) →
      ViewStep v { v with calls := v.calls ++ [call] }
  | addTransition {v : TaskView} {task : Task} {request : TransitionRequest} (transition : StateTransition) :
      .transition task request ∈ v.calls → statusAfter .none v.history = some task.status →
      transition.fromStatus = some task.status → transition.toStatus = request.toStatus →
      ViewStep v { v with
        history := v.history ++ [transition]
        calls := v.calls.erase (.transition task request) ++ [.move task transition] }
  | move {v : TaskView} {task : Task} {transition : StateTransition} :
      .move task transition ∈ v.calls → v.stored = some task →
      (task.status.isTerminal = true → transition.toStatus.isTerminal = true) →
      ViewStep v { v with
        stored := some (transitionedTask task transition)
        calls := v.calls.erase (.move task transition)
        transitions := v.transitions ++ [transition] }
  | update {v : TaskView} {task : Task} {updates : TaskUpdates} (now : Timestamp) :
      .update task updates ∈ v.calls → v.stored = some task →
      ViewStep v { v with
        stored := some (updatedTask now task updates)
        calls := v.calls.erase (.update task updates)
        updates := v.updates ++ [updates] }

/-- What holds of a stored task between orderly steps. -/
structure StoredInvariant (v : TaskView) (task : Task) : Prop where
  valid : ValidFrom none v.history
  revision : task.revision = 1 + v.updates.length + v.transitions.length
  updates : ∃ created, v.created = [created] ∧ FieldsKept created v.updates task
  completedAt : task.completedAt.isSome = task.status.isTerminal
  /-- Before the record of the creation, no transition is recorded. -/
  unrecorded : v.history = [] → v.transitions = [] ∧ task.status = .proposed ∧
    ∀ t transition, .move t transition ∉ v.calls
  proposing : ∀ t, .propose t ∈ v.calls →
    v.history = [] ∧ ∀ t', .propose t' ∉ v.calls.erase (.propose t)
  /-- A waiting call has read the stored task or an earlier one. -/
  snapshots : ∀ call ∈ v.calls, call.task = task ∨ call.task.revision < task.revision
  requests : ∀ t request, .transition t request ∈ v.calls →
    isValidTransition (some t.status) request.toStatus = true
  settled : (∀ call ∈ v.calls, recordsStill call = false) →
    Recorded v.history v.transitions ∧ statusAfter none v.history = some task.status
  /-- The last to be recorded of the transitions that wait to be written is the only one. -/
  moving : ∀ t transition, .move t transition ∈ v.calls → t = task →
    (∃ call ∈ v.calls.erase (.move t transition), recordsStill call = true) ∨
      Recorded v.history (v.transitions ++ [transition])

structure ViewInvariant (v : TaskView) : Prop where
  unstored : v.stored = none →
    v.history = [] ∧ v.calls = [] ∧ v.created = [] ∧ v.updates = [] ∧ v.transitions = []
  stored : ∀ task, v.stored = some task → StoredInvariant v task

theorem statusAfter_append (source : Option TaskState) (ts : List StateTransition)
    (t : StateTransition) : statusAfter source (ts ++ [t]) = some t.toStatus := by
  simp [statusAfter]

theorem validFrom_append {source : Option TaskState} {ts : List StateTransition}
    {t : StateTransition} (hvalid : ValidFrom source ts)
    (hfrom : t.fromStatus = statusAfter source ts)
    (htarget : isValidTransition (statusAfter source ts) t.toStatus = true) :
    ValidFrom source (ts ++ [t]) := by
  induction ts generalizing source with
  | nil => exact ⟨hfrom, htarget, trivial⟩
  | cons t' ts ih => exact ⟨hvalid.1, hvalid.2.1, ih hvalid.2.2 hfrom htarget⟩

theorem lastNamed_append {α : Type} (field : TaskUpdates → Option α) (updates : List TaskUpdates)
    (u : TaskUpdates) (first : α) :
    lastNamed field (updates ++ [u]) first = (field u).getD (lastNamed field updates first) := by
  simp [lastNamed]

theorem FieldsKept.updatedTask {created task : Task} {updates : List TaskUpdates}
    (hkept : FieldsKept created updates task) (now : Timestamp) (u : TaskUpdates) :
    FieldsKept created (updates ++ [u]) (AgentTaskstate.updatedTask now task u) where
  title := by rw [lastNamed_append, ← hkept.title]; rfl
  goal := by rw [lastNamed_append, ← hkept.goal]; rfl
  priority := by rw [lastNamed_append, ← hkept.priority]; rfl
  ownerType := by rw [lastNamed_append, ← hkept.ownerType]; rfl
  ownerId := by rw [lastNamed_append, ← hkept.ownerId]; rfl

section steps

variable {v : TaskView} {stored : Task}

theorem storedInvariant_create {task : Task} (hinv : ViewInvariant v) (hstored : v.stored = none)
    (hstatus : task.status = .proposed) (hrevision : task.revision = 1)
    (hcompleted : task.completedAt = none) :
    StoredInvariant { v with
      stored := some task
      calls := v.calls ++ [.propose task]
      created := v.created ++ [task] } task := by
  obtain ⟨hhistory, hcalls, hcreated, hupdates, htransitions⟩ := hinv.unstored hstored
  constructor
  · rw [hhistory]
    trivial
  · rw [hupdates, htransitions, hrevision]
    rfl
  · refine ⟨task, by rw [hcreated]; rfl, ?_⟩
    rw [hupdates]
    exact ⟨rfl, rfl, rfl, rfl, rfl⟩
  · rw [hcompleted, hstatus]
    rfl
  · intro _
    exact ⟨htransitions, hstatus, by simp [hcalls]⟩
  · intro t hmem
    have ht : t = task := by simpa [hcalls] using hmem
    subst ht
    exact ⟨hhistory, by simp [hcalls]⟩
  · intro call hmem
    have hcall : call = .propose task := by simpa [hcalls] using hmem
    rw [hcall]
    exact Or.inl rfl
  · intro t request hmem
    simp [hcalls] at hmem
  · intro hnone
    exact absurd (hnone (.propose task) (by simp)) (by simp [recordsStill])
  · intro t transition hmem
    simp [hcalls] at hmem

theorem storedInvariant_addProposed {task : Task} {record : StateTransition}
    (hinv : StoredInvariant v stored) (hmem : .propose task ∈ v.calls)
    (hfrom : record.fromStatus = none) (hto : record.toStatus = .proposed) :
    StoredInvariant { v with
      history := v.history ++ [record]
      calls := v.calls.erase (.propose task) } stored := by
  obtain ⟨hempty, honly⟩ := hinv.proposing task hmem
  obtain ⟨htransitions, hstatus, hnomove⟩ := hinv.unrecorded hempty
  have hin : ∀ call, call ∈ v.calls.erase (.propose task) → call ∈ v.calls :=
    fun call hcall => List.mem_of_mem_erase hcall
  constructor
  · exact validFrom_append hinv.valid (by rw [hfrom, hempty]; rfl) (by rw [hempty, hto]; rfl)
  · exact hinv.revision
  · exact hinv.updates
  · exact hinv.completedAt
  · intro hnil
    simp at hnil
  · intro t hmem'
    exact absurd hmem' (honly t)
  · exact fun call hcall => hinv.snapshots call (hin call hcall)
  · exact fun t request hcall => hinv.requests t request (hin _ hcall)
  · intro _
    exact ⟨⟨record, by rw [hempty, htransitions]; rfl⟩,
      by rw [statusAfter_append, hto, hstatus]⟩
  · exact fun t transition hcall => absurd (hin _ hcall) (hnomove t transition)

theorem storedInvariant_begin {call : PendingCall} (hinv : StoredInvariant v stored)
    (hread : call.task = stored) (hpropose : ∀ task, call ≠ .propose task)
    (hmove : ∀ task transition, call ≠ .move task transition)
    (hvalid : ∀ task request, call = .transition task request →
      isValidTransition (some task.status) request.toStatus = true) :
    StoredInvariant { v with calls := v.calls ++ [call] } stored := by
  have hsplit : ∀ c, c ∈ v.calls ++ [call] → c ∈ v.calls ∨ c = call := fun c hc => by
    simpa using hc
  constructor
  · exact hinv.valid
  · exact hinv.revision
  · exact hinv.updates
  · exact hinv.completedAt
  · intro hempty
    obtain ⟨htransitions, hstatus, hnomove⟩ := hinv.unrecorded hempty
    refine ⟨htransitions, hstatus, fun t transition hmem => ?_⟩
    rcases hsplit _ hmem with hmem | heq
    · exact hnomove t transition hmem
    · exact hmove t transition heq.symm
  · intro t hmem
    have hold : .propose t ∈ v.calls := (hsplit _ hmem).resolve_right fun heq => hpropose t heq.symm
    obtain ⟨hempty, honly⟩ := hinv.proposing t hold
    refine ⟨hempty, fun t' hmem' => ?_⟩
    rw [List.erase_append_left _ hold] at hmem'
    rcases List.mem_append.mp hmem' with hmem' | heq
    · exact honly t' hmem'
    · exact hpropose t' (List.mem_singleton.mp heq).symm
  · intro c hc
    rcases hsplit c hc with hc | rfl
    · exact hinv.snapshots c hc
    · exact Or.inl hread
  · intro t request hmem
    rcases hsplit _ hmem with hmem | heq
    · exact hinv.requests t request hmem
    · exact hvalid t request heq.symm
  · intro hnone
    exact hinv.settled fun c hc => hnone c (List.mem_append_left _ hc)
  · intro t transition hmem ht
    have hold : .move t transition ∈ v.calls :=
      (hsplit _ hmem).resolve_right fun heq => hmove t transition heq.symm
    rcases hinv.moving t transition hold ht with ⟨c, hc, hrecords⟩ | hrecorded
    · refine Or.inl ⟨c, ?_, hrecords⟩
      rw [List.erase_append_left _ hold]
      exact List.mem_append_left _ hc
    · exact Or.inr hrecorded

theorem storedInvariant_addTransition {task : Task} {request : TransitionRequest}
    {transition : StateTransition} (hinv : StoredInvariant v stored)
    (hmem : .transition task request ∈ v.calls)
    (hlast : statusAfter none v.history = some task.status)
    (hfrom : transition.fromStatus = some task.status)
    (hto : transition.toStatus = request.toStatus) :
    StoredInvariant { v with
      history := v.history ++ [transition]
      calls := v.calls.erase (.transition task request) ++ [.move task transition] } stored := by
  have hstarted : v.history ≠ [] := by
    intro hempty
    rw [hempty] at hlast
    cases hlast
  have hsplit : ∀ c, c ∈ v.calls.erase (.transition task request) ++ [.move task transition] →
      c ∈ v.calls ∨ c = .move task transition := by
    intro c hc
    rcases List.mem_append.mp hc with hc | hc
    · exact Or.inl (List.mem_of_mem_erase hc)
    · exact Or.inr (List.mem_singleton.mp hc)
  have hrecords : ∀ c ∈ v.calls, recordsStill c = true →
      c ∈ v.calls.erase (.transition task request) := by
    intro c hc hrecords
    refine (List.mem_erase_of_ne ?_).mpr hc
    rintro rfl
    cases hrecords
  constructor
  · refine validFrom_append hinv.valid (by rw [hfrom, hlast]) ?_
    rw [hlast, hto]
    exact hinv.requests task request hmem
  · exact hinv.revision
  · exact hinv.updates
  · exact hinv.completedAt
  · intro hnil
    simp at hnil
  · intro t hpropose
    have hold := (hsplit _ hpropose).resolve_right nofun
    exact absurd (hinv.proposing t hold).1 hstarted
  · intro c hc
    rcases hsplit c hc with hc | rfl
    · exact hinv.snapshots c hc
    · exact hinv.snapshots (.transition task request) hmem
  · intro t request' hc
    exact hinv.requests t request' ((hsplit _ hc).resolve_right nofun)
  · intro hnone
    exact absurd (hnone (.move task transition) (by simp)) (by simp [recordsStill])
  · intro t transition' hmove ht
    by_cases hold : .move t transition' ∈ v.calls.erase (.transition task request)
    · refine Or.inl ⟨.move task transition, ?_, rfl⟩
      rw [List.erase_append_left _ hold]
      exact List.mem_append_right _ (List.mem_singleton_self _)
    · have hnew : PendingCall.move t transition' = .move task transition :=
        List.mem_singleton.mp ((List.mem_append.mp hmove).resolve_left hold)
      obtain ⟨rfl, rfl⟩ := PendingCall.move.inj hnew
      by_cases hother : ∃ c ∈ v.calls, recordsStill c = true
      · obtain ⟨c, hc, hcrecords⟩ := hother
        refine Or.inl ⟨c, ?_, hcrecords⟩
        rw [List.erase_append_right _ hold]
        exact List.mem_append_left _ (hrecords c hc hcrecords)
      · obtain ⟨⟨first, hhistory⟩, _⟩ := hinv.settled fun c hc => by
          by_contra hcrecords
          exact hother ⟨c, hc, by simpa using hcrecords⟩
        exact Or.inr ⟨first, by rw [hhistory]; rfl⟩

theorem snapshots_of_write {calls : List PendingCall} (task : Task) (hinv : StoredInvariant v stored)
    (hsub : ∀ c ∈ calls, c ∈ v.calls) (hrevision : task.revision = stored.revision + 1) :
    ∀ c ∈ calls, c.task.revision < task.revision := by
  intro c hc
  rcases hinv.snapshots c (hsub c hc) with hsame | hearlier
  · rw [hsame, hrevision]
    exact Nat.lt_succ_self _
  · rw [hrevision]
    exact Nat.lt_succ_of_lt hearlier

theorem storedInvariant_move {transition : StateTransition} (hinv : StoredInvariant v stored)
    (hmem : .move stored transition ∈ v.calls)
    (hterminal : stored.status.isTerminal = true → transition.toStatus.isTerminal = true) :
    StoredInvariant { v with
      stored := some (transitionedTask stored transition)
      calls := v.calls.erase (.move stored transition)
      transitions := v.transitions ++ [transition] } (transitionedTask stored transition) := by
  have hin : ∀ c ∈ v.calls.erase (.move stored transition), c ∈ v.calls :=
    fun c hc => List.mem_of_mem_erase hc
  have hearlier := snapshots_of_write (transitionedTask stored transition) hinv hin rfl
  constructor
  · exact hinv.valid
  · change stored.revision + 1 = _
    rw [hinv.revision, List.length_append, List.length_singleton]
    rfl
  · obtain ⟨created, hcreated, hkept⟩ := hinv.updates
    exact ⟨created, hcreated, hkept.title, hkept.goal, hkept.priority, hkept.ownerType, hkept.ownerId⟩
  · change (if transition.toStatus.isTerminal then some transition.changedAt
      else stored.completedAt).isSome = transition.toStatus.isTerminal
    split_ifs with hover
    · rw [hover]
      rfl
    · rw [hinv.completedAt, eq_false_of_ne_true hover, eq_false_of_ne_true (mt hterminal hover)]
  · exact fun hempty => absurd hmem ((hinv.unrecorded hempty).2.2 _ _)
  · exact fun t hpropose =>
      absurd hmem ((hinv.unrecorded (hinv.proposing t (hin _ hpropose)).1).2.2 _ _)
  · exact fun c hc => Or.inr (hearlier c hc)
  · exact fun t request hc => hinv.requests t request (hin _ hc)
  · intro hnone
    rcases hinv.moving stored transition hmem rfl with ⟨c, hc, hrecords⟩ | ⟨first, hhistory⟩
    · rw [hnone c hc] at hrecords
      cases hrecords
    · refine ⟨⟨first, hhistory⟩, ?_⟩
      dsimp only
      rw [hhistory, ← List.cons_append, statusAfter_append]
      rfl
  · intro t transition' hmove ht
    have hless := hearlier _ hmove
    rw [show (PendingCall.move t transition').task = t from rfl, ht] at hless
    exact absurd hless (Nat.lt_irrefl _)

theorem storedInvariant_update {updates : TaskUpdates} (now : Timestamp)
    (hinv : StoredInvariant v stored) :
    StoredInvariant { v with
      stored := some (updatedTask now stored updates)
      calls := v.calls.erase (.update stored updates)
      updates := v.updates ++ [updates] } (updatedTask now stored updates) := by
  have hin : ∀ c ∈ v.calls.erase (.update stored updates), c ∈ v.calls :=
    fun c hc => List.mem_of_mem_erase hc
  have hearlier := snapshots_of_write (updatedTask now stored updates) hinv hin rfl
  constructor
  · exact hinv.valid
  · change stored.revision + 1 = 1 + (v.updates ++ [updates]).length + v.transitions.length
    rw [hinv.revision, List.length_append, List.length_singleton]
    omega
  · obtain ⟨created, hcreated, hkept⟩ := hinv.updates
    exact ⟨created, hcreated, hkept.updatedTask now updates⟩
  · exact hinv.completedAt
  · intro hempty
    obtain ⟨htransitions, hstatus, hnomove⟩ := hinv.unrecorded hempty
    exact ⟨htransitions, hstatus, fun t transition hc => hnomove t transition (hin _ hc)⟩
  · intro t hpropose
    obtain ⟨hempty, honly⟩ := hinv.proposing t (hin _ hpropose)
    refine ⟨hempty, fun t' hmem' => honly t' ?_⟩
    rw [List.erase_comm] at hmem'
    exact List.mem_of_mem_erase hmem'
  · exact fun c hc => Or.inr (hearlier c hc)
  · exact fun t request hc => hinv.requests t request (hin _ hc)
  · intro hnone
    refine hinv.settled fun c hc => ?_
    by_cases hcall : c = .update stored updates
    · rw [hcall]
      rfl
    · exact hnone c ((List.mem_erase_of_ne hcall).mpr hc)
  · intro t transition hmove ht
    have hless := hearlier _ hmove
    rw [show (PendingCall.move t transition).task = t from rfl, ht] at hless
    exact absurd hless (Nat.lt_irrefl _)

theorem ViewInvariant.step {v' : TaskView} (hinv : ViewInvariant v) (hstep : ViewStep v v') :
    ViewInvariant v' := by
  have hstored : ∀ call ∈ v.calls, ∃ task, v.stored = some task := by
    intro call hcall
    cases hstored : v.stored with
    | some task => exact ⟨task, rfl⟩
    | none =>
      rw [(hinv.unstored hstored).2.1] at hcall
      cases hcall
  cases hstep with
  | none => exact hinv
  | create hnone hstatus hrevision hcompleted =>
    refine ⟨nofun, ?_⟩
    rintro _ ⟨⟩
    exact storedInvariant_create hinv hnone hstatus hrevision hcompleted
  | addProposed record hmem hfrom hto =>
    obtain ⟨stored, hsome⟩ := hstored _ hmem
    refine ⟨fun hnone => by simp [hsome] at hnone, fun task htask => ?_⟩
    exact storedInvariant_addProposed (hinv.stored task htask) hmem hfrom hto
  | begin call hread hpropose hmove hvalid =>
    refine ⟨fun hnone => by simp [hread] at hnone, fun task htask => ?_⟩
    exact storedInvariant_begin (hinv.stored task htask) (Option.some.inj (hread.symm.trans htask))
      hpropose hmove hvalid
  | addTransition transition hmem hlast hfrom hto =>
    obtain ⟨stored, hsome⟩ := hstored _ hmem
    refine ⟨fun hnone => by simp [hsome] at hnone, fun task htask => ?_⟩
    exact storedInvariant_addTransition (hinv.stored task htask) hmem hlast hfrom hto
  | move hmem hcurrent hterminal =>
    refine ⟨nofun, ?_⟩
    rintro _ ⟨⟩
    exact storedInvariant_move (hinv.stored _ hcurrent) hmem hterminal
  | update now _ hcurrent =>
    refine ⟨nofun, ?_⟩
    rintro _ ⟨⟩
    exact storedInvariant_update now (hinv.stored _ hcurrent)

end steps

section simulation

variable {id : String} {h : History TaskCalls TaskAction} {s s' : TaskCalls} {a : TaskAction}

def Keyed (b : TaskBackend) : Prop := ∀ id task, b.getTask id = some task → task.id = id

theorem getTask_setTask (b : TaskBackend) (task : Task) (id : String) :
    (b.setTask task).getTask id = if id = task.id then some task else b.getTask id :=
  InsertionMap.get?_set ..

theorem getTransitions_addTransition (b : TaskBackend) (transition : StateTransition) (id : String) :
    (b.addTransition transition).getTransitions id =
      if id = transition.taskId then b.getTransitions id ++ [transition] else b.getTransitions id := by
  unfold TaskBackend.addTransition
  rw [TaskBackend.getTransitions, InsertionMap.get?_set]
  split_ifs with hid
  · rw [hid]
    rfl
  · rfl

theorem Keyed.setTask {b : TaskBackend} (hkeyed : Keyed b) (task : Task) : Keyed (b.setTask task) := by
  intro id stored hget
  rw [getTask_setTask] at hget
  split_ifs at hget with hid
  · rw [← Option.some.inj hget, hid]
  · exact hkeyed id stored hget

theorem resume_eq_some_iff {call : PendingCall} {backend : TaskBackend} {again : List PendingCall} :
    s.resume call backend again = some s' ↔
      call ∈ s.pending ∧ s' = ⟨backend, s.pending.erase call ++ again⟩ := by
  unfold resume
  split_ifs with hmem <;> simp [hmem, eq_comm]

theorem filter_resumed (call : PendingCall) (again : List PendingCall) (calls : List PendingCall) :
    (calls.erase call ++ again).filter (fun c => c.task.id = id) =
      (calls.filter fun c => c.task.id = id).erase call ++ again.filter fun c => c.task.id = id := by
  rw [List.filter_append, List.erase_filter]

theorem viewStep_none (htask : s'.backend.getTask id = s.backend.getTask id)
    (hhistory : s'.backend.getTransitions id = s.backend.getTransitions id)
    (hcalls : (s'.pending.filter fun c => c.task.id = id) = s.pending.filter fun c => c.task.id = id)
    (hcreated : createdBy id a = none) (hupdate : updateBy id a = none)
    (htransition : transitionBy id a = none) :
    ViewStep (viewOf id h s) (viewOf id (h ++ [(s, a)]) s') := by
  have hview : viewOf id (h ++ [(s, a)]) s' = viewOf id h s := by
    simp [viewOf, createdTasks, completedUpdates, completedTransitions, htask, hhistory, hcalls,
      hcreated, hupdate, htransition]
  rw [hview]
  exact .none _

theorem viewStep_resumed_other {call : PendingCall} {backend : TaskBackend} {again : List PendingCall}
    (hother : call.task.id ≠ id) (hagain : ∀ c ∈ again, c.task.id ≠ id)
    (htask : backend.getTask id = s.backend.getTask id)
    (hhistory : backend.getTransitions id = s.backend.getTransitions id)
    (hcreated : createdBy id a = none) (hupdate : updateBy id a = none)
    (htransition : transitionBy id a = none) :
    ViewStep (viewOf id h s) (viewOf id (h ++ [(s, a)]) ⟨backend, s.pending.erase call ++ again⟩) := by
  refine viewStep_none htask hhistory ?_ hcreated hupdate htransition
  have hnone : (again.filter fun c => c.task.id = id) = [] :=
    List.filter_eq_nil_iff.mpr (by simpa using hagain)
  rw [filter_resumed, List.erase_of_not_mem (by simp [hother]), hnone, List.append_nil]

theorem viewStep_beginWith (taskId : String) {read : Except String Task} {call : Task → PendingCall}
    (hread : ∀ task, read = .ok task → s.backend.getTask taskId = some task)
    (hcall : ∀ task, (call task).task = task)
    (hpropose : ∀ task t, call t ≠ .propose task)
    (hmove : ∀ task transition t, call t ≠ .move task transition)
    (hvalid : ∀ task request t, read = .ok t → call t = .transition task request →
      isValidTransition (some task.status) request.toStatus = true)
    (hkeyed : Keyed s.backend)
    (hcreated : createdBy id a = none) (hupdate : updateBy id a = none)
    (htransition : transitionBy id a = none) :
    ViewStep (viewOf id h s) (viewOf id (h ++ [(s, a)]) (s.beginWith read call)) := by
  unfold beginWith
  cases hr : read with
  | error message => exact viewStep_none rfl rfl rfl hcreated hupdate htransition
  | ok task =>
    have hstored := hread task hr
    by_cases hid : task.id = id
    · have htask : s.backend.getTask id = some task := by
        rw [← hid, hkeyed taskId task hstored]
        exact hstored
      have hview : viewOf id (h ++ [(s, a)]) { s with pending := s.pending ++ [call task] } =
          { viewOf id h s with calls := (viewOf id h s).calls ++ [call task] } := by
        simp [viewOf, createdTasks, completedUpdates, completedTransitions, hcreated, hupdate,
          htransition, hcall, hid]
      rw [hview]
      refine .begin (call task) (htask.trans (congrArg some (hcall task).symm))
        (fun t => hpropose t task) (fun t transition => hmove t transition task) ?_
      exact fun t request heq => hvalid t request task hr heq
    · refine viewStep_none rfl rfl ?_ hcreated hupdate htransition
      have hnone : ([call task].filter fun c => c.task.id = id) = [] := by simp [hcall, hid]
      rw [List.filter_append, hnone, List.append_nil]

theorem getTask_of_ok {taskId : String} {request : TransitionRequest} {stored : Option Task}
    {task : Task} (hok : checkTransition taskId stored request = .ok task) :
    stored = some task ∧ isValidTransition (some task.status) request.toStatus = true := by
  unfold checkTransition at hok
  cases stored with
  | none => cases hok
  | some stored =>
    dsimp only at hok
    split_ifs at hok with hvalid
    obtain rfl := Except.ok.inj hok
    exact ⟨rfl, hvalid⟩

theorem viewStep_of_step (hkeyed : Keyed s.backend) (hstep : taskCalls.step s a s')
    (horder : InOrder s a) : ViewStep (viewOf id h s) (viewOf id (h ++ [(s, a)]) s') := by
  replace hstep : s.next a = some s' := hstep
  cases a with
  | createTask taskId now request =>
    simp only [next] at hstep
    split_ifs at hstep with hnew
    obtain rfl := Option.some.inj hstep
    rw [Option.isNone_iff_eq_none] at hnew
    by_cases hid : (proposedTask taskId now request).id = id
    · subst hid
      have hview : viewOf (proposedTask taskId now request).id
          (h ++ [(s, .createTask taskId now request)])
          ⟨s.backend.setTask (proposedTask taskId now request),
            s.pending ++ [.propose (proposedTask taskId now request)]⟩ =
          { viewOf (proposedTask taskId now request).id h s with
            stored := some (proposedTask taskId now request)
            calls := (viewOf (proposedTask taskId now request).id h s).calls ++
              [.propose (proposedTask taskId now request)]
            created := (viewOf (proposedTask taskId now request).id h s).created ++
              [proposedTask taskId now request] } := by
        simp [viewOf, createdTasks, completedUpdates, completedTransitions, createdBy, updateBy,
          transitionBy, getTask_setTask, PendingCall.task]
        rfl
      rw [hview]
      exact .create hnew rfl rfl rfl
    · refine viewStep_none ?_ rfl ?_ (by simp [createdBy, hid]) rfl rfl
      · exact (getTask_setTask ..).trans (if_neg (Ne.symm hid))
      · have hnone : ([PendingCall.propose (proposedTask taskId now request)].filter
            fun c => c.task.id = id) = [] := by simp [PendingCall.task, hid]
        rw [List.filter_append, hnone, List.append_nil]
  | addProposed task recordId =>
    obtain ⟨hmem, rfl⟩ := resume_eq_some_iff.mp hstep
    by_cases hid : task.id = id
    · have hview : viewOf id (h ++ [(s, .addProposed task recordId)])
          ⟨s.backend.addTransition (proposedRecord recordId task),
            s.pending.erase (.propose task) ++ []⟩ =
          { viewOf id h s with
            history := (viewOf id h s).history ++ [proposedRecord recordId task]
            calls := (viewOf id h s).calls.erase (.propose task) } := by
        simp [viewOf, createdTasks, completedUpdates, completedTransitions, createdBy, updateBy,
          transitionBy, getTransitions_addTransition, proposedRecord, hid, List.erase_filter]
        rfl
      rw [hview]
      refine .addProposed _ ?_ rfl rfl
      exact List.mem_filter.mpr ⟨hmem, by simp [PendingCall.task, hid]⟩
    · refine viewStep_resumed_other hid (by simp) rfl ?_ rfl rfl rfl
      exact (getTransitions_addTransition ..).trans (if_neg (Ne.symm hid))
  | transition taskId request =>
    obtain rfl := Option.some.inj hstep
    refine viewStep_beginWith taskId (fun task hok => (getTask_of_ok hok).1) (fun _ => rfl)
      (fun _ _ => nofun) (fun _ _ _ => nofun) ?_ hkeyed rfl rfl rfl
    rintro task request' t hok heq
    obtain ⟨rfl, rfl⟩ := PendingCall.transition.inj heq
    exact (getTask_of_ok hok).2
  | addTransition task request recordId now =>
    obtain ⟨hmem, rfl⟩ := resume_eq_some_iff.mp hstep
    by_cases hid : task.id = id
    · subst hid
      have hview : viewOf task.id (h ++ [(s, .addTransition task request recordId now)])
          ⟨s.backend.addTransition (transitionRecord recordId now task request),
            s.pending.erase (.transition task request) ++
              [.move task (transitionRecord recordId now task request)]⟩ =
          { viewOf task.id h s with
            history := (viewOf task.id h s).history ++ [transitionRecord recordId now task request]
            calls := (viewOf task.id h s).calls.erase (.transition task request) ++
              [.move task (transitionRecord recordId now task request)] } := by
        simp [viewOf, createdTasks, completedUpdates, completedTransitions, createdBy, updateBy,
          transitionBy, getTransitions_addTransition, transitionRecord, List.erase_filter,
          PendingCall.task]
        rfl
      rw [hview]
      refine .addTransition _ ?_ horder rfl rfl
      exact List.mem_filter.mpr ⟨hmem, by simp [PendingCall.task]⟩
    · refine viewStep_resumed_other hid ?_ rfl ?_ rfl rfl rfl
      · intro c hc
        rw [List.mem_singleton.mp hc]
        exact hid
      · exact (getTransitions_addTransition ..).trans (if_neg (Ne.symm hid))
  | moveTask task transition =>
    obtain ⟨hmem, rfl⟩ := resume_eq_some_iff.mp hstep
    by_cases hid : task.id = id
    · subst hid
      have hview : viewOf task.id (h ++ [(s, .moveTask task transition)])
          ⟨s.backend.setTask (transitionedTask task transition),
            s.pending.erase (.move task transition) ++ []⟩ =
          { viewOf task.id h s with
            stored := some (transitionedTask task transition)
            calls := (viewOf task.id h s).calls.erase (.move task transition)
            transitions := (viewOf task.id h s).transitions ++ [transition] } := by
        have hsame : (transitionedTask task transition).id = task.id := rfl
        simp [viewOf, createdTasks, completedUpdates, completedTransitions, createdBy, updateBy,
          transitionBy, getTask_setTask, List.erase_filter, hsame]
        rfl
      rw [hview]
      refine .move ?_ horder.1 horder.2
      exact List.mem_filter.mpr ⟨hmem, by simp [PendingCall.task]⟩
    · refine viewStep_resumed_other hid (by simp) ?_ rfl rfl rfl (by simp [transitionBy, hid])
      exact (getTask_setTask ..).trans (if_neg (Ne.symm hid))
  | updateTask taskId updates =>
    obtain rfl := Option.some.inj hstep
    refine viewStep_beginWith taskId ?_ (fun _ => rfl)
      (fun _ _ => nofun) (fun _ _ _ => nofun) (fun _ _ _ _ => nofun) hkeyed rfl rfl rfl
    intro task hok
    unfold checkUpdate at hok
    cases hstored : s.backend.getTask taskId with
    | none =>
      rw [hstored] at hok
      cases hok
    | some stored =>
      rw [hstored] at hok
      rw [Except.ok.inj hok]
  | writeUpdate task updates now =>
    obtain ⟨hmem, rfl⟩ := resume_eq_some_iff.mp hstep
    by_cases hid : task.id = id
    · subst hid
      have hview : viewOf task.id (h ++ [(s, .writeUpdate task updates now)])
          ⟨s.backend.setTask (updatedTask now task updates),
            s.pending.erase (.update task updates) ++ []⟩ =
          { viewOf task.id h s with
            stored := some (updatedTask now task updates)
            calls := (viewOf task.id h s).calls.erase (.update task updates)
            updates := (viewOf task.id h s).updates ++ [updates] } := by
        have hsame : (updatedTask now task updates).id = task.id := rfl
        simp [viewOf, createdTasks, completedUpdates, completedTransitions, createdBy, updateBy,
          transitionBy, getTask_setTask, List.erase_filter, hsame]
        rfl
      rw [hview]
      refine .update now ?_ horder
      exact List.mem_filter.mpr ⟨hmem, by simp [PendingCall.task]⟩
    · refine viewStep_resumed_other hid (by simp) ?_ rfl rfl (by simp [updateBy, hid]) rfl
      exact (getTask_setTask ..).trans (if_neg (Ne.symm hid))

theorem keyed_of_step (hkeyed : Keyed s.backend) (hstep : taskCalls.step s a s') :
    Keyed s'.backend := by
  have hresumed : ∀ {call : PendingCall} {backend : TaskBackend} {again : List PendingCall},
      s.resume call backend again = some s' → Keyed backend → Keyed s'.backend := by
    intro call backend again hresume hbackend
    obtain ⟨_, rfl⟩ := resume_eq_some_iff.mp hresume
    exact hbackend
  have hbegun : ∀ (read : Except String Task) (call : Task → PendingCall),
      Keyed (s.beginWith read call).backend := by
    intro read call
    unfold beginWith
    cases read <;> exact hkeyed
  replace hstep : s.next a = some s' := hstep
  cases a with
  | createTask taskId now request =>
    simp only [next] at hstep
    split_ifs at hstep
    obtain rfl := Option.some.inj hstep
    exact hkeyed.setTask _
  | transition taskId request =>
    obtain rfl := Option.some.inj hstep
    exact hbegun _ _
  | updateTask taskId updates =>
    obtain rfl := Option.some.inj hstep
    exact hbegun _ _
  | moveTask task transition => exact hresumed hstep (hkeyed.setTask _)
  | writeUpdate task updates now => exact hresumed hstep (hkeyed.setTask _)
  | addProposed task recordId => exact hresumed hstep hkeyed
  | addTransition task request recordId now => exact hresumed hstep hkeyed

end simulation

end view

/-- In every run whose steps are in order, the history, the revision and the fields of each stored task
are faithful to the calls on it. -/
theorem history_faithful {h : History TaskCalls TaskAction} {s : TaskCalls} (hrun : taskCalls.Run h s)
    (horder : Machine.Steps InOrder h) {id : String} {task : Task}
    (hstored : s.backend.getTask id = some task) : Faithful id h s task := by
  have hinvariant := Machine.Run.invariant
    (I := fun h s => Keyed s.backend ∧ ∀ id, ViewInvariant (viewOf id h s)) ?_ ?_ hrun horder
  · have hinv := (hinvariant.2 id).stored task hstored
    refine ⟨hinv.valid, hinv.revision, hinv.updates, hinv.completedAt, fun hdone => ?_⟩
    refine hinv.settled fun call hcall => ?_
    obtain ⟨hmem, hid⟩ := List.mem_filter.mp hcall
    exact hdone call hmem (by simpa using hid)
  · rintro _ rfl
    constructor
    · intro id task hget
      cases hget
    · refine fun id => ⟨fun _ => ⟨rfl, rfl, rfl, rfl, rfl⟩, ?_⟩
      intro task hget
      cases hget
  · rintro h s a s' _ _ ⟨hkeyed, hviews⟩ hinorder hstep
    exact ⟨keyed_of_step hkeyed hstep,
      fun id => (hviews id).step (viewStep_of_step hkeyed hstep hinorder)⟩

section samples

def sampleCreate : CreateTaskRequest := ⟨.feature, "title", "goal", none, none, none⟩

def retitle : TaskUpdates := ⟨some "other title", none, none, none, none⟩

def regoal : TaskUpdates := ⟨none, some "other goal", none, none, none⟩

def startedTask : Task := proposedTask "0" 0 sampleCreate

def readyRequest : TransitionRequest := ⟨.ready, "Task marked as ready", .human, none, none⟩

theorem exists_calls_of_script (script : List TaskAction)
    (test : History TaskCalls TaskAction × TaskCalls → Bool)
    (h : (Machine.replay next ⟨.empty, []⟩ (script.map fun a _ => some a)).any test =
      true) : ∃ h s, taskCalls.Run h s ∧ test (h, s) = true :=
  Machine.exists_run_of_replay rfl h

def inTurn : List TaskAction := [.createTask "0" 0 sampleCreate, .addProposed startedTask "1",
    .transition startedTask.id readyRequest, .addTransition startedTask readyRequest "2" 1,
    .moveTask startedTask (transitionRecord "2" 1 startedTask readyRequest)]

theorem ready_task_faithful : ∃ h s task, taskCalls.Run h s ∧
    s.backend.getTask "task-0" = some task ∧ task.status = .ready ∧ Faithful "task-0" h s task := by
  obtain ⟨h, s, hrun, htest⟩ := exists_calls_of_script inTurn
    (fun p => p.1.all (fun q => InOrder q.1 q.2) &&
      (p.2.backend.getTask "task-0").any fun task => task.status = .ready) (by decide +kernel)
  rw [Bool.and_eq_true, List.all_eq_true, Option.any_eq_true] at htest
  obtain ⟨hsteps, task, hstored, hready⟩ := htest
  have horder : Machine.Steps InOrder h := fun p hp => of_decide_eq_true (hsteps p hp)
  exact ⟨h, s, task, hrun, hstored, of_decide_eq_true hready, history_faithful hrun horder hstored⟩

def atOnce : List TaskAction := [.createTask "0" 0 sampleCreate, .addProposed startedTask "1",
    .updateTask startedTask.id retitle, .updateTask startedTask.id regoal,
    .writeUpdate startedTask retitle 1, .writeUpdate startedTask regoal 2]

theorem second_update_unfaithful : ¬∀ h s, taskCalls.Run h s →
    ∀ id task, s.backend.getTask id = some task → Faithful id h s task := by
  intro hall
  obtain ⟨h, s, hrun, htest⟩ := exists_calls_of_script atOnce
    (fun p => (completedUpdates "task-0" p.1).length == 2 && p.2.pending.isEmpty &&
      (p.2.backend.getTask "task-0").any fun task => task.revision = 2) (by decide +kernel)
  rw [Bool.and_eq_true, Bool.and_eq_true, Option.any_eq_true] at htest
  obtain ⟨⟨hupdates, _⟩, task, hstored, hrevision⟩ := htest
  have hfaithful := (hall h s hrun "task-0" task hstored).revision
  rw [of_decide_eq_true hrevision, eq_of_beq hupdates] at hfaithful
  omega

end samples

end ShipyardCp.Properties
