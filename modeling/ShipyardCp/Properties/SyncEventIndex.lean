import ShipyardCp.Lib.Transition
import ShipyardCp.TrackerBridge.SyncEvents

/-! Whether both backends of the tracker bridge list the sync events of a task alike. -/

namespace ShipyardCp.Properties

open Types Lib TrackerBridge Machine MemorySyncEvents TypedRef

/-- Both backends, which are given the same events. -/
structure SyncBackends where
  memory : MemorySyncEvents
  redis : RedisSyncEvents

def syncRuns : Machine SyncBackends SyncEvent where
  init s := s = ⟨.empty, ⟨.empty, .empty⟩⟩
  step s event s' := s' = ⟨s.memory.setSyncEvent event, s.redis.setSyncEvent event⟩

def namesTask (ref taskId : String) : Bool :=
  match parse ref with
  | .ok r => r.domain = "agent-taskstate" && r.entityType = "task" && r.entityId = taskId
  | .error _ => false

def concerns (taskId : String) (event : SyncEvent) : Bool := event.localRef.any (namesTask · taskId)

/-- The task that a reference of four parts names. -/
def fullTaskId (ref : String) : Option String :=
  match splitColons ref with
  | [domain, entityType, provider, taskId] =>
    if domain = "agent-taskstate" ∧ entityType = "task" ∧ provider ≠ "" ∧ taskId ≠ "" then some taskId
    else none
  | _ => none

section index

variable (localeCompare : String → String → Ordering)

def newerEvent (event other : SyncEvent) : Bool :=
  localeCompare event.occurredAt other.occurredAt = .gt

/-- Both backends answer with the stored events of the task, newest first, up to the limit. -/
def IndexedAlike (s : SyncBackends) (taskId : String) (limit : Nat) : Prop :=
  ∃ events : List SyncEvent, events.Nodup ∧
    (∀ event, event ∈ events ↔ event ∈ s.memory.values ∧ concerns taskId event = true) ∧
    (events.Pairwise fun a b => (localeCompare b.occurredAt a.occurredAt).isLE = true) ∧
    s.memory.getSyncEventsByEntity localeCompare "task" taskId limit = events.take limit ∧
    s.redis.getSyncEventsByEntity "task" taskId limit = events.take limit

/-- No list holds a version of the event, and its local reference, if it has one, is a full reference
of a task whose listed events are all older. -/
def Listable (s : SyncBackends) (event : SyncEvent) : Prop :=
  (∀ list ∈ s.redis.byEntity.values, ∀ other ∈ list, other.id ≠ event.id) ∧
    ∀ ref ∈ event.localRef, ref = "" ∨ ∃ taskId ∈ fullTaskId ref,
      ∀ other ∈ listAt s.redis.byEntity (syncKey "task" taskId),
        newerEvent localeCompare event other = true

instance (s : SyncBackends) (event : SyncEvent) : Decidable (Listable localeCompare s event) :=
  inferInstanceAs (Decidable (_ ∧ _))

/-- Each stored event that mentions the id and is not of the task is older than as many events of the
task as the limit lets through. -/
def Outnumbered (s : SyncBackends) (taskId : String) (limit : Nat) : Prop :=
  ∀ event ∈ s.memory.values, mentions taskId event = true →
    concerns taskId event = false → limit ≤ (s.memory.values.filter fun other =>
      concerns taskId other && newerEvent localeCompare other event).length

instance (s : SyncBackends) (taskId : String) (limit : Nat) :
    Decidable (Outnumbered localeCompare s taskId limit) :=
  inferInstanceAs (Decidable (∀ event ∈ s.memory.values, _))

/-- The lists of Redis hold the most recent of the stored events of each task, newest first. -/
structure Indexed (s : SyncBackends) : Prop where
  whole : ∀ event ∈ s.memory.values, ∀ ref, event.localRef = some ref →
    ref = "" ∨ ∃ taskId, fullTaskId ref = some taskId
  lists : ∀ taskId, ∃ all : List SyncEvent,
    (∀ event, event ∈ all ↔ event ∈ s.memory.values ∧ concerns taskId event = true) ∧
      (all.Pairwise fun a b => newerEvent localeCompare a b = true) ∧
      listAt s.redis.byEntity (syncKey "task" taskId) = all.take 100

end index

section references

variable {ref taskId taskId' : String} {event : SyncEvent}

theorem syncKey_inj (h : syncKey "task" taskId = syncKey "task" taskId') : taskId = taskId' := by
  have hlist := congrArg String.toList h
  simp only [syncKey, String.toList_append] at hlist
  exact String.toList_inj.mp (List.append_cancel_left hlist)

theorem splitColons_of_fullTaskId (h : fullTaskId ref = some taskId) : ∃ provider,
    splitColons ref = ["agent-taskstate", "task", provider, taskId] ∧ provider ≠ "" ∧ taskId ≠ "" := by
  unfold fullTaskId at h
  split at h
  · rename_i domain entityType provider id hparts
    split_ifs at h with hfull
    obtain rfl := Option.some.inj h
    obtain ⟨rfl, rfl, hprovider, hid⟩ := hfull
    exact ⟨provider, hparts, hprovider, hid⟩
  · cases h

theorem namesTask_iff_of_full (h : fullTaskId ref = some taskId) :
    namesTask ref taskId' = true ↔ taskId' = taskId := by
  obtain ⟨provider, hparts, hprovider, hid⟩ := splitColons_of_fullTaskId h
  have hknown : "agent-taskstate" ∈ knownDomains := by decide
  let r : TypedRef := ⟨"agent-taskstate", "task", taskId, provider, hknown, by decide, hid, hprovider⟩
  have hparse : parse ref = .ok r :=
    (parse_eq_ok_iff_of_four hparts hknown (by decide) hprovider).mpr ⟨hid, rfl, rfl, rfl, rfl⟩
  rw [namesTask, hparse]
  simp [r, eq_comm]

theorem namesTask_empty : namesTask "" taskId = false := by
  have hparse : ∀ r, parse "" ≠ .ok r := fun r => nofun
  unfold namesTask
  split
  · rename_i r hr
    exact absurd hr (hparse r)
  · rfl

theorem includes_of_full (h : fullTaskId ref = some taskId) : includes ref taskId = true := by
  obtain ⟨provider, hparts, _⟩ := splitColons_of_fullTaskId h
  have hfree : ∀ part ∈ splitColons ref, ColonFree part := fun _ => colonFree_of_mem_splitColons
  simp only [hparts, List.forall_mem_cons] at hfree
  obtain ⟨hdomain, htype, hprovider, hid, _⟩ := hfree
  have hsplit : splitColons ref =
      splitColons ("agent-taskstate" ++ ":" ++ ("task" ++ ":" ++ (provider ++ ":" ++ taskId))) := by
    rw [hparts, splitColons_append hdomain, splitColons_append htype, splitColons_append hprovider,
      splitColons_of_colonFree hid]
  rw [splitColons_injective hsplit, includes, decide_eq_true_eq]
  simp only [String.toList_append, ← List.append_assoc]
  exact (List.suffix_append _ _).isInfix

variable (hwhole : ∀ ref, event.localRef = some ref →
  ref = "" ∨ ∃ taskId, fullTaskId ref = some taskId)

include hwhole

theorem concerns_iff : concerns taskId event = true ↔
    ∃ ref, event.localRef = some ref ∧ fullTaskId ref = some taskId := by
  rw [concerns, Option.any_eq_true]
  constructor
  · rintro ⟨ref, href, hnames⟩
    rcases hwhole ref href with rfl | ⟨id, hfull⟩
    · rw [namesTask_empty] at hnames
      cases hnames
    · rw [(namesTask_iff_of_full hfull).mp hnames]
      exact ⟨ref, href, hfull⟩
  · rintro ⟨ref, href, hfull⟩
    exact ⟨ref, href, (namesTask_iff_of_full hfull).mpr rfl⟩

theorem mentions_of_concerns (h : concerns taskId event = true) : mentions taskId event = true := by
  obtain ⟨ref, href, hfull⟩ := (concerns_iff hwhole).mp h
  simp [mentions, href, includes_of_full hfull]

end references

section steps

variable {localeCompare : String → String → Ordering} [Std.TransCmp localeCompare] {s : SyncBackends}
  {taskId : String} {event : SyncEvent}

theorem newerEvent_trans {a b c : SyncEvent} (hab : newerEvent localeCompare a b = true)
    (hbc : newerEvent localeCompare b c = true) : newerEvent localeCompare a c = true := by
  simp only [newerEvent, decide_eq_true_eq] at *
  exact Std.TransCmp.gt_trans hab hbc

theorem mem_values_of_mem_listAt {index : InsertionMap String (List SyncEvent)} {key : String}
    (h : event ∈ listAt index key) : ∃ list ∈ index.values, event ∈ list := by
  unfold listAt at h
  cases hget : index.get? key with
  | none => simp [hget] at h
  | some list =>
    rw [hget] at h
    exact ⟨list, index.mem_values_iff.mpr ⟨key, hget⟩, h⟩

theorem mem_values_put {t : MemorySyncEvents} {other : SyncEvent} : other ∈ (t.put event).values ↔
    other = event ∨ other ∈ t.values ∧ other.id ≠ event.id := by
  rw [KeyedMap.mem_values_iff, KeyedMap.mem_values_iff, KeyedMap.get?_put]
  split_ifs with hid
  · simp [hid, eq_comm]
  · have hne : other ≠ event := fun heq => hid (congrArg SyncEvent.id heq)
    simp [hid, hne]

theorem listAt_setSyncEvent (hfull : ∀ ref, event.localRef = some ref →
      ref = "" ∨ ∃ taskId, fullTaskId ref = some taskId) :
    listAt (s.redis.setSyncEvent event).byEntity (syncKey "task" taskId) =
      if concerns taskId event then
        pushRecent 100 event (listAt s.redis.byEntity (syncKey "task" taskId))
      else listAt s.redis.byEntity (syncKey "task" taskId) := by
  cases href : event.localRef with
  | none => simp [RedisSyncEvents.setSyncEvent, concerns, href]
  | some ref =>
    rcases hfull ref href with rfl | ⟨id, hid⟩
    · simp [RedisSyncEvents.setSyncEvent, concerns, href, isTruthy, namesTask_empty]
    · obtain ⟨provider, hparts, _⟩ := splitColons_of_fullTaskId hid
      have hne : ref ≠ "" := by
        rintro rfl
        exact Option.some_ne_none id hid.symm
      have hset : (s.redis.setSyncEvent event).byEntity = s.redis.byEntity.set (syncKey "task" id)
          (pushRecent 100 event (listAt s.redis.byEntity (syncKey "task" id))) := by
        simp [RedisSyncEvents.setSyncEvent, href, isTruthy, hne, hparts]
      rw [hset, listAt_set, concerns, href, Option.any_some]
      by_cases hsame : taskId = id
      · rw [if_pos (congrArg (syncKey "task") hsame), if_pos ((namesTask_iff_of_full hid).mpr hsame),
          hsame]
      · rw [if_neg fun hkey => hsame (syncKey_inj hkey),
          if_neg fun hnames => hsame ((namesTask_iff_of_full hid).mp hnames)]

theorem Indexed.step (h : Indexed localeCompare s) (hlistable : Listable localeCompare s event) :
    Indexed localeCompare ⟨s.memory.setSyncEvent event, s.redis.setSyncEvent event⟩ := by
  obtain ⟨hunlisted, href⟩ := hlistable
  have hfull : ∀ ref, event.localRef = some ref → ref = "" ∨ ∃ taskId, fullTaskId ref = some taskId :=
    fun ref hsome => (href ref hsome).imp_right fun ⟨taskId, htask, _⟩ => ⟨taskId, htask⟩
  refine ⟨fun other hother => ?_, fun taskId => ?_⟩
  · rcases mem_values_put.mp hother with rfl | ⟨hother, _⟩
    · exact hfull
    · exact h.whole other hother
  · obtain ⟨all, hall, hsorted, hlist⟩ := h.lists taskId
    have hkept : ∀ n ≤ 100, (all.filter fun other => other.id ≠ event.id).take n = all.take n := by
      refine fun n hn => take_filter_of_take fun other hother => decide_eq_true ?_
      have hmem : other ∈ all.take 100 := (List.take_prefix_take_left hn).subset hother
      rw [← hlist] at hmem
      obtain ⟨list, hvalues, hmem⟩ := mem_values_of_mem_listAt hmem
      exact hunlisted list hvalues other hmem
    have hrest : ∀ other, other ∈ all.filter (fun other => other.id ≠ event.id) ↔
        (other ∈ s.memory.values ∧ other.id ≠ event.id) ∧ concerns taskId other = true := by
      intro other
      rw [List.mem_filter, hall, decide_eq_true_eq]
      tauto
    have hstored : ∀ other, other ∈ (s.memory.setSyncEvent event).values ↔
        other = event ∨ other ∈ s.memory.values ∧ other.id ≠ event.id := fun _ => mem_values_put
    by_cases hconcerns : concerns taskId event = true
    · refine ⟨event :: all.filter (fun other => other.id ≠ event.id), fun other => ?_, ?_, ?_⟩
      · rw [List.mem_cons, hrest, hstored]
        constructor
        · rintro (rfl | ⟨hother, hconcerns'⟩)
          · exact ⟨.inl rfl, hconcerns⟩
          · exact ⟨.inr hother, hconcerns'⟩
        · rintro ⟨rfl | hother, hconcerns'⟩
          · exact .inl rfl
          · exact .inr ⟨hother, hconcerns'⟩
      · refine List.pairwise_cons.mpr ⟨fun other hother => ?_, hsorted.sublist List.filter_sublist⟩
        obtain ⟨ref, hsome, htask⟩ := (concerns_iff hfull).mp hconcerns
        have hne : ref ≠ "" := by
          rintro rfl
          exact absurd htask nofun
        obtain ⟨id, hid, hnewer⟩ := (href ref hsome).resolve_left hne
        obtain rfl := Option.some.inj (htask.symm.trans hid)
        rw [hlist] at hnewer
        have hmem := List.mem_of_mem_filter hother
        cases all with
        | nil => cases hmem
        | cons newest all =>
          have hfirst := hnewer newest (by simp)
          rcases List.mem_cons.mp hmem with rfl | hmem
          · exact hfirst
          · exact newerEvent_trans hfirst ((List.pairwise_cons.mp hsorted).1 other hmem)
      · rw [listAt_setSyncEvent hfull, if_pos hconcerns, hlist, pushRecent_take,
          List.take_succ_cons, List.take_succ_cons, hkept 99 (by decide)]
    · refine ⟨all.filter (fun other => other.id ≠ event.id), fun other => ?_,
        hsorted.sublist List.filter_sublist, ?_⟩
      · rw [hrest, hstored]
        constructor
        · rintro ⟨hother, hconcerns'⟩
          exact ⟨.inr hother, hconcerns'⟩
        · rintro ⟨rfl | hother, hconcerns'⟩
          · exact absurd hconcerns' hconcerns
          · exact ⟨hother, hconcerns'⟩
      · rw [listAt_setSyncEvent hfull, if_neg hconcerns, hlist, hkept 100 le_rfl]

theorem indexed_of_run {h : History SyncBackends SyncEvent} (hrun : syncRuns.Run h s)
    (hsteps : Steps (Listable localeCompare) h) : Indexed localeCompare s := by
  refine Run.stateInvariant (C := Listable localeCompare) (I := Indexed localeCompare) ?_ ?_ hrun hsteps
  · rintro s rfl
    refine ⟨fun event hevent => ?_, fun taskId => ⟨[], fun event => ?_, .nil, rfl⟩⟩
    · simp at hevent
    · simp
  · rintro s event s' hindexed hlistable rfl
    exact hindexed.step hlistable

/-- Where every event that is set can be listed, the two backends answer alike. -/
theorem indexedAlike_of_listable {h : History SyncBackends SyncEvent} {limit : Nat}
    (hrun : syncRuns.Run h s) (hsteps : Steps (Listable localeCompare) h) (hlimit : limit ≤ 100)
    (hfew : Outnumbered localeCompare s taskId limit) : IndexedAlike localeCompare s taskId limit := by
  have hindexed := indexed_of_run hrun hsteps
  obtain ⟨all, hall, hsorted, hlist⟩ := hindexed.lists taskId
  have hstrict : all.Pairwise fun a b => ¬(localeCompare a.occurredAt b.occurredAt).isLE = true := by
    refine hsorted.imp fun {a b} hnewer => ?_
    rw [newerEvent, decide_eq_true_eq] at hnewer
    rw [hnewer]
    exact nofun
  have htotal : ∀ a b : SyncEvent, (localeCompare b.occurredAt a.occurredAt).isLE = true ∨
      (localeCompare a.occurredAt b.occurredAt).isLE = true := by
    intro a b
    rw [@Std.OrientedCmp.eq_swap _ localeCompare _ a.occurredAt]
    cases localeCompare b.occurredAt a.occurredAt <;> simp
  have htrans : ∀ a b c : SyncEvent, (localeCompare b.occurredAt a.occurredAt).isLE = true →
      (localeCompare c.occurredAt b.occurredAt).isLE = true →
      (localeCompare c.occurredAt a.occurredAt).isLE = true :=
    fun a b c hab hbc => Std.TransCmp.isLE_trans hbc hab
  have hnodup : all.Nodup := by
    refine hstrict.imp fun {a b} hnot heq => hnot ?_
    rw [heq]
    exact (htotal b b).elim id id
  have hvalues : s.memory.values.Nodup := .of_map _ s.memory.nodup_map_key_values
  let found := s.memory.values.filter (mentions taskId)
  have hperm : all.Perm (found.filter (concerns taskId)) := by
    refine (List.perm_ext_iff_of_nodup hnodup ((hvalues.filter _).filter _)).mpr fun event => ?_
    rw [hall, List.mem_filter, List.mem_filter]
    constructor
    · rintro ⟨hevent, hconcerns⟩
      exact ⟨⟨hevent, mentions_of_concerns (hindexed.whole event hevent) hconcerns⟩, hconcerns⟩
    · rintro ⟨⟨hevent, _⟩, hconcerns⟩
      exact ⟨hevent, hconcerns⟩
  have hcount : ∀ x ∈ found, concerns taskId x = false → limit ≤
      (all.filter fun a => ¬(localeCompare a.occurredAt x.occurredAt).isLE = true).length := by
    intro x hx hother
    obtain ⟨hmem, hmentions⟩ := List.mem_filter.mp hx
    refine (hfew x hmem hmentions hother).trans_eq ?_
    have hsame : all.Perm (s.memory.values.filter (concerns taskId)) :=
      (List.perm_ext_iff_of_nodup hnodup (hvalues.filter _)).mpr fun event => by
        rw [hall, List.mem_filter]
    rw [(hsame.filter _).length_eq, List.filter_filter]
    congr 2
    funext other
    cases hcmp : localeCompare other.occurredAt x.occurredAt <;> simp [newerEvent, hcmp]
  refine ⟨all, hnodup, hall, hstrict.imp fun {a b} hnot => (htotal a b).resolve_right hnot, ?_, ?_⟩
  · exact take_insertionSort_of_outnumbered htotal htrans hperm hstrict hcount
  · rw [RedisSyncEvents.getSyncEventsByEntity, hlist, List.take_take, Nat.min_eq_left hlimit]

end steps

def syncEventOf (id ref occurredAt : String) : SyncEvent where
  id := id
  trackerConnectionId := "connection-1"
  direction := .inbound
  remoteRef := "org/repo#42"
  localRef := some ref
  eventType := "issue_updated"
  fingerprint := none
  payloadJson := "\x7b\x7d"
  status := .applied
  errorMessage := none
  occurredAt := occurredAt
  processedAt := none
  createdAt := occurredAt

def synced (events : List SyncEvent) : SyncBackends :=
  events.foldl (fun s event => ⟨s.memory.setSyncEvent event, s.redis.setSyncEvent event⟩)
    ⟨.empty, ⟨.empty, .empty⟩⟩

/-- Two events of a task, the later one after the earlier one. -/
theorem two_events_indexedAlike : IndexedAlike compare
    (synced [syncEventOf "event-1" "agent-taskstate:task:local:task-1" "2025-01-01",
      syncEventOf "event-2" "agent-taskstate:task:local:task-1" "2025-01-02"]) "task-1" 10 := by
  let first := syncEventOf "event-1" "agent-taskstate:task:local:task-1" "2025-01-01"
  let second := syncEventOf "event-2" "agent-taskstate:task:local:task-1" "2025-01-02"
  have hrun : syncRuns.Run ([(synced [], first)] ++ [(synced [first], second)])
      (synced [first, second]) := .snoc (.snoc (.start rfl) rfl) rfl
  have hfirst : Listable compare (synced []) first := by decide +kernel
  have hsecond : Listable compare (synced [first]) second := by decide +kernel
  exact indexedAlike_of_listable hrun (by simp [hfirst, hsecond]) (by decide) (by decide +kernel)

/-- An event of `task-12` is found for `task-1` by the search, and is not in its list. -/
theorem found_by_part_of_id :
    ¬∀ (h : History SyncBackends SyncEvent) (s : SyncBackends) (taskId : String) (limit : Nat),
      syncRuns.Run h s →
      Steps (fun _ event => ∀ ref ∈ event.localRef, ∃ r, parse ref = .ok r) h →
      limit ≤ 100 → IndexedAlike compare s taskId limit := by
  intro hclaim
  let event := syncEventOf "event-1" "agent-taskstate:task:local:task-12" "2025-01-01"
  have hrun : syncRuns.Run ([] ++ [(synced [], event)]) (synced [event]) := .snoc (.start rfl) rfl
  have hparse : ∃ r, parse "agent-taskstate:task:local:task-12" = .ok r :=
    ⟨⟨"agent-taskstate", "task", "task-12", "local", by decide, by decide, by decide, by decide⟩,
      (parse_eq_ok_iff_of_four rfl (by decide) (by decide) (by decide)).mpr
        ⟨by decide, rfl, rfl, rfl, rfl⟩⟩
  obtain ⟨events, _, _, _, hmemory, hredis⟩ := hclaim _ _ "task-1" 10 hrun (by
    simp only [List.nil_append, steps_cons, steps_nil, and_true]
    rintro ref href
    obtain rfl := Option.some.inj href
    exact hparse) (by decide)
  have hdiffer : (synced [event]).memory.getSyncEventsByEntity compare "task" "task-1" 10 ≠
    (synced [event]).redis.getSyncEventsByEntity "task" "task-1" 10 := by decide +kernel
  exact hdiffer (hmemory.trans hredis.symm)

end ShipyardCp.Properties
