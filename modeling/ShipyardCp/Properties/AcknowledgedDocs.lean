import ShipyardCp.Store.AckRefs
import ShipyardCp.Store.ControlPlaneStore

/-! Whether the stale checks of a task judge a document by the version that was acknowledged last. -/

namespace ShipyardCp.Properties

open Types Lib Domain Store

def acknowledge (taskId : String) (acks : List (Env × AckDocsRequest)) (s : ControlPlane) :
    ControlPlane :=
  acks.foldl (fun s ack => finalState (ackDocs ack.1 taskId ack.2) s) s

def IsCurrent (currentVersions : List DocVersionInfo) (docId current : String) : Prop :=
  (currentVersions.reverse.find? fun v => v.docId = docId) = some ⟨docId, current, true⟩

/-- A stale check that the document is part of reports nothing of it when its current version is this
one, and otherwise exactly that it changed from this one. -/
def JudgedBy (s : ControlPlane) (taskId docId version : String) : Prop :=
  ∀ docIds : Option (List String), (∀ ids, docIds = some ids → docId ∈ ids) →
    ∃ check, returned? (beginStaleCheck taskId docIds) s = some (some check) ∧
      ∀ env currentVersions current, IsCurrent currentVersions docId current →
        ∃ items, returned? (settleStaleCheck env check currentVersions) s = some items ∧
          (current = version → ∀ item ∈ items, item.docId ≠ docId) ∧
          (current ≠ version → ∀ item, item ∈ items ∧ item.docId = docId ↔
            item = ⟨taskId, docId, version, current, .versionMismatch, env.now⟩)

section judged

variable {s : ControlPlane} {taskId docId version : String} {task : Task}

def storedAckRefs (task : Task) : List String := (task.resolverRefs.getD .empty).ackRefs.getD []

theorem returned?_beginStaleCheck (htask : s.task? taskId = some task) (hacked : storedAckRefs task ≠ [])
    (docIds : Option (List String)) : ∃ refs, task.resolverRefs = some refs ∧
      returned? (beginStaleCheck taskId docIds) s = some (some ⟨taskId, refs, docIds⟩) := by
  unfold storedAckRefs at hacked
  cases hrefs : task.resolverRefs with
  | none =>
    rw [hrefs] at hacked
    exact absurd rfl hacked
  | some refs =>
    rw [hrefs, Option.getD_some] at hacked
    refine ⟨refs, rfl, returned?_eq_some_iff.mpr ?_⟩
    simp [beginStaleCheck, htask, hrefs, hacked]

variable {check : PendingStaleCheck}

theorem returned?_settleStaleCheck (htask : s.task? check.taskId = some task)
    (env : Env) (currentVersions : List DocVersionInfo) :
    returned? (settleStaleCheck env check currentVersions) s =
      some (staleItems env.now check currentVersions) := by
  refine returned?_eq_some_iff.mpr ?_
  by_cases hstale : staleItems env.now check currentVersions = []
  · simp [settleStaleCheck, hstale]
  · simp [settleStaleCheck, hstale, htask]

variable {currentVersions : List DocVersionInfo}

theorem docId_of_staleItem {now : Timestamp} {item : StaleDocItem}
    (h : staleItem now check currentVersions docId = some item) : item.docId = docId := by
  unfold staleItem at h
  dsimp only at h
  split at h
  · split_ifs at h
    · split at h
      · split_ifs at h
        obtain rfl := Option.some.inj h
        rfl
      · cases h
    · obtain rfl := Option.some.inj h
      rfl
  · obtain rfl := Option.some.inj h
    rfl

theorem mem_staleItems_iff {now : Timestamp} {item : StaleDocItem}
    (hpart : docId ∈ docIdsToCheck check) : item ∈ staleItems now check currentVersions ∧
      item.docId = docId ↔ staleItem now check currentVersions docId = some item := by
  unfold staleItems
  rw [List.mem_filterMap]
  constructor
  · rintro ⟨⟨doc, _, hitem⟩, hdoc⟩
    rw [← hdoc, docId_of_staleItem hitem]
    exact hitem
  · exact fun hitem => ⟨⟨docId, hpart, hitem⟩, docId_of_staleItem hitem⟩

theorem staleItem_of_isCurrent {now : Timestamp} {current : String}
    (hcurrent : IsCurrent currentVersions docId current) :
    staleItem now check currentVersions docId = ((acknowledged check).get? docId).bind fun version =>
        if current ≠ version then
          some ⟨check.taskId, docId, version, current, .versionMismatch, now⟩
        else none := by
  unfold staleItem
  rw [hcurrent]
  dsimp only
  rw [if_pos rfl]
  cases (acknowledged check).get? docId <;> rfl

theorem exists_ne_text (text : String) : ∃ other : String, other ≠ text := by
  by_cases hempty : text = ""
  · exact ⟨"x", by rw [hempty]; decide⟩
  · exact ⟨"", fun h => hempty h.symm⟩

theorem judgedBy_iff (htask : s.task? taskId = some task) (hacked : storedAckRefs task ≠ []) :
    JudgedBy s taskId docId version ↔
      (parseAckRefs (storedAckRefs task)).get? docId = some version := by
  constructor
  · intro hjudged
    obtain ⟨check, hcheck, hitems⟩ := hjudged (some [docId]) fun ids hids => by
      obtain rfl := Option.some.inj hids
      exact List.mem_singleton_self docId
    obtain ⟨refs, hrefs, hbegun⟩ := returned?_beginStaleCheck htask hacked (some [docId])
    obtain rfl := Option.some.inj (Option.some.inj (hcheck.symm.trans hbegun))
    have hread : acknowledged ⟨taskId, refs, some [docId]⟩ = parseAckRefs (storedAckRefs task) := by
      unfold acknowledged storedAckRefs
      rw [hrefs, Option.getD_some]
    have hpart : docId ∈ docIdsToCheck ⟨taskId, refs, some [docId]⟩ := List.mem_singleton_self docId
    -- A current version that differs from the version asked for tells which one is read.
    have hmismatch : ∀ current, current ≠ version →
        ((parseAckRefs (storedAckRefs task)).get? docId).bind (fun read =>
          if current ≠ read then
            some (⟨taskId, docId, read, current, .versionMismatch, 0⟩ : StaleDocItem)
          else none) = some ⟨taskId, docId, version, current, .versionMismatch, 0⟩ := by
      intro current hne
      have hcurrent : IsCurrent [⟨docId, current, true⟩] docId current := by
        simp [IsCurrent]
      obtain ⟨items, hreturned, _, hreport⟩ :=
        hitems ⟨0, fun _ => "", "", "", fun _ _ => none⟩ _ current hcurrent
      rw [returned?_settleStaleCheck htask] at hreturned
      obtain rfl := Option.some.inj hreturned
      have hitem := (mem_staleItems_iff hpart).mp ((hreport hne _).mpr rfl)
      rw [staleItem_of_isCurrent hcurrent, hread] at hitem
      exact hitem
    cases hget : (parseAckRefs (storedAckRefs task)).get? docId with
    | none =>
      obtain ⟨current, hne⟩ := exists_ne_text version
      have hitem := hmismatch current hne
      rw [hget] at hitem
      cases hitem
    | some read =>
      by_contra hne
      have hitem := hmismatch read fun h => hne (congrArg some h)
      rw [hget, Option.bind_some, if_neg (not_not_intro rfl)] at hitem
      cases hitem
  · intro hget docIds hpart
    obtain ⟨refs, hrefs, hbegun⟩ := returned?_beginStaleCheck htask hacked docIds
    refine ⟨⟨taskId, refs, docIds⟩, hbegun, fun env currentVersions current hcurrent => ?_⟩
    refine ⟨_, returned?_settleStaleCheck htask env currentVersions, ?_⟩
    have hread : acknowledged ⟨taskId, refs, docIds⟩ = parseAckRefs (storedAckRefs task) := by
      unfold acknowledged storedAckRefs
      rw [hrefs, Option.getD_some]
    have hpart' : docId ∈ docIdsToCheck ⟨taskId, refs, docIds⟩ := by
      unfold docIdsToCheck
      cases docIds with
      | some ids => exact hpart ids rfl
      | none =>
        rw [hread]
        exact InsertionMap.mem_keys_iff _ |>.mpr ⟨version, hget⟩
    have hitem : staleItem env.now ⟨taskId, refs, docIds⟩ currentVersions docId = _ :=
      staleItem_of_isCurrent hcurrent
    rw [hread, hget, Option.bind_some] at hitem
    constructor
    · intro hsame item hmem hdoc
      have hreported := (mem_staleItems_iff hpart').mp ⟨hmem, hdoc⟩
      rw [hitem, if_neg (not_not_intro hsame)] at hreported
      cases hreported
    · intro hne item
      rw [mem_staleItems_iff hpart', hitem, if_pos hne, Option.some.injEq, eq_comm]

end judged

section acknowledge

variable {s : ControlPlane} {taskId : String}

def AckedBy (s : ControlPlane) (taskId : String) (ackRefs : List String) : Prop :=
  ∃ task, s.task? taskId = some task ∧ storedAckRefs task = ackRefs

theorem ackedBy_ackDocs {requests : List AckDocsRequest} (env : Env) (request : AckDocsRequest)
    (hacked : AckedBy s taskId (ackRefsOf taskId requests)) :
    AckedBy (finalState (ackDocs env taskId request) s) taskId
      (ackRefsOf taskId (requests ++ [request])) := by
  obtain ⟨task, htask, hrefs⟩ := hacked
  have hid := ControlPlane.task?_taskId htask
  refine finalState_rec (ackDocs env taskId request) s ?_
  simp only [ackDocs, wp_bind, wp_requireTask, htask, andThen_ok, wp_updateTask, wp_pure, onState_ok]
  refine ⟨_, by rw [ControlPlane.setTask_task?, applyTaskUpdate_taskId, if_pos hid.symm], ?_⟩
  rw [ackRefsOf_append, ← hrefs]
  rfl

theorem ackedBy_acknowledge {acks : List (Env × AckDocsRequest)} (hnone : AckedBy s taskId []) :
    AckedBy (acknowledge taskId acks s) taskId (ackRefsOf taskId (acks.map Prod.snd)) := by
  induction acks using List.reverseRecOn with
  | nil => exact hnone
  | append_singleton acks ack ih =>
    unfold acknowledge at ih ⊢
    rw [List.foldl_append, List.map_append]
    exact ackedBy_ackDocs ack.1 ack.2 ih

/-- After documents of a task were acknowledged one after another, the last one is judged by its
version exactly when, of all that read as that document, the acknowledgement that was made for the
first time last reads as it at that version. -/
theorem acknowledged_judgedBy_iff (hnone : AckedBy s taskId []) (earlier : List (Env × AckDocsRequest))
    (env : Env) (docId version : String) :
    JudgedBy (acknowledge taskId (earlier ++ [(env, ⟨docId, version⟩)]) s) taskId docId version ↔
      LatestRead taskId (earlier.map Prod.snd ++ [⟨docId, version⟩]) docId version := by
  have hall : AckedBy (acknowledge taskId (earlier ++ [(env, ⟨docId, version⟩)]) s) taskId
      (ackRefsOf taskId (earlier.map Prod.snd ++ [⟨docId, version⟩])) := by
    have hmap : (earlier ++ [(env, (⟨docId, version⟩ : AckDocsRequest))]).map Prod.snd =
        earlier.map Prod.snd ++ [⟨docId, version⟩] := List.map_append
    rw [← hmap]
    exact ackedBy_acknowledge hnone
  obtain ⟨task, htask, hrefs⟩ := hall
  have hacked : storedAckRefs task ≠ [] := by
    intro hempty
    have hmem : ackRefOf taskId ⟨docId, version⟩ ∈
        ackRefsOf taskId (earlier.map Prod.snd ++ [⟨docId, version⟩]) :=
      mem_ackRefsOf.mpr ⟨_, List.mem_append_right _ List.mem_cons_self, rfl⟩
    rw [← hrefs, hempty] at hmem
    cases hmem
  rw [judgedBy_iff htask hacked, hrefs]
  exact get?_parseAckRefs_ackRefsOf _

end acknowledge

section sample

def unacknowledged : ControlPlane :=
  finalState (createTask (sampleEnv "0") sampleRequest) (.initial ⟨20, 200, .empty, .empty⟩ "executor")

def ackOf (version : String) : Env × AckDocsRequest := (sampleEnv "0", ⟨"doc:feature:login", version⟩)

theorem ackedBy_unacknowledged : AckedBy unacknowledged "task_0" [] := by
  have htask : ((unacknowledged.task? "task_0").map storedAckRefs) = some [] := by
    decide +kernel
  obtain ⟨task, hstored, hrefs⟩ := Option.map_eq_some_iff.mp htask
  exact ⟨task, hstored, hrefs⟩

/-- A document is acknowledged at one version and then at another. -/
theorem newer_version_judged : JudgedBy (acknowledge "task_0" ([ackOf "v1"] ++ [ackOf "v2"])
    unacknowledged) "task_0" "doc:feature:login" "v2" := by
  refine (acknowledged_judgedBy_iff ackedBy_unacknowledged [ackOf "v1"] (sampleEnv "0") _ _).mpr ?_
  refine ⟨[⟨"doc:feature:login", "v1"⟩], ⟨"doc:feature:login", "v2"⟩, [], rfl,
    ⟨"task_0", by decide, by decide, rfl⟩, ?_, fun later hmem => by cases hmem⟩
  decide

/-- A document that goes back to a version is still judged by the one in between. -/
theorem old_version_not_judged : ¬∀ (s : ControlPlane) (taskId : String)
    (earlier : List (Env × AckDocsRequest)) (env : Env) (docId version : String),
    AckedBy s taskId [] →
    JudgedBy (acknowledge taskId (earlier ++ [(env, ⟨docId, version⟩)]) s) taskId docId version := by
  intro hall
  have hjudged := hall unacknowledged "task_0" [ackOf "v1", ackOf "v2"] (sampleEnv "0")
    "doc:feature:login" "v1" ackedBy_unacknowledged
  have hacked : ((acknowledge "task_0" [ackOf "v1", ackOf "v2", ackOf "v1"] unacknowledged).task?
      "task_0").any (fun task => decide (storedAckRefs task ≠ [] ∧
        (parseAckRefs (storedAckRefs task)).get? "doc:feature:login" = some "v2")) = true := by
    decide +kernel
  obtain ⟨task, htask, htest⟩ := (Option.any_eq_true _ _).mp hacked
  obtain ⟨hrefs, hread⟩ := of_decide_eq_true htest
  have hversion := (judgedBy_iff htask hrefs).mp hjudged
  rw [hread] at hversion
  exact absurd (Option.some.inj hversion) (by decide)

end sample

end ShipyardCp.Properties
