import ShipyardCp.TrackerBridge.StoreBackend

/-! Whether the copies by key and the lists by reference of the tracker-bridge backends are those of the
entries that are stored: after operations one after the other, and after interleaved calls on links. -/

namespace ShipyardCp.Properties

open Lib TrackerBridge InMemoryBackend InsertionMap CopiedTable EntityLinks

/-- The issues and pull requests that are stored, in the order in which they were last set. -/
structure RecentEntries where
  issues : List IssueCache
  prs : List PRCache

def RecentEntries.add (r : RecentEntries) : TrackerOp → RecentEntries
  | .setIssue issue => { r with issues := putLast IssueCache.id r.issues issue }
  | .deleteIssue id => { r with issues := removeId IssueCache.id r.issues id }
  | .setPR pr => { r with prs := putLast PRCache.id r.prs pr }
  | .deletePR id => { r with prs := removeId PRCache.id r.prs id }
  | _ => r

def recentAfter (ops : List TrackerOp) : RecentEntries := ops.foldl RecentEntries.add ⟨[], []⟩

def tablesAfter (perform : TrackerTables → TrackerOp → TrackerTables) (ops : List TrackerOp) :
    TrackerTables :=
  ops.foldl perform .empty

def LinksExact (t : EntityLinks) : Prop :=
  ∀ side, IndexExact EntityLink.id (EntityLink.ref side) t.links.get? (t.byRef side)

/-- Under each key is the entry set last of those stored with it, and the lists are exact. -/
structure TablesExact (t : TrackerTables) (recent : RecentEntries) : Prop where
  issues : ∀ key, t.getIssueByKey key = latest IssueCache.remoteIssueKey recent.issues key
  prs : ∀ key, t.getPRByKey key = latest PRCache.remotePrKey recent.prs key
  links : LinksExact t.links

def BothExact (ops : List TrackerOp) : Prop :=
  TablesExact (tablesAfter InMemoryBackend.perform ops) (recentAfter ops) ∧
    TablesExact (tablesAfter RedisBackend.perform ops) (recentAfter ops)

/-- An entry that changes its key is not the latest of the old one; an entry that is deleted is the only
one with its key; a link that is set again keeps its references. -/
def KeepsIndexes (before : List TrackerOp) : TrackerOp → Prop
  | .setIssue issue => ∀ old ∈ (recentAfter before).issues, old.id = issue.id →
      old.remoteIssueKey = issue.remoteIssueKey ∨
        latest IssueCache.remoteIssueKey (recentAfter before).issues old.remoteIssueKey ≠ some old
  | .deleteIssue id => ∀ old ∈ (recentAfter before).issues, old.id = id →
      ∀ x ∈ (recentAfter before).issues, x.remoteIssueKey = old.remoteIssueKey → x.id = id
  | .setPR pr => ∀ old ∈ (recentAfter before).prs, old.id = pr.id → old.remotePrKey = pr.remotePrKey ∨
        latest PRCache.remotePrKey (recentAfter before).prs old.remotePrKey ≠ some old
  | .deletePR id => ∀ old ∈ (recentAfter before).prs, old.id = id →
      ∀ x ∈ (recentAfter before).prs, x.remotePrKey = old.remotePrKey → x.id = id
  | .setEntityLink link => ∀ old,
      (tablesAfter InMemoryBackend.perform before).getEntityLink link.id = some old →
        ∀ side, old.ref side = link.ref side
  | .deleteEntityLink _ => True

section sequential

variable {deleteLink : EntityLinks → String → EntityLinks}

/-- The tables hold the entries that are stored, and each link stands under its id. -/
structure TablesHold (t : TrackerTables) (recent : RecentEntries) : Prop where
  issues : t.issues.Holds recent.issues
  prs : t.prs.Holds recent.prs
  links : ∀ id link, t.getEntityLink id = some link → link.id = id

variable {t : EntityLinks}

theorem keyed_set (hkeyed : ∀ id link, t.links.get? id = some link → link.id = id)
    (link : EntityLink) : ∀ id x, (t.links.set link.id link).get? id = some x → x.id = id := by
  intro id x hx
  rw [get?_set] at hx
  split at hx
  · next hid => rw [← Option.some.inj hx, hid]
  · exact hkeyed id x hx

theorem keyed_delete (hkeyed : ∀ id link, t.links.get? id = some link → link.id = id) (id : String) :
    ∀ i x, (t.links.delete id).get? i = some x → x.id = i := by
  intro i x hx
  rw [get?_delete] at hx
  split at hx
  · cases hx
  · exact hkeyed i x hx

theorem TablesHold.step {t : TrackerTables} {recent : RecentEntries} (hholds : TablesHold t recent)
    (hdelete : ∀ t id, (deleteLink t id).links = t.links.delete id) (op : TrackerOp) :
    TablesHold (t.performWith deleteLink op) (recent.add op) := by
  cases op with
  | setIssue issue => exact ⟨hholds.issues.set issue, hholds.prs, hholds.links⟩
  | deleteIssue id => exact ⟨hholds.issues.delete id, hholds.prs, hholds.links⟩
  | setPR pr => exact ⟨hholds.issues, hholds.prs.set pr, hholds.links⟩
  | deletePR id => exact ⟨hholds.issues, hholds.prs.delete id, hholds.links⟩
  | setEntityLink link => exact ⟨hholds.issues, hholds.prs, keyed_set hholds.links link⟩
  | deleteEntityLink id =>
    refine ⟨hholds.issues, hholds.prs, ?_⟩
    simp only [TrackerTables.performWith, TrackerTables.getEntityLink, hdelete]
    exact keyed_delete hholds.links id

theorem linksExact_set_iff (hexact : LinksExact t)
    (hkeyed : ∀ id link, t.links.get? id = some link → link.id = id) (link : EntityLink) :
    LinksExact (t.set link) ↔
      ∀ old, t.links.get? link.id = some old → ∀ side, old.ref side = link.ref side := by
  have hside : ∀ side, IndexExact EntityLink.id (EntityLink.ref side) (t.set link).links.get?
      ((t.set link).byRef side) ↔
        ∀ old, t.links.get? link.id = some old → old.ref side = link.ref side := fun side =>
    indexExact_upsert_iff (hexact side) hkeyed fun _ => get?_set ..
  rw [LinksExact, forall_congr' hside]
  exact ⟨fun h old hold side => h side old hold, fun h side old hold => h old hold side⟩

theorem linksExact_redis_delete (hexact : LinksExact t) (id : String) :
    LinksExact (RedisBackend.deleteEntityLink t id) := by
  intro side
  have hstored : ∀ j, (t.links.delete id).get? j = if j = id then none else t.links.get? j :=
    fun _ => get?_delete ..
  cases hget : t.links.get? id with
  | none =>
    have habsent := indexExact_absent (hexact side) hget hstored
    simpa only [RedisBackend.deleteEntityLink, hget] using habsent
  | some link =>
    have hremove := indexExact_remove (hexact side) hget hstored
    simpa only [RedisBackend.deleteEntityLink, hget, linksByRef] using hremove

theorem linksExact_memory_delete (hexact : LinksExact t)
    (hkeyed : ∀ id link, t.links.get? id = some link → link.id = id) (id : String) :
    LinksExact (deleteEntityLink t id) := by
  intro side
  have hredis := linksExact_redis_delete hexact id side
  cases hget : t.links.get? id with
  | none =>
    simp only [RedisBackend.deleteEntityLink, hget] at hredis
    simpa only [deleteEntityLink, hget] using hredis
  | some link =>
    simp only [RedisBackend.deleteEntityLink, hget, linksByRef] at hredis
    obtain ⟨hnodup, hmem⟩ := hexact side (link.ref side)
    have hlisted : link ∈ listAt (t.byRef side) (link.ref side) :=
      (hmem link).mpr ⟨(hkeyed id link hget).symm ▸ hget, rfl⟩
    cases hlist : (t.byRef side).get? (link.ref side) with
    | none => simp [listAt, hlist] at hlisted
    | some list =>
      have hat : listAt (t.byRef side) (link.ref side) = list := by rw [listAt, hlist]; rfl
      rw [hat] at hredis hnodup
      simp only [deleteEntityLink, hget, hlist]
      rwa [eraseP_eq_removeId hnodup]

variable {before : List TrackerOp}

theorem recentAfter_append (op : TrackerOp) :
    recentAfter (before ++ [op]) = (recentAfter before).add op := by
  simp [recentAfter]

theorem tablesAfter_append {perform : TrackerTables → TrackerOp → TrackerTables} (op : TrackerOp) :
    tablesAfter perform (before ++ [op]) = perform (tablesAfter perform before) op := by
  simp [tablesAfter]

theorem tablesHold_after (hdelete : ∀ t id, (deleteLink t id).links = t.links.delete id)
    (ops : List TrackerOp) :
    TablesHold (tablesAfter (fun t => t.performWith deleteLink) ops) (recentAfter ops) := by
  induction ops using List.reverseRecOn with
  | nil =>
    refine ⟨holds_empty, holds_empty, fun id link hlink => ?_⟩
    cases hlink
  | append_singleton before op ih =>
    rw [recentAfter_append, tablesAfter_append]
    exact ih.step hdelete op

theorem links_eq (ops : List TrackerOp) : (tablesAfter RedisBackend.perform ops).links.links =
    (tablesAfter InMemoryBackend.perform ops).links.links := by
  induction ops using List.reverseRecOn with
  | nil => rfl
  | append_singleton before op ih =>
    rw [tablesAfter_append, tablesAfter_append]
    cases op with
    | setEntityLink link => exact congrArg (·.set link.id link) ih
    | deleteEntityLink id => exact congrArg (·.delete id) ih
    | _ => exact ih

variable (deleteLink) in
theorem tablesExact_step_iff (hdelete : ∀ t id, (deleteLink t id).links = t.links.delete id)
    (hexactDelete : ∀ t, LinksExact t → (∀ id link, t.links.get? id = some link → link.id = id) →
      ∀ id, LinksExact (deleteLink t id))
    (hexact : TablesExact (tablesAfter (fun t => t.performWith deleteLink) before)
      (recentAfter before))
    (hlinks : (tablesAfter (fun t => t.performWith deleteLink) before).links.links =
      (tablesAfter InMemoryBackend.perform before).links.links) (op : TrackerOp) :
    TablesExact (tablesAfter (fun t => t.performWith deleteLink) (before ++ [op]))
        (recentAfter (before ++ [op])) ↔ KeepsIndexes before op := by
  have hholds := tablesHold_after hdelete before
  rw [recentAfter_append, tablesAfter_append]
  cases op with
  | setIssue issue =>
    refine Iff.trans ⟨fun h => h.issues, fun h => ⟨h, hexact.prs, hexact.links⟩⟩ ?_
    exact exact_set_iff (t := (tablesAfter _ before).issues) hexact.issues issue
  | deleteIssue id =>
    refine Iff.trans ⟨fun h => h.issues, fun h => ⟨h, hexact.prs, hexact.links⟩⟩ ?_
    exact exact_delete_iff hholds.issues hexact.issues id
  | setPR pr =>
    refine Iff.trans ⟨fun h => h.prs, fun h => ⟨hexact.issues, h, hexact.links⟩⟩ ?_
    exact exact_set_iff (t := (tablesAfter _ before).prs) hexact.prs pr
  | deletePR id =>
    refine Iff.trans ⟨fun h => h.prs, fun h => ⟨hexact.issues, h, hexact.links⟩⟩ ?_
    exact exact_delete_iff hholds.prs hexact.prs id
  | setEntityLink link =>
    refine Iff.trans ⟨fun h => h.links, fun h => ⟨hexact.issues, hexact.prs, h⟩⟩ ?_
    have hset := linksExact_set_iff hexact.links hholds.links link
    rw [hlinks] at hset
    exact hset
  | deleteEntityLink id =>
    exact iff_of_true ⟨hexact.issues, hexact.prs, hexactDelete _ hexact.links hholds.links id⟩ trivial

theorem bothExact_step_iff (hexact : BothExact before) (op : TrackerOp) :
    BothExact (before ++ [op]) ↔ KeepsIndexes before op := by
  have hmemory := tablesExact_step_iff deleteEntityLink
    (fun _ _ => rfl) (fun _ => linksExact_memory_delete) hexact.1 rfl op
  have hredis := tablesExact_step_iff RedisBackend.deleteEntityLink
    (fun _ _ => rfl) (fun _ hlinks _ => linksExact_redis_delete hlinks) hexact.2 (links_eq before) op
  exact ⟨fun h => hmemory.mp h.1, fun h => ⟨hmemory.mpr h, hredis.mpr h⟩⟩

end sequential

section interleaved

def owes (side : LinkSide) : SetPhase → Bool
  | .read s => s = .localRef || side = .remoteRef
  | .write s _ => s = .localRef || side = .remoteRef
  | _ => false

/-- Whether a call that will delete its link has removed it from the list of a side. -/
def hasRemoved (side : LinkSide) : DeletePhase → Bool
  | .read s _ => s = .remoteRef && side = .localRef
  | .write s _ _ => s = .remoteRef && side = .localRef
  | .remove (some _) => true
  | _ => false

def OwesLink (side : LinkSide) (link : EntityLink) : LinkCall → Prop
  | .set l phase => l = link ∧ owes side phase = true
  | .delete _ _ => False

def HasRemovedLink (side : LinkSide) (id : String) : LinkCall → Prop
  | .set _ _ => False
  | .delete i phase => i = id ∧ hasRemoved side phase = true

def SameOthers (id : String) (list list' : List EntityLink) : Prop :=
  (removeId EntityLink.id list id).Perm (removeId EntityLink.id list' id)

/-- What keeps the next command of a call apart from other calls: a link is stored with the references it
is stored with already; a list is written back with the other links that it has meanwhile, and with a
link that is stored, or another with its reference that another call owes to the list; and a link that
is deleted is in no list. -/
def CommandApart (s : LinkState) (i : Nat) : LinkCall → Prop
  | .set link .store => ∀ old, s.tables.links.get? link.id = some old →
      ∀ side, old.ref side = link.ref side
  | .set link (.write side list) =>
      SameOthers link.id list (s.tables.linksByRef side (link.ref side)) ∧
      ∃ stored, s.tables.links.get? link.id = some stored ∧ stored.ref side = link.ref side ∧
        (stored = link ∨
          ∃ (j : Nat) (call : LinkCall), j ≠ i ∧ s.calls[j]? = some call ∧ OwesLink side stored call)
  | .delete id (.write side link list) =>
      SameOthers id list (s.tables.linksByRef side (link.ref side))
  | .delete id (.remove _) => ∀ stored, s.tables.links.get? id = some stored →
      ∀ side, ∀ x ∈ s.tables.linksByRef side (stored.ref side), x.id ≠ id
  | _ => True

def LinkApart (s : LinkState) : LinkAction → Prop
  | .resume i => ∀ call, s.calls[i]? = some call → CommandApart s i call
  | _ => True

def SomeCall (P : LinkCall → Prop) (calls : List LinkCall) : Prop :=
  ∃ (j : Nat) (call : LinkCall), calls[j]? = some call ∧ P call

def ListOf (side : LinkSide) (ref : String) (list : List EntityLink) : Prop :=
  (list.map EntityLink.id).Nodup ∧ ∀ x ∈ list, x.ref side = ref

def ReadsListOf : LinkCall → Prop
  | .set link (.write side list) => ListOf side (link.ref side) list
  | .delete _ (.write side link list) => ListOf side (link.ref side) list
  | _ => True

/-- Every listed link is stored, but for one whose successor is owed to the list; and every stored link
is listed, owed to the list, or about to be deleted. -/
structure LinkInvariant (s : LinkState) : Prop where
  keyed : ∀ id link, s.tables.links.get? id = some link → link.id = id
  lists : ∀ side ref, ListOf side ref (s.tables.linksByRef side ref)
  reads : ∀ call ∈ s.calls, ReadsListOf call
  listed : ∀ side ref, ∀ x ∈ s.tables.linksByRef side ref,
    ∃ stored, s.tables.links.get? x.id = some stored ∧ stored.ref side = ref ∧
      (x = stored ∨ SomeCall (OwesLink side stored) s.calls)
  stored : ∀ side id link, s.tables.links.get? id = some link →
    link ∈ s.tables.linksByRef side (link.ref side) ∨
      SomeCall (OwesLink side link) s.calls ∨ SomeCall (HasRemovedLink side id) s.calls

theorem not_of_hasReturned {call : LinkCall} (hreturned : call.hasReturned = true) (side : LinkSide) :
    (∀ link, ¬OwesLink side link call) ∧ ∀ id, ¬HasRemovedLink side id call := by
  cases call with
  | set l phase =>
    obtain rfl : phase = .returned := of_decide_eq_true hreturned
    exact ⟨fun link h => Bool.false_ne_true h.2, fun id h => h⟩
  | delete i phase =>
    obtain rfl : phase = .returned := of_decide_eq_true hreturned
    exact ⟨fun link h => h, fun id h => Bool.false_ne_true h.2⟩

theorem LinkInvariant.exact {s : LinkState} (hinv : LinkInvariant s)
    (hreturned : ∀ call ∈ s.calls, call.hasReturned = true) : LinksExact s.tables := by
  have hnone : ∀ P : LinkCall → Prop, (∀ call, call.hasReturned = true → ¬P call) →
      ¬SomeCall P s.calls := by
    rintro P hP ⟨j, call, hj, hcall⟩
    exact hP call (hreturned call (List.mem_of_getElem? hj)) hcall
  intro side ref
  have howed : ∀ link, ¬SomeCall (OwesLink side link) s.calls := fun link =>
    hnone _ fun _ hcall => (not_of_hasReturned hcall side).1 link
  refine ⟨(hinv.lists side ref).1, fun x => ⟨fun hx => ?_, ?_⟩⟩
  · obtain ⟨stored, hget, href, hsame⟩ := hinv.listed side ref x hx
    obtain rfl := hsame.resolve_right (howed stored)
    exact ⟨hget, href⟩
  · rintro ⟨hget, rfl⟩
    rcases hinv.stored side x.id x hget with hmem | hpending | hremoved
    · exact hmem
    · exact absurd hpending (howed x)
    · exact absurd hremoved (hnone _ fun _ hcall => (not_of_hasReturned hcall side).2 x.id)

section calls

variable {calls : List LinkCall} {i : Nat} {call call' : LinkCall} {P : LinkCall → Prop}

theorem someCall_append (h : SomeCall P calls) (call : LinkCall) : SomeCall P (calls ++ [call]) := by
  obtain ⟨j, c, hj, hc⟩ := h
  exact ⟨j, c, (List.getElem?_append_left (List.getElem?_eq_some_iff.mp hj).1).trans hj, hc⟩

theorem someCall_set_self (hcall : calls[i]? = some call) (hP : P call') :
    SomeCall P (calls.set i call') :=
  ⟨i, call', by rw [List.getElem?_set_self (List.getElem?_eq_some_iff.mp hcall).1], hP⟩

theorem someCall_set_of_ne (h : ∃ (j : Nat) (c : LinkCall), j ≠ i ∧ calls[j]? = some c ∧ P c) :
    SomeCall P (calls.set i call') := by
  obtain ⟨j, c, hne, hj, hc⟩ := h
  exact ⟨j, c, by rw [List.getElem?_set_ne hne.symm, hj], hc⟩

theorem someCall_set (hcall : calls[i]? = some call) (h : SomeCall P calls) :
    P call ∨ SomeCall P (calls.set i call') := by
  obtain ⟨j, c, hj, hc⟩ := h
  by_cases hji : j = i
  · subst hji
    obtain rfl := Option.some.inj (hcall.symm.trans hj)
    exact .inl hc
  · exact .inr (someCall_set_of_ne ⟨j, c, hji, hj, hc⟩)

theorem someCall_set_of_imp (hcall : calls[i]? = some call) (h : SomeCall P calls)
    (himp : P call → P call') : SomeCall P (calls.set i call') :=
  (someCall_set hcall h).elim (fun hP => someCall_set_self hcall (himp hP)) fun h => h

end calls

theorem linksByRef_setList (t : EntityLinks) (side : LinkSide) (link : EntityLink)
    (list : List EntityLink) (side' : LinkSide) (ref : String) :
    (t.setList side link list).linksByRef side' ref =
      if side' = side ∧ ref = link.ref side then list else t.linksByRef side' ref := by
  simp only [linksByRef, setList]
  by_cases hside : side' = side
  · subst hside
    simp [listAt_set]
  · simp [hside]

variable {list : List EntityLink}

theorem mem_of_sameOthers {id : String} {list' : List EntityLink} (h : SameOthers id list list')
    {x : EntityLink} (hid : x.id ≠ id) : x ∈ list ↔ x ∈ list' := by
  have hmem := h.mem_iff (a := x)
  rw [mem_removeId, mem_removeId] at hmem
  exact ⟨fun hx => (hmem.mp ⟨hx, hid⟩).1, fun hx => (hmem.mpr ⟨hx, hid⟩).1⟩

section step

variable {s : LinkState} {i : Nat} {call call' : LinkCall}

theorem reads_set (hinv : LinkInvariant s) (hreads : ReadsListOf call') :
    ∀ c ∈ s.calls.set i call', ReadsListOf c := by
  intro c hc
  rcases List.mem_or_eq_of_mem_set hc with hmem | rfl
  · exact hinv.reads c hmem
  · exact hreads

theorem LinkInvariant.sameTables (hinv : LinkInvariant s) {calls : List LinkCall}
    (hreads : ∀ c ∈ calls, ReadsListOf c)
    (howes : ∀ side link, SomeCall (OwesLink side link) s.calls → SomeCall (OwesLink side link) calls)
    (hremoved : ∀ side id, SomeCall (HasRemovedLink side id) s.calls →
      SomeCall (HasRemovedLink side id) calls) : LinkInvariant ⟨s.tables, calls⟩ where
  keyed := hinv.keyed
  lists := hinv.lists
  reads := hreads
  listed := fun side ref x hx => by
    obtain ⟨stored, hget, href, hsame⟩ := hinv.listed side ref x hx
    exact ⟨stored, hget, href, hsame.imp_right (howes side stored)⟩
  stored := fun side id link hget =>
    (hinv.stored side id link hget).imp_right (Or.imp (howes side link) (hremoved side id))

theorem LinkInvariant.begin (hinv : LinkInvariant s) (hreads : ReadsListOf call) :
    LinkInvariant ⟨s.tables, s.calls ++ [call]⟩ := by
  refine hinv.sameTables (fun c hc => ?_) (fun _ _ h => someCall_append h call)
    fun _ _ h => someCall_append h call
  rcases List.mem_append.mp hc with hmem | hnew
  · exact hinv.reads c hmem
  · rwa [List.mem_singleton.mp hnew]

theorem LinkInvariant.read (hinv : LinkInvariant s) (hcall : s.calls[i]? = some call)
    (hreads : ReadsListOf call') (howes : ∀ side link, OwesLink side link call →
      OwesLink side link call') (hremoved : ∀ side id, HasRemovedLink side id call →
      HasRemovedLink side id call') : LinkInvariant ⟨s.tables, s.calls.set i call'⟩ :=
  hinv.sameTables (reads_set hinv hreads)
    (fun side link h => someCall_set_of_imp hcall h (howes side link))
    fun side id h => someCall_set_of_imp hcall h (hremoved side id)

variable {link : EntityLink}

theorem LinkInvariant.setStore (hinv : LinkInvariant s)
    (hcall : s.calls[i]? = some (.set link .store)) (hapart : CommandApart s i (.set link .store)) :
    LinkInvariant ⟨{ s.tables with links := s.tables.links.set link.id link },
      s.calls.set i (.set link (.read .localRef))⟩ := by
  have howed : ∀ side, SomeCall (OwesLink side link) (s.calls.set i (.set link (.read .localRef))) :=
    fun side => someCall_set_self hcall ⟨rfl, rfl⟩
  have hkeep : ∀ side x, SomeCall (OwesLink side x) s.calls →
      SomeCall (OwesLink side x) (s.calls.set i (.set link (.read .localRef))) := fun side x h =>
    someCall_set_of_imp hcall h fun hP => absurd hP.2 Bool.false_ne_true
  refine ⟨keyed_set hinv.keyed link, hinv.lists, reads_set hinv trivial, ?_, ?_⟩
  · intro side ref x hx
    obtain ⟨stored, hget, href, hsame⟩ := hinv.listed side ref x hx
    simp only [get?_set]
    by_cases hid : x.id = link.id
    · rw [hid] at hget
      exact ⟨link, if_pos hid, (hapart stored hget side).symm.trans href, .inr (howed side)⟩
    · exact ⟨stored, (if_neg hid).trans hget, href, hsame.imp_right (hkeep side stored)⟩
  · intro side id x hx
    simp only [get?_set] at hx
    split at hx
    · obtain rfl := Option.some.inj hx
      exact .inr (.inl (howed side))
    · rcases hinv.stored side id x hx with hmem | howes | hremoved
      · exact .inl hmem
      · exact .inr (.inl (hkeep side x howes))
      · exact .inr (.inr (someCall_set_of_imp hcall hremoved False.elim))

theorem owes_afterWrite {side side' : LinkSide}
    (howes : owes side (.write side' list) = true) (hne : side ≠ side') :
    owes side (.afterWrite side') = true := by
  cases side' with
  | localRef => cases side with
    | localRef => exact absurd rfl hne
    | remoteRef => rfl
  | remoteRef => cases side with
    | localRef => cases howes
    | remoteRef => exact absurd rfl hne

theorem LinkInvariant.setWrite (hinv : LinkInvariant s) {side : LinkSide}
    (hcall : s.calls[i]? = some (.set link (.write side list)))
    (hapart : CommandApart s i (.set link (.write side list))) :
    LinkInvariant ⟨s.tables.setList side link (upsertById EntityLink.id link list),
      s.calls.set i (.set link (.afterWrite side))⟩ := by
  obtain ⟨hothers, stored, hstored, hstoredRef, hlatest⟩ := hapart
  obtain ⟨hnodup, hrefs⟩ : ListOf side (link.ref side) list :=
    hinv.reads _ (List.mem_of_getElem? hcall)
  have hlinked : link ∈ upsertById EntityLink.id link list := (mem_upsertById hnodup).mpr (.inl rfl)
  -- what is owed to a list of another side or reference is still owed
  have hkeep : ∀ side' x, ¬(side' = side ∧ x = link) → SomeCall (OwesLink side' x) s.calls →
      SomeCall (OwesLink side' x) (s.calls.set i (.set link (.afterWrite side))) := by
    intro side' x hother h
    refine someCall_set_of_imp hcall h fun hP => ⟨hP.1, owes_afterWrite hP.2 fun hside => ?_⟩
    exact hother ⟨hside, hP.1.symm⟩
  have hpending : stored = link ∨
      SomeCall (OwesLink side stored) (s.calls.set i (.set link (.afterWrite side))) :=
    hlatest.imp_right someCall_set_of_ne
  refine ⟨hinv.keyed, fun side' ref => ?_, reads_set hinv ?_, fun side' ref x hx => ?_,
    fun side' id x hx => ?_⟩
  · rw [linksByRef_setList]
    split
    · next hat =>
      obtain ⟨rfl, rfl⟩ := hat
      refine ⟨nodup_upsertById hnodup, fun x hx => ?_⟩
      rcases (mem_upsertById hnodup).mp hx with rfl | ⟨hmem, _⟩
      · rfl
      · exact hrefs x hmem
    · exact hinv.lists side' ref
  · cases side <;> trivial
  · rw [linksByRef_setList] at hx
    split at hx
    · next hat =>
      obtain ⟨rfl, rfl⟩ := hat
      rcases (mem_upsertById hnodup).mp hx with rfl | ⟨hmem, hid⟩
      · exact ⟨stored, hstored, hstoredRef, hpending.imp_left Eq.symm⟩
      · obtain ⟨old, hget, href, hsame⟩ :=
          hinv.listed side' (link.ref side') x ((mem_of_sameOthers hothers hid).mp hmem)
        refine ⟨old, hget, href, hsame.imp_right (hkeep side' old ?_)⟩
        rintro ⟨-, rfl⟩
        exact hid (hinv.keyed _ _ hget).symm
    · next hat =>
      obtain ⟨old, hget, href, hsame⟩ := hinv.listed side' ref x hx
      refine ⟨old, hget, href, hsame.imp_right (hkeep side' old ?_)⟩
      rintro ⟨rfl, rfl⟩
      exact hat ⟨rfl, href.symm⟩
  · rw [linksByRef_setList]
    rcases hinv.stored side' id x hx with hmem | howes | hremoved
    · split
      · next hat =>
        obtain ⟨rfl, href⟩ := hat
        by_cases hid : x.id = link.id
        · have hsame : stored = x := by
            rw [← hid, hinv.keyed id x hx] at hstored
            exact Option.some.inj (hstored.symm.trans hx)
          subst hsame
          exact hpending.elim (fun hlink => .inl (hlink ▸ hlinked)) fun h => .inr (.inl h)
        · rw [href] at hmem
          exact .inl ((mem_upsertById hnodup).mpr
            (.inr ⟨(mem_of_sameOthers hothers hid).mpr hmem, hid⟩))
      · exact .inl hmem
    · by_cases hother : side' = side ∧ x = link
      · obtain ⟨rfl, rfl⟩ := hother
        rw [if_pos ⟨rfl, rfl⟩]
        exact .inl hlinked
      · exact .inr (.inl (hkeep side' x hother howes))
    · exact .inr (.inr (someCall_set_of_imp hcall hremoved False.elim))

theorem hasRemoved_afterWrite (side : LinkSide) : hasRemoved side (.afterWrite link side) = true := by
  cases side <;> rfl

theorem LinkInvariant.deleteWrite (hinv : LinkInvariant s) {id : String} {side : LinkSide} (hcall : s.calls[i]? = some (.delete id (.write side link list)))
    (hapart : CommandApart s i (.delete id (.write side link list))) :
    LinkInvariant ⟨s.tables.setList side link (removeId EntityLink.id list id),
      s.calls.set i (.delete id (.afterWrite link side))⟩ := by
  obtain ⟨hnodup, hrefs⟩ : ListOf side (link.ref side) list :=
    hinv.reads _ (List.mem_of_getElem? hcall)
  have hkeep : ∀ side' x, SomeCall (OwesLink side' x) s.calls →
      SomeCall (OwesLink side' x) (s.calls.set i (.delete id (.afterWrite link side))) :=
    fun side' x h => someCall_set_of_imp hcall h False.elim
  refine ⟨hinv.keyed, fun side' ref => ?_, reads_set hinv ?_, fun side' ref x hx => ?_,
    fun side' j x hx => ?_⟩
  · rw [linksByRef_setList]
    split
    · next hat =>
      obtain ⟨rfl, rfl⟩ := hat
      exact ⟨nodup_removeId hnodup, fun x hx => hrefs x (mem_removeId.mp hx).1⟩
    · exact hinv.lists side' ref
  · cases side <;> trivial
  · have hmem : x ∈ s.tables.linksByRef side' ref := by
      rw [linksByRef_setList] at hx
      split at hx
      · next hat =>
        obtain ⟨rfl, rfl⟩ := hat
        obtain ⟨hmem, hid⟩ := mem_removeId.mp hx
        exact (mem_of_sameOthers hapart hid).mp hmem
      · exact hx
    obtain ⟨old, hget, href, hsame⟩ := hinv.listed side' ref x hmem
    exact ⟨old, hget, href, hsame.imp_right (hkeep side' old)⟩
  · rw [linksByRef_setList]
    rcases hinv.stored side' j x hx with hmem | howes | hremoved
    · split
      · next hat =>
        obtain ⟨rfl, href⟩ := hat
        by_cases hid : x.id = id
        · have hj : id = j := hid.symm.trans (hinv.keyed j x hx)
          exact .inr (.inr (someCall_set_self hcall ⟨hj, hasRemoved_afterWrite side'⟩))
        · rw [href] at hmem
          exact .inl (mem_removeId.mpr ⟨(mem_of_sameOthers hapart hid).mpr hmem, hid⟩)
      · exact .inl hmem
    · exact .inr (.inl (hkeep side' x howes))
    · refine .inr (.inr (someCall_set_of_imp hcall hremoved fun hP => ⟨hP.1, ?_⟩))
      cases side with
      | localRef => cases hP.2
      | remoteRef => rfl

theorem LinkInvariant.deleteRemove (hinv : LinkInvariant s) {id : String} {found : Option EntityLink}
    (hcall : s.calls[i]? = some (.delete id (.remove found)))
    (hapart : CommandApart s i (.delete id (.remove found))) :
    LinkInvariant ⟨{ s.tables with links := s.tables.links.delete id },
      s.calls.set i (.delete id .returned)⟩ := by
  have hkeep : ∀ side x, SomeCall (OwesLink side x) s.calls →
      SomeCall (OwesLink side x) (s.calls.set i (.delete id .returned)) :=
    fun side x h => someCall_set_of_imp hcall h False.elim
  refine ⟨fun j x hx => keyed_delete hinv.keyed id j x hx, hinv.lists, reads_set hinv trivial,
    fun side ref x hx => ?_, fun side j x hx => ?_⟩
  · obtain ⟨old, hget, href, hsame⟩ := hinv.listed side ref x hx
    have hid : x.id ≠ id := by
      intro hid
      rw [hid] at hget
      exact hapart old hget side x (href ▸ hx) hid
    simp only [get?_delete]
    exact ⟨old, (if_neg hid).trans hget, href, hsame.imp_right (hkeep side old)⟩
  · simp only [get?_delete] at hx
    split at hx
    · cases hx
    · next hj =>
      rcases hinv.stored side j x hx with hmem | howes | hremoved
      · exact .inl hmem
      · exact .inr (.inl (hkeep side x howes))
      · exact .inr (.inr (someCall_set_of_imp hcall hremoved fun hP => absurd hP.1.symm hj))

theorem LinkInvariant.resume (hinv : LinkInvariant s) (hcall : s.calls[i]? = some call)
    (hapart : CommandApart s i call) {t : EntityLinks}
    (hcommand : call.command s.tables = some (t, call')) :
    LinkInvariant ⟨t, s.calls.set i call'⟩ := by
  cases call with
  | set link phase =>
    cases phase with
    | store =>
      cases hcommand
      exact hinv.setStore hcall hapart
    | read side =>
      cases hcommand
      exact hinv.read hcall (hinv.lists side _) (fun _ _ h => h) fun _ _ h => h
    | write side list =>
      cases hcommand
      exact hinv.setWrite hcall hapart
    | returned => cases hcommand
  | delete id phase =>
    cases phase with
    | readLink =>
      cases hcommand
      refine hinv.read hcall ?_ (fun _ _ h => h) fun _ _ h => absurd h.2 Bool.false_ne_true
      split <;> trivial
    | read side link =>
      cases hcommand
      exact hinv.read hcall (hinv.lists side _) (fun _ _ h => h) fun _ _ h => h
    | write side link list =>
      cases hcommand
      exact hinv.deleteWrite hcall hapart
    | remove found =>
      cases hcommand
      exact hinv.deleteRemove hcall hapart
    | returned => cases hcommand

theorem LinkInvariant.next (hinv : LinkInvariant s) {a : LinkAction} {s' : LinkState}
    (hapart : LinkApart s a) (hnext : s.next a = some s') : LinkInvariant s' := by
  cases a with
  | setEntityLink link =>
    cases hnext
    exact hinv.begin trivial
  | deleteEntityLink id =>
    cases hnext
    exact hinv.begin trivial
  | resume i =>
    obtain ⟨call, hcall, hstep⟩ := Option.bind_eq_some_iff.mp hnext
    obtain ⟨⟨t, call'⟩, hcommand, rfl⟩ := Option.map_eq_some_iff.mp hstep
    exact hinv.resume hcall (hapart call hcall) hcommand

theorem linkInvariant_empty : LinkInvariant ⟨.empty, []⟩ where
  keyed := fun _ _ h => by cases h
  lists := fun _ _ => ⟨List.nodup_nil, fun _ h => by cases h⟩
  reads := fun _ h => by cases h
  listed := fun _ _ _ h => by cases h
  stored := fun _ _ _ h => by cases h

end step

end interleaved

theorem bothExact_nil : BothExact [] := by
  have hempty : LinksExact .empty := fun _ _ =>
    ⟨List.nodup_nil, fun _ => iff_of_false List.not_mem_nil fun h => by cases h.1⟩
  exact ⟨⟨fun _ => rfl, fun _ => rfl, hempty⟩, ⟨fun _ => rfl, fun _ => rfl, hempty⟩⟩

/-- The copies and lists of both backends are exact after each operation of a sequence exactly when each
operation keeps them; in Redis those of links are exact once all calls have returned if each command was
kept apart from the other calls. -/
theorem tracker_indexes_exact_iff (ops : List TrackerOp) :
    ((∀ before, before <+: ops → BothExact before) ↔
      ∀ before op after, ops = before ++ op :: after → KeepsIndexes before op) ∧
    ∀ h s, linkMachine.Run h s → Machine.Steps LinkApart h →
      (∀ call ∈ s.calls, call.hasReturned = true) → LinksExact s.tables := by
  refine ⟨forall_prefix_iff bothExact_nil (fun _ op hexact => bothExact_step_iff hexact op) ops,
    fun h s hrun hapart hreturned => ?_⟩
  have hinv : LinkInvariant s := by
    refine hrun.stateInvariant ?_ ?_ hapart
    · rintro _ rfl
      exact linkInvariant_empty
    · intro s a s' hinv hap hstep
      exact hinv.next hap hstep
  exact hinv.exact hreturned

section samples

instance {P : LinkSide → Prop} [DecidablePred P] : Decidable (∀ side, P side) :=
  decidable_of_iff (P .localRef ∧ P .remoteRef) ⟨fun h side => match side with
      | .localRef => h.1
      | .remoteRef => h.2, fun h => ⟨h .localRef, h .remoteRef⟩⟩

instance (side : LinkSide) (link : EntityLink) : DecidablePred (OwesLink side link)
  | .set l phase => inferInstanceAs (Decidable (l = link ∧ owes side phase = true))
  | .delete _ _ => inferInstanceAs (Decidable False)

instance (id : String) (list list' : List EntityLink) : Decidable (SameOthers id list list') :=
  inferInstanceAs (Decidable (List.Perm _ _))

instance (calls : List LinkCall) (i : Nat) (P : LinkCall → Prop) [DecidablePred P] :
    Decidable (∃ (j : Nat) (call : LinkCall), j ≠ i ∧ calls[j]? = some call ∧ P call) :=
  decidable_of_iff (∃ j ∈ List.range calls.length, j ≠ i ∧ ∃ call ∈ calls[j]?, P call) <| by
    constructor
    · rintro ⟨j, _, hne, call, hcall, hP⟩
      exact ⟨j, call, hne, hcall, hP⟩
    · rintro ⟨j, call, hne, hcall, hP⟩
      exact ⟨j, List.mem_range.mpr (List.getElem?_eq_some_iff.mp hcall).1, hne, call, hcall, hP⟩

instance (s : LinkState) (i : Nat) : DecidablePred (CommandApart s i)
  | .set link .store => inferInstanceAs (Decidable (∀ old ∈ s.tables.links.get? link.id,
      ∀ side, old.ref side = link.ref side))
  | .set link (.write side list) => inferInstanceAs (Decidable
      (SameOthers link.id list (s.tables.linksByRef side (link.ref side)) ∧
        ∃ stored ∈ s.tables.links.get? link.id, stored.ref side = link.ref side ∧
          (stored = link ∨ ∃ (j : Nat) (call : LinkCall), j ≠ i ∧ s.calls[j]? = some call ∧
            OwesLink side stored call)))
  | .delete id (.write side link list) =>
      inferInstanceAs (Decidable (SameOthers id list (s.tables.linksByRef side (link.ref side))))
  | .delete id (.remove _) => inferInstanceAs (Decidable (∀ stored ∈ s.tables.links.get? id,
      ∀ side, ∀ x ∈ s.tables.linksByRef side (stored.ref side), x.id ≠ id))
  | .set _ (.read _) => .isTrue trivial
  | .set _ .returned => .isTrue trivial
  | .delete _ .readLink => .isTrue trivial
  | .delete _ (.read _ _) => .isTrue trivial
  | .delete _ .returned => .isTrue trivial

instance (s : LinkState) : DecidablePred (LinkApart s)
  | .resume i => inferInstanceAs (Decidable (∀ call ∈ s.calls[i]?, CommandApart s i call))
  | .setEntityLink _ => .isTrue trivial
  | .deleteEntityLink _ => .isTrue trivial

def sampleIssue (id key : String) : IssueCache where
  id := id
  trackerConnectionId := "connection"
  remoteIssueId := "1"
  remoteIssueKey := key
  title := "title"
  rawJson := "null"
  lastSeenAt := "now"
  createdAt := "now"
  updatedAt := "now"

def sampleLink (id localRef remoteRef : String) : EntityLink where
  id := id
  localRef := localRef
  remoteRef := remoteRef
  linkRole := "primary"
  createdAt := "now"
  updatedAt := "now"

theorem exists_links_of_script (script : List LinkAction)
    (test : History LinkState LinkAction × LinkState → Bool)
    (h : (Machine.replay LinkState.next ⟨.empty, []⟩ (script.map fun a _ => some a)).any test =
      true) : ∃ h s, linkMachine.Run h s ∧ test (h, s) = true :=
  Machine.exists_run_of_replay rfl h

def taskLink : EntityLink := sampleLink "link-1" "task-1" "issue-1"

def otherLink : EntityLink := sampleLink "link-2" "task-1" "issue-2"

def turnsTaken : List LinkAction :=
  [.setEntityLink taskLink, .setEntityLink otherLink, .resume 0, .resume 1, .resume 0, .resume 0,
    .resume 1, .resume 1, .resume 0, .resume 1, .resume 0, .resume 1, .deleteEntityLink "link-1",
    .resume 2, .resume 2, .resume 2, .resume 2, .resume 2, .resume 2]

theorem turns_taken_exact : ∃ h s, linkMachine.Run h s ∧ s.calls.length = 3 ∧
    s.tables.linksByRef .localRef "task-1" = [otherLink] ∧ LinksExact s.tables := by
  obtain ⟨h, s, hrun, htest⟩ := exists_links_of_script turnsTaken
    (fun p => p.1.all (fun q => LinkApart q.1 q.2) && (p.2.calls.all LinkCall.hasReturned &&
      decide (p.2.calls.length = 3 ∧ p.2.tables.linksByRef .localRef "task-1" = [otherLink])))
    (by decide +kernel)
  rw [Bool.and_eq_true, Bool.and_eq_true, List.all_eq_true, List.all_eq_true,
    decide_eq_true_eq] at htest
  obtain ⟨hsteps, hreturned, hcount, hlist⟩ := htest
  have hapart : Machine.Steps LinkApart h := fun p hp => of_decide_eq_true (hsteps p hp)
  exact ⟨h, s, hrun, hcount, hlist, (tracker_indexes_exact_iff []).2 h s hrun hapart hreturned⟩

def bothRead : List LinkAction :=
  [.setEntityLink taskLink, .setEntityLink otherLink, .resume 0, .resume 1, .resume 0, .resume 1,
    .resume 0, .resume 1, .resume 0, .resume 0, .resume 1, .resume 1]

/-- An issue that is stored is not found by its key once an older copy of it is deleted, an issue that has
changed its key is found by the old one, a link that has changed its reference is listed under the old
one, and of two links that are set at once in Redis one is not listed. -/
theorem tracker_indexes_wrong : (∀ perform ∈ [InMemoryBackend.perform, RedisBackend.perform],
      (tablesAfter perform [.setIssue (sampleIssue "a" "KEY"), .setIssue (sampleIssue "b" "KEY"),
        .deleteIssue "a"]).getIssueByKey "KEY" = none ∧
      (tablesAfter perform [.setIssue (sampleIssue "a" "OLD"),
        .setIssue (sampleIssue "a" "NEW")]).getIssueByKey "OLD" = some (sampleIssue "a" "OLD") ∧
      (tablesAfter perform [.setEntityLink taskLink, .setEntityLink
        (sampleLink "link-1" "task-2" "issue-1")]).getEntityLinksByLocalRef "task-1" = [taskLink]) ∧
    (recentAfter [.setIssue (sampleIssue "a" "KEY"), .setIssue (sampleIssue "b" "KEY"),
      .deleteIssue "a"]).issues = [sampleIssue "b" "KEY"] ∧
    (recentAfter [.setIssue (sampleIssue "a" "OLD"), .setIssue (sampleIssue "a" "NEW")]).issues =
      [sampleIssue "a" "NEW"] ∧
    ∃ h s, linkMachine.Run h s ∧ (∀ call ∈ s.calls, call.hasReturned = true) ∧
      s.tables.links.get? "link-1" = some taskLink ∧
      s.tables.linksByRef .localRef "task-1" = [otherLink] := by
  refine ⟨by decide +kernel, by decide +kernel, by decide +kernel, ?_⟩
  obtain ⟨h, s, hrun, htest⟩ := exists_links_of_script bothRead
    (fun p => p.2.calls.all LinkCall.hasReturned &&
      decide (p.2.tables.links.get? "link-1" = some taskLink ∧
        p.2.tables.linksByRef .localRef "task-1" = [otherLink])) (by decide +kernel)
  rw [Bool.and_eq_true, List.all_eq_true, decide_eq_true_eq] at htest
  exact ⟨h, s, hrun, htest.1, htest.2.1, htest.2.2⟩

end samples

end ShipyardCp.Properties
