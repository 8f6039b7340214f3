import Mathlib.Data.List.Perm.Basic
import Mathlib.Data.List.Induction
import ShipyardCp.Lib.InsertionMap

/-! Tables with a second way in: a copy of an entry under a second key, and lists of the entries with a
reference. Which writes keep them in step with the entries that are stored. -/

namespace ShipyardCp.Lib

open InsertionMap

section latest

variable {E ι κ : Type*} [DecidableEq ι] [DecidableEq κ] (id : E → ι) (key : E → κ)

/-- Entries in the order in which they were last put. -/
def putLast (es : List E) (e : E) : List E := es.filter (fun x => id x ≠ id e) ++ [e]

def removeId (es : List E) (i : ι) : List E := es.filter (fun x => id x ≠ i)

/-- The entry with a key that was put last. -/
def latest (es : List E) (k : κ) : Option E := (es.filter (fun x => key x = k)).getLast?

variable {id key} {es : List E} {e x : E} {k : κ}

theorem mem_of_latest (h : latest key es k = some x) : x ∈ es ∧ key x = k := by
  have hmem := List.mem_of_getLast? h
  rw [List.mem_filter, decide_eq_true_eq] at hmem
  exact hmem

theorem latest_eq_none_iff : latest key es k = none ↔ ∀ x ∈ es, key x ≠ k := by
  simp [latest]

theorem latest_filter {p : E → Bool} (h : latest key es k = some x) (hx : p x = true) :
    latest key (es.filter p) k = some x := by
  have hcomm : (es.filter p).filter (fun x => key x = k) =
      (es.filter (fun x => key x = k)).filter p := by
    rw [List.filter_filter, List.filter_filter]
    exact List.filter_congr fun y _ => Bool.and_comm _ _
  obtain ⟨before, hbefore⟩ := List.getLast?_eq_some_iff.mp h
  rw [latest, hcomm, hbefore, List.filter_append, List.filter_cons_of_pos hx]
  simp

theorem latest_putLast : latest key (putLast id es e) k =
    if key e = k then some e else latest key (removeId id es (id e)) k := by
  rw [latest, putLast, List.filter_append]
  by_cases hk : key e = k
  · simp [hk]
  · simp [hk, latest, removeId]

/-- Removing an id leaves the latest entry of a key unless that is the entry removed. -/
theorem latest_removeId_iff {i : ι} : latest key (removeId id es i) k = latest key es k ↔
    ∀ x, latest key es k = some x → id x ≠ i := by
  constructor
  · intro hsame x hx
    rw [← hsame] at hx
    have hmem := (mem_of_latest hx).1
    rw [removeId, List.mem_filter, decide_eq_true_eq] at hmem
    exact hmem.2
  · intro hother
    cases hlatest : latest key es k with
    | none =>
      rw [latest_eq_none_iff] at hlatest ⊢
      exact fun x hx => hlatest x (List.mem_of_mem_filter hx)
    | some x => exact latest_filter hlatest (decide_eq_true (hother x hlatest))

end latest

/-- A table by id with a copy of entries under their keys. -/
structure CopiedTable {E ι κ : Type*} [DecidableEq ι] [DecidableEq κ] (id : E → ι) (key : E → κ) where
  byId : InsertionMap ι E
  byKey : InsertionMap κ E

namespace CopiedTable

variable {E ι κ : Type*} [DecidableEq ι] [DecidableEq κ] {id : E → ι} {key : E → κ}

def empty : CopiedTable id key := ⟨.empty, .empty⟩

/-- The copy is written under the key of the new entry alone. -/
def set (t : CopiedTable id key) (e : E) : CopiedTable id key :=
  ⟨t.byId.set (id e) e, t.byKey.set (key e) e⟩

/-- The copy under the key of the entry is deleted with it. -/
def delete (t : CopiedTable id key) (i : ι) : CopiedTable id key :=
  { byId := t.byId.delete i
    byKey := match t.byId.get? i with
      | some e => t.byKey.delete (key e)
      | none => t.byKey }

/-- The table holds the entries by their ids. -/
def Holds (t : CopiedTable id key) (es : List E) : Prop :=
  ∀ i e, t.byId.get? i = some e ↔ e ∈ es ∧ id e = i

/-- Under each key is the entry that was put last of those with the key. -/
def Exact (t : CopiedTable id key) (es : List E) : Prop := ∀ k, t.byKey.get? k = latest key es k

variable {t : CopiedTable id key} {es : List E}

theorem holds_empty : Holds (empty : CopiedTable id key) [] := by
  intro i e
  simp [empty]

theorem Holds.set (hholds : t.Holds es) (e : E) : (t.set e).Holds (putLast id es e) := by
  intro i x
  rw [CopiedTable.set, get?_set, putLast, List.mem_append, List.mem_filter,
    List.mem_singleton, decide_eq_true_eq]
  split
  · next hi =>
    subst hi
    constructor
    · intro h
      obtain rfl := Option.some.inj h
      exact ⟨.inr rfl, rfl⟩
    · rintro ⟨⟨_, hne⟩ | rfl, hid⟩
      · exact absurd hid hne
      · rfl
  · next hi =>
    rw [hholds]
    constructor
    · rintro ⟨hmem, rfl⟩
      exact ⟨.inl ⟨hmem, hi⟩, rfl⟩
    · rintro ⟨⟨hmem, _⟩ | rfl, hid⟩
      · exact ⟨hmem, hid⟩
      · exact absurd hid.symm hi

theorem Holds.delete (hholds : t.Holds es) (i : ι) : (t.delete i).Holds (removeId id es i) := by
  intro j x
  rw [CopiedTable.delete, get?_delete, removeId, List.mem_filter, decide_eq_true_eq]
  split
  · next hj =>
    subst hj
    simp
  · next hj =>
    rw [hholds]
    constructor
    · rintro ⟨hmem, rfl⟩
      exact ⟨⟨hmem, hj⟩, rfl⟩
    · rintro ⟨⟨hmem, _⟩, hid⟩
      exact ⟨hmem, hid⟩

/-- A write keeps the copies exact unless the entry with its id was the latest of another key. -/
theorem exact_set_iff (hexact : t.Exact es) (e : E) : (t.set e).Exact (putLast id es e) ↔
    ∀ old ∈ es, id old = id e → key old = key e ∨ latest key es (key old) ≠ some old := by
  have hkeys : (t.set e).Exact (putLast id es e) ↔
      ∀ k, key e ≠ k → latest key (removeId id es (id e)) k = latest key es k := by
    refine forall_congr' fun k => ?_
    rw [latest_putLast, CopiedTable.set, get?_set, hexact k]
    by_cases hk : key e = k
    · simp [hk]
    · rw [if_neg hk, if_neg (Ne.symm hk)]
      exact ⟨fun h _ => h.symm, fun h => (h hk).symm⟩
  rw [hkeys]
  constructor
  · intro hall old _ hid
    by_cases hkey : key old = key e
    · exact .inl hkey
    · exact .inr fun hlatest =>
        latest_removeId_iff.mp (hall (key old) (Ne.symm hkey)) old hlatest hid
  · intro hall k hk
    refine latest_removeId_iff.mpr fun x hx hid => ?_
    obtain ⟨hmem, rfl⟩ := mem_of_latest hx
    rcases hall x hmem hid with hkey | hnot
    · exact hk hkey.symm
    · exact hnot hx

/-- A deletion keeps the copies exact unless another entry has the key of the one deleted. -/
theorem exact_delete_iff (hholds : t.Holds es) (hexact : t.Exact es) (i : ι) :
    (t.delete i).Exact (removeId id es i) ↔
      ∀ old ∈ es, id old = i → ∀ x ∈ es, key x = key old → id x = i := by
  cases hget : t.byId.get? i with
  | none =>
    have hfree : ∀ x ∈ es, id x ≠ i := by
      intro x hmem hid
      rw [(hholds i x).mpr ⟨hmem, hid⟩] at hget
      cases hget
    refine iff_of_true (fun k => ?_) fun old hmem hid => absurd hid (hfree old hmem)
    rw [delete, hget]
    exact (hexact k).trans (latest_removeId_iff.mpr fun x hx => hfree x (mem_of_latest hx).1).symm
  | some old =>
    obtain ⟨hmem, hid⟩ := (hholds i old).mp hget
    have hunique : ∀ x ∈ es, id x = i → x = old := by
      intro x hx hxi
      have hgetx := (hholds i x).mpr ⟨hx, hxi⟩
      exact Option.some.inj (hgetx.symm.trans hget)
    have hkeys : (t.delete i).Exact (removeId id es i) ↔
        latest key (removeId id es i) (key old) = none := by
      constructor
      · intro h
        have hk := h (key old)
        rw [delete, hget, get?_delete, if_pos rfl] at hk
        exact hk.symm
      · intro h k
        rw [delete, hget]
        simp only [get?_delete]
        split
        · next hk => rw [hk, h]
        · next hk =>
          refine (hexact k).trans (latest_removeId_iff.mpr fun x hx hxi => hk ?_).symm
          obtain ⟨hmemx, hkey⟩ := mem_of_latest hx
          rw [← hkey, hunique x hmemx hxi]
    rw [hkeys, latest_eq_none_iff]
    constructor
    · intro hnone old' hmem' hid' x hx hkey
      obtain rfl := hunique old' hmem' hid'
      by_contra hxi
      exact hnone x (List.mem_filter.mpr ⟨hx, decide_eq_true hxi⟩) hkey
    · intro hall x hx hkey
      rw [removeId, List.mem_filter, decide_eq_true_eq] at hx
      exact hx.2 (hall old hmem hid x hx.1 hkey)

end CopiedTable

section lists

variable {E ι ρ : Type*} [DecidableEq ι] [DecidableEq ρ] (id : E → ι) (ref : E → ρ)

/-- Replaces the first entry with the id of the new one, or adds the new one at the end. -/
def upsertById (e : E) : List E → List E
  | [] => [e]
  | x :: es => if id x = id e then e :: es else x :: upsertById e es

variable {id ref} {es : List E} {e x : E} {i : ι}

theorem map_id_upsertById : (upsertById id e es).map id =
    if id e ∈ es.map id then es.map id else es.map id ++ [id e] := by
  induction es with
  | nil => simp [upsertById]
  | cons y es ih =>
    by_cases hy : id y = id e
    · simp [upsertById, hy]
    · rw [upsertById, if_neg hy, List.map_cons, ih, List.map_cons]
      by_cases hmem : id e ∈ es.map id
      · rw [if_pos hmem, if_pos (List.mem_cons_of_mem _ hmem)]
      · have hfree : id e ∉ id y :: es.map id := List.not_mem_cons_of_ne_of_not_mem (Ne.symm hy) hmem
        rw [if_neg hmem, if_neg hfree, List.cons_append]

theorem nodup_upsertById (hnodup : (es.map id).Nodup) : ((upsertById id e es).map id).Nodup := by
  rw [map_id_upsertById]
  split
  · exact hnodup
  · next hfree =>
    refine hnodup.append (List.nodup_singleton _) ?_
    intro j hj hmem
    rw [List.mem_singleton.mp hmem] at hj
    exact hfree hj

theorem mem_upsertById (hnodup : (es.map id).Nodup) :
    x ∈ upsertById id e es ↔ x = e ∨ x ∈ es ∧ id x ≠ id e := by
  induction es with
  | nil => simp [upsertById]
  | cons y es ih =>
    obtain ⟨hfree, hrest⟩ := List.nodup_cons.mp hnodup
    by_cases hy : id y = id e
    · rw [upsertById, if_pos hy, List.mem_cons, List.mem_cons]
      constructor
      · rintro (rfl | hmem)
        · exact .inl rfl
        · exact .inr ⟨.inr hmem, fun hid => hfree (hy ▸ hid ▸ List.mem_map_of_mem hmem)⟩
      · rintro (rfl | ⟨rfl | hmem, hid⟩)
        · exact .inl rfl
        · exact absurd hy hid
        · exact .inr hmem
    · rw [upsertById, if_neg hy, List.mem_cons, ih hrest, List.mem_cons]
      constructor
      · rintro (rfl | rfl | ⟨hmem, hid⟩)
        · exact .inr ⟨.inl rfl, hy⟩
        · exact .inl rfl
        · exact .inr ⟨.inr hmem, hid⟩
      · rintro (rfl | ⟨rfl | hmem, hid⟩)
        · exact .inr (.inl rfl)
        · exact .inl rfl
        · exact .inr (.inr ⟨hmem, hid⟩)

theorem mem_removeId : x ∈ removeId id es i ↔ x ∈ es ∧ id x ≠ i := by
  rw [removeId, List.mem_filter, decide_eq_true_eq]

theorem nodup_removeId (hnodup : (es.map id).Nodup) : ((removeId id es i).map id).Nodup :=
  hnodup.sublist (List.filter_sublist.map id)

theorem eraseP_eq_removeId (hnodup : (es.map id).Nodup) :
    es.eraseP (fun x => id x = i) = removeId id es i := by
  induction es with
  | nil => rfl
  | cons y es ih =>
    obtain ⟨hfree, hrest⟩ := List.nodup_cons.mp hnodup
    by_cases hy : id y = i
    · have hkept : removeId id es i = es := by
        refine List.filter_eq_self.mpr fun x hx => decide_eq_true fun hid => ?_
        exact hfree (hy ▸ hid ▸ List.mem_map_of_mem hx)
      rw [List.eraseP_cons_of_pos (by simpa using hy), removeId,
        List.filter_cons_of_neg (by simpa using hy)]
      exact hkept.symm
    · rw [List.eraseP_cons_of_neg (by simpa using hy), ih hrest, removeId, removeId,
        List.filter_cons_of_pos (by simpa using hy)]

/-- The entries under a reference. -/
def listAt (index : InsertionMap ρ (List E)) (r : ρ) : List E := (index.get? r).getD []

theorem listAt_set (index : InsertionMap ρ (List E)) (r r' : ρ) (list : List E) :
    listAt (index.set r list) r' = if r' = r then list else listAt index r' := by
  rw [listAt, get?_set]
  split <;> rfl

/-- The list has just the entries that are stored with the reference, each once. -/
def ListsExactly (id : E → ι) (ref : E → ρ) (stored : ι → Option E) (r : ρ) (es : List E) : Prop :=
  (es.map id).Nodup ∧ ∀ x, x ∈ es ↔ stored (id x) = some x ∧ ref x = r

/-- Every list of the index is exact. -/
def IndexExact (id : E → ι) (ref : E → ρ) (stored : ι → Option E) (index : InsertionMap ρ (List E)) :
    Prop :=
  ∀ r, ListsExactly id ref stored r (listAt index r)

variable {stored stored' : ι → Option E} {index : InsertionMap ρ (List E)}

/-- Adding an entry under its own reference alone keeps the index exact unless the entry with its id had
another reference. -/
theorem indexExact_upsert_iff (hexact : IndexExact id ref stored index)
    (hkeyed : ∀ i x, stored i = some x → id x = i)
    (hstored : ∀ i, stored' i = if i = id e then some e else stored i) :
    IndexExact id ref stored' (index.set (ref e) (upsertById id e (listAt index (ref e)))) ↔
      ∀ old, stored (id e) = some old → ref old = ref e := by
  constructor
  · intro hafter old hold
    by_contra hne
    have hid := hkeyed _ _ hold
    have hlisted : old ∈ listAt index (ref old) := ((hexact _).2 old).mpr ⟨hid ▸ hold, rfl⟩
    have hkept := ((hafter (ref old)).2 old).mp (by rwa [listAt_set, if_neg hne])
    rw [hstored, if_pos hid] at hkept
    exact hne (Option.some.inj hkept.1 ▸ rfl)
  · intro hold r
    rw [listAt_set]
    split
    · next hr =>
      subst hr
      obtain ⟨hnodup, hmem⟩ := hexact (ref e)
      refine ⟨nodup_upsertById hnodup, fun x => ?_⟩
      rw [mem_upsertById hnodup, hmem, hstored]
      constructor
      · rintro (rfl | ⟨⟨hx, href⟩, hid⟩)
        · exact ⟨if_pos rfl, rfl⟩
        · exact ⟨(if_neg hid).trans hx, href⟩
      · rintro ⟨hx, href⟩
        split at hx
        · exact .inl (Option.some.inj hx).symm
        · next hid => exact .inr ⟨⟨hx, href⟩, hid⟩
    · next hr =>
      obtain ⟨hnodup, hmem⟩ := hexact r
      refine ⟨hnodup, fun x => ?_⟩
      rw [hmem, hstored]
      split
      · next hid =>
        constructor
        · rintro ⟨hx, rfl⟩
          exact absurd (hold x (hid ▸ hx)) hr
        · rintro ⟨hx, rfl⟩
          exact absurd (Option.some.inj hx ▸ rfl) hr
      · rfl

/-- Removing a stored entry from the list of its reference keeps the index exact. -/
theorem indexExact_remove (hexact : IndexExact id ref stored index) {old : E}
    (hold : stored i = some old) (hstored : ∀ j, stored' j = if j = i then none else stored j) :
    IndexExact id ref stored' (index.set (ref old) (removeId id (listAt index (ref old)) i)) := by
  intro r
  rw [listAt_set]
  split
  · next hr =>
    subst hr
    obtain ⟨hnodup, hmem⟩ := hexact (ref old)
    refine ⟨nodup_removeId hnodup, fun x => ?_⟩
    rw [mem_removeId, hmem, hstored]
    by_cases hid : id x = i
    · simp [hid]
    · simp [hid]
  · next hr =>
    obtain ⟨hnodup, hmem⟩ := hexact r
    refine ⟨hnodup, fun x => ?_⟩
    rw [hmem, hstored]
    split
    · next hid =>
      constructor
      · rintro ⟨hx, rfl⟩
        rw [hid, hold] at hx
        exact absurd (Option.some.inj hx ▸ rfl) hr
      · rintro ⟨hx, _⟩
        cases hx
    · rfl

theorem indexExact_absent (hexact : IndexExact id ref stored index) (hnone : stored i = none)
    (hstored : ∀ j, stored' j = if j = i then none else stored j) :
    IndexExact id ref stored' index := by
  have hsame : stored' = stored := by
    funext j
    rw [hstored]
    split
    · next hj => rw [hj, hnone]
    · rfl
  rwa [hsame]

end lists

/-- A property that holds at first and that each element of a list keeps exactly under a condition holds
after every beginning of the list exactly when every element meets the condition. -/
theorem forall_prefix_iff {α : Type*} {P : List α → Prop} {C : List α → α → Prop} (hnil : P [])
    (hstep : ∀ before a, P before → (P (before ++ [a]) ↔ C before a)) (xs : List α) :
    (∀ before, before <+: xs → P before) ↔
      ∀ before a after, xs = before ++ a :: after → C before a := by
  constructor
  · rintro hall before a after rfl
    have hbefore := hall before (List.prefix_append _ _)
    exact (hstep before a hbefore).mp (hall _ ⟨after, by simp⟩)
  · intro hall before hprefix
    induction before using List.reverseRecOn with
    | nil => exact hnil
    | append_singleton before a ih =>
      obtain ⟨after, rfl⟩ := hprefix
      have hbefore := ih ⟨a :: after, by simp⟩
      exact (hstep before a hbefore).mpr (hall before a after (by simp))

end ShipyardCp.Lib
