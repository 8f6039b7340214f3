import Mathlib.Algebra.Order.Ring.Int
import Mathlib.Data.List.Dedup

/-! Finite maps that remember insertion order: writing a present key keeps its place, writing a new
key appends it, and enumeration follows the order of first insertion. -/

namespace ShipyardCp.Lib

/-- A finite map enumerated in insertion order. -/
structure InsertionMap (κ α : Type*) where
  entries : List (κ × α)
  nodupKeys : (entries.map Prod.fst).Nodup

namespace InsertionMap

variable {κ α : Type*}

def empty : InsertionMap κ α := ⟨[], List.nodup_nil⟩

instance : Inhabited (InsertionMap κ α) := ⟨empty⟩

def keys (m : InsertionMap κ α) : List κ := m.entries.map Prod.fst

def values (m : InsertionMap κ α) : List α := m.entries.map Prod.snd

def size (m : InsertionMap κ α) : Nat := m.entries.length

@[simp] theorem values_empty : (empty : InsertionMap κ α).values = [] := rfl

variable [DecidableEq κ]

instance [DecidableEq α] : DecidableEq (InsertionMap κ α) := fun m n =>
  decidable_of_iff (m.entries = n.entries) (by cases m; cases n; simp)

def lookupEntry (k : κ) : List (κ × α) → Option α
  | [] => none
  | (k', v) :: es => if k = k' then some v else lookupEntry k es

/-- Overwrite the value at `k`, or append `(k, v)`. -/
def insertEntry (k : κ) (v : α) : List (κ × α) → List (κ × α)
  | [] => [(k, v)]
  | (k', v') :: es => if k = k' then (k, v) :: es else (k', v') :: insertEntry k v es

def removeEntry (k : κ) : List (κ × α) → List (κ × α)
  | [] => []
  | (k', v') :: es => if k = k' then removeEntry k es else (k', v') :: removeEntry k es

variable {es : List (κ × α)}

variable {k : κ}

variable {v : α}

theorem mem_keys_insertEntry {k' : κ} :
    k' ∈ (insertEntry k v es).map Prod.fst ↔ k' = k ∨ k' ∈ es.map Prod.fst := by
  induction es with
  | nil => simp [insertEntry]
  | cons e es ih =>
    obtain ⟨k₀, v₀⟩ := e
    by_cases hk : k = k₀
    · simp [insertEntry, hk]
    · simp only [insertEntry, if_neg hk, List.map_cons, List.mem_cons, ih]
      tauto

theorem nodup_keys_insertEntry
    (h : (es.map Prod.fst).Nodup) : ((insertEntry k v es).map Prod.fst).Nodup := by
  induction es with
  | nil => simp [insertEntry]
  | cons e es ih =>
    obtain ⟨k₀, v₀⟩ := e
    obtain ⟨hnot, hrest⟩ := List.nodup_cons.mp h
    by_cases hk : k = k₀
    · subst hk
      simpa [insertEntry] using h
    · rw [insertEntry, if_neg hk, List.map_cons, List.nodup_cons]
      refine ⟨fun hmem => ?_, ih hrest⟩
      rcases mem_keys_insertEntry.mp hmem with heq | hmem
      · exact hk heq.symm
      · exact hnot hmem

theorem removeEntry_sublist (k : κ) (es : List (κ × α)) : (removeEntry k es).Sublist es := by
  induction es with
  | nil => exact List.Sublist.slnil
  | cons e es ih =>
    obtain ⟨k₀, v₀⟩ := e
    by_cases hk : k = k₀
    · simpa [removeEntry, hk] using (hk ▸ ih).cons _
    · simpa [removeEntry, hk] using ih.cons_cons (k₀, v₀)

def get? (m : InsertionMap κ α) (k : κ) : Option α := lookupEntry k m.entries

def has (m : InsertionMap κ α) (k : κ) : Bool := (m.get? k).isSome

def set (m : InsertionMap κ α) (k : κ) (v : α) : InsertionMap κ α :=
  ⟨insertEntry k v m.entries, nodup_keys_insertEntry m.nodupKeys⟩

def delete (m : InsertionMap κ α) (k : κ) : InsertionMap κ α :=
  ⟨removeEntry k m.entries, m.nodupKeys.sublist ((removeEntry_sublist k m.entries).map Prod.fst)⟩

/-- Deletes the entries whose value does not meet `p`. -/
def keep (p : α → Bool) (m : InsertionMap κ α) : InsertionMap κ α :=
  ⟨m.entries.filter fun e => p e.2, m.nodupKeys.sublist (List.filter_sublist.map Prod.fst)⟩

@[simp] theorem get?_empty (k : κ) : (empty : InsertionMap κ α).get? k = none := rfl

private theorem lookupEntry_insertEntry (k k' : κ) (v : α) (es : List (κ × α)) :
    lookupEntry k' (insertEntry k v es) = if k' = k then some v else lookupEntry k' es := by
  induction es with
  | nil => rfl
  | cons e es ih =>
    obtain ⟨k₀, v₀⟩ := e
    by_cases hk₀ : k = k₀
    · subst hk₀
      by_cases hk : k' = k <;> simp [insertEntry, lookupEntry, hk]
    · by_cases hk : k' = k₀
      · subst hk
        simp [insertEntry, hk₀, lookupEntry, Ne.symm hk₀]
      · simp [insertEntry, hk₀, lookupEntry, hk, ih]

theorem get?_set (m : InsertionMap κ α) (k k' : κ) (v : α) :
    (m.set k v).get? k' = if k' = k then some v else m.get? k' :=
  lookupEntry_insertEntry k k' v m.entries

@[simp] theorem get?_set_self (m : InsertionMap κ α) (k : κ) (v : α) :
    (m.set k v).get? k = some v := by
  simp [get?_set]

@[simp] theorem get?_set_of_ne (m : InsertionMap κ α) {k' : κ} (v : α) (h : k' ≠ k) :
    (m.set k v).get? k' = m.get? k' := by
  simp [get?_set, h]

private theorem insertEntry_insertEntry (k : κ) (v w : α) (es : List (κ × α)) :
    insertEntry k w (insertEntry k v es) = insertEntry k w es := by
  induction es with
  | nil => simp [insertEntry]
  | cons e es ih =>
    obtain ⟨k₀, v₀⟩ := e
    by_cases hk : k = k₀
    · simp [insertEntry, hk]
    · simp [insertEntry, hk, ih]

@[simp] theorem set_set (m : InsertionMap κ α) (k : κ) (v w : α) :
    (m.set k v).set k w = m.set k w := by
  simp [set, insertEntry_insertEntry]

private theorem insertEntry_of_lookupEntry
    (h : lookupEntry k es = some v) : insertEntry k v es = es := by
  induction es with
  | nil => cases h
  | cons e es ih =>
    obtain ⟨k₀, v₀⟩ := e
    rw [lookupEntry] at h
    rw [insertEntry]
    split_ifs at h ⊢ with hk
    · rw [hk, Option.some.inj h]
    · rw [ih h]

theorem set_of_get? (m : InsertionMap κ α) (h : m.get? k = some v) : m.set k v = m := by
  obtain ⟨entries, nodupKeys⟩ := m
  have hentries : insertEntry k v entries = entries := insertEntry_of_lookupEntry h
  simp only [set, hentries]

theorem set_eq_self_iff {m : InsertionMap κ α} : m.set k v = m ↔ m.get? k = some v := by
  refine ⟨fun h => ?_, fun h => m.set_of_get? h⟩
  rw [← h]
  exact m.get?_set_self k v

private theorem insertEntry_of_lookupEntry_none
    (h : lookupEntry k es = none) : insertEntry k v es = es ++ [(k, v)] := by
  induction es with
  | nil => rfl
  | cons e es ih =>
    rw [lookupEntry] at h
    rw [insertEntry]
    split_ifs at h ⊢ with hk
    rw [ih h, List.cons_append]

theorem values_set_of_get?_eq_none (m : InsertionMap κ α) (h : m.get? k = none) :
    (m.set k v).values = m.values ++ [v] := by
  have hentries : (m.set k v).entries = m.entries ++ [(k, v)] := insertEntry_of_lookupEntry_none h
  simp [values, hentries]

theorem size_set_of_get?_eq_none (m : InsertionMap κ α) (h : m.get? k = none) :
    (m.set k v).size = m.size + 1 := by
  have hvalues := congrArg List.length (m.values_set_of_get?_eq_none (v := v) h)
  simpa [values, size] using hvalues

theorem size_delete_le (m : InsertionMap κ α) (k : κ) : (m.delete k).size ≤ m.size :=
  (removeEntry_sublist k m.entries).length_le

private theorem lookupEntry_removeEntry (k k' : κ) (es : List (κ × α)) :
    lookupEntry k' (removeEntry k es) = if k' = k then none else lookupEntry k' es := by
  induction es with
  | nil => simp [removeEntry, lookupEntry]
  | cons e es ih =>
    obtain ⟨k₀, v₀⟩ := e
    by_cases hk₀ : k = k₀
    · subst hk₀
      by_cases hk : k' = k
      · subst hk
        simpa [removeEntry] using ih
      · simp [removeEntry, lookupEntry, hk, ih]
    · by_cases hk : k' = k₀
      · subst hk
        simp [removeEntry, hk₀, lookupEntry, Ne.symm hk₀]
      · simp [removeEntry, hk₀, lookupEntry, hk, ih]

theorem get?_delete (m : InsertionMap κ α) (k k' : κ) :
    (m.delete k).get? k' = if k' = k then none else m.get? k' :=
  lookupEntry_removeEntry k k' m.entries

@[simp] theorem get?_delete_self (m : InsertionMap κ α) (k : κ) : (m.delete k).get? k = none := by
  simp [get?_delete]

@[simp] theorem get?_delete_of_ne (m : InsertionMap κ α) {k' : κ} (h : k' ≠ k) :
    (m.delete k).get? k' = m.get? k' := by
  simp [get?_delete, h]

private theorem lookupEntry_eq_some_iff (hnd : (es.map Prod.fst).Nodup) : lookupEntry k es = some v ↔ (k, v) ∈ es := by
  induction es with
  | nil => simp [lookupEntry]
  | cons e es ih =>
    obtain ⟨k₀, v₀⟩ := e
    obtain ⟨hnot, hrest⟩ := List.nodup_cons.mp hnd
    by_cases hk : k = k₀
    · subst hk
      have hfree : (k, v) ∉ es := fun hmem => hnot (List.mem_map.mpr ⟨(k, v), hmem, rfl⟩)
      simp [lookupEntry, hfree, eq_comm]
    · simp [lookupEntry, hk, ih hrest]

theorem mem_entries_iff (m : InsertionMap κ α) : (k, v) ∈ m.entries ↔ m.get? k = some v :=
  (lookupEntry_eq_some_iff m.nodupKeys).symm

theorem mem_values_iff (m : InsertionMap κ α) : v ∈ m.values ↔ ∃ k, m.get? k = some v := by
  simp only [values, List.mem_map, ← mem_entries_iff]
  exact ⟨fun ⟨e, hmem, hv⟩ => ⟨e.1, by rwa [← hv]⟩, fun ⟨k, hmem⟩ => ⟨(k, v), hmem, rfl⟩⟩

theorem mem_keys_iff (m : InsertionMap κ α) : k ∈ m.keys ↔ ∃ v, m.get? k = some v := by
  simp only [keys, List.mem_map, ← mem_entries_iff]
  exact ⟨fun ⟨e, hmem, hk⟩ => ⟨e.2, by rwa [← hk]⟩, fun ⟨v, hmem⟩ => ⟨(k, v), hmem, rfl⟩⟩

/-- Keys without repetition that are those of the values with a property find just these values. -/
theorem filterMap_get?_perm (m : InsertionMap κ α) {p : α → Bool} {ks : List κ} (hnodup : ks.Nodup)
    (hmem : ∀ k, k ∈ ks ↔ ∃ v, m.get? k = some v ∧ p v = true) :
    (ks.filterMap m.get?).Perm (m.values.filter p) := by
  have hkeys : ks.Perm ((m.entries.filter fun e => p e.2).map Prod.fst) := by
    refine (List.perm_ext_iff_of_nodup hnodup ?_).mpr fun k => ?_
    · exact m.nodupKeys.sublist (List.filter_sublist.map Prod.fst)
    · rw [hmem]
      simp [mem_entries_iff, and_comm]
  have hfind : ∀ es : List (κ × α), (∀ e ∈ es, m.get? e.1 = some e.2) →
      (es.map Prod.fst).filterMap m.get? = es.map Prod.snd := by
    intro es hes
    rw [List.filterMap_map, ← List.filterMap_eq_map]
    exact List.filterMap_congr fun e he => hes e he
  have hfound : ((m.entries.filter fun e => p e.2).map Prod.fst).filterMap m.get? =
      m.values.filter p := by
    rw [hfind _ fun e he => m.mem_entries_iff.mp (List.mem_of_mem_filter he), values, List.filter_map]
    rfl
  exact hfound ▸ hkeys.filterMap m.get?

theorem get?_keep (m : InsertionMap κ α) (p : α → Bool) (k : κ) :
    (m.keep p).get? k = (m.get? k).filter p := by
  ext v
  rw [← mem_entries_iff, keep, List.mem_filter, mem_entries_iff, Option.filter_eq_some_iff]

private theorem filter_lookupEntry (hnd : (es.map Prod.fst).Nodup) (k : κ) :
    es.filter (fun e => e.1 = k) = ((lookupEntry k es).map fun v => (k, v)).toList := by
  induction es with
  | nil => rfl
  | cons e es ih =>
    obtain ⟨k₀, v₀⟩ := e
    obtain ⟨hnot, hrest⟩ := List.nodup_cons.mp hnd
    by_cases hk : k₀ = k
    · subst hk
      have hnone : es.filter (fun e => e.1 = k₀) = [] := by
        refine List.filter_eq_nil_iff.mpr fun e he heq => hnot ?_
        exact List.mem_map.mpr ⟨e, he, of_decide_eq_true heq⟩
      simp [lookupEntry, hnone]
    · simp [lookupEntry, hk, Ne.symm hk, ih hrest]

theorem filter_entries_eq (m : InsertionMap κ α) (k : κ) :
    m.entries.filter (fun e => e.1 = k) = ((m.get? k).map fun v => (k, v)).toList :=
  filter_lookupEntry m.nodupKeys k

theorem filter_ne_entries_set (m : InsertionMap κ α) (k : κ) (v : α) :
    (m.set k v).entries.filter (fun e => e.1 ≠ k) = m.entries.filter (fun e => e.1 ≠ k) := by
  show (insertEntry k v m.entries).filter _ = _
  induction m.entries with
  | nil => simp [insertEntry]
  | cons e es ih =>
    by_cases hk : k = e.1
    · simp [insertEntry, hk]
    · simp only [insertEntry, if_neg hk, List.filter_cons, ih]

theorem filter_ne_entries_delete (m : InsertionMap κ α) (k : κ) :
    (m.delete k).entries.filter (fun e => e.1 ≠ k) = m.entries.filter (fun e => e.1 ≠ k) := by
  show (removeEntry k m.entries).filter _ = _
  induction m.entries with
  | nil => rfl
  | cons e es ih =>
    by_cases hk : k = e.1
    · subst hk
      rw [removeEntry, if_pos rfl, ih, List.filter_cons_of_neg (by simp)]
    · simp only [removeEntry, if_neg hk, List.filter_cons, ih]

/-- A key is written in its place: what is read off the values in order changes with it alone. -/
theorem filterMap_values_set {β : Type*} (m : InsertionMap κ α) {w : α}
    {f : α → Option β} (h : m.get? k = some v) (hf : f w = f v) :
    (m.set k w).values.filterMap f = m.values.filterMap f := by
  have hentries : ∀ es : List (κ × α), lookupEntry k es = some v →
      ((insertEntry k w es).map Prod.snd).filterMap f = (es.map Prod.snd).filterMap f := by
    intro es hes
    induction es with
    | nil => cases hes
    | cons e es ih =>
      by_cases hk : k = e.1
      · rw [lookupEntry, if_pos hk] at hes
        obtain rfl := Option.some.inj hes
        simp [insertEntry, hk, List.filterMap_cons, hf]
      · rw [lookupEntry, if_neg hk] at hes
        simp only [insertEntry, if_neg hk, List.map_cons, List.filterMap_cons, ih hes]
  exact hentries m.entries h

theorem countP_values_set (m : InsertionMap κ α) {w : α} (p : α → Bool) (h : m.get? k = some v) :
    (m.set k w).values.countP p + (p v).toNat = m.values.countP p + (p w).toNat := by
  have hentries : ∀ es : List (κ × α), lookupEntry k es = some v →
      ((insertEntry k w es).map Prod.snd).countP p + (p v).toNat =
        (es.map Prod.snd).countP p + (p w).toNat := by
    intro es hes
    induction es with
    | nil => cases hes
    | cons e es ih =>
      by_cases hk : k = e.1
      · rw [lookupEntry, if_pos hk] at hes
        obtain rfl := Option.some.inj hes
        cases hv : p e.2 <;> cases hw : p w <;> simp [insertEntry, hk, hv, hw]
      · rw [lookupEntry, if_neg hk] at hes
        simp only [insertEntry, if_neg hk, List.map_cons, List.countP_cons]
        have hrest := ih hes
        omega
  exact hentries m.entries h

/-- What an amount added to the one at a key adds to the sum of the values. -/
theorem sum_values_set (m : InsertionMap κ Int) (k : κ) (d : Int) :
    (m.set k ((m.get? k).getD 0 + d)).values.sum = m.values.sum + d := by
  have hentries : ∀ es : List (κ × Int),
      ((insertEntry k ((lookupEntry k es).getD 0 + d) es).map Prod.snd).sum =
        (es.map Prod.snd).sum + d := by
    intro es
    induction es with
    | nil => simp [insertEntry, lookupEntry]
    | cons e es ih =>
      by_cases hk : k = e.1
      · simp only [lookupEntry, insertEntry, if_pos hk, Option.getD_some, List.map_cons, List.sum_cons]
        omega
      · simp only [lookupEntry, insertEntry, if_neg hk, List.map_cons, List.sum_cons, ih]
        omega
  exact hentries m.entries

theorem has_eq_true_iff (m : InsertionMap κ α) : m.has k = true ↔ ∃ v, m.get? k = some v := by
  simp [has, Option.isSome_iff_exists]

section mapWithKey

variable {β γ : Type*}

omit [DecidableEq κ] in
theorem ext_entries {m m' : InsertionMap κ α} (h : m.entries = m'.entries) : m = m' := by
  cases m
  cases m'
  simpa using h

/-- Every value is replaced in its place by one made of its key and itself. -/
def mapWithKey (m : InsertionMap κ α) (f : κ → α → β) : InsertionMap κ β :=
  ⟨m.entries.map fun e => (e.1, f e.1 e.2), by rw [List.map_map]; exact m.nodupKeys⟩

theorem get?_mapWithKey (m : InsertionMap κ α) (f : κ → α → β) (k : κ) :
    (m.mapWithKey f).get? k = (m.get? k).map (f k) := by
  show lookupEntry k (m.entries.map fun e => (e.1, f e.1 e.2)) = (lookupEntry k m.entries).map (f k)
  induction m.entries with
  | nil => rfl
  | cons e es ih =>
    by_cases hk : k = e.1
    · simp [lookupEntry, hk]
    · simp [lookupEntry, hk, ih]

theorem mapWithKey_set (m : InsertionMap κ α) (f : κ → α → β) (k : κ) (v : α) :
    (m.set k v).mapWithKey f = (m.mapWithKey f).set k (f k v) := by
  have hentries : ∀ es : List (κ × α), (insertEntry k v es).map (fun e => (e.1, f e.1 e.2)) =
      insertEntry k (f k v) (es.map fun e => (e.1, f e.1 e.2)) := by
    intro es
    induction es with
    | nil => rfl
    | cons e es ih =>
      by_cases hk : k = e.1
      · simp [insertEntry, hk]
      · simp [insertEntry, hk, ih]
  exact ext_entries (hentries m.entries)

theorem mapWithKey_mapWithKey (m : InsertionMap κ α) (f : κ → α → β) (g : κ → β → γ) :
    (m.mapWithKey f).mapWithKey g = m.mapWithKey fun k v => g k (f k v) :=
  ext_entries (List.map_map ..)

/-- Maps with the same keys in the same order and the same value at each of them are the same. -/
theorem eq_of_get?_eq {m m' : InsertionMap κ α} (hkeys : m.keys = m'.keys)
    (hget : ∀ k, m.get? k = m'.get? k) : m = m' := by
  refine ext_entries (List.ext_getElem (by simpa [keys] using congrArg List.length hkeys)
    fun i hi hi' => ?_)
  have hkey : m.entries[i].1 = m'.entries[i].1 := by
    have hith := congrArg (·[i]?) hkeys
    simpa [keys, hi, hi'] using hith
  have hvalue := (m.mem_entries_iff (k := m.entries[i].1) (v := m.entries[i].2)).mp (List.getElem_mem hi)
  have hvalue' := (m'.mem_entries_iff (k := m'.entries[i].1) (v := m'.entries[i].2)).mp
    (List.getElem_mem hi')
  rw [← hget, ← hkey, hvalue] at hvalue'
  exact Prod.ext hkey (Option.some.inj hvalue')

end mapWithKey

section mapValues

variable {β : Type*}

omit [DecidableEq κ] in
private theorem map_fst_mapEntries (f : α → β) (es : List (κ × α)) :
    (es.map fun e => (e.1, f e.2)).map Prod.fst = es.map Prod.fst := by
  simp

/-- Every value is replaced in its place. -/
def mapValues (m : InsertionMap κ α) (f : α → β) : InsertionMap κ β :=
  ⟨m.entries.map fun e => (e.1, f e.2), by rw [map_fst_mapEntries]; exact m.nodupKeys⟩

theorem get?_mapValues (m : InsertionMap κ α) (f : α → β) (k : κ) :
    (m.mapValues f).get? k = (m.get? k).map f :=
  get?_mapWithKey m (fun _ => f) k

end mapValues

end InsertionMap

end ShipyardCp.Lib
