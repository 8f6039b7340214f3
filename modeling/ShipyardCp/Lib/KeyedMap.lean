import ShipyardCp.Lib.InsertionMap

/-! Insertion-ordered tables of values that carry their own key: a value cannot be stored under
another key. -/

namespace ShipyardCp.Lib

open InsertionMap

/-- A table in which every value stands under its own key. -/
structure KeyedMap {κ α : Type*} [DecidableEq κ] (key : α → κ) where
  map : InsertionMap κ α
  keyed : ∀ k v, map.get? k = some v → key v = k

namespace KeyedMap

variable {κ α : Type*} [DecidableEq κ] {key : α → κ}

def empty : KeyedMap key := ⟨.empty, by simp⟩

instance : Inhabited (KeyedMap key) := ⟨empty⟩

instance [DecidableEq α] : DecidableEq (KeyedMap key) := fun m n =>
  decidable_of_iff (m.map = n.map) (by cases m; cases n; simp)

def get? (m : KeyedMap key) (k : κ) : Option α := m.map.get? k

def keys (m : KeyedMap key) : List κ := m.map.keys

/-- The values in the order in which their keys first appeared. -/
def values (m : KeyedMap key) : List α := m.map.values

def put (m : KeyedMap key) (v : α) : KeyedMap key where
  map := m.map.set (key v) v
  keyed k w h := by
    rw [InsertionMap.get?_set] at h
    split_ifs at h with hk
    · obtain rfl : v = w := Option.some.inj h
      exact hk.symm
    · exact m.keyed k w h

def delete (m : KeyedMap key) (k : κ) : KeyedMap key where
  map := m.map.delete k
  keyed k' v h := by
    rw [InsertionMap.get?_delete] at h
    split_ifs at h
    exact m.keyed k' v h

def deleteAll (m : KeyedMap key) (ks : List κ) : KeyedMap key := ks.foldl delete m

/-- Every value is replaced in its place by one with the same key. -/
def mapValues (m : KeyedMap key) (f : α → α) (hf : ∀ v, key (f v) = key v) : KeyedMap key where
  map := m.map.mapValues f
  keyed k v h := by
    rw [InsertionMap.get?_mapValues] at h
    obtain ⟨w, hw, rfl⟩ := Option.map_eq_some_iff.mp h
    rw [hf, m.keyed k w hw]

/-- Stores several values, first to last. -/
def putAll (m : KeyedMap key) (vs : List α) : KeyedMap key := vs.foldl put m

variable {v : α}

@[simp] theorem get?_empty (k : κ) : (empty : KeyedMap key).get? k = none := rfl

@[simp] theorem values_empty : (empty : KeyedMap key).values = [] := rfl

theorem key_of_get? (m : KeyedMap key) {k : κ} (h : m.get? k = some v) : key v = k := m.keyed k v h

theorem get?_put (m : KeyedMap key) (k : κ) (v : α) :
    (m.put v).get? k = if k = key v then some v else m.get? k := InsertionMap.get?_set ..

@[simp] theorem get?_put_self (m : KeyedMap key) (v : α) : (m.put v).get? (key v) = some v := by
  simp [get?_put]

@[simp] theorem get?_put_of_ne (m : KeyedMap key) {k : κ} (h : k ≠ key v) :
    (m.put v).get? k = m.get? k := by
  simp [get?_put, h]

theorem get?_delete (m : KeyedMap key) (k k' : κ) :
    (m.delete k).get? k' = if k' = k then none else m.get? k' := InsertionMap.get?_delete ..

theorem get?_deleteAll (ks : List κ) (k : κ) :
    ∀ m : KeyedMap key, (m.deleteAll ks).get? k = if k ∈ ks then none else m.get? k := by
  induction ks with
  | nil => exact fun m => by simp [deleteAll]
  | cons k' ks ih =>
    intro m
    change ((m.delete k').deleteAll ks).get? k = _
    rw [ih, get?_delete]
    by_cases hk : k = k' <;> simp [hk]

@[simp] theorem get?_mapValues (m : KeyedMap key) (f : α → α) (hf : ∀ v, key (f v) = key v) (k : κ) :
    (m.mapValues f hf).get? k = (m.get? k).map f := InsertionMap.get?_mapValues ..

theorem put_put_of_key_eq (m : KeyedMap key) {w : α} (h : key v = key w) :
    (m.put v).put w = m.put w := by
  simp [put, h]

@[simp] theorem put_put (m : KeyedMap key) (v : α) : (m.put v).put v = m.put v :=
  m.put_put_of_key_eq rfl

theorem put_of_get? (m : KeyedMap key) {k : κ} (h : m.get? k = some v) : m.put v = m := by
  obtain rfl := m.keyed k v h
  have hmap : m.map.set (key v) v = m.map := m.map.set_of_get? h
  cases m
  simp only [put, hmap]

theorem put_eq_self_iff {m : KeyedMap key} : m.put v = m ↔ m.get? (key v) = some v := by
  refine ⟨fun h => ?_, fun h => m.put_of_get? h⟩
  rw [← h]
  exact m.get?_put_self v

theorem mem_values_iff (m : KeyedMap key) : v ∈ m.values ↔ m.get? (key v) = some v := by
  rw [values, InsertionMap.mem_values_iff]
  refine ⟨fun ⟨k, h⟩ => ?_, fun h => ⟨key v, h⟩⟩
  rw [← m.keyed k v h] at h
  exact h

theorem mem_map_key_filter_iff (m : KeyedMap key) (p : α → Bool) (k : κ) :
    k ∈ (m.values.filter p).map key ↔ ∃ v, m.get? k = some v ∧ p v = true := by
  simp only [List.mem_map, List.mem_filter, mem_values_iff]
  constructor
  · rintro ⟨v, ⟨hget, hp⟩, rfl⟩
    exact ⟨v, hget, hp⟩
  · rintro ⟨v, hget, hp⟩
    have hkey := m.key_of_get? hget
    exact ⟨v, ⟨hkey ▸ hget, hp⟩, hkey⟩

theorem map_key_values (m : KeyedMap key) : m.values.map key = m.keys := by
  simp only [values, keys, InsertionMap.values, InsertionMap.keys, List.map_map]
  refine List.map_congr_left fun e he => ?_
  exact m.keyed e.1 e.2 (m.map.mem_entries_iff.mp he)

theorem nodup_map_key_values (m : KeyedMap key) : (m.values.map key).Nodup := by
  rw [map_key_values]
  exact m.map.nodupKeys

theorem find?_values (m : KeyedMap key) (k : κ) : m.values.find? (fun v => key v = k) = m.get? k := by
  cases hfound : m.values.find? (fun v => key v = k) with
  | none =>
    cases hget : m.get? k with
    | none => rfl
    | some v =>
      have hkey := m.key_of_get? hget
      rw [← hkey] at hget
      have hnone := List.find?_eq_none.mp hfound v (m.mem_values_iff.mpr hget)
      exact absurd hkey (by simpa using hnone)
  | some v =>
    have hkey : key v = k := by simpa using List.find?_some hfound
    have hmem := m.mem_values_iff.mp (List.mem_of_find?_eq_some hfound)
    rw [← hkey, hmem]

/-- The first of the derived values with a key is derived from the value of that key. -/
theorem find?_filterMap_values {β : Type*} (m : KeyedMap key) {f : α → Option β} {keyOf : β → κ}
    (hkey : ∀ v b, f v = some b → keyOf b = key v) (k : κ) :
    (m.values.filterMap f).find? (fun b => keyOf b = k) = (m.get? k).bind f := by
  have hlist : ∀ vs : List α, (vs.map key).Nodup →
      (vs.filterMap f).find? (fun b => keyOf b = k) = (vs.find? (fun v => key v = k)).bind f := by
    intro vs
    induction vs with
    | nil => exact fun _ => rfl
    | cons v vs ih =>
      intro hnodup
      obtain ⟨hnot, hrest⟩ := List.nodup_cons.mp hnodup
      by_cases hv : key v = k
      · rw [List.find?_cons_of_pos (by simpa using hv)]
        cases hf : f v with
        | some b =>
          rw [List.filterMap_cons_some hf, List.find?_cons_of_pos (by simp [hkey v b hf, hv])]
          exact hf.symm
        | none =>
          rw [List.filterMap_cons_none hf, ih hrest]
          have hnone : vs.find? (fun v => key v = k) = none := by
            refine List.find?_eq_none.mpr fun w hw => ?_
            have hne : key w ≠ key v := fun heq => hnot (heq ▸ List.mem_map_of_mem hw)
            simpa [← hv] using hne
          rw [hnone]
          exact hf.symm
      · rw [List.find?_cons_of_neg (by simpa using hv), ← ih hrest]
        cases hf : f v with
        | some b =>
          rw [List.filterMap_cons_some hf, List.find?_cons_of_neg (by simp [hkey v b hf, hv])]
        | none => rw [List.filterMap_cons_none hf]
  rw [hlist _ m.nodup_map_key_values, find?_values]

/-- Values derived from the values of a map, at most one from each, have different keys. -/
theorem nodup_map_filterMap_values {β : Type*} (m : KeyedMap key) {f : α → Option β} {keyOf : β → κ}
    (hkey : ∀ v b, f v = some b → keyOf b = key v) : ((m.values.filterMap f).map keyOf).Nodup := by
  have hsublist : ∀ vs : List α, ((vs.filterMap f).map keyOf).Sublist (vs.map key) := by
    intro vs
    induction vs with
    | nil => exact List.Sublist.slnil
    | cons v vs ih =>
      cases hf : f v with
      | none =>
        rw [List.filterMap_cons_none hf]
        exact ih.cons _
      | some b =>
        rw [List.filterMap_cons_some hf, List.map_cons, List.map_cons, hkey v b hf]
        exact ih.cons_cons _
  exact (hsublist m.values).nodup m.nodup_map_key_values

theorem mem_keys_iff (m : KeyedMap key) {k : κ} : k ∈ m.keys ↔ ∃ v, m.get? k = some v :=
  m.map.mem_keys_iff

theorem values_put_of_none (m : KeyedMap key) (h : m.get? (key v) = none) :
    (m.put v).values = m.values ++ [v] := by
  have hentries : ∀ es : List (κ × α), lookupEntry (key v) es = none →
      insertEntry (key v) v es = es ++ [(key v, v)] := by
    intro es
    induction es with
    | nil => exact fun _ => rfl
    | cons e es ih =>
      intro hnone
      rw [lookupEntry] at hnone
      split_ifs at hnone with hk
      rw [insertEntry, if_neg hk, ih hnone, List.cons_append]
  have hput : (m.put v).map.entries = m.map.entries ++ [(key v, v)] := hentries _ h
  simp only [values, InsertionMap.values, hput, List.map_append, List.map_cons, List.map_nil]

/-- A value under a key that is there takes the place of the one that had it. -/
theorem values_put_of_get? (m : KeyedMap key) {w : α} (h : m.get? (key v) = some w) :
    (m.put v).values = m.values.map fun u => if key u = key v then v else u := by
  have hentries : ∀ es : List (κ × α), (∀ e ∈ es, key e.2 = e.1) → (es.map Prod.fst).Nodup →
      lookupEntry (key v) es = some w →
      (insertEntry (key v) v es).map Prod.snd =
        (es.map Prod.snd).map fun u => if key u = key v then v else u := by
    intro es
    induction es with
    | nil => exact fun _ _ hnone => nomatch hnone
    | cons e es ih =>
      intro hkeyed hnodup hlookup
      obtain ⟨hnot, hrest⟩ := List.nodup_cons.mp hnodup
      have he := hkeyed e List.mem_cons_self
      have hes : ∀ e ∈ es, key e.2 = e.1 := fun e he => hkeyed e (List.mem_cons_of_mem _ he)
      rw [lookupEntry] at hlookup
      rw [insertEntry]
      split_ifs at hlookup ⊢ with hk
      · have hothers : es.map Prod.snd =
            (es.map Prod.snd).map fun u => if key u = key v then v else u := by
          rw [List.map_map]
          refine List.map_congr_left fun f hf => ?_
          have hne : key f.2 ≠ key v := by
            rw [hes f hf, hk]
            exact fun heq => hnot (heq ▸ List.mem_map_of_mem hf)
          simp [hne]
        rw [List.map_cons, List.map_cons, List.map_cons, he, if_pos hk.symm, ← hothers]
      · have hne : key e.2 ≠ key v := by
          rw [he]
          exact Ne.symm hk
        rw [List.map_cons, List.map_cons, List.map_cons, if_neg hne, ih hes hrest hlookup]
  exact hentries m.map.entries
    (fun e he => m.keyed e.1 e.2 (m.map.mem_entries_iff.mp he)) m.map.nodupKeys h

theorem isSome_get?_put (m : KeyedMap key) (v : α) {k : κ} (h : (m.get? k).isSome = true) :
    ((m.put v).get? k).isSome = true := by
  rw [get?_put]
  split_ifs
  · rfl
  · exact h

theorem isSome_get?_putAll (vs : List α) {k : κ} :
    ∀ m : KeyedMap key, (m.get? k).isSome = true → ((m.putAll vs).get? k).isSome = true := by
  induction vs with
  | nil => exact fun _ h => h
  | cons v vs ih => exact fun m h => ih (m.put v) (m.isSome_get?_put v h)

theorem eq_of_mem_values (m : KeyedMap key) {w : α} (hv : v ∈ m.values) (hw : w ∈ m.values)
    (h : key v = key w) : v = w := by
  rw [mem_values_iff] at hv hw
  rw [h, hw] at hv
  exact (Option.some.inj hv).symm

/-- Values of the table that are stored again in another form take their own places. -/
theorem values_putAll_map [DecidableEq α] {f : α → α} (hf : ∀ v, key (f v) = key v) {vs : List α}
    (hnodup : (vs.map key).Nodup) : ∀ m : KeyedMap key, (∀ v ∈ vs, v ∈ m.values) →
      (m.putAll (vs.map f)).values = m.values.map fun u => if u ∈ vs then f u else u := by
  induction vs with
  | nil => exact fun m _ => by simp [putAll]
  | cons v vs ih =>
    intro m hmem
    obtain ⟨hnot, hrest⟩ := List.nodup_cons.mp hnodup
    have hv := hmem v List.mem_cons_self
    have hget : m.get? (key (f v)) = some v := by
      rw [hf]
      exact m.mem_values_iff.mp hv
    have hput := m.values_put_of_get? hget
    have hvs : ∀ w ∈ vs, w ∈ (m.put (f v)).values := by
      intro w hw
      have hne : key w ≠ key (f v) := by
        rw [hf]
        exact fun h => hnot (h ▸ List.mem_map_of_mem hw)
      rw [hput, List.mem_map]
      exact ⟨w, hmem w (List.mem_cons_of_mem v hw), if_neg hne⟩
    change ((m.put (f v)).putAll (vs.map f)).values = _
    rw [ih hrest _ hvs, hput, List.map_map]
    refine List.map_congr_left fun u hu => ?_
    by_cases hkey : key u = key v
    · obtain rfl := m.eq_of_mem_values hu hv hkey
      have hfresh : f u ∉ vs := fun hmem => hnot (by
        rw [← hf u]
        exact List.mem_map_of_mem hmem)
      simp [hf, hfresh]
    · have hne : u ≠ v := fun h => hkey (h ▸ rfl)
      simp [hf, hkey, hne]

section putAll

variable {m₀ : KeyedMap key} {vs : List α}

/-- Values of one table are stored into another: there they are found, and nothing else changes. -/
theorem get?_putAll_of_agree (h : ∀ v ∈ vs, m₀.get? (key v) = some v) (k : κ) : ∀ m : KeyedMap key,
      (m.putAll vs).get? k = if k ∈ vs.map key then m₀.get? k else m.get? k := by
  induction vs with
  | nil => exact fun m => by simp [putAll]
  | cons v vs ih =>
    intro m
    have hrest := ih (fun w hw => h w (List.mem_cons_of_mem v hw)) (m.put v)
    have hv := h v List.mem_cons_self
    change ((m.put v).putAll vs).get? k = _
    rw [hrest, get?_put]
    by_cases hk : k = key v
    · subst hk
      simp [hv]
    · simp [hk]

theorem find?_values_putAll (h : ∀ v ∈ vs, m₀.get? (key v) = some v) (p : α → Bool) :
    ∀ m : KeyedMap key, (∀ v ∈ m.values, m₀.get? (key v) = some v) →
      (m.putAll vs).values.find? p = (m.values ++ vs).find? p := by
  induction vs with
  | nil => exact fun m _ => by simp [putAll]
  | cons v vs ih =>
    intro m hm
    have hv := h v List.mem_cons_self
    have hvs : ∀ w ∈ vs, m₀.get? (key w) = some w := fun w hw => h w (List.mem_cons_of_mem v hw)
    change ((m.put v).putAll vs).values.find? p = _
    cases hget : m.get? (key v) with
    | none =>
      have hvalues := m.values_put_of_none hget
      rw [ih hvs (m.put v) (fun w hw => ?_), hvalues, List.append_assoc, List.singleton_append]
      rw [hvalues, List.mem_append, List.mem_singleton] at hw
      rcases hw with hw | rfl
      · exact hm w hw
      · exact hv
    | some w =>
      have hkey := m.key_of_get? hget
      have hmem := m.mem_values_iff.mpr (hkey ▸ hget)
      have hsame : w = v := by
        have hw := hm w hmem
        rw [hkey, hv] at hw
        exact (Option.some.inj hw).symm
      subst hsame
      rw [m.put_of_get? hget, ih hvs m hm, List.find?_append, List.find?_append, List.find?_cons]
      cases hp : p w with
      | false => rfl
      | true =>
        have hfound : (m.values.find? p).isSome = true := List.find?_isSome.mpr ⟨w, hmem, hp⟩
        rw [Option.or_of_isSome hfound, Option.or_of_isSome hfound]

end putAll

end KeyedMap

end ShipyardCp.Lib
