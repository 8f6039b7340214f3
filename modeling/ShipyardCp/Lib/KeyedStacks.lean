import ShipyardCp.Lib.InsertionMap

/-! Stacks under keys. Elements are pushed under the key each of them has and leave from any place;
the stacks together are one log of the elements that are still there. -/

namespace ShipyardCp.Lib

/-- Under every key stand the elements of a log with this key, in the order of the log. A key
without elements is absent. -/
structure KeyedStacks {κ α : Type*} [DecidableEq κ] (key : α → κ) (m : InsertionMap κ (List α))
    (log : List α) : Prop where
  under : ∀ k, (m.get? k).getD [] = log.filter fun x => key x = k
  nonempty : ∀ k stack, m.get? k = some stack → stack ≠ []

namespace InsertionMap

variable {κ α : Type*} [DecidableEq κ] (m : InsertionMap κ (List α)) (k : κ)

/-- The last element under a key. -/
def top : Option α := (m.get? k).bind List.getLast?

/-- The last elements of all keys. -/
def tops : List α := m.values.filterMap List.getLast?

/-- Keeps of the elements under a key those with a property. -/
def retain (keep : α → Bool) (stack : List α) : InsertionMap κ (List α) :=
  if (stack.filter keep).length = 0 then m.delete k else m.set k (stack.filter keep)

omit [DecidableEq κ] in
theorem tops_eq : m.tops = m.entries.filterMap fun e => e.2.getLast? := by
  rw [tops, values, List.filterMap_map]
  rfl

end InsertionMap

namespace KeyedStacks

open InsertionMap

variable {κ α : Type*} [DecidableEq κ] {key : α → κ} {m : InsertionMap κ (List α)}
  {log : List α} {keep : α → Bool} {k : κ}

theorem empty : KeyedStacks key (.empty : InsertionMap κ (List α)) [] := ⟨fun _ => rfl, nofun⟩

variable {stack : List α}

theorem eq_filter (h : KeyedStacks key m log) (hget : m.get? k = some stack) :
    stack = log.filter fun x => key x = k := by
  rw [← h.under k, hget]
  rfl

/-- The last element under a key is the last one of the log with this key. -/
theorem top_eq (h : KeyedStacks key m log) (k : κ) :
    m.top k = (log.filter fun x => key x = k).getLast? := by
  rw [← h.under k, top]
  cases m.get? k <;> rfl

theorem key_of_getLast? {e : κ × List α} {x : α} (h : KeyedStacks key m log)
    (he : e ∈ m.entries) (hx : e.2.getLast? = some x) : key x = e.1 := by
  have hmem : x ∈ log.filter fun x => key x = e.1 := by
    rw [← h.eq_filter (m.mem_entries_iff.mp he)]
    exact List.mem_of_getLast? hx
  exact of_decide_eq_true (List.mem_filter.mp hmem).2

theorem filter_tops (h : KeyedStacks key m log) (p : κ → Bool) : m.tops.filter (fun x => p (key x)) =
      (m.entries.filter fun e => p e.1).filterMap fun e => e.2.getLast? := by
  rw [tops_eq, List.filter_filterMap, List.filterMap_filter]
  refine List.filterMap_congr fun e he => ?_
  cases hlast : e.2.getLast? with
  | none => simp
  | some x => simp [h.key_of_getLast? he hlast, Option.filter_some]

/-- Of the last elements of all keys, one has a given key: the last element under it. -/
theorem filter_tops_eq (h : KeyedStacks key m log) (k : κ) :
    m.tops.filter (fun x => key x = k) = (m.top k).toList := by
  rw [h.filter_tops fun k' => k' = k, m.filter_entries_eq k, top]
  cases m.get? k with
  | none => rfl
  | some stack => cases hlast : stack.getLast? <;> simp [hlast]

theorem push (h : KeyedStacks key m log) (x : α) :
    KeyedStacks key (m.set (key x) ((m.get? (key x)).getD [] ++ [x])) (log ++ [x]) where
  under k := by
    rw [get?_set, List.filter_append]
    by_cases hk : k = key x
    · subst hk
      simp [h.under]
    · simp [hk, h.under, Ne.symm hk]
  nonempty k stack hget := by
    rw [get?_set] at hget
    split_ifs at hget with hk
    · rw [← Option.some.inj hget]
      exact List.append_ne_nil_of_right_ne_nil _ (List.cons_ne_nil _ _)
    · exact h.nonempty k stack hget

theorem get?_retain (stack : List α) (k' : κ) : (m.retain k keep stack).get? k' =
      if k' = k then (if (stack.filter keep).length = 0 then none else some (stack.filter keep))
      else m.get? k' := by
  unfold retain
  split_ifs with hempty hk hk
  · rw [get?_delete, if_pos hk]
  · rw [get?_delete, if_neg hk]
  · rw [get?_set, if_pos hk]
  · rw [get?_set, if_neg hk]

/-- Elements that all stand under one key leave the log when they leave its stack. -/
theorem retain (h : KeyedStacks key m log) (hget : m.get? k = some stack)
    (hkey : ∀ x ∈ log, keep x = false → key x = k) :
    KeyedStacks key (m.retain k keep stack) (log.filter keep) where
  under k' := by
    rw [get?_retain, List.filter_filter]
    by_cases hk : k' = k
    · subst hk
      have hstack : (if (stack.filter keep).length = 0 then none else some (stack.filter keep)).getD
          [] = stack.filter keep := by
        split_ifs with hempty
        · exact (List.length_eq_zero_iff.mp hempty).symm
        · rfl
      rw [if_pos rfl, hstack, h.eq_filter hget, List.filter_filter]
      simp only [Bool.and_comm]
    · rw [if_neg hk, h.under k']
      refine List.filter_congr fun x hx => ?_
      cases hkeep : keep x with
      | true => rw [Bool.and_true]
      | false =>
        rw [Bool.and_false, decide_eq_false]
        rintro rfl
        exact hk (hkey x hx hkeep)
  nonempty k' stack' hget' := by
    rw [get?_retain] at hget'
    split_ifs at hget' with hk hempty
    · rw [← Option.some.inj hget']
      exact fun hnil => hempty (List.length_eq_zero_iff.mpr hnil)
    · exact h.nonempty k' stack' hget'

/-- What leaves under a key leaves the last elements of the other keys, in their order. -/
theorem filter_tops_retain (h : KeyedStacks key m log)
    (hretain : KeyedStacks key (m.retain k keep stack) (log.filter keep)) :
    (m.retain k keep stack).tops.filter (fun x => key x ≠ k) = m.tops.filter fun x => key x ≠ k := by
  rw [h.filter_tops fun k' => k' ≠ k, hretain.filter_tops fun k' => k' ≠ k]
  unfold InsertionMap.retain
  split_ifs with hempty
  · rw [m.filter_ne_entries_delete]
  · rw [m.filter_ne_entries_set]

/-- Where the last element under the key stays, the last elements of all keys stay. -/
theorem tops_retain (hget : m.get? k = some stack)
    (hlast : (stack.filter keep).getLast? = stack.getLast?) (hstack : stack ≠ []) :
    (m.retain k keep stack).tops = m.tops := by
  unfold InsertionMap.retain
  split_ifs with hempty
  · rw [List.length_eq_zero_iff.mp hempty] at hlast
    exact absurd (List.getLast?_eq_none_iff.mp hlast.symm) hstack
  · exact m.filterMap_values_set hget hlast

end KeyedStacks

end ShipyardCp.Lib
