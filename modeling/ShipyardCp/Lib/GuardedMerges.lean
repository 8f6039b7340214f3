import Mathlib.Data.List.Basic

/-! Merging by concatenation, where what follows is kept only if something leads. -/

namespace ShipyardCp.Lib

variable {A B : Type*} {parts xs ys : List (List A × List B)}

def concatPairs (parts : List (List A × List B)) : List A × List B :=
  (parts.flatMap Prod.fst, parts.flatMap Prod.snd)

/-- One part is taken as it is; several are concatenated, and dropped when nothing leads. -/
def guardedMerge (parts : List (List A × List B)) : List A × List B :=
  if parts.length = 1 ∨ parts.flatMap Prod.fst ≠ [] then concatPairs parts else ([], [])

/-- The parts are one, or what leads is missing only where nothing follows. -/
def Led (parts : List (List A × List B)) : Prop :=
  parts.length = 1 ∨ (parts.flatMap Prod.fst = [] → parts.flatMap Prod.snd = [])

theorem guardedMerge_eq_concat_iff : guardedMerge parts = concatPairs parts ↔ Led parts := by
  unfold guardedMerge Led
  split_ifs with h
  · refine iff_of_true rfl (h.imp_right fun hne hnil => absurd hnil hne)
  · rw [not_or, not_ne_iff] at h
    rw [or_iff_right h.1, concatPairs, h.2, Prod.mk.injEq, eq_comm (a := [])]
    simp

theorem guardedMerge_of_not_led (h : ¬Led parts) :
    guardedMerge parts = ([], []) ∧ parts.flatMap Prod.fst = [] ∧ parts.flatMap Prod.snd ≠ [] := by
  unfold Led at h
  push_neg at h
  obtain ⟨hmany, hfst, hsnd⟩ := h
  exact ⟨if_neg (by simp [hmany, hfst]), hfst, hsnd⟩

theorem length_guardedMerge_snd_le (parts : List (List A × List B)) :
    (guardedMerge parts).2.length ≤ (parts.flatMap Prod.snd).length := by
  unfold guardedMerge
  split_ifs
  · exact Nat.le_refl _
  · exact Nat.zero_le _

theorem concatPairs_append (xs ys : List (List A × List B)) :
    concatPairs (xs ++ ys) = concatPairs [concatPairs xs, concatPairs ys] := by
  simp [concatPairs]

/-- Merging keeps everything, however the parts are grouped, exactly when each group is led. -/
theorem guardedMerge_laws_iff :
    (guardedMerge parts = concatPairs parts ∧ ∀ xs ys, xs ≠ [] → ys ≠ [] → parts = xs ++ ys →
      guardedMerge [guardedMerge xs, guardedMerge ys] = concatPairs parts) ↔
    ∀ xs ys, parts = xs ++ ys → Led xs ∧ Led ys := by
  have hnil : Led ([] : List (List A × List B)) := .inr fun _ => rfl
  constructor
  · rintro ⟨hwhole, hgrouped⟩ xs ys rfl
    have hled := guardedMerge_eq_concat_iff.mp hwhole
    rcases eq_or_ne xs [] with rfl | hxs
    · exact ⟨hnil, hled⟩
    rcases eq_or_ne ys [] with rfl | hys
    · rw [List.append_nil] at hled
      exact ⟨hled, hnil⟩
    have hmerged := hgrouped xs ys hxs hys rfl
    have hlength := length_guardedMerge_snd_le [guardedMerge xs, guardedMerge ys]
    have hx := length_guardedMerge_snd_le xs
    have hy := length_guardedMerge_snd_le ys
    rw [hmerged] at hlength
    simp only [concatPairs, List.flatMap_append, List.length_append, List.flatMap_cons,
      List.flatMap_nil, List.append_nil] at hlength
    constructor
    · by_contra hnot
      obtain ⟨hlost, _, hsnd⟩ := guardedMerge_of_not_led hnot
      have hpos := List.length_pos_of_ne_nil hsnd
      rw [hlost, List.length_nil] at hlength
      omega
    · by_contra hnot
      obtain ⟨hlost, _, hsnd⟩ := guardedMerge_of_not_led hnot
      have hpos := List.length_pos_of_ne_nil hsnd
      rw [hlost, List.length_nil] at hlength
      omega
  · intro hled
    have hparts := (hled parts [] (List.append_nil parts).symm).1
    refine ⟨guardedMerge_eq_concat_iff.mpr hparts, ?_⟩
    rintro xs ys hxs hys rfl
    obtain ⟨hx, hy⟩ := hled xs ys rfl
    rw [guardedMerge_eq_concat_iff.mpr hx, guardedMerge_eq_concat_iff.mpr hy, concatPairs_append]
    refine guardedMerge_eq_concat_iff.mpr (.inr fun hlead => ?_)
    have hmany : (xs ++ ys).length ≠ 1 := by
      have hxpos := List.length_pos_of_ne_nil hxs
      have hypos := List.length_pos_of_ne_nil hys
      rw [List.length_append]
      omega
    have hfollow := hparts.resolve_left hmany
    simp only [concatPairs, List.flatMap_cons, List.flatMap_nil, List.append_nil] at hlead ⊢
    rw [List.flatMap_append, List.flatMap_append] at hfollow
    exact hfollow hlead

/-- The same for elements of which a leading list and one that follows it are seen. -/
theorem guardedMerge_map_laws_iff {E : Type*} (view : E → List A × List B) (l : List E) :
    (guardedMerge (l.map view) = concatPairs (l.map view) ∧
      ∀ xs ys, xs ≠ [] → ys ≠ [] → l = xs ++ ys →
        guardedMerge [guardedMerge (xs.map view), guardedMerge (ys.map view)] =
          concatPairs (l.map view)) ↔
    ∀ xs ys, l = xs ++ ys → Led (xs.map view) ∧ Led (ys.map view) := by
  have hsplits : ∀ xs ys, l.map view = xs ++ ys →
      ∃ as bs, l = as ++ bs ∧ as.map view = xs ∧ bs.map view = ys :=
    fun _ _ h => List.map_eq_append_iff.mp h
  constructor
  · rintro ⟨hwhole, hgrouped⟩ xs ys rfl
    refine guardedMerge_laws_iff.mp ⟨hwhole, fun as bs has hbs hparts => ?_⟩ _ _ List.map_append
    obtain ⟨xs', ys', heq, rfl, rfl⟩ := hsplits as bs hparts
    exact hgrouped xs' ys' (by rintro rfl; exact has rfl) (by rintro rfl; exact hbs rfl) heq
  · intro hled
    obtain ⟨hwhole, hgrouped⟩ := guardedMerge_laws_iff.mpr fun as bs hparts => by
      obtain ⟨xs, ys, heq, rfl, rfl⟩ := hsplits as bs hparts
      exact hled xs ys heq
    refine ⟨hwhole, fun xs ys hxs hys heq => ?_⟩
    exact hgrouped _ _ (by simpa using hxs) (by simpa using hys) (by rw [heq, List.map_append])

end ShipyardCp.Lib
