import Mathlib.Data.List.Induction
import Mathlib.Data.List.Nodup
import Mathlib.Data.List.Perm.Subperm

/-! Outlines: headings with levels in a row, and the path of headings above a place. -/

namespace ShipyardCp.Lib

variable {H : Type*} (level : H → Nat)

/-- Puts a heading on a path, of which the places above its level are kept. -/
def pushHeading (path : List H) (h : H) : List H := path.take (level h - 1) ++ [h]

def headingPath (headings : List H) : List H := headings.foldl (pushHeading level) []

/-- The headings that no later one of the same or a smaller level ends. -/
def enclosing : List H → List H
  | [] => []
  | h :: headings =>
    if headings.all fun later => level h < level later then h :: enclosing headings
    else enclosing headings

/-- The heading is deeper than all that are open, or has an open one at each level above its own. -/
def FitsBelow (opened : List H) (h : H) : Prop :=
  (∀ g ∈ opened, level g < level h) ∨ ∀ l, 1 ≤ l → l < level h → ∃ g ∈ opened, level g = l

/-- Every heading fits below those that are open before it. -/
def Nested (headings : List H) : Prop :=
  ∀ before h after, headings = before ++ h :: after → FitsBelow level (enclosing level before) h

variable {level} {headings : List H} {h : H}

theorem headingPath_concat (headings : List H) (h : H) :
    headingPath level (headings ++ [h]) = pushHeading level (headingPath level headings) h := by
  rw [headingPath, List.foldl_concat, headingPath]

theorem enclosing_concat (headings : List H) (h : H) : enclosing level (headings ++ [h]) =
      (enclosing level headings).filter (fun g => level g < level h) ++ [h] := by
  induction headings with
  | nil => rfl
  | cons g headings ih =>
    rw [List.cons_append, enclosing, enclosing, ih, List.all_append, List.all_cons, List.all_nil,
      Bool.and_true]
    by_cases hlater : (headings.all fun later => level g < level later) = true
    · rw [if_pos hlater, List.filter_cons]
      by_cases hdeeper : level g < level h
      · rw [if_pos (by simp [hlater, hdeeper]), if_pos (decide_eq_true hdeeper), List.cons_append]
      · rw [if_neg (by simp [hdeeper]), if_neg (by simpa using hdeeper)]
    · rw [if_neg hlater, if_neg (by simp [hlater])]

theorem mem_enclosing {before after : List H} (hdeeper : ∀ later ∈ after, level h < level later) :
    h ∈ enclosing level (before ++ h :: after) := by
  induction before with
  | nil =>
    have hall : (after.all fun later => level h < level later) = true :=
      List.all_eq_true.mpr fun g hg => decide_eq_true (hdeeper g hg)
    rw [List.nil_append, enclosing, if_pos hall]
    exact List.mem_cons_self
  | cons g before ih =>
    rw [List.cons_append, enclosing]
    split_ifs
    · exact List.mem_cons_of_mem g ih
    · exact ih

theorem lt_level_of_mem_drop (hpos : ∀ h ∈ headings, 1 ≤ level h) {n : Nat}
    (hh : h ∈ (headingPath level headings).drop n) : n < level h := by
  induction headings using List.reverseRecOn generalizing n with
  | nil => simp [headingPath] at hh
  | append_singleton headings last ih =>
    have hlast := hpos last (by simp)
    rw [headingPath_concat, pushHeading, List.drop_append, List.mem_append, List.drop_take] at hh
    rcases hh with hh | hh
    · exact ih (fun g hg => hpos g (List.mem_append_left _ hg)) (List.mem_of_mem_take hh)
    · have hn : n - ((headingPath level headings).take (level last - 1)).length < 1 := by
        by_contra hlong
        rw [List.drop_eq_nil_of_le (by rw [List.length_singleton]; omega)] at hh
        cases hh
      have heq : h = last := List.mem_singleton.mp (List.mem_of_mem_drop hh)
      rw [List.length_take] at hn
      rw [heq]
      omega

/-- What is above the level of a heading is kept when the heading is put on the path. -/
theorem filter_take_headingPath (hpos : ∀ h ∈ headings, 1 ≤ level h) (n : Nat) :
    ((headingPath level headings).take (n - 1)).filter (fun g => level g < n) =
      (headingPath level headings).filter fun g => level g < n := by
  have hdrop : ((headingPath level headings).drop (n - 1)).filter (fun g => level g < n) = [] := by
    refine List.filter_eq_nil_iff.mpr fun g hg => ?_
    have hlevel := lt_level_of_mem_drop hpos hg
    rw [decide_eq_true_eq]
    omega
  calc ((headingPath level headings).take (n - 1)).filter (fun g => level g < n)
      = ((headingPath level headings).take (n - 1)).filter (fun g => level g < n) ++
        ((headingPath level headings).drop (n - 1)).filter (fun g => level g < n) := by
          rw [hdrop, List.append_nil]
    _ = (headingPath level headings).filter fun g => level g < n := by
          rw [← List.filter_append, List.take_append_drop]

theorem enclosing_sublist_headingPath (hpos : ∀ h ∈ headings, 1 ≤ level h) :
    (enclosing level headings).Sublist (headingPath level headings) := by
  induction headings using List.reverseRecOn with
  | nil => exact .slnil
  | append_singleton headings last ih =>
    have hbefore : ∀ h ∈ headings, 1 ≤ level h := fun h hh => hpos h (List.mem_append_left _ hh)
    rw [enclosing_concat, headingPath_concat, pushHeading]
    refine List.Sublist.append ?_ (List.Sublist.refl _)
    calc ((enclosing level headings).filter fun g => level g < level last).Sublist
          ((headingPath level headings).filter fun g => level g < level last) := (ih hbefore).filter _
      _ = ((headingPath level headings).take (level last - 1)).filter
          (fun g => level g < level last) := (filter_take_headingPath hbefore _).symm
      List.Sublist _ ((headingPath level headings).take (level last - 1)) := List.filter_sublist

theorem headingPath_eq_enclosing (hpos : ∀ h ∈ headings, 1 ≤ level h)
    (hnested : Nested level headings) : headingPath level headings = enclosing level headings := by
  induction headings using List.reverseRecOn with
  | nil => rfl
  | append_singleton headings last ih =>
    have hbefore : ∀ h ∈ headings, 1 ≤ level h := fun h hh => hpos h (List.mem_append_left _ hh)
    have hpath := ih hbefore fun before h after heq =>
      hnested before h (after ++ [last]) (by rw [heq, List.append_assoc, List.cons_append])
    have hfilter := filter_take_headingPath hbefore (level last)
    rw [hpath] at hfilter
    rw [enclosing_concat, headingPath_concat, pushHeading, hpath, ← hfilter,
      List.append_cancel_right_eq]
    refine (List.filter_eq_self.mpr fun g hg => ?_).symm
    rw [decide_eq_true_eq]
    rcases hnested headings last [] rfl with hall | hlevels
    · exact hall g (List.mem_of_mem_take hg)
    · have hmem : ∀ l ∈ List.range' 1 (level last - 1),
          l ∈ (((enclosing level headings).take (level last - 1)).filter
            fun g => level g < level last).map level := by
        intro l hl
        obtain ⟨hone, hlast⟩ := List.mem_range'_1.mp hl
        obtain ⟨g, hg, hlevel⟩ := hlevels l hone (by omega)
        rw [hfilter, List.mem_map]
        exact ⟨g, List.mem_filter.mpr ⟨hg, by simpa [hlevel] using by omega⟩, hlevel⟩
      have hdistinct : (List.range' 1 (level last - 1)).Nodup := List.nodup_range'
      have hlong := (hdistinct.subperm hmem).length_le
      rw [List.length_range', List.length_map] at hlong
      have hwhole : (((enclosing level headings).take (level last - 1)).filter
          fun g => level g < level last).length =
            ((enclosing level headings).take (level last - 1)).length :=
        Nat.le_antisymm (List.length_filter_le _ _) (Nat.le_trans (List.length_take_le _ _) hlong)
      exact of_decide_eq_true (List.length_filter_eq_length_iff.mp hwhole g hg)

end ShipyardCp.Lib
