import Mathlib.Data.List.Forall2

/-! Sequences compared by the elements of one party, whatever elements of others come between them. -/

namespace ShipyardCp.Lib

section interleaving

variable {α β γ : Type*}

/-- Each element of a list, with all that came before it. -/
def moments (before : List α) : List α → List (List α × α)
  | [] => []
  | a :: l => (before, a) :: moments (before ++ [a]) l

/-- The moments of the party's elements. -/
def ownMoments (own : α → Bool) (l : List α) : List (List α × α) :=
  (moments [] l).filter fun m => own m.2

theorem moments_append (before l l' : List α) :
    moments before (l ++ l') = moments before l ++ moments (before ++ l) l' := by
  induction l generalizing before with
  | nil => simp [moments]
  | cons a l ih => simp [moments, ih]

theorem moments_concat (l : List α) (a : α) : moments [] (l ++ [a]) = moments [] l ++ [(l, a)] := by
  rw [moments_append]
  rfl

/-- What the party sees of its moments are the moments of its own sequence. -/
theorem map_filter_moments (own : α → Bool) (f : α → β) (before l : List α) :
    ((moments before l).filter fun m => own m.2).map (fun m => ((m.1.filter own).map f, f m.2)) =
      moments ((before.filter own).map f) ((l.filter own).map f) := by
  induction l generalizing before with
  | nil => rfl
  | cons a l ih =>
    rw [moments]
    by_cases hown : own a = true
    · simp [hown, ih, moments]
    · simp [hown, ih]

/-- A reading of the party's moments is the same in two sequences that agree on the party's elements
exactly when it is the same at every pair of corresponding moments. -/
theorem map_ownMoments_eq_iff {own : α → Bool} {f : α → β} {read : List α × α → γ}
    {Agree : List α × α → List α × α → Prop} {l l' : List α}
    (hsame : (l.filter own).map f = (l'.filter own).map f)
    (hread : ∀ m m', own m.2 = true → (m.1.filter own).map f = (m'.1.filter own).map f →
      f m.2 = f m'.2 → (read m = read m' ↔ Agree m m')) :
    (ownMoments own l).map read = (ownMoments own l').map read ↔
      List.Forall₂ Agree (ownMoments own l) (ownMoments own l') := by
  have hseen : List.Forall₂ (fun m m' => own m.2 = true ∧
      (m.1.filter own).map f = (m'.1.filter own).map f ∧ f m.2 = f m'.2)
      (ownMoments own l) (ownMoments own l') := by
    refine (List.forall₂_and_left _ _).mpr ⟨fun m hm => (List.mem_filter.mp hm).2, ?_⟩
    have heq := (map_filter_moments own f [] l).trans
      ((congrArg (moments []) hsame).trans (map_filter_moments own f [] l').symm)
    have hpairs := List.forall₂_map_left_iff.mp
      (List.forall₂_map_right_iff.mp (List.forall₂_eq_eq_eq ▸ heq))
    exact hpairs.imp fun m m' h => Prod.mk.inj h
  generalize ownMoments own l = ms, ownMoments own l' = ms' at hseen
  induction hseen with
  | nil => simp
  | @cons m m' ms ms' h _ ih =>
    obtain ⟨hown, hbefore, hcall⟩ := h
    rw [List.map_cons, List.map_cons, List.cons.injEq, List.forall₂_cons]
    exact and_congr (hread m m' hown hbefore hcall) ih

end interleaving

/-! Milestones of a log: whether its entries pass a list of tests in their order. -/

variable {α : Type*}

/-- Some entries of the log, in their order, meet the milestones one by one. -/
def passes : List (α → Bool) → List α → Bool
  | [], _ => true
  | _ :: _, [] => false
  | m :: ms, e :: es => if m e then passes ms es else passes (m :: ms) es

variable {ms : List (α → Bool)}

variable {es : List α}

@[simp] theorem passes_nil (es : List α) : passes [] es = true := by
  cases es <;> rfl

theorem passes_append (h : passes ms es = true)
    (fs : List α) : passes ms (es ++ fs) = true := by
  induction es generalizing ms with
  | nil =>
    cases ms with
    | nil => exact passes_nil _
    | cons m ms => cases h
  | cons e es ih =>
    cases ms with
    | nil => exact passes_nil _
    | cons m ms =>
      simp only [List.cons_append, passes] at h ⊢
      split_ifs at h ⊢ with hm
      · exact ih h
      · exact ih h

theorem passes_snoc (h : passes ms es = true)
    {m : α → Bool} {e : α} (he : m e = true) : passes (ms ++ [m]) (es ++ [e]) = true := by
  induction es generalizing ms with
  | nil =>
    cases ms with
    | nil => simp [passes, he]
    | cons m' ms => cases h
  | cons e' es ih =>
    cases ms with
    | nil =>
      have hrest : passes ([] ++ [m]) (es ++ [e]) = true := ih (passes_nil es)
      simp only [List.nil_append, List.cons_append, passes] at hrest ⊢
      split_ifs
      · rfl
      · exact hrest
    | cons m' ms =>
      simp only [List.cons_append, passes] at h ⊢
      split_ifs at h ⊢ with hm
      · exact ih h
      · exact ih h

theorem passes_of_append {ms' : List (α → Bool)}
    (h : passes (ms ++ ms') es = true) : passes ms es = true := by
  induction es generalizing ms with
  | nil =>
    cases ms with
    | nil => exact passes_nil _
    | cons m ms => cases h
  | cons e es ih =>
    cases ms with
    | nil => exact passes_nil _
    | cons m ms =>
      simp only [List.cons_append, passes] at h ⊢
      split_ifs at h ⊢ with hm
      · exact ih h
      · exact ih h

theorem passes_take_of_le {m n : Nat} (hle : m ≤ n)
    (h : passes (ms.take n) es = true) : passes (ms.take m) es = true := by
  obtain ⟨k, rfl⟩ := Nat.exists_eq_add_of_le hle
  rw [List.take_add] at h
  exact passes_of_append h

theorem passes_iff : passes ms es = true ↔
    ∃ fs, fs.Sublist es ∧ List.Forall₂ (fun m e => m e = true) ms fs := by
  induction es generalizing ms with
  | nil =>
    cases ms with
    | nil => exact ⟨fun _ => ⟨[], List.Sublist.refl _, .nil⟩, fun _ => passes_nil _⟩
    | cons m ms =>
      refine ⟨nofun, ?_⟩
      rintro ⟨fs, hsub, hall⟩
      obtain rfl := List.sublist_nil.mp hsub
      cases hall
  | cons e es ih =>
    cases ms with
    | nil => exact ⟨fun _ => ⟨[], List.nil_sublist _, .nil⟩, fun _ => passes_nil _⟩
    | cons m ms =>
      rw [passes]
      split_ifs with hm
      · rw [ih]
        constructor
        · rintro ⟨fs, hsub, hall⟩
          exact ⟨e :: fs, hsub.cons_cons e, .cons hm hall⟩
        · rintro ⟨fs, hsub, hall⟩
          cases hall with
          | cons _ htail =>
            refine ⟨_, ?_, htail⟩
            cases hsub with
            | cons _ hsub => exact (List.sublist_cons_self _ _).trans hsub
            | cons_cons _ hsub => exact hsub
      · rw [ih]
        constructor
        · rintro ⟨fs, hsub, hall⟩
          exact ⟨fs, hsub.cons e, hall⟩
        · rintro ⟨fs, hsub, hall⟩
          cases hsub with
          | cons _ hsub => exact ⟨fs, hsub, hall⟩
          | cons_cons _ hsub =>
            cases hall with
            | cons hhead _ => exact absurd hhead hm

end ShipyardCp.Lib
