import Mathlib.Algebra.Order.Field.Basic
import Mathlib.Order.Interval.Finset.Nat
import Mathlib.Tactic.Linarith
import ShipyardCp.Lib.Transition

/-! Quantities that are brought up to date whenever they are read or taken from, and when reading
them changes nothing of what can be taken. -/

namespace ShipyardCp.Lib

/-- A quantity that is brought up to date at each call, from which something is then taken or not.
-/
structure Meter (σ κ : Type*) where
  refresh : σ → ℕ → σ
  take : σ → κ → Bool × σ

namespace Meter

variable {σ κ : Type*} {M : Meter σ κ} {met : σ → Prop} {clock : σ → ℕ}

/-- The answers to what is asked for; a call that asks for nothing reads. -/
def answers (M : Meter σ κ) : σ → List (ℕ × Option κ) → List (κ × Bool)
  | _, [] => []
  | s, (t, none) :: calls => M.answers (M.refresh s t) calls
  | s, (t, some k) :: calls =>
    (k, (M.take (M.refresh s t) k).1) :: M.answers (M.take (M.refresh s t) k).2 calls

/-- What is brought up to date twice is as if it had been so once. -/
structure Absorbs (M : Meter σ κ) (met : σ → Prop) (clock : σ → ℕ) : Prop where
  met_refresh : ∀ s t, met s → clock s ≤ t → met (M.refresh s t)
  met_take : ∀ s t k, met s → clock s ≤ t → met (M.take (M.refresh s t) k).2
  clock_refresh : ∀ s t, clock (M.refresh s t) = t
  clock_take : ∀ s k, clock (M.take s k).2 = clock s
  refresh_refresh : ∀ s t u, met s → clock s ≤ t → t ≤ u → M.refresh (M.refresh s t) u = M.refresh s u

theorem Absorbs.answers_refresh (A : M.Absorbs met clock) {s : σ} {t : ℕ} (hmet : met s)
    (ht : clock s ≤ t) {calls : List (ℕ × Option κ)} (htakes : ∀ call ∈ calls, call.2.isSome)
    (hlater : ∀ call ∈ calls, t ≤ call.1) : M.answers (M.refresh s t) calls = M.answers s calls := by
  cases calls with
  | nil => rfl
  | cons call calls =>
    obtain ⟨u, k⟩ := call
    cases k with
    | none => cases htakes _ List.mem_cons_self
    | some k =>
      have hu : t ≤ u := hlater _ List.mem_cons_self
      simp only [answers]
      rw [A.refresh_refresh s t u hmet ht hu]

theorem Absorbs.answers_filter (A : M.Absorbs met clock) {s : σ} (hmet : met s)
    {calls : List (ℕ × Option κ)} (hclock : (clock s :: calls.map Prod.fst).Pairwise (· ≤ ·)) :
    M.answers s calls = M.answers s (calls.filter (·.2.isSome)) := by
  induction calls generalizing s with
  | nil => rfl
  | cons call calls ih =>
    obtain ⟨t, k⟩ := call
    rw [List.map_cons] at hclock
    have ht : clock s ≤ t := List.rel_of_pairwise_cons hclock List.mem_cons_self
    have hafter := hclock.of_cons
    cases k with
    | none =>
      rw [List.filter_cons_of_neg (by simp), answers]
      have hlater : ∀ call ∈ calls.filter (·.2.isSome), t ≤ call.1 := fun call hcall =>
        List.rel_of_pairwise_cons hafter (List.mem_map_of_mem (List.mem_filter.mp hcall).1)
      have htakes : ∀ call ∈ calls.filter (·.2.isSome), call.2.isSome := fun call hcall =>
        (List.mem_filter.mp hcall).2
      rw [ih (A.met_refresh s t hmet ht) (by rwa [A.clock_refresh]),
        A.answers_refresh hmet ht htakes hlater]
    | some k =>
      rw [List.filter_cons_of_pos (by simp), answers, answers]
      rw [ih (A.met_take s t k hmet ht) (by rwa [A.clock_take, A.clock_refresh])]

end Meter

/-! An allowance that grows with the time up to a cap, and how much of it the steps of a run can spend
in an interval. -/

namespace Machine

section spentDuring

variable {σ α 𝕜 : Type*} [AddCommMonoid 𝕜] {spent : σ → α → 𝕜} {instant : α → ℕ}
  {window window' : Finset ℕ} {h : History σ α}

/-- What the steps of a history at the instants of a window spend. -/
def spentDuring (spent : σ → α → 𝕜) (instant : α → ℕ) (window : Finset ℕ) (h : History σ α) : 𝕜 :=
  ((h.filter fun p => instant p.2 ∈ window).map fun p => spent p.1 p.2).sum

@[simp] theorem spentDuring_nil : spentDuring spent instant window [] = 0 := by
  simp [spentDuring]

theorem spentDuring_snoc (s : σ) (a : α) : spentDuring spent instant window (h ++ [(s, a)]) =
      spentDuring spent instant window h + if instant a ∈ window then spent s a else 0 := by
  unfold spentDuring
  rw [List.filter_append, List.map_append, List.sum_append]
  split_ifs with hwindow <;> simp [hwindow]

theorem spentDuring_congr (hwindows : ∀ p ∈ h, instant p.2 ∈ window ↔ instant p.2 ∈ window') :
    spentDuring spent instant window h = spentDuring spent instant window' h := by
  have hsame : ∀ p ∈ h, decide (instant p.2 ∈ window) = decide (instant p.2 ∈ window') :=
    fun p hp => decide_eq_decide.mpr (hwindows p hp)
  unfold spentDuring
  rw [List.filter_congr hsame]

theorem spentDuring_eq_zero (hnone : ∀ p ∈ h, instant p.2 ∉ window) :
    spentDuring spent instant window h = 0 := by
  unfold spentDuring
  rw [List.filter_eq_nil_iff.mpr (by simpa using hnone), List.map_nil, List.sum_nil]

end spentDuring

/-- In every state met there is a credit at each instant from the last step on. It grows no faster
than the rate, is never more than the cap, and pays for what a step spends. -/
structure Allowance {σ α 𝕜 : Type*} [Field 𝕜] [LinearOrder 𝕜] (M : Machine σ α)
    (spent : σ → α → 𝕜) (instant : α → ℕ) (cap rate : 𝕜) where
  met : σ → Prop
  clock : σ → ℕ
  credit : σ → ℕ → 𝕜
  rate_nonneg : 0 ≤ rate
  init : ∀ s, M.init s → met s
  keeps : ∀ s a s', met s → M.step s a s' → met s'
  advances : ∀ s a s', met s → M.step s a s' → clock s ≤ instant a ∧ clock s' = instant a
  credit_le : ∀ s t, met s → credit s t ≤ cap
  credit_nonneg : ∀ s t, met s → clock s ≤ t → 0 ≤ credit s t
  grows : ∀ s t u, met s → clock s ≤ t → t ≤ u → credit s u ≤ credit s t + rate * (u - t)
  pays : ∀ s a s', met s → M.step s a s' → credit s' (instant a) + spent s a ≤ credit s (instant a)

namespace Allowance

variable {σ α 𝕜 : Type*} [Field 𝕜] [LinearOrder 𝕜] {M : Machine σ α}
  {spent : σ → α → 𝕜} {instant : α → ℕ} {cap rate : 𝕜} {h : History σ α} {s : σ}

theorem met_of_run (A : Allowance M spent instant cap rate) (hrun : M.Run h s) : A.met s :=
  hrun.stateInvariant (C := fun _ _ => True) A.init (fun s a s' hmet _ hst => A.keeps s a s' hmet hst)
    fun _ _ => trivial

theorem instant_le_clock (A : Allowance M spent instant cap rate) (hrun : M.Run h s) :
    ∀ p ∈ h, instant p.2 ≤ A.clock s := by
  induction hrun with
  | start _ => simp
  | snoc hr hst ih =>
    obtain ⟨hclock, hclock'⟩ := A.advances _ _ _ (A.met_of_run hr) hst
    intro p hp
    rw [hclock']
    rcases List.mem_append.mp hp with hp | hp
    · exact (ih p hp).trans hclock
    · rw [List.mem_singleton.mp hp]

variable [IsStrictOrderedRing 𝕜]

theorem rate_mul_nonneg (A : Allowance M spent instant cap rate) {t u : ℕ} (htu : t ≤ u) :
    0 ≤ rate * ((u : 𝕜) - t) :=
  mul_nonneg A.rate_nonneg (sub_nonneg.mpr (Nat.cast_le.mpr htu))

/-- What was spent since an instant and what is left come from the cap and the growth since. -/
theorem spentDuring_add_credit_le (A : Allowance M spent instant cap rate) (hrun : M.Run h s) :
    ∀ t u : ℕ, t ≤ u → A.clock s ≤ u →
      spentDuring spent instant (Finset.Icc t u) h + A.credit s u ≤ cap + rate * (u - t) := by
  induction hrun with
  | start hi =>
    intro t u htu _
    rw [spentDuring_nil, zero_add]
    exact (A.credit_le _ u (A.init _ hi)).trans (le_add_of_nonneg_right (A.rate_mul_nonneg htu))
  | @snoc h s a s' hr hst ih =>
    intro t u htu hu
    have hmet := A.met_of_run hr
    have hmet' := A.keeps _ _ _ hmet hst
    have hbefore := A.instant_le_clock hr
    obtain ⟨hclock, hclock'⟩ := A.advances _ _ _ hmet hst
    rw [hclock'] at hu
    by_cases ht : t ≤ instant a
    · have hsame : spentDuring spent instant (Finset.Icc t u) h =
          spentDuring spent instant (Finset.Icc t (instant a)) h := by
        refine spentDuring_congr fun p hp => ?_
        have hp := (hbefore p hp).trans hclock
        simp only [Finset.mem_Icc]
        omega
      have hpaid := ih t (instant a) ht hclock
      have hpays := A.pays _ _ _ hmet hst
      have hgrown := A.grows _ (instant a) u hmet' hclock'.le hu
      rw [spentDuring_snoc, hsame, if_pos (Finset.mem_Icc.mpr ⟨ht, hu⟩)]
      linarith
    · have hnone : spentDuring spent instant (Finset.Icc t u) h = 0 := by
        refine spentDuring_eq_zero fun p hp => ?_
        have hp := (hbefore p hp).trans hclock
        simp only [Finset.mem_Icc]
        omega
      have hless : instant a ∉ Finset.Icc t u := fun hmem => ht (Finset.mem_Icc.mp hmem).1
      have hcap := A.credit_le _ u hmet'
      have hgrowth := A.rate_mul_nonneg htu
      rw [spentDuring_snoc, hnone, if_neg hless]
      linarith

/-- In an interval no more is spent than the cap and what the rate gives in its length. -/
theorem spentDuring_le (A : Allowance M spent instant cap rate) (hrun : M.Run h s) {t u : ℕ}
    (htu : t ≤ u) : spentDuring spent instant (Finset.Icc t u) h ≤ cap + rate * (u - t) := by
  induction hrun with
  | @start s hi =>
    have hnonneg := A.credit_nonneg s (A.clock s) (A.init s hi) le_rfl
    have hcap := A.credit_le s (A.clock s) (A.init s hi)
    rw [spentDuring_nil]
    exact add_nonneg (hnonneg.trans hcap) (A.rate_mul_nonneg htu)
  | @snoc h s a s' hr hst ih =>
    by_cases hu : instant a ≤ u
    · have hclock' := (A.advances _ _ _ (A.met_of_run hr) hst).2
      have hspent := A.spentDuring_add_credit_le (hr.snoc hst) t u htu (hclock'.le.trans hu)
      have hleft := A.credit_nonneg s' u (A.met_of_run (hr.snoc hst)) (hclock'.le.trans hu)
      linarith
    · have hlater : instant a ∉ Finset.Icc t u := fun hmem => hu (Finset.mem_Icc.mp hmem).2
      rw [spentDuring_snoc, if_neg hlater, add_zero]
      exact ih

end Allowance

end Machine

end ShipyardCp.Lib
