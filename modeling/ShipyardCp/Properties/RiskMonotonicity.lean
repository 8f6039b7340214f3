import ShipyardCp.Domain.RiskAssessor
import ShipyardCp.Domain.WorkerExecutor

/-! Whether the assessed risk depends on the order of the factors, and whether a further factor can
make it lower. -/

namespace ShipyardCp.Properties

open Types Domain
open RiskAssessor (assessRisk forcedHigh raisedMedium fileCount scopeLevel checkForcedHigh
  mediumReason hasRegression level_assessRisk)

/-- The level of some factors is that of the same factors in any other order, and a further factor
among them does not make it lower. -/
structure RiskLaws (factors : List RiskFactor) (factor : RiskFactor) : Prop where
  order : ∀ factors', factors.Perm factors' → (assessRisk factors').level = (assessRisk factors).level
  growth : ∀ before after, factors = before ++ after →
    riskRank (assessRisk factors).level ≤ riskRank (assessRisk (before ++ factor :: after)).level

def OneScope (factors : List RiskFactor) : Prop :=
  ∀ f ∈ factors, ∀ g ∈ factors, f.kind = .fileCount → g.kind = .fileCount →
    scopeLevel (RiskAssessor.count f) = scopeLevel (RiskAssessor.count g)

/-- A further factor does not make the change medium where its scope makes it high, and states no
smaller scope. -/
def KeepsScope (factors : List RiskFactor) (factor : RiskFactor) : Prop :=
  ((mediumReason factor).isSome → scopeLevel (fileCount factors) ≠ .high) ∧
  (factor.kind = .fileCount →
    riskRank (scopeLevel (fileCount factors)) ≤ riskRank (scopeLevel (RiskAssessor.count factor)))

section order

variable {factors factors' : List RiskFactor}

theorem hasRegression_perm (hperm : factors.Perm factors') :
    hasRegression factors' = hasRegression factors :=
  hperm.symm.any_eq

theorem checkForcedHigh_congr (hsame : hasRegression factors' = hasRegression factors)
    (factor : RiskFactor) : checkForcedHigh factor factors' = checkForcedHigh factor factors := by
  unfold checkForcedHigh
  rw [hsame]

theorem forcedHigh_perm (hperm : factors.Perm factors') :
    forcedHigh factors' = forcedHigh factors := by
  have hsame : (fun factor => (checkForcedHigh factor factors').isSome) =
      fun factor => (checkForcedHigh factor factors).isSome :=
    funext fun factor => by rw [checkForcedHigh_congr (hasRegression_perm hperm)]
  unfold forcedHigh
  rw [hsame]
  exact hperm.symm.any_eq

theorem raisedMedium_perm (hperm : factors.Perm factors') :
    raisedMedium factors' = raisedMedium factors :=
  hperm.symm.any_eq

theorem fileCount_cons_of_fileCount {factor : RiskFactor} (hkind : factor.kind = .fileCount) :
    fileCount (factor :: factors) = RiskAssessor.count factor := by
  simp [fileCount, hkind]

theorem scopeLevel_fileCount_of_mem (hscope : OneScope factors) {factor : RiskFactor}
    (hmem : factor ∈ factors) (hkind : factor.kind = .fileCount) :
    scopeLevel (fileCount factors) = scopeLevel (RiskAssessor.count factor) := by
  unfold fileCount
  cases hfound : factors.find? fun f => f.kind = .fileCount with
  | none =>
    have hnone := List.find?_eq_none.mp hfound factor hmem
    exact absurd (decide_eq_true hkind) hnone
  | some first =>
    have hfirst : first.kind = .fileCount := by simpa using List.find?_some hfound
    exact hscope first (List.mem_of_find?_eq_some hfound) factor hmem hfirst hkind

theorem scopeLevel_fileCount_perm (hscope : OneScope factors) (hperm : factors.Perm factors') :
    scopeLevel (fileCount factors') = scopeLevel (fileCount factors) := by
  cases hfound : factors'.find? fun f => f.kind = .fileCount with
  | some first =>
    have hmem := hperm.symm.subset (List.mem_of_find?_eq_some hfound)
    have hfirst : first.kind = .fileCount := by simpa using List.find?_some hfound
    rw [scopeLevel_fileCount_of_mem hscope hmem hfirst]
    unfold fileCount
    rw [hfound]
  | none =>
    have hnone : factors.find? (fun f => f.kind = .fileCount) = none :=
      List.find?_eq_none.mpr fun factor hmem =>
        List.find?_eq_none.mp hfound factor (hperm.subset hmem)
    unfold fileCount
    rw [hfound, hnone]

end order

section growth

variable {factors before after : List RiskFactor} {factor : RiskFactor}

theorem forcedHigh_cons (hfactor : factor.kind ≠ .regressionTestPassed) :
    forcedHigh (factor :: factors) =
      ((checkForcedHigh factor factors).isSome || forcedHigh factors) := by
  have hsame : hasRegression (factor :: factors) = hasRegression factors := by
    simp [hasRegression, hfactor]
  have hchecks : (fun f => (checkForcedHigh f (factor :: factors)).isSome) =
      fun f => (checkForcedHigh f factors).isSome :=
    funext fun f => by rw [checkForcedHigh_congr hsame]
  unfold forcedHigh
  rw [hchecks, List.any_cons]

theorem fileCount_insert (before after : List RiskFactor) (factor : RiskFactor) :
    fileCount (before ++ factor :: after) = fileCount (before ++ after) ∨
    factor.kind = .fileCount ∧ fileCount (before ++ factor :: after) = RiskAssessor.count factor := by
  unfold fileCount
  rw [List.find?_append, List.find?_append]
  cases before.find? fun f => f.kind = .fileCount with
  | some first => exact Or.inl rfl
  | none =>
    by_cases hkind : factor.kind = .fileCount
    · exact Or.inr ⟨hkind, by simp [hkind]⟩
    · exact Or.inl (by simp [hkind])

theorem riskRank_le_two (level : RiskLevel) : riskRank level ≤ 2 := by
  cases level <;> decide

theorem riskRank_le_one {level : RiskLevel} (hlevel : level ≠ .high) : riskRank level ≤ 1 := by
  cases level with
  | high => exact absurd rfl hlevel
  | low => decide
  | medium => decide

theorem growth_of_keepsScope (hfactor : factor.kind ≠ .regressionTestPassed)
    (hkeeps : forcedHigh (before ++ after) = true ∨ raisedMedium (before ++ after) = true ∨
      forcedHigh (factor :: (before ++ after)) = true ∨ KeepsScope (before ++ after) factor) :
    riskRank (assessRisk (before ++ after)).level ≤
      riskRank (assessRisk (before ++ factor :: after)).level := by
  have hperm : (factor :: (before ++ after)).Perm (before ++ factor :: after) := List.perm_middle.symm
  have hforced := forcedHigh_perm hperm
  have hraised : raisedMedium (before ++ factor :: after) =
      ((mediumReason factor).isSome || raisedMedium (before ++ after)) := raisedMedium_perm hperm
  have hcons : forcedHigh (factor :: (before ++ after)) =
      ((checkForcedHigh factor (before ++ after)).isSome || forcedHigh (before ++ after)) :=
    forcedHigh_cons hfactor
  rw [level_assessRisk, level_assessRisk (before ++ factor :: after), hforced, hraised]
  by_cases hhigh : forcedHigh (factor :: (before ++ after)) = true
  · rw [if_pos hhigh]
    exact riskRank_le_two _
  · have hlow : forcedHigh (before ++ after) = false := by
      rw [hcons] at hhigh
      exact (Bool.or_eq_false_iff.mp (Bool.eq_false_of_not_eq_true hhigh)).2
    rw [if_neg hhigh, hlow, if_neg Bool.false_ne_true]
    by_cases hmedium : raisedMedium (before ++ after) = true
    · rw [hmedium, Bool.or_true, if_pos rfl, if_pos rfl]
    · have hscope : KeepsScope (before ++ after) factor := by
        rcases hkeeps with h | h | h | h
        · rw [hlow] at h
          cases h
        · exact absurd h hmedium
        · exact absurd h hhigh
        · exact h
      rw [Bool.eq_false_of_not_eq_true hmedium, Bool.or_false, if_neg Bool.false_ne_true]
      by_cases hraises : (mediumReason factor).isSome = true
      · rw [if_pos hraises]
        exact riskRank_le_one (hscope.1 hraises)
      · rw [if_neg hraises]
        rcases fileCount_insert before after factor with hsame | ⟨hkind, hcount⟩
        · rw [hsame]
        · rw [hcount]
          exact hscope.2 hkind

end growth

section laws

variable {factors : List RiskFactor} {factor : RiskFactor}

theorem order_of_oneScope (hscope : OneScope factors) {factors' : List RiskFactor}
    (hperm : factors.Perm factors') :
    (assessRisk factors').level = (assessRisk factors).level := by
  rw [level_assessRisk, level_assessRisk, forcedHigh_perm hperm, raisedMedium_perm hperm,
    scopeLevel_fileCount_perm hscope hperm]

theorem oneScope_of_order (hforced : forcedHigh factors = false)
    (hraised : raisedMedium factors = false)
    (horder : ∀ factors', factors.Perm factors' →
      (assessRisk factors').level = (assessRisk factors).level) : OneScope factors := by
  have hfirst : ∀ f ∈ factors, f.kind = .fileCount →
      scopeLevel (RiskAssessor.count f) = (assessRisk factors).level := by
    intro f hf hkind
    have hperm := List.perm_cons_erase hf
    rw [← horder _ hperm, level_assessRisk, forcedHigh_perm hperm, raisedMedium_perm hperm, hforced,
      hraised, fileCount_cons_of_fileCount hkind]
    rfl
  intro f hf g hg hkind hkind'
  rw [hfirst f hf hkind, hfirst g hg hkind']

theorem keepsScope_of_growth (hforced : forcedHigh factors = false)
    (hraised : raisedMedium factors = false)
    (hcons : forcedHigh (factor :: factors) = false)
    (hgrowth : riskRank (assessRisk factors).level ≤
      riskRank (assessRisk (factor :: factors)).level) : KeepsScope factors factor := by
  have hmedium : raisedMedium (factor :: factors) = (mediumReason factor).isSome := by
    unfold raisedMedium at hraised ⊢
    rw [List.any_cons, hraised, Bool.or_false]
  rw [level_assessRisk, level_assessRisk, hforced, hraised, hcons, hmedium] at hgrowth
  simp only [Bool.false_eq_true, if_false] at hgrowth
  constructor
  · intro hraises hhigh
    rw [if_pos hraises, hhigh] at hgrowth
    exact absurd hgrowth (by decide)
  · intro hkind
    have hnone : (mediumReason factor).isSome = false := by
      unfold mediumReason
      rw [hkind]
      rfl
    rwa [hnone, if_neg Bool.false_ne_true, fileCount_cons_of_fileCount hkind] at hgrowth

/-- The assessment neither depends on the order nor falls with a further factor exactly when the
risk is forced high or raised to medium by the factors, or all file counts say the same and the factor
forces the risk high or keeps the scope. -/
theorem riskLaws_iff (factors : List RiskFactor) {factor : RiskFactor}
    (hfactor : factor.kind ≠ .regressionTestPassed) :
    RiskLaws factors factor ↔ forcedHigh factors = true ∨ raisedMedium factors = true ∨
      OneScope factors ∧ (forcedHigh (factor :: factors) = true ∨ KeepsScope factors factor) := by
  constructor
  · intro hlaws
    by_cases hforced : forcedHigh factors = true
    · exact Or.inl hforced
    by_cases hraised : raisedMedium factors = true
    · exact Or.inr (Or.inl hraised)
    rw [Bool.not_eq_true] at hforced hraised
    refine Or.inr (Or.inr ⟨oneScope_of_order hforced hraised hlaws.order, ?_⟩)
    by_cases hcons : forcedHigh (factor :: factors) = true
    · exact Or.inl hcons
    · rw [Bool.not_eq_true] at hcons
      exact Or.inr (keepsScope_of_growth hforced hraised hcons (hlaws.growth [] factors rfl))
  · intro h
    constructor
    · intro factors' hperm
      rcases h with hforced | hraised | ⟨hscope, _⟩
      · rw [level_assessRisk, level_assessRisk, forcedHigh_perm hperm, if_pos hforced, if_pos hforced]
      · rw [level_assessRisk, level_assessRisk, forcedHigh_perm hperm, raisedMedium_perm hperm,
          if_pos hraised, if_pos hraised]
      · exact order_of_oneScope hscope hperm
    · rintro before after rfl
      refine growth_of_keepsScope hfactor ?_
      rcases h with hforced | hraised | ⟨_, hcons | hkeeps⟩
      · exact Or.inl hforced
      · exact Or.inr (Or.inl hraised)
      · exact Or.inr (Or.inr (Or.inl hcons))
      · exact Or.inr (Or.inr (Or.inr hkeeps))

/-- A small change, and secrets. -/
theorem small_change_with_secrets : RiskLaws [⟨.fileCount, .number 2⟩, ⟨.testCoverage, .flag true⟩]
      ⟨.secretsReferenced, .flag true⟩ :=
  (riskLaws_iff _ (by decide)).mpr (Or.inr (Or.inr ⟨by
    unfold OneScope
    decide +kernel, Or.inl rfl⟩))

/-- A changed configuration makes a large change medium; and of two file counts the first counts. -/
theorem config_lowers_large_change : (¬∀ factors factor, factor.kind ≠ .regressionTestPassed →
      riskRank (assessRisk factors).level ≤ riskRank (assessRisk (factor :: factors)).level) ∧
    (¬∀ factors factors' : List RiskFactor, factors.Perm factors' →
      (assessRisk factors').level = (assessRisk factors).level) := by
  constructor
  · intro hall
    have hgrowth := hall [⟨.fileCount, .number 25⟩] ⟨.configModified, .flag true⟩ (by decide)
    revert hgrowth
    decide +kernel
  · intro hall
    have hsame := hall [⟨.fileCount, .number 25⟩, ⟨.fileCount, .number 3⟩] _ (List.Perm.swap _ _ [])
    revert hsame
    decide +kernel

end laws

end ShipyardCp.Properties
