import ShipyardCp.Domain.RepoPolicy
import ShipyardCp.Lib.RegExpWildcards

/-! Which branches the patterns of a repository policy protect. -/

namespace ShipyardCp.Properties

open Types Domain Lib Lib.RegExp JsText

def PatternsProtect (allowed : Nat → Prop) (patterns : List String) (branch : String) : Prop :=
  ∃ pattern ∈ patterns, Wildcard 0x2A allowed (units pattern) (units branch)

/-- The check of a branch throws nothing and says whether a pattern stands for it, and a push and a
publish that get to it are judged by that. -/
structure ProtectsMatching (env : Env) (patterns : List String) (branch : String) : Prop where
  check : ∃ isProtected, isProtectedBranch env branch patterns = some isProtected ∧
    (isProtected = true ↔ PatternsProtect (fun _ => True) patterns branch)
  push : ∀ input : RepoPolicyCheckInput, input.targetBranch = branch →
    input.policy.protectedBranches.getD ["main"] = patterns → pushDenial input = none →
    ∃ isProtected, validatePush env input = some (pushVerdict input isProtected) ∧
      (isProtected = true ↔ PatternsProtect (fun _ => True) patterns branch)
  publish : ∀ input : PublishPolicyInput, input.targetBranch = branch →
    input.policy.protectedBranches.getD ["main"] = patterns → publishDenial input = none →
    ∃ isProtected, validatePublishPolicyFor env input = some (publishVerdict input isProtected) ∧
      (isProtected = true ↔ PatternsProtect (fun _ => True) patterns branch)

section check

variable {env : Env} {branch : String}

theorem dotted_codeUnits (c : Char) :
    dotted (codeUnits c) = if c = '*' then [0x2E, 0x2A] else codeUnits c := by
  split_ifs with hstar
  · rw [hstar]
    rfl
  · have hnone : ∀ u ∈ codeUnits c, u ≠ 0x2A := by
      rintro u hu rfl
      exact hstar ((mem_codeUnits_iff (d := '*') (by decide)).mp hu)
    rw [dotted, List.flatMap_congr fun u hu => if_neg (hnone u hu), List.flatMap_singleton']

theorem charCodes_append (text text' : List Char) :
    charCodes (text ++ text') = charCodes text ++ charCodes text' :=
  List.flatMap_append

theorem units_globSource (pattern : String) :
    units (globSource pattern) = 0x5E :: (dotted (units pattern) ++ [0x24]) := by
  have hdotted : ∀ text : List Char, charCodes (text.flatMap fun c =>
      if c = '*' then ['.', '*'] else [c]) = dotted (charCodes text) := by
    intro text
    induction text with
    | nil => rfl
    | cons c text ih =>
      have hhead : charCodes (if c = '*' then ['.', '*'] else [c]) = dotted (codeUnits c) := by
        rw [dotted_codeUnits]
        split_ifs
        · rfl
        · exact List.flatMap_singleton _ _
      rw [List.flatMap_cons, charCodes_append, ih, hhead]
      exact List.flatMap_append.symm
  have hmiddle := congrArg charCodes (String.toList_ofList (l := pattern.toList.flatMap fun c =>
    if c = '*' then ['.', '*'] else [c]))
  rw [units, globSource, String.toList_append, String.toList_append, charCodes_append,
    charCodes_append, hmiddle, hdotted]
  rfl

theorem test_globSource {pattern : String} (hplain : plain (units pattern) = true) :
    ∃ found, RegExp.test (globSource pattern) branch = some found ∧
      (found = true ↔ Wildcard 0x2A (fun u => dot.has u = true) (units pattern) (units branch)) := by
  rw [RegExp.test, units_globSource, compile_wildcard hplain]
  exact ⟨_, rfl, occursFrom_wildcard_iff (units branch)⟩

theorem isProtectedBranch_of_plain (hengine : env.regExpTest = RegExp.test) :
    ∀ {patterns : List String},
      (∀ pattern ∈ patterns, '*' ∈ pattern.toList → plain (units pattern) = true) →
      ∃ isProtected, isProtectedBranch env branch patterns = some isProtected ∧
        (isProtected = true ↔ PatternsProtect (fun u => dot.has u = true) patterns branch) := by
  intro patterns
  induction patterns with
  | nil => exact fun _ => ⟨false, rfl, by simp [PatternsProtect]⟩
  | cons pattern patterns ih =>
    intro hplain
    obtain ⟨hhead, hrest⟩ := List.forall_mem_cons.mp hplain
    obtain ⟨more, hmore, hiff⟩ := ih hrest
    have hsplit : PatternsProtect (fun u => dot.has u = true) (pattern :: patterns) branch ↔
        Wildcard 0x2A (fun u => dot.has u = true) (units pattern) (units branch) ∨
          PatternsProtect (fun u => dot.has u = true) patterns branch := List.exists_mem_cons_iff ..
    rw [hsplit, ← hiff]
    unfold isProtectedBranch
    by_cases hstar : '*' ∈ pattern.toList
    · obtain ⟨found, hfound, hmatches⟩ := @test_globSource branch _ (hhead hstar)
      rw [if_pos hstar, hengine, hfound, ← hmatches]
      cases found with
      | true => exact ⟨true, rfl, by simp⟩
      | false => exact ⟨more, hmore, by simp⟩
    · have hself : Wildcard 0x2A (fun u => dot.has u = true) (units pattern) (units branch) ↔
          branch = pattern := by
        have hnone : 0x2A ∉ units pattern := fun hmem =>
          hstar ((mem_charCodes_iff (d := '*') (by decide) _).mp hmem)
        rw [wildcard_iff_eq hnone]
        exact ⟨fun h => String.toList_inj.mp (charCodes_injective h), fun h => h ▸ rfl⟩
      rw [if_neg hstar, hself]
      by_cases hsame : branch = pattern
      · exact ⟨true, if_pos hsame, by simp [hsame]⟩
      · exact ⟨more, (if_neg hsame).trans hmore, by simp [hsame]⟩

end check

def regExpEnv : Env := ⟨0, fun _ => "0", "0", "0", RegExp.test⟩

end ShipyardCp.Properties
