import ShipyardCp.Domain.RiskAssessor
import ShipyardCp.Lib.UnifiedDiff

/-! Whether the number of files that the risk of a result goes by is the number of files its patch
touches. -/

namespace ShipyardCp.Properties

open Types Domain
open Lib.UnifiedDiff (FileDiff Hunk Path Change Inline line plain Undashed)
open Lib.JsText (isSpace isLineTerminator)
open RiskIntegration (matchHeader countMatches countFilesInPatch extractRiskFactorsFromResult
  assessFromResult)

/-- The places of a text at which a line, as JavaScript takes lines, begins like that of an old
file. -/
def headerPlaces : Bool → List Char → Nat
  | _, [] => 0
  | atStart, c :: text =>
    (if atStart && (matchHeader (c :: text)).isSome then 1 else 0) +
      headerPlaces (isLineTerminator c) text

section places

variable {spaces named text rest : List Char}

theorem headerPlaces_cons_of_ne {c : Char} (hc : c ≠ '-') (atStart : Bool) (text : List Char) :
    headerPlaces atStart (c :: text) = headerPlaces (isLineTerminator c) text := by
  have hnone : matchHeader (c :: text) = none := by
    unfold matchHeader
    split
    · rename_i heq
      cases heq
      exact absurd rfl hc
    · rfl
  rw [headerPlaces, hnone, Option.isSome_none, Bool.and_false, if_neg Bool.false_ne_true, zero_add]

theorem headerPlaces_inside {c : Char} (text : List Char) :
    headerPlaces false (c :: text) = headerPlaces (isLineTerminator c) text := by
  rw [headerPlaces, Bool.false_and, if_neg Bool.false_ne_true, zero_add]

theorem headerPlaces_append_plain (hplain : plain named = true) :
    headerPlaces false (named ++ rest) = headerPlaces false rest := by
  induction named with
  | nil => rfl
  | cons c named ih =>
    rw [plain, List.all_cons, Bool.and_eq_true, Bool.not_eq_true'] at hplain
    rw [List.cons_append, headerPlaces_inside, hplain.1]
    exact ih hplain.2

theorem isSpace_dash : isSpace '-' = false := by decide

theorem headerPlaces_append_spaces (hspaces : ∀ c ∈ spaces, isSpace c = true) {c : Char}
    (hc : c ≠ '-') (atStart : Bool) :
    headerPlaces atStart (spaces ++ c :: rest) = headerPlaces (isLineTerminator c) rest := by
  induction spaces generalizing atStart with
  | nil => exact headerPlaces_cons_of_ne hc atStart rest
  | cons s spaces ih =>
    have hs : s ≠ '-' := by
      rintro rfl
      exact absurd (hspaces '-' (List.mem_cons_self ..)) (by rw [isSpace_dash]; decide)
    rw [List.cons_append, headerPlaces_cons_of_ne hs]
    exact ih (fun d hd => hspaces d (List.mem_cons_of_mem _ hd)) _

theorem exists_of_matchHeader {length : Nat} (hmatch : matchHeader text = some length) :
    ∃ passed rest, text = '-' :: (passed ++ rest) ∧ length - 1 = passed.length ∧
      passed.getLast?.map isLineTerminator = some false ∧
      headerPlaces false (passed ++ rest) = headerPlaces false rest := by
  unfold matchHeader at hmatch
  split at hmatch
  · rename_i after
    dsimp only at hmatch
    split at hmatch
    · rename_i path hpath
      split_ifs at hmatch with hne
      have hspaces := List.all_eq_true.mp (List.all_takeWhile (p := isSpace) (l := after))
      have hplain := List.all_takeWhile (p := fun c => !isLineTerminator c) (l := path)
      have hafter := List.takeWhile_append_dropWhile (p := isSpace) (l := after)
      have hnamed := List.takeWhile_append_dropWhile (p := fun c => !isLineTerminator c) (l := path)
      generalize after.takeWhile isSpace = spaces at *
      generalize (path.takeWhile fun c => !isLineTerminator c) = named at *
      generalize (path.dropWhile fun c => !isLineTerminator c) = rest at *
      have hpassed : '-' :: '-' :: (spaces ++ 'a' :: '/' :: named) ++ rest =
          '-' :: '-' :: (spaces ++ 'a' :: ('/' :: (named ++ rest))) := by simp
      refine ⟨'-' :: '-' :: (spaces ++ 'a' :: '/' :: named), rest, ?_, ?_, ?_, ?_⟩
      · rw [hpassed, hnamed, ← hpath, hafter]
      · rw [← Option.some.inj hmatch]
        simp only [List.length_cons, List.length_append]
        omega
      · have hlast := List.getLast?_append_of_ne_nil ('-' :: '-' :: spaces ++ ['a', '/']) hne.2
        rw [show '-' :: '-' :: (spaces ++ 'a' :: '/' :: named) =
          '-' :: '-' :: spaces ++ ['a', '/'] ++ named by simp, hlast,
          List.getLast?_eq_some_getLast hne.2, Option.map_some]
        have hend := List.all_eq_true.mp hplain _ (List.getLast_mem hne.2)
        rw [(Bool.not_eq_true' _).mp hend]
      · rw [hpassed, headerPlaces_inside]
        change headerPlaces false _ = _
        rw [headerPlaces_inside]
        change headerPlaces false _ = _
        rw [headerPlaces_append_spaces hspaces (by decide)]
        change headerPlaces false _ = _
        rw [headerPlaces_inside]
        exact headerPlaces_append_plain hplain
    · cases hmatch
  · cases hmatch

theorem countMatches_append {passed : List Char} (atStart : Bool)
    (hlast : passed.getLast?.map isLineTerminator = some false) :
    countMatches passed.length atStart (passed ++ rest) = countMatches 0 false rest := by
  induction passed generalizing atStart with
  | nil => cases hlast
  | cons c passed ih =>
    rw [List.length_cons, List.cons_append, countMatches]
    cases passed with
    | nil =>
      rw [List.getLast?_singleton, Option.map_some, Option.some.injEq] at hlast
      rw [hlast]
      rfl
    | cons d passed =>
      rw [List.getLast?_cons_cons] at hlast
      exact ih _ hlast

theorem countMatches_eq_headerPlaces (atStart : Bool) (text : List Char) :
    countMatches 0 atStart text = headerPlaces atStart text := by
  induction hlength : text.length using Nat.strong_induction_on generalizing atStart text with
  | _ n ih =>
    cases text with
    | nil => rfl
    | cons c text =>
      have htail : countMatches 0 (isLineTerminator c) text =
          headerPlaces (isLineTerminator c) text :=
        ih text.length (by rw [← hlength]; exact Nat.lt_succ_self _) _ text rfl
      cases atStart with
      | false => rw [countMatches, if_neg Bool.false_ne_true, headerPlaces_inside, htail]
      | true =>
        rw [countMatches, if_pos rfl, headerPlaces, Bool.true_and]
        cases hmatch : matchHeader (c :: text) with
        | none => rw [htail, Option.isSome_none, if_neg Bool.false_ne_true, zero_add]
        | some length =>
          obtain ⟨passed, rest, htext, hpassed, hlast, hplaces⟩ := exists_of_matchHeader hmatch
          obtain ⟨rfl, rfl⟩ := List.cons.inj htext
          have hshort : rest.length < n := by
            rw [← hlength, List.length_cons, List.length_append]
            omega
          rw [Option.isSome_some, if_pos rfl]
          dsimp only
          rw [hpassed, countMatches_append _ hlast, ih rest.length hshort false rest rfl, ← hplaces]
          rfl

end places

section lines

variable {text rest : List Char}

def BeginsAnew (rest : List Char) : Prop := ∀ c, rest.head? = some c → isSpace c = false ∧ c ≠ 'a'

def namesPath (text : List Char) : Bool :=
  text[0]? = some 'a' && text[1]? = some '/' && text[2]?.any fun c => !isLineTerminator c

theorem isSome_matchHeader (text : List Char) : (matchHeader ('-' :: '-' :: '-' :: text)).isSome =
      (text.head?.any isSpace && namesPath (text.dropWhile isSpace)) := by
  have hspaces : (text.takeWhile isSpace ≠ []) ↔ text.head?.any isSpace = true := by
    cases text with
    | nil => simp
    | cons c text => by_cases hc : isSpace c <;> simp [hc]
  unfold matchHeader
  split
  · rename_i after heq
    obtain rfl : text = after := by simpa using heq
    dsimp only
    split
    · rename_i path hpath
      rw [hpath]
      have hnamed : (path.takeWhile fun c => !isLineTerminator c) ≠ [] ↔
          namesPath ('a' :: '/' :: path) = true := by
        cases path with
        | nil => simp [namesPath]
        | cons c path => by_cases hc : isLineTerminator c <;> simp [namesPath, hc]
      simp only [hspaces, hnamed, ← Bool.and_eq_true]
      split_ifs with h
      · rw [h, Option.isSome_some]
      · rw [Bool.eq_false_of_not_eq_true h, Option.isSome_none]
    · rename_i hother
      have hnone : namesPath (text.dropWhile isSpace) = false := by
        generalize text.dropWhile isSpace = after at hother
        by_contra hname
        rw [Bool.not_eq_false] at hname
        rcases after with _ | ⟨a, _ | ⟨b, path⟩⟩
        · cases hname
        · simp [namesPath] at hname
        · simp only [namesPath, List.getElem?_cons_zero, List.getElem?_cons_succ, Bool.and_eq_true,
            decide_eq_true_eq, Option.some.injEq] at hname
          obtain ⟨⟨rfl, rfl⟩, _⟩ := hname
          exact hother path rfl
      rw [hnone, Bool.and_false, Option.isSome_none]
  · rename_i hother
    exact absurd rfl (hother text)

theorem namesPath_append (hrest : BeginsAnew rest) (text : List Char) :
    namesPath ((text ++ '\n' :: rest).dropWhile isSpace) =
      namesPath ((text ++ ['\n']).dropWhile isSpace) := by
  rw [List.dropWhile_append, List.dropWhile_append]
  split_ifs with hspaces
  · have hnew : (('\n' :: rest).dropWhile isSpace) = rest := by
      rw [List.dropWhile_cons_of_pos (by decide)]
      cases rest with
      | nil => rfl
      | cons c rest => exact List.dropWhile_cons_of_neg (by rw [(hrest c rfl).1]; decide)
    rw [hnew]
    cases rest with
    | nil => rfl
    | cons c rest =>
      have hend : (['\n'].dropWhile isSpace) = [] := by decide
      rw [hend]
      simp [namesPath, (hrest c rfl).2]
  · rcases hafter : text.dropWhile isSpace with _ | ⟨a, _ | ⟨b, _ | ⟨c, text⟩⟩⟩
    · rw [hafter] at hspaces
      exact absurd List.isEmpty_nil hspaces
    · simp [namesPath]
    · simp [namesPath]
    · simp [namesPath]

theorem isSome_matchHeader_append (hrest : BeginsAnew rest) (text : List Char) :
    (matchHeader (text ++ '\n' :: rest)).isSome = (matchHeader (text ++ ['\n'])).isSome := by
  rcases text with _ | ⟨a, _ | ⟨b, _ | ⟨c, text⟩⟩⟩
  · simp [matchHeader]
  · simp [matchHeader]
  · simp [matchHeader]
  · by_cases hdashes : a = '-' ∧ b = '-' ∧ c = '-'
    · obtain ⟨rfl, rfl, rfl⟩ := hdashes
      simp only [List.cons_append]
      rw [isSome_matchHeader, isSome_matchHeader, namesPath_append hrest]
      cases text <;> rfl
    · have hnone : ∀ after, matchHeader (a :: b :: c :: after) = none := by
        intro after
        unfold matchHeader
        split
        · rename_i heq
          simp only [List.cons.injEq] at heq
          exact absurd ⟨heq.1, heq.2.1, heq.2.2.1⟩ hdashes
        · rfl
      simp only [List.cons_append]
      rw [hnone, hnone]

theorem headerPlaces_append (hrest : BeginsAnew rest) (text : List Char) (atStart : Bool) :
    headerPlaces atStart (text ++ '\n' :: rest) =
      headerPlaces atStart (text ++ ['\n']) + headerPlaces true rest := by
  induction text generalizing atStart with
  | nil =>
    rw [List.nil_append, List.nil_append, headerPlaces_cons_of_ne (by decide),
      headerPlaces_cons_of_ne (by decide), headerPlaces, zero_add]
    rfl
  | cons c text ih =>
    rw [List.cons_append, List.cons_append, headerPlaces, headerPlaces, ih, ← List.cons_append,
      ← List.cons_append, isSome_matchHeader_append hrest, add_assoc]

theorem headerPlaces_undashed {l : List Char} (hl : Undashed l) (rest : List Char) :
    headerPlaces true (line l ++ rest) = headerPlaces true rest := by
  obtain ⟨c, text, rfl, hc, hplain⟩ := hl
  rw [plain, List.all_cons, Bool.and_eq_true, Bool.not_eq_true'] at hplain
  rw [line, List.append_assoc, List.cons_append, headerPlaces_cons_of_ne hc, hplain.1,
    headerPlaces_append_plain hplain.2, List.singleton_append, headerPlaces_inside]
  rfl

theorem headerPlaces_undashedLines {ls : List (List Char)} (hls : ∀ l ∈ ls, Undashed l)
    (rest : List Char) :
    headerPlaces true (ls.flatMap line ++ rest) = headerPlaces true rest := by
  induction ls with
  | nil => rfl
  | cons l ls ih =>
    rw [List.flatMap_cons, List.append_assoc, headerPlaces_undashed (hls l (List.mem_cons_self ..))]
    exact ih fun m hm => hls m (List.mem_cons_of_mem _ hm)

theorem headerPlaces_oldLine {c : Char} (hc : isSpace c = false) {label : List Char}
    (hplain : plain (c :: label) = true) (rest : List Char) :
    headerPlaces true (line ("--- ".toList ++ c :: label) ++ rest) =
      (if namesPath (c :: label ++ '\n' :: rest) then 1 else 0) + headerPlaces true rest := by
  have htext : line ("--- ".toList ++ c :: label) ++ rest =
      '-' :: '-' :: '-' :: (' ' :: c :: (label ++ '\n' :: rest)) := by
    simp [line]
  have hspaces : (' ' :: c :: (label ++ '\n' :: rest)).dropWhile isSpace =
      c :: label ++ '\n' :: rest := by
    rw [List.dropWhile_cons_of_pos (by decide), List.dropWhile_cons_of_neg (by rw [hc]; decide)]
    rfl
  have hafter : headerPlaces (isLineTerminator '-')
      ('-' :: '-' :: ' ' :: c :: (label ++ '\n' :: rest)) = headerPlaces true rest := by
    have hinside := @headerPlaces_append_plain ('-' :: '-' :: ' ' :: c :: label) ('\n' :: rest) hplain
    rw [headerPlaces_inside] at hinside
    exact hinside
  rw [htext, headerPlaces, isSome_matchHeader, hspaces, hafter, List.head?_cons, Bool.true_and]
  rfl

end lines

section diffs

def showsOldFile (file : FileDiff) : Bool :=
  match file.change with
  | .created _ _ => false
  | change => file.hunks ≠ [] ∧ change.oldPath.quoted = false

def misreadLines (file : FileDiff) : Nat := (file.hunks.map fun h => headerPlaces true h.shown).sum

theorem headerPlaces_hunks (hunks : List Hunk) {rest : List Char} (hrest : BeginsAnew rest) :
    headerPlaces true (hunks.flatMap Hunk.shown ++ rest) =
      (hunks.map fun h => headerPlaces true h.shown).sum + headerPlaces true rest := by
  induction hunks with
  | nil => rw [List.flatMap_nil, List.nil_append, List.map_nil, List.sum_nil, zero_add]
  | cons hunk hunks ih =>
    have hnew : BeginsAnew (hunks.flatMap Hunk.shown ++ rest) := by
      cases hunks with
      | nil => exact hrest
      | cons next hunks =>
        intro c hc
        obtain rfl : '@' = c := by simpa [Hunk.shown] using hc
        decide
    obtain ⟨text, htext⟩ := hunk.exists_shown
    rw [List.flatMap_cons, List.map_cons, List.sum_cons, List.append_assoc, htext, List.append_assoc,
      List.singleton_append, headerPlaces_append hnew, ih, add_assoc]

theorem exists_label (path : Path) : ∃ c label, path.label "a/" = c :: label ∧ isSpace c = false ∧
    ∀ rest, namesPath (c :: label ++ rest) = !path.quoted := by
  unfold Path.label Path.within
  cases hquoted : path.quoted with
  | true => exact ⟨'"', _, rfl, by decide, fun rest => rfl⟩
  | false =>
    cases hshown : path.shown.text with
    | nil => exact absurd hshown path.named
    | cons c shown =>
      have hc := path.shown.isPlain
      rw [hshown, plain, List.all_cons, Bool.and_eq_true] at hc
      exact ⟨'a', _, rfl, by decide, fun rest => hc.1⟩

theorem headerPlaces_oldLabel (change : Change) (rest : List Char) :
    headerPlaces true (line ("--- ".toList ++ change.oldLabel) ++ rest) =
      (match change with
        | .created _ _ => 0
        | change => if change.oldPath.quoted = false then 1 else 0) + headerPlaces true rest := by
  have hpath : ∀ path : Path, headerPlaces true (line ("--- ".toList ++ path.label "a/") ++ rest) =
      (if path.quoted = false then 1 else 0) + headerPlaces true rest := by
    intro path
    obtain ⟨c, label, hlabel, hc, hnames⟩ := exists_label path
    have hplain := @Lib.UnifiedDiff.plain_label path "a/" (by decide)
    rw [hlabel] at hplain ⊢
    rw [headerPlaces_oldLine hc hplain, hnames]
    cases path.quoted <;> rfl
  cases change with
  | created path mode => exact headerPlaces_oldLine (by decide) (by decide) rest
  | modified path modes => exact hpath path
  | deleted path mode => exact hpath path
  | renamed old new modes similarity => exact hpath old

theorem headerPlaces_nameLines (file : FileDiff) (rest : List Char) :
    headerPlaces true (file.nameLines.flatMap line ++ rest) =
      (if showsOldFile file then 1 else 0) + headerPlaces true rest := by
  unfold FileDiff.nameLines
  by_cases hhunks : file.hunks = []
  · have hshows : showsOldFile file = false := by
      unfold showsOldFile
      split
      · rfl
      · simp [hhunks]
    rw [if_pos hhunks, hshows, if_neg Bool.false_ne_true, zero_add]
    rfl
  · rw [if_neg hhunks, List.flatMap_cons, List.flatMap_singleton, List.append_assoc,
      headerPlaces_oldLabel, headerPlaces_undashed (Lib.UnifiedDiff.undashed_newLine file.change)]
    unfold showsOldFile
    cases file.change <;> simp [hhunks]

theorem beginsAnew_shown (files : List FileDiff) : BeginsAnew (Lib.UnifiedDiff.shown files) := by
  cases files with
  | nil => exact fun c hc => absurd hc nofun
  | cons file files =>
    intro c hc
    obtain rfl : 'd' = c := Option.some.inj hc
    decide

theorem headerPlaces_file (file : FileDiff) {rest : List Char} (hrest : BeginsAnew rest) :
    headerPlaces true (file.shown ++ rest) =
      (if showsOldFile file then 1 else 0) + misreadLines file + headerPlaces true rest := by
  rw [FileDiff.shown, List.flatMap_append, List.append_assoc, List.append_assoc,
    headerPlaces_undashedLines file.undashed_headLines, headerPlaces_nameLines,
    headerPlaces_hunks file.hunks hrest, misreadLines, add_assoc]

theorem countFilesInPatch_shown (files : List FileDiff) :
    countFilesInPatch (String.ofList (Lib.UnifiedDiff.shown files)) =
      (files.filter showsOldFile).length + (files.map misreadLines).sum := by
  rw [countFilesInPatch, String.toList_ofList, countMatches_eq_headerPlaces]
  induction files with
  | nil => rfl
  | cons file files ih =>
    have hshown : Lib.UnifiedDiff.shown (file :: files) = file.shown ++ Lib.UnifiedDiff.shown files :=
      List.flatMap_cons
    rw [hshown, headerPlaces_file file (beginsAnew_shown files), ih, List.map_cons,
      List.sum_cons, List.filter_cons]
    split_ifs with h
    · rw [List.length_cons]
      omega
    · omega

end diffs

/-- The patch of the result is the text of a diff, the file count that of its files, and a patch of
many files makes a result risky whatever else it says. -/
structure PatchLaws (files : List FileDiff) (result : WorkerResult) : Prop where
  size : files ≠ [] → (extractRiskFactorsFromResult result).filter (fun f => f.kind = .fileCount) =
    [⟨.fileCount, .number files.length⟩]
  high : 20 ≤ files.length → (assessFromResult result).level = .high
  medium : 5 ≤ files.length → (assessFromResult result).level ≠ .low

section laws

variable {files : List FileDiff} {result : WorkerResult} {patch : PatchRef}

theorem filter_fileCount (hpatch : result.patchRef = some patch) (hcontent : patch.content ≠ "") :
    (extractRiskFactorsFromResult result).filter (fun f => f.kind = .fileCount) =
      [⟨.fileCount, .number (countFilesInPatch patch.content)⟩] := by
  have hescalations : (RiskIntegration.escalationFactors result).filter
      (fun f => f.kind = .fileCount) = [] := by
    unfold RiskIntegration.escalationFactors
    simp only [List.filter_append, List.append_eq_nil_iff]
    refine ⟨⟨⟨⟨?_, ?_⟩, ?_⟩, ?_⟩, ?_⟩ <;> split_ifs <;> rfl
  have htests : (RiskIntegration.testFactors result).filter (fun f => f.kind = .fileCount) = [] := by
    unfold RiskIntegration.testFactors
    dsimp only
    split_ifs <;> rfl
  rw [extractRiskFactorsFromResult, List.filter_append, List.filter_append, hescalations, htests,
    RiskIntegration.patchFactors, hpatch, List.append_nil, List.append_nil]
  dsimp only
  rw [if_pos hcontent]
  rfl

theorem raisedMedium_extract (result : WorkerResult) :
    RiskAssessor.raisedMedium (extractRiskFactorsFromResult result) = false := by
  have hpatch : RiskAssessor.raisedMedium (RiskIntegration.patchFactors result) = false := by
    unfold RiskIntegration.patchFactors
    split
    · split_ifs <;> rfl
    · rfl
  have hescalations :
      RiskAssessor.raisedMedium (RiskIntegration.escalationFactors result) = false := by
    unfold RiskIntegration.escalationFactors RiskAssessor.raisedMedium
    simp only [List.any_append, Bool.or_eq_false_iff]
    refine ⟨⟨⟨⟨?_, ?_⟩, ?_⟩, ?_⟩, ?_⟩ <;> split_ifs <;> rfl
  have htests : RiskAssessor.raisedMedium (RiskIntegration.testFactors result) = false := by
    unfold RiskIntegration.testFactors
    dsimp only
    split_ifs <;> rfl
  unfold RiskAssessor.raisedMedium at *
  rw [extractRiskFactorsFromResult, List.any_append, List.any_append, hpatch, hescalations, htests]
  rfl

theorem level_assessFromResult {n : Nat}
    (hsize : (extractRiskFactorsFromResult result).filter (fun f => f.kind = .fileCount) =
      [⟨.fileCount, .number n⟩]) :
    (assessFromResult result).level = .high ∨
      (assessFromResult result).level = RiskAssessor.scopeLevel n := by
  have hcount : RiskAssessor.fileCount (extractRiskFactorsFromResult result) = n := by
    unfold RiskAssessor.fileCount
    rw [← List.head?_filter, hsize]
    rfl
  have hlevel : (assessFromResult result).level =
      (RiskAssessor.assessRisk (extractRiskFactorsFromResult result)).level := rfl
  rw [hlevel, RiskAssessor.level_assessRisk, raisedMedium_extract, if_neg Bool.false_ne_true, hcount]
  split_ifs
  · exact Or.inl rfl
  · exact Or.inr rfl

theorem scopeLevel_of_large {n : Nat} (hn : 20 ≤ n) : RiskAssessor.scopeLevel n = .high := by
  have hlarge : (n : ℚ) ≥ RiskAssessor.HIGH_FILE_THRESHOLD := by
    unfold RiskAssessor.HIGH_FILE_THRESHOLD
    exact_mod_cast hn
  exact if_pos hlarge

theorem scopeLevel_of_moderate {n : Nat} (hn : 5 ≤ n) : RiskAssessor.scopeLevel n ≠ .low := by
  have hmedium : (n : ℚ) ≥ RiskAssessor.MEDIUM_FILE_THRESHOLD := by
    unfold RiskAssessor.MEDIUM_FILE_THRESHOLD
    exact_mod_cast hn
  unfold RiskAssessor.scopeLevel
  split_ifs <;> decide

theorem content_ne_empty (htext : patch.content = String.ofList (Lib.UnifiedDiff.shown files))
    (hfiles : files ≠ []) : patch.content ≠ "" := by
  intro hempty
  have hnil : Lib.UnifiedDiff.shown files = [] := by
    rw [← String.toList_ofList (l := Lib.UnifiedDiff.shown files), ← htext, hempty]
    rfl
  cases files with
  | nil => exact hfiles rfl
  | cons file files => cases hnil

theorem length_of_size (hpatch : result.patchRef = some patch)
    (htext : patch.content = String.ofList (Lib.UnifiedDiff.shown files)) (hfiles : files ≠ [])
    (hlaws : PatchLaws files result) :
    (files.filter showsOldFile).length + (files.map misreadLines).sum = files.length := by
  have hsize := hlaws.size hfiles
  rw [filter_fileCount hpatch (content_ne_empty htext hfiles), htext,
    countFilesInPatch_shown] at hsize
  have hvalue : (((files.filter showsOldFile).length + (files.map misreadLines).sum : Nat) : ℚ) =
      files.length := by
    simpa using hsize
  exact_mod_cast hvalue

/-- The size of a patch is told exactly when as many lines of hunks read like the line of an old file
as there are files whose old name is not shown. -/
theorem patchLaws_iff (hpatch : result.patchRef = some patch)
    (htext : patch.content = String.ofList (Lib.UnifiedDiff.shown files)) :
    PatchLaws files result ↔
      (files.map misreadLines).sum = (files.filter fun file => !showsOldFile file).length := by
  have hlength : files.length = (files.filter showsOldFile).length +
      (files.filter fun file => !showsOldFile file).length :=
    List.length_eq_length_filter_add showsOldFile
  constructor
  · intro hlaws
    by_cases hfiles : files = []
    · rw [hfiles]
      rfl
    · have hsum := length_of_size hpatch htext hfiles hlaws
      omega
  · intro hcondition
    have hsize : files ≠ [] → (extractRiskFactorsFromResult result).filter
        (fun f => f.kind = .fileCount) = [⟨.fileCount, .number files.length⟩] := by
      intro hfiles
      rw [filter_fileCount hpatch (content_ne_empty htext hfiles), htext, countFilesInPatch_shown,
        hcondition, ← hlength]
    have hne : ∀ {n}, 0 < n → n ≤ files.length → files ≠ [] := by
      rintro n hn hle rfl
      exact absurd hle (Nat.not_le.mpr hn)
    refine ⟨hsize, fun hlarge => ?_, fun hmoderate => ?_⟩
    · rcases level_assessFromResult (hsize (hne (by decide) hlarge)) with h | h
      · exact h
      · rw [h, scopeLevel_of_large hlarge]
    · rcases level_assessFromResult (hsize (hne (by decide) hmoderate)) with h | h
      · rw [h]
        decide
      · rw [h]
        exact scopeLevel_of_moderate hmoderate

/-- A result with the text of a diff as its patch, whose tests passed. -/
def patchResult (files : List FileDiff) : WorkerResult where
  jobId := "job-1"
  typedRef := "agent-taskstate:task:local:task-1"
  status := .succeeded
  summary := none
  patchRef := some ⟨.unifiedDiff, String.ofList (Lib.UnifiedDiff.shown files), none⟩
  branchRef := none
  artifacts := []
  testResults := [⟨"unit", .passed, none, none, none, none, none⟩]
  verdict := none
  requestedEscalations := []
  retryCount := none
  failureClass := none
  failureCode := none
  failureSummary := none
  resolverRefs := none
  externalRefs := none
  contextBundleRef := none
  rollbackNotes := none
  loopFingerprint := none
  detectedSideEffects := none
  metadata := none

def letters (n : Nat) : Path where
  shown := ⟨List.replicate (n + 1) 'f', by simp [plain, Lib.JsText.isLineTerminator]⟩
  quoted := false
  named := List.cons_ne_nil _ _

def oneLineHunk (kind : Lib.UnifiedDiff.LineKind) (hkind : kind ≠ .context) (text : String)
    (htext : '\n' ∉ text.toList) : Hunk :=
  ⟨if kind = .removed then 1 else 0, if kind = .removed then 0 else 1, [],
    [⟨kind, text.toList, true, htext⟩], List.not_mem_nil, _, List.mem_singleton_self _, hkind⟩

def newFile (n : Nat) : FileDiff where
  change := .created (letters n) ⟨"100644".toList, by decide⟩
  index := some ⟨"0000000..257cc56".toList, by decide⟩
  hunks := [oneLineHunk .added (by decide) "foo" (by decide)]
  touched := nofun

/-- A file from which one line is removed. -/
def lineRemoved (text : String) (htext : '\n' ∉ text.toList) : FileDiff where
  change := .modified (letters 0) none
  index := some ⟨"257cc56..e69de29 100644".toList, by decide⟩
  hunks := [oneLineHunk .removed (by decide) text htext]
  touched := nofun

theorem line_removed_counted :
    PatchLaws [lineRemoved "foo" (by decide)] (patchResult [lineRemoved "foo" (by decide)]) :=
  (patchLaws_iff rfl rfl).mpr (by decide +kernel)

/-- Twenty new files count as none, and a removed line that reads like a name counts as a file. -/
theorem new_files_uncounted :
    ¬PatchLaws ((List.range 20).map newFile) (patchResult ((List.range 20).map newFile)) ∧
    ¬PatchLaws [lineRemoved "-- a/f" (by decide)]
      (patchResult [lineRemoved "-- a/f" (by decide)]) := by
  constructor
  · intro hlaws
    have hsum := length_of_size rfl rfl (by decide +kernel) hlaws
    revert hsum
    decide +kernel
  · intro hlaws
    have hsum := length_of_size rfl rfl (List.cons_ne_nil _ _) hlaws
    revert hsum
    decide +kernel

end laws

end ShipyardCp.Properties
