import ShipyardCp.Properties.ToolPlanWrites

/-! Patching a file at a locator: the text around the one occurrence of the locator stays, and what
stands between is the replacement with its `$` patterns filled in. -/

namespace ShipyardCp.Properties

open Domain Domain.ToolPlanHost Types Lib Lib.NodePath

section places

variable {text locator before after : List Char} {i : Nat}

/-- The locator stands in the text in one place only, between `before` and `after`. Occurrences
that overlap count as several. -/
def OccursOnce (text locator before after : List Char) : Prop :=
  ∀ front rest, text = front ++ locator ++ rest ↔ front = before ∧ rest = after

theorem OccursOnce.text_eq (h : OccursOnce text locator before after) :
    text = before ++ locator ++ after := (h before after).mpr ⟨rfl, rfl⟩

theorem mem_matchPlaces_iff : i ∈ matchPlaces locator text ↔
    ∃ front rest, text = front ++ locator ++ rest ∧ front.length = i := by
  simp only [matchPlaces, List.mem_filter, List.mem_range, List.isPrefixOf_iff_prefix]
  constructor
  · rintro ⟨hi, rest, hrest⟩
    refine ⟨text.take i, rest, ?_, List.length_take_of_le (Nat.le_of_lt_succ hi)⟩
    rw [List.append_assoc, hrest, List.take_append_drop]
  · rintro ⟨front, rest, rfl, rfl⟩
    refine ⟨by simp only [List.length_append]; omega, rest, ?_⟩
    rw [List.append_assoc, List.drop_left]

theorem matchPlaces_sorted : (matchPlaces locator text).Pairwise (· < ·) :=
  List.pairwise_lt_range.filter _

theorem matchPlaces_eq_singleton_iff :
    matchPlaces locator text = [i] ↔ ∀ j, j ∈ matchPlaces locator text ↔ j = i := by
  constructor
  · intro h j
    rw [h, List.mem_singleton]
  · intro h
    have hnodup : (matchPlaces locator text).Nodup :=
      matchPlaces_sorted.imp fun hlt => Nat.ne_of_lt hlt
    refine List.perm_singleton.mp ((List.perm_ext_iff_of_nodup hnodup (List.nodup_singleton i)).mpr
      fun j => ?_)
    rw [h j, List.mem_singleton]

theorem OccursOnce.matchPlaces_eq (h : OccursOnce text locator before after) :
    matchPlaces locator text = [before.length] := by
  refine matchPlaces_eq_singleton_iff.mpr fun j => mem_matchPlaces_iff.trans ?_
  constructor
  · rintro ⟨front, rest, htext, rfl⟩
    rw [((h front rest).mp htext).1]
  · rintro rfl
    exact ⟨before, after, h.text_eq, rfl⟩

theorem occursOnce_of_matchPlaces (h : matchPlaces locator text = [i]) :
    OccursOnce text locator (text.take i) (text.drop (i + locator.length)) := by
  have hplaces := matchPlaces_eq_singleton_iff.mp h
  intro front rest
  constructor
  · rintro rfl
    obtain rfl := (hplaces _).mp (mem_matchPlaces_iff.mpr ⟨front, rest, rfl, rfl⟩)
    constructor
    · rw [List.append_assoc, List.take_left]
    · rw [← List.length_append, List.drop_left]
  · rintro ⟨rfl, rfl⟩
    obtain ⟨front, rest, htext, rfl⟩ := mem_matchPlaces_iff.mp ((hplaces i).mpr rfl)
    have htake : text.take front.length = front := by
      rw [htext, List.append_assoc, List.take_left]
    have hdrop : text.drop (front.length + locator.length) = rest := by
      rw [htext, ← List.length_append, List.drop_left]
    rw [htake, hdrop]
    exact htext

end places

section patterns

variable {before matched after replacement : List Char}

def WithoutPatterns (replacement : List Char) : Prop :=
  ∀ mark ∈ ['$', '&', '`', '\''], ¬['$', mark] <:+: replacement

theorem WithoutPatterns.of_cons {c : Char} (h : WithoutPatterns (c :: replacement)) :
    WithoutPatterns replacement :=
  fun mark hmark hinfix => h mark hmark (List.infix_cons hinfix)

theorem not_withoutPatterns {mark : Char} (hmark : mark ∈ ['$', '&', '`', '\'']) :
    ¬WithoutPatterns ('$' :: mark :: replacement) :=
  fun h => h mark hmark (List.prefix_append ['$', mark] replacement).isInfix

theorem substitution_eq_self (h : WithoutPatterns replacement) :
    substitution before matched after replacement = replacement := by
  induction replacement using substitution.induct with
  | case1 rest ih => exact absurd h (not_withoutPatterns (by decide))
  | case2 rest ih => exact absurd h (not_withoutPatterns (by decide))
  | case3 rest ih => exact absurd h (not_withoutPatterns (by decide))
  | case4 rest ih => exact absurd h (not_withoutPatterns (by decide))
  | case5 c rest h₁ h₂ h₃ h₄ ih =>
    rw [substitution.eq_5 _ _ _ _ _ h₁ h₂ h₃ h₄, ih h.of_cons]
  | case6 => rfl

theorem substitution_sign (sign : Char) :
    (substitution [] [sign] [] replacement).length ≤ replacement.length ∧
      ((substitution [] [sign] [] replacement).length = replacement.length →
        WithoutPatterns replacement) := by
  induction replacement using substitution.induct with
  | case1 rest ih | case2 rest ih | case3 rest ih | case4 rest ih =>
    have hle := ih.1
    simp only [substitution, List.length_cons, List.length_append, List.length_nil]
    exact ⟨by omega, fun heq => by omega⟩
  | case5 c rest h₁ h₂ h₃ h₄ ih =>
    rw [substitution.eq_5 _ _ _ _ _ h₁ h₂ h₃ h₄]
    refine ⟨Nat.succ_le_succ ih.1, fun heq mark hmark hinfix => ?_⟩
    obtain hstart | hrest := List.infix_cons_iff.mp hinfix
    · obtain ⟨tail, htail⟩ := hstart
      obtain ⟨rfl, rfl⟩ := List.cons.inj htail
      simp only [List.mem_cons, List.not_mem_nil, or_false] at hmark
      obtain rfl | rfl | rfl | rfl := hmark
      · exact h₁ tail rfl rfl
      · exact h₂ tail rfl rfl
      · exact h₃ tail rfl rfl
      · exact h₄ tail rfl rfl
    · exact ih.2 (Nat.succ.inj heq) mark hmark hrest
  | case6 =>
    refine ⟨Nat.le_refl _, fun _ mark _ hinfix => ?_⟩
    exact absurd hinfix.length_le (Nat.not_succ_le_zero 1)

end patterns

/-- A call that asks to put a replacement in the place of a locator. -/
structure AsksPatch (call : ToolPlanCall) (locator replacement : String) : Prop where
  locator : arg call "locator" = some (.str locator)
  replacement : arg call "replacement" = some (.str replacement)

/-- Patching a file of this content is exact splicing: where the locator stands once the file gets
the replacement in its place, and where it does not the file stays and the operation fails. -/
structure PatchesExactly (original locator replacement : String) : Prop where
  /-- What is written is the text with the locator replaced. -/
  spliced : ∀ (host : ToolPlanHost) root options call answer write before after,
    AsksPatch call locator replacement → answer.read = .ok original →
    OccursOnce original.toList locator.toList before after →
    (host.applyPatchIntent call root options answer).write = some write →
    write.content.toList = before ++ replacement.toList ++ after
  /-- It is written where the path leads, when that is allowed and the text fits. -/
  written : ∀ (host : ToolPlanHost) root options call answer location before after,
    AsksPatch call locator replacement → answer.read = .ok original →
    OccursOnce original.toList locator.toList before after →
    host.resolveRepoPath root (arg call "path") = .ok location →
    host.isAllowedWritePath root location options = true →
    (String.ofList (before ++ replacement.toList ++ after)).utf8ByteSize ≤
      options.maxWriteBytesPerFile → options.dryRun = false → answer.write = .ok () →
    ∃ write, (host.applyPatchIntent call root options answer).write = some write ∧
      write.location = location ∧
      (host.applyPatchIntent call root options answer).operation.status = .applied
  /-- Without one place to patch nothing is written. -/
  refused : ∀ (host : ToolPlanHost) root options call answer,
    AsksPatch call locator replacement → answer.read = .ok original →
    (∀ before after, ¬OccursOnce original.toList locator.toList before after) →
    (host.applyPatchIntent call root options answer).write = none ∧
      (host.applyPatchIntent call root options answer).operation.status = .failed

/-- The patterns of a replacement, filled in around each place where its locator stands alone, come
to the replacement itself. -/
def FillsToItself (original locator replacement : String) : Prop :=
  ∀ before after, OccursOnce original.toList locator.toList before after →
    substitution before locator.toList after replacement.toList = replacement.toList

section outcome

variable {host : ToolPlanHost} {root location : Location} {options : ToolPlanExecutionOptions}
  {call : ToolPlanCall} {answer : CallAnswer} {original locator replacement : String}
  {before after : List Char}

theorem patched_of_occursOnce (h : OccursOnce original.toList locator.toList before after) :
    patched original locator replacement = .ok (String.ofList
      (before ++ substitution before locator.toList after replacement.toList ++ after)) := by
  have htake : original.toList.take before.length = before := by
    rw [h.text_eq, List.append_assoc, List.take_left]
  have hdrop : original.toList.drop (before.length + locator.toList.length) = after := by
    rw [h.text_eq, ← List.length_append, List.drop_left]
  simp only [patched, h.matchPlaces_eq, htake, hdrop]

theorem patched_of_not_occursOnce
    (h : ∀ before after, ¬OccursOnce original.toList locator.toList before after) :
    patched original locator replacement =
      .error "locator was not found exactly once in target file" := by
  unfold patched
  split
  · next i hplaces => exact absurd (occursOnce_of_matchPlaces hplaces) (h _ _)
  · rfl

theorem applyPatchIntent_eq (hcall : AsksPatch call locator replacement)
    (hread : answer.read = .ok original) :
    host.applyPatchIntent call root options answer =
      host.writeOutcome "apply_patch_intent" root options (do
        let resolved ← host.resolveRepoPath root (arg call "path")
        host.assertAllowedWritePath root resolved options
        let updated ← patched original locator replacement
        assertWriteSize updated options
        pure ⟨resolved, updated⟩) answer.write := by
  simp only [applyPatchIntent, hcall.locator, hcall.replacement, hread]
  rfl

theorem write_applyPatchIntent {write : FileWrite} (hcall : AsksPatch call locator replacement)
    (hread : answer.read = .ok original)
    (h : (host.applyPatchIntent call root options answer).write = some write) :
    patched original locator replacement = .ok write.content := by
  rw [applyPatchIntent_eq hcall hread] at h
  obtain ⟨hattempt, _⟩ := writeOutcome_write_eq_some h
  obtain ⟨_, _, hrest⟩ := bind_eq_ok.mp hattempt
  obtain ⟨_, _, hrest⟩ := bind_eq_ok.mp hrest
  obtain ⟨updated, hupdated, hrest⟩ := bind_eq_ok.mp hrest
  obtain ⟨_, _, hrest⟩ := bind_eq_ok.mp hrest
  obtain rfl := Except.ok.inj hrest
  exact hupdated

theorem applyPatchIntent_of_patched {updated : String} (hcall : AsksPatch call locator replacement)
    (hread : answer.read = .ok original) (hpatched : patched original locator replacement =
      .ok updated) (hpath : host.resolveRepoPath root (arg call "path") = .ok location)
    (hallowed : host.isAllowedWritePath root location options = true)
    (hsize : updated.utf8ByteSize ≤ options.maxWriteBytesPerFile)
    (hdry : options.dryRun = false) (hwrite : answer.write = .ok ()) :
    (host.applyPatchIntent call root options answer).write = some ⟨location, updated⟩ ∧
      (host.applyPatchIntent call root options answer).operation.status = .applied := by
  have hassert : host.assertAllowedWritePath root location options = .ok () := by
    rw [assertAllowedWritePath, if_pos hallowed]
  have hfits : assertWriteSize updated options = .ok () := by
    rw [assertWriteSize, if_neg (Nat.not_lt.mpr hsize)]
  rw [applyPatchIntent_eq hcall hread, hpath, hpatched, hwrite]
  simp [bind, Except.bind, pure, Except.pure, hassert, hfits, writeOutcome, hdry]

theorem applyPatchIntent_of_refused {error : String} (hcall : AsksPatch call locator replacement)
    (hread : answer.read = .ok original)
    (hpatched : patched original locator replacement = .error error) :
    (host.applyPatchIntent call root options answer).write = none ∧
      (host.applyPatchIntent call root options answer).operation.status = .failed := by
  rw [applyPatchIntent_eq hcall hread, hpatched]
  cases hpath : host.resolveRepoPath root (arg call "path") with
  | error error => exact ⟨rfl, rfl⟩
  | ok resolved =>
    cases hassert : host.assertAllowedWritePath root resolved options with
    | error error => simp [bind, Except.bind, hassert, writeOutcome]
    | ok allowed => simp [bind, Except.bind, hassert, writeOutcome]

end outcome

section exactness

variable {original locator replacement : String}

def patchCall (locator replacement : String) : ToolPlanCall :=
  ⟨"apply_patch_intent", [("path", .str "note.txt"), ("locator", .str locator),
    ("replacement", .str replacement)]⟩

def holding (original : String) : CallAnswer := { willing with read := .ok original }

def upTo (size : Nat) : ToolPlanExecutionOptions :=
  { dryRun := false, allowedPaths := none, maxFiles := 1, maxWriteBytesPerFile := size }

theorem resolveRepoPath_note : shopHost.resolveRepoPath shopRoot (some (.str "note.txt")) =
    .ok ⟨[], ["work".toList, "shop".toList, "note.txt".toList]⟩ := by
  decide +kernel

theorem asksPatch_patchCall : AsksPatch (patchCall locator replacement) locator replacement :=
  ⟨rfl, rfl⟩

theorem write_patchCall {updated : String} (h : patched original locator replacement = .ok updated) :
    ∃ options write, (shopHost.applyPatchIntent (patchCall locator replacement) shopRoot options
      (holding original)).write = some write ∧ write.content = updated := by
  have hallowed : shopHost.isAllowedWritePath shopRoot
      ⟨[], ["work".toList, "shop".toList, "note.txt".toList]⟩ (upTo updated.utf8ByteSize) = true :=
    rfl
  have hread : (holding original).read = .ok original := rfl
  exact ⟨_, _, (applyPatchIntent_of_patched asksPatch_patchCall hread h resolveRepoPath_note
    hallowed (Nat.le_refl _) rfl rfl).1, rfl⟩

theorem fillsToItself_of_patchesExactly (h : PatchesExactly original locator replacement) :
    FillsToItself original locator replacement := by
  intro before after hplace
  obtain ⟨options, write, hwrite, hcontent⟩ := write_patchCall (patched_of_occursOnce hplace)
  have hspliced := h.spliced shopHost shopRoot options _ (holding original) write before after
    asksPatch_patchCall rfl hplace hwrite
  rw [hcontent, String.toList_ofList] at hspliced
  exact List.append_cancel_left (List.append_cancel_right hspliced)

theorem patchesExactly_of_fillsToItself (h : FillsToItself original locator replacement) :
    PatchesExactly original locator replacement where
  spliced := by
    intro host root options call answer write before after hcall hread hplace hwrite
    have hpatched := write_applyPatchIntent hcall hread hwrite
    rw [patched_of_occursOnce hplace, h before after hplace] at hpatched
    rw [← Except.ok.inj hpatched, String.toList_ofList]
  written := by
    intro host root options call answer location before after hcall hread hplace hpath hallowed
      hsize hdry hwrite
    have hpatched : patched original locator replacement = .ok (String.ofList
        (before ++ substitution before locator.toList after replacement.toList ++ after)) :=
      patched_of_occursOnce hplace
    rw [h before after hplace] at hpatched
    obtain ⟨hwritten, hstatus⟩ := applyPatchIntent_of_patched hcall hread hpatched hpath hallowed
      hsize hdry hwrite
    exact ⟨_, hwritten, rfl, hstatus⟩
  refused := fun _ _ _ _ _ hcall hread hplace =>
    applyPatchIntent_of_refused hcall hread (patched_of_not_occursOnce hplace)

theorem occursOnce_sign (sign : Char) : OccursOnce [sign] [sign] [] [] := by
  intro front rest
  constructor
  · intro h
    have hlength := congrArg List.length h
    simp only [List.length_append, List.length_singleton] at hlength
    exact ⟨List.length_eq_zero_iff.mp (by omega), List.length_eq_zero_iff.mp (by omega)⟩
  · rintro ⟨rfl, rfl⟩
    rfl

/-- A patch splices exactly in a file if and only if the patterns of its replacement fill in to the
replacement itself. It does so in every file if and only if the replacement has no pattern. -/
theorem patchesExactly_iff (replacement : String) : (∀ original locator,
      PatchesExactly original locator replacement ↔ FillsToItself original locator replacement) ∧
    ((∀ original locator, PatchesExactly original locator replacement) ↔
      WithoutPatterns replacement.toList) := by
  have heach : ∀ original locator, PatchesExactly original locator replacement ↔
      FillsToItself original locator replacement :=
    fun _ _ => ⟨fillsToItself_of_patchesExactly, patchesExactly_of_fillsToItself⟩
  refine ⟨heach, fun hall => ?_, fun hplain original locator => ?_⟩
  · have hfills := (heach "a" "a").mp (hall "a" "a") [] [] (occursOnce_sign 'a')
    exact (substitution_sign 'a').2 (congrArg List.length hfills)
  · exact (heach _ _).mpr fun _ _ _ => substitution_eq_self hplain

/-- A replacement that names a price in dollars loses a sign. -/
theorem dollars_lost : ¬PatchesExactly "a" "a" "$$5" := by
  intro h
  have hwrite : ((shopHost.applyPatchIntent (patchCall "a" "$$5") shopRoot (upTo 9)
      (holding "a")).write.map fun write => write.content.toList) = some ['$', '5'] := by
    decide +kernel
  obtain ⟨write, hwrite, hcontent⟩ := Option.map_eq_some_iff.mp hwrite
  have hspliced := h.spliced shopHost shopRoot (upTo 9) _ (holding "a") write [] []
    asksPatch_patchCall rfl (occursOnce_sign 'a') hwrite
  rw [hcontent] at hspliced
  revert hspliced
  decide

end exactness

end ShipyardCp.Properties
