import ShipyardCp.Domain.RuntimeTools

/-! Whether a path that the tool policy allows is relative to the repository, and stays under the
allowed prefixes. -/

namespace ShipyardCp.Properties

open Lib Lib.NodePath Domain

/-- What an allowed path promises where it is resolved against the workspace root. -/
structure PathSound (platform : Platform) (driveCwd : List Char → List (List Char)) (root : Location)
    (policy : WorkerRuntimePolicy) (tool : RuntimeToolDefinition) (path : List Char) : Prop where
  isRelative : IsRelative platform path
  noParent : ['.', '.'] ∉ parts platform path
  confined : tool.requiresWrite = true → ∀ allowed, policy.allowedPaths = some allowed →
    ∃ pathText ∈ allowed, (resolve platform driveCwd root path).Under
      (resolve platform driveCwd root (normalizedAllowed pathText))

/-- A value without a leading `./` or `.\`. -/
def pastDot : List Char → List Char
  | dot :: c :: path =>
    if dot = '.' && isSeparator .win32 c then path.dropWhile (isSeparator .win32)
    else dot :: c :: path
  | path => path

/-- The value does not start with a backslash on POSIX; past its leading `./`, it does not start with
a drive on Windows. -/
def KeepsClass (platform : Platform) (value : List Char) : Prop :=
  match platform with
  | .posix => value.head? ≠ some '\\'
  | .win32 => drive? (pastDot value) = none

section normalized

variable {platform : Platform} {driveCwd : List Char → List (List Char)} {root : Location}
  {value path : List Char}

theorem slashed_dropWhile : (slashed value).dropWhile (fun c => decide (c = '/')) =
    slashed (value.dropWhile (isSeparator .win32)) := by
  induction value with
  | nil => rfl
  | cons c value ih =>
    simp only [slashed] at ih
    simp only [slashed, List.map_cons, List.dropWhile_cons]
    by_cases hslash : c = '/'
    · simp [hslash, isSeparator, ih]
    · by_cases hback : c = '\\'
      · simp [hback, isSeparator, ih]
      · simp [hslash, hback, isSeparator]

theorem withoutDot_of_not {dot c : Char} (h : ¬(dot = '.' ∧ c = '/')) :
    withoutDot (dot :: c :: path) = dot :: c :: path := by
  unfold withoutDot
  split
  · next heq =>
    obtain ⟨hdot, heq⟩ := List.cons.inj heq
    exact absurd ⟨hdot, (List.cons.inj heq).1⟩ h
  · rfl

theorem slash_eq_iff (c : Char) :
    (if c = '\\' then '/' else c) = '/' ↔ isSeparator .win32 c = true := by
  by_cases hback : c = '\\' <;> simp [isSeparator, hback]

theorem withoutDot_slashed : withoutDot (slashed value) = slashed (pastDot value) := by
  match value with
  | [] => rfl
  | [c] => by_cases hback : c = '\\' <;> simp [slashed, hback, pastDot, withoutDot]
  | dot :: c :: value =>
    by_cases hleading : (decide (dot = '.') && isSeparator .win32 c) = true
    · obtain ⟨hdot, hc⟩ := Bool.and_eq_true_iff.mp hleading
      obtain rfl := of_decide_eq_true hdot
      have hslash : (if c = '\\' then '/' else c) = '/' := (slash_eq_iff c).mpr hc
      rw [pastDot, if_pos hleading, ← slashed_dropWhile]
      simp [slashed, hslash, withoutDot]
    · rw [pastDot, if_neg hleading]
      apply withoutDot_of_not
      rintro ⟨hdot, hc⟩
      have hdot : dot = '.' := by
        by_cases hback : dot = '\\'
        · simp [hback] at hdot
        · simpa [hback] using hdot
      apply hleading
      rw [Bool.and_eq_true]
      exact ⟨decide_eq_true hdot, (slash_eq_iff c).mp hc⟩

theorem drive?_slashed : drive? (slashed value) = drive? value := by
  match value with
  | [] => rfl
  | [c] => rfl
  | c :: colon :: value =>
    by_cases hc : c = '\\'
    · simp [slashed, drive?, hc]
    · by_cases hcolon : colon = '\\'
      · simp [slashed, drive?, hc, hcolon]
      · simp [slashed, drive?, hc, hcolon]

theorem parts_slashed : parts platform (slashed value) = parts .win32 value := by
  unfold parts
  induction value with
  | nil => rfl
  | cons c value ih =>
    have hcons : slashed (c :: value) = (if c = '\\' then '/' else c) :: slashed value := rfl
    rw [hcons, List.splitOnP_cons_eq_if_modifyHead, List.splitOnP_cons_eq_if_modifyHead, ih]
    by_cases hseparator : isSeparator .win32 c = true
    · rw [if_pos hseparator, (slash_eq_iff c).mpr hseparator, if_pos isSeparator_slash]
    · have hback : c ≠ '\\' := by
        rintro rfl
        exact hseparator rfl
      have hplatform : ¬isSeparator platform c = true := by
        cases platform with
        | posix =>
          intro hslash
          exact hseparator (by simp [isSeparator, of_decide_eq_true hslash])
        | win32 => exact hseparator
      rw [if_neg hseparator, if_neg hback, if_neg hplatform]

theorem mem_parts_dropWhile {part : List Char}
    (h : part ∈ parts platform (path.dropWhile (fun c => decide (c = '/')))) :
    part ∈ parts platform path := by
  induction path with
  | nil => exact h
  | cons c path ih =>
    rw [List.dropWhile_cons] at h
    split_ifs at h with hslash
    · obtain rfl := of_decide_eq_true hslash
      rw [parts, List.splitOnP_cons_eq_if_modifyHead, if_pos isSeparator_slash]
      exact List.mem_cons_of_mem _ (ih h)
    · exact h

theorem mem_parts_withoutDot {part : List Char} (h : part ∈ parts platform (withoutDot path)) :
    part ∈ parts platform path := by
  unfold withoutDot at h
  split at h
  · next rest =>
    have hparts : parts platform (['.'] ++ '/' :: rest) =
        parts platform ['.'] ++ parts platform rest :=
      List.splitOnP_append_cons _ _ isSeparator_slash
    have hrest : part ∈ parts platform (['.'] ++ '/' :: rest) := by
      rw [hparts]
      exact List.mem_append_right _ (mem_parts_dropWhile h)
    exact hrest
  · exact h

theorem head?_pastDot : (pastDot value).head?.any (isSeparator .win32) =
    value.head?.any (isSeparator .win32) := by
  unfold pastDot
  split
  · next dot c path =>
    split_ifs with hleading
    · obtain ⟨hdot, _⟩ := Bool.and_eq_true_iff.mp hleading
      obtain rfl := of_decide_eq_true hdot
      have hnot := List.head?_dropWhile_not (isSeparator .win32) path
      cases hhead : (path.dropWhile (isSeparator .win32)).head? with
      | none => rfl
      | some d =>
        rw [hhead] at hnot
        simpa [isSeparator] using hnot
    · rfl
  · rfl

theorem isAbsolute_posix_slashed : isAbsolute .posix (slashed value) =
    value.head?.any (isSeparator .win32) := by
  cases value with
  | nil => rfl
  | cons c value =>
    rw [Bool.eq_iff_iff]
    exact decide_eq_true_iff.trans (slash_eq_iff c)

theorem isAbsolute_win32 : isAbsolute .win32 value =
    (value.head?.any (isSeparator .win32) || driveRooted value) := by
  cases value <;> rfl

theorem head?_slashed : (slashed value).head?.any (isSeparator .win32) =
    value.head?.any (isSeparator .win32) := by
  cases value with
  | nil => rfl
  | cons c value =>
    by_cases hback : c = '\\' <;> simp [slashed, isSeparator, hback]

theorem isRelative_normalized_iff (habsolute : isAbsolute platform value = false) :
    IsRelative platform (withoutDot (slashed value)) ↔ KeepsClass platform value := by
  rw [withoutDot_slashed]
  cases platform with
  | posix =>
    have hslash : value.head? ≠ some '/' := by
      cases value with
      | nil => simp
      | cons c value =>
        have hc : c ≠ '/' := of_decide_eq_false habsolute
        simpa using hc
    have hhead : isAbsolute .posix (slashed (pastDot value)) = false ↔ value.head? ≠ some '\\' := by
      rw [isAbsolute_posix_slashed, head?_pastDot]
      cases hvalue : value.head? with
      | none => simp
      | some c =>
        rw [hvalue] at hslash
        have hc : c ≠ '/' := fun h => hslash (by rw [h])
        simp [isSeparator, hc]
    exact ⟨fun h => hhead.mp h.1, fun h => ⟨hhead.mpr h, by simp⟩⟩
  | win32 =>
    have hdrive : drive? (slashed (pastDot value)) = drive? (pastDot value) := drive?_slashed
    constructor
    · intro h
      exact hdrive.symm.trans (h.2 rfl)
    · intro h
      have hnone : drive? (slashed (pastDot value)) = none := hdrive.trans h
      refine ⟨?_, fun _ => hnone⟩
      rw [isAbsolute_win32, Bool.or_eq_false_iff] at habsolute
      rw [isAbsolute_win32, head?_slashed, head?_pastDot, habsolute.1, driveRooted, hnone]
      rfl

theorem under_of_isAllowedPath {repoPath : String} {allowed : List String}
    (hrelative : IsRelative platform repoPath.toList)
    (hup : ['.', '.'] ∉ parts platform repoPath.toList)
    (hallowed : isAllowedPath repoPath allowed = true) :
    ∃ pathText ∈ allowed, (resolve platform driveCwd root repoPath.toList).Under
      (resolve platform driveCwd root (normalizedAllowed pathText)) := by
  obtain ⟨dir, hdir, hunder⟩ := List.any_eq_true.mp hallowed
  obtain ⟨pathText, hmem, rfl⟩ := List.mem_map.mp hdir
  refine ⟨pathText, hmem, ?_⟩
  rcases Bool.or_eq_true_iff.mp hunder with hsame | hbelow
  · rw [of_decide_eq_true hsame]
    exact ⟨rfl, List.prefix_rfl⟩
  · obtain ⟨rest, hrest⟩ := List.isPrefixOf_iff_prefix.mp hbelow
    rw [List.append_assoc, List.singleton_append] at hrest
    rw [← hrest] at hrelative hup ⊢
    exact resolve_under_resolve hrelative hup

end normalized

section decided

variable {platform : Platform} {driveCwd : List Char → List (List Char)} {root : Location}
  {r : RuntimeToolRegistry} {policy : WorkerRuntimePolicy} {request : ToolInvocationRequest}
  {registration : RuntimeToolRegistration} {arg path : String} {value : Option Json}

theorem normalizeRepoPath_eq_ok (h : normalizeRepoPath platform value = .ok path) :
    ∃ text, value = some (.str text) ∧ isAbsolute platform text.toList = false ∧
      ['.', '.'] ∉ parts .win32 text.toList ∧ path.toList = withoutDot (slashed text.toList) := by
  unfold normalizeRepoPath at h
  split at h
  · cases h
  · next text htext =>
    obtain ⟨json, rfl, hstring⟩ := Option.bind_eq_some_iff.mp htext
    cases json with
    | str s =>
      obtain rfl := Option.some.inj hstring
      dsimp only at h
      split_ifs at h with hempty hrooted hup
      rw [Bool.or_eq_true, Bool.or_eq_true, not_or, not_or] at hrooted
      refine ⟨s, rfl, Bool.eq_false_iff.mpr hrooted.1.1, hup, ?_⟩
      rw [← Except.ok.inj h, String.toList_ofList]
    | _ => cases hstring

theorem decideInvocation_of_allowed (hforce : r.inForce request.tool = some registration)
    (harg : registration.tool.pathArg = some arg) (hne : arg ≠ "")
    (hallowed : (decideInvocation platform r policy request).allowed = true) :
    ∃ path, normalizeRepoPath platform ((Json.obj request.args).get? arg) = .ok path ∧
      (decideInvocation platform r policy request).normalizedPath = some path ∧
      (registration.tool.requiresWrite = true → ∀ allowed, policy.allowedPaths = some allowed →
        isAllowedPath path allowed = true) := by
  have hfilter : registration.tool.pathArg.filter (· ≠ "") = some arg := by
    rw [harg, Option.filter_some, if_pos (decide_eq_true hne)]
  unfold decideInvocation at hallowed ⊢
  simp only [hforce, hfilter] at hallowed ⊢
  split_ifs at hallowed ⊢
  cases hpath : normalizeRepoPath platform ((Json.obj request.args).get? arg) with
  | error error => simp [hpath] at hallowed
  | ok path =>
    simp only [hpath] at hallowed ⊢
    split_ifs at hallowed ⊢ with hwrite
    refine ⟨path, rfl, rfl, fun hrequires allowed hpolicy => ?_⟩
    simpa [hrequires, hpolicy] using hwrite

/-- The path of an allowed invocation is sound on its platform exactly when the value that names it
keeps its class. -/
theorem decideInvocation_pathSound_iff (hforce : r.inForce request.tool = some registration)
    (harg : registration.tool.pathArg = some arg) (hne : arg ≠ "")
    (hallowed : (decideInvocation platform r policy request).allowed = true) :
    (∃ path, (decideInvocation platform r policy request).normalizedPath = some path ∧
      PathSound platform driveCwd root policy registration.tool path.toList) ↔
    ∃ text, (Json.obj request.args).get? arg = some (.str text) ∧
      KeepsClass platform text.toList := by
  obtain ⟨path, hnormalize, hpath, hconfined⟩ := decideInvocation_of_allowed hforce harg hne hallowed
  obtain ⟨text, htext, habsolute, hup, hlist⟩ := normalizeRepoPath_eq_ok hnormalize
  have hup : ['.', '.'] ∉ parts platform path.toList := by
    intro hmem
    rw [hlist] at hmem
    have hraw := mem_parts_withoutDot hmem
    rw [parts_slashed] at hraw
    exact hup hraw
  have hclass := isRelative_normalized_iff habsolute
  rw [← hlist] at hclass
  rw [hpath, htext]
  constructor
  · rintro ⟨path', hsame, hsound⟩
    obtain rfl := Option.some.inj hsame
    exact ⟨text, rfl, hclass.mp hsound.isRelative⟩
  · rintro ⟨text', hsame, hkeeps⟩
    obtain rfl : text = text' := by simpa using hsame
    have hrelative := hclass.mpr hkeeps
    exact ⟨path, rfl, hrelative, hup, fun hrequires allowed hpolicy =>
      under_of_isAllowedPath hrelative hup (hconfined hrequires allowed hpolicy)⟩

end decided

/-- The default `write_file` tool, under a policy that allows the workspace itself. -/
def writeFileRegistration : RuntimeToolRegistration where
  registrationId := "toolreg_2"
  tool := { name := "write_file", kind := .file, sideEffect := .write, requiresWrite := true,
            allowedInRestricted := true, pathArg := some "path" }
  registeredAt := 0

def workspacePolicy (allowed : String) : WorkerRuntimePolicy where
  mode := .interactive
  allowedPaths := some [allowed]
  maxTurns := 20
  maxToolCalls := 50
  restrictedTools := true
  allowSubagents := false
  restorePoints := .disabled

def writeRequest (path : String) : ToolInvocationRequest where
  tool := "write_file"
  args := [("path", .str path)]

/-- A file of Windows below an allowed directory is allowed, and stays there. -/
theorem nested_path_sound :
    ∃ path, (decideInvocation .win32 (createDefaultRuntimeToolRegistry 0) (workspacePolicy "src\\")
        (writeRequest ".\\src\\lib/a.ts")).normalizedPath = some path ∧
      PathSound .win32 (fun _ => []) ⟨['c', ':'], [['w']]⟩ (workspacePolicy "src\\")
        writeFileRegistration.tool path.toList := by
  have hforce : (createDefaultRuntimeToolRegistry 0).inForce "write_file" =
      some writeFileRegistration := by decide +kernel
  have harg : writeFileRegistration.tool.pathArg = some "path" := rfl
  apply (decideInvocation_pathSound_iff hforce harg (by decide) (by decide +kernel)).mpr
  exact ⟨".\\src\\lib/a.ts", rfl, by unfold KeepsClass; decide +kernel⟩

/-- With the workspace itself allowed, a leading backslash names a file outside of it on POSIX. -/
theorem backslash_path_escapes : ¬∀ platform driveCwd root r policy request registration arg,
    RuntimeToolRegistry.inForce r request.tool = some registration →
    registration.tool.pathArg = some arg → arg ≠ "" →
    (decideInvocation platform r policy request).allowed = true →
    ∃ path, (decideInvocation platform r policy request).normalizedPath = some path ∧
      PathSound platform driveCwd root policy registration.tool path.toList := by
  intro hall
  obtain ⟨path, hpath, hsound⟩ := hall .posix (fun _ => []) ⟨[], [['w']]⟩
    (createDefaultRuntimeToolRegistry 0) (workspacePolicy "./") (writeRequest "\\etc\\passwd")
    writeFileRegistration "path" (by decide +kernel) rfl (by decide) (by decide +kernel)
  have hetc : (decideInvocation .posix (createDefaultRuntimeToolRegistry 0) (workspacePolicy "./")
      (writeRequest "\\etc\\passwd")).normalizedPath = some "/etc/passwd" := by decide +kernel
  rw [hetc] at hpath
  obtain rfl := Option.some.inj hpath
  exact absurd hsound.isRelative.1 (by decide +kernel)

end ShipyardCp.Properties
