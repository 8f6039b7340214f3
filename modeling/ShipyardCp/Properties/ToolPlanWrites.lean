import Mathlib.Data.Finset.Card
import ShipyardCp.Domain.RepoPaths

/-! What the files that tool plans write have to do with the workspace and with the limits that the
metadata of the job sets. -/

namespace ShipyardCp.Properties

open Types Lib Lib.NodePath Domain Domain.ToolPlanHost

section confined

variable (host : ToolPlanHost)

def jobPrefixes (job : WorkerJob) : Option (List String) :=
  match parseAllowedPaths (Metadata.get job.metadata "tool_plan_allowed_paths") with
  | .ok paths => paths
  | .error _ => none

def jobMaximum (job : WorkerJob) (key : String) : Option Nat :=
  match Metadata.get job.metadata key with
  | some (.num n) => if 0 ≤ n then some n.toNat else none
  | value => (value.map metadataJson).bind positiveInteger?

def prefixDir (root : Location) (pathText : String) : Location :=
  { root with names := walk root.names (parts .posix (normalizedAllowed pathText)) }

/-- The writes stay inside of the workspace and within what the job sets. -/
structure WritesConfined (job : WorkerJob) (writes : List FileWrite) : Prop where
  inside : ∀ write ∈ writes, ∃ root, host.resolveWorkspaceRoot job = some root ∧
    (file host write.location).Under (file host root)
  allowed : ∀ pathTexts, jobPrefixes job = some pathTexts → ∀ write ∈ writes,
    ∃ root, host.resolveWorkspaceRoot job = some root ∧
      ∃ pathText ∈ pathTexts, (file host write.location).Under (file host (prefixDir root pathText))
  files : ∀ n, jobMaximum job "tool_plan_max_files" = some n →
    (writes.map fun write => file host write.location).toFinset.card ≤ n
  bytes : ∀ n, jobMaximum job "tool_plan_max_write_bytes_per_file" = some n →
    ∀ write ∈ writes, write.content.utf8ByteSize ≤ n

end confined

section granted

variable (host : ToolPlanHost) (settings : ToolPlanSettings) (job : WorkerJob)

/-- The prefixes in force: those of the plan, else those of the job. With none, a plan may write
everywhere. -/
def prefixesInForce : Option (List (List Char)) :=
  comparedPrefixes (settings.allowedPaths.or (jobPrefixes job))

/-- On POSIX, no call that writes names its path with a backslash, where prefixes are in force or
the job sets a number of files. -/
def WithoutBackslash (calls : List ToolPlanCall) : Prop := host.platform = .posix →
    (prefixesInForce settings job ≠ none ∨ jobMaximum job "tool_plan_max_files" ≠ none) →
    ∀ call ∈ calls, isWriteCall call = true → ∀ text, arg call "path" = some (.str text) →
      '\\' ∉ text.toList

def granted : List (List (List Char)) :=
  match prefixesInForce settings job with
  | none => [[]]
  | some dirs => (dirs.filter (IsRepoPath host.platform ·)).map dirNames

def opensDirectory : Bool :=
  match prefixesInForce settings job with
  | none => true
  | some dirs => dirs.any (OpensBelow host.platform ·)

def limitInForce (planLimit : ToolPlanLimits → Option Json) (key : String) (fallback : Nat) : Nat :=
  parsePositiveInteger
    (nullish (settings.limits.bind planLimit) ((Metadata.get job.metadata key).map metadataJson))
    fallback

def maxFilesInForce : Nat :=
  limitInForce settings job (·.maxFiles) "tool_plan_max_files" DEFAULT_MAX_FILES

def maxBytesInForce : Nat :=
  limitInForce settings job (·.maxWriteBytesPerFile) "tool_plan_max_write_bytes_per_file"
    DEFAULT_MAX_WRITE_BYTES_PER_FILE

def fileRoom : Nat :=
  if opensDirectory host settings job then maxFilesInForce settings job
  else min (maxFilesInForce settings job)
    ((granted host settings job).map (·.map (nameForm host.platform host.lowerCase))).dedup.length

/-- A plan is executed in the workspace, and not for show. -/
structure MayWrite (root : Location) : Prop where
  canWrite : canWrite job = true
  root : host.resolveWorkspaceRoot job = some root
  options : ∃ options, host.resolveExecutionOptions settings job = .ok options ∧
    options.dryRun = false

/-- What is in force for a plan is within what the job sets. -/
structure WithinJobLimits (root : Location) : Prop where
  paths : 0 < fileRoom host settings job →
    ∀ pathTexts, jobPrefixes job = some pathTexts → ∀ names ∈ granted host settings job,
      ∃ pathText ∈ pathTexts, (file host { root with names := root.names ++ names }).Under
        (file host (prefixDir root pathText))
  files : ∀ n, jobMaximum job "tool_plan_max_files" = some n → fileRoom host settings job ≤ n
  bytes : 0 < fileRoom host settings job →
    ∀ n, jobMaximum job "tool_plan_max_write_bytes_per_file" = some n →
      maxBytesInForce settings job ≤ n

end granted

section executed

variable {host : ToolPlanHost} {settings : ToolPlanSettings} {job : WorkerJob}
  {options : ToolPlanExecutionOptions} {root : Location} {call : ToolPlanCall}
  {calls : List ToolPlanCall} {answer : CallAnswer} {answers : Nat → CallAnswer} {write : FileWrite}

theorem resolveExecutionOptions_eq_ok (h : host.resolveExecutionOptions settings job = .ok options) :
    options.allowedPaths = prefixesInForce settings job ∧
      options.maxFiles = maxFilesInForce settings job ∧
      options.maxWriteBytesPerFile = maxBytesInForce settings job := by
  unfold resolveExecutionOptions at h
  dsimp only at h
  split at h
  · next paths hplan =>
    obtain ⟨_, hpaths, h⟩ := bind_eq_ok.mp h
    obtain rfl := Except.ok.inj hpaths
    obtain ⟨dirs, hdirs, h⟩ := bind_eq_ok.mp h
    obtain rfl := Except.ok.inj h
    refine ⟨?_, rfl, rfl⟩
    rw [prefixesInForce, hplan]
    exact normalizeAllowedPaths_eq_ok hdirs
  · next hplan =>
    obtain ⟨paths, hpaths, h⟩ := bind_eq_ok.mp h
    obtain ⟨dirs, hdirs, h⟩ := bind_eq_ok.mp h
    obtain rfl := Except.ok.inj h
    refine ⟨?_, rfl, rfl⟩
    rw [prefixesInForce, hplan, jobPrefixes, hpaths]
    exact normalizeAllowedPaths_eq_ok hdirs

theorem exists_options_of_mem_writes
    (h : write ∈ (host.execute ⟨settings, calls⟩ job answers).writes) :
    ∃ options root, host.resolveExecutionOptions settings job = .ok options ∧
      MayWrite host settings job root ∧ host.validatePlanLimits calls root options = none := by
  cases hoptions : host.resolveExecutionOptions settings job with
  | error error => simp [execute, hoptions, notExecuted] at h
  | ok options =>
    cases hwrite : canWrite job with
    | false => simp [execute, hoptions, hwrite, notExecuted] at h
    | true =>
      cases hroot : host.resolveWorkspaceRoot job with
      | none => simp [execute, hoptions, hwrite, hroot, notExecuted] at h
      | some root =>
        cases hlimits : host.validatePlanLimits calls root options with
        | some error => simp [execute, hoptions, hwrite, hroot, hlimits, notExecuted] at h
        | none =>
          rw [execute_writes hoptions hwrite hroot hlimits] at h
          obtain ⟨_, _, hcall⟩ := List.mem_filterMap.mp h
          have hdry := (runCall_write_eq_some hcall).2.2.2.2
          exact ⟨options, root, rfl, ⟨hwrite, hroot, options, hoptions, hdry⟩, hlimits⟩

theorem exists_call_of_mem_writes (hoptions : host.resolveExecutionOptions settings job = .ok options)
    (hmay : MayWrite host settings job root)
    (hlimits : host.validatePlanLimits calls root options = none)
    (h : write ∈ (host.execute ⟨settings, calls⟩ job answers).writes) :
    ∃ call ∈ calls, isWriteCall call = true ∧
      host.resolveRepoPath root (arg call "path") = .ok write.location ∧
      host.isAllowedWritePath root write.location options = true ∧
      write.content.utf8ByteSize ≤ options.maxWriteBytesPerFile := by
  rw [execute_writes hoptions hmay.canWrite hmay.root hlimits] at h
  obtain ⟨⟨call, i⟩, hentry, hcall⟩ := List.mem_filterMap.mp h
  obtain ⟨hisWrite, hpath, hallowed, hsize, _⟩ := runCall_write_eq_some hcall
  exact ⟨call, List.fst_mem_of_mem_zipIdx hentry, hisWrite, hpath, hallowed, hsize⟩

theorem execute_inside (h : write ∈ (host.execute ⟨settings, calls⟩ job answers).writes) :
    ∃ root, host.resolveWorkspaceRoot job = some root ∧
      (file host write.location).Under (file host root) := by
  obtain ⟨options, root, hoptions, hmay, hlimits⟩ := exists_options_of_mem_writes h
  obtain ⟨call, _, _, hpath, _, _⟩ := exists_call_of_mem_writes hoptions hmay hlimits h
  obtain ⟨_, names, _, hfile, _⟩ := exists_names_of_resolveRepoPath hpath
  refine ⟨root, hmay.root, ?_⟩
  rw [hfile, file, file, List.map_append]
  exact ⟨rfl, List.prefix_append _ _⟩

theorem validated_path (hlimits : host.validatePlanLimits calls root options = none) :
    ∃ counted : List (List Char), counted.dedup.length ≤ options.maxFiles ∧
      ∀ call ∈ calls, isWriteCall call = true → ∀ loc,
        host.resolveRepoPath root (arg call "path") = .ok loc → host.repoPath root loc ∈ counted := by
  obtain ⟨resolved, hresolved, hcount⟩ := validatePlanLimits_eq_none hlimits
  refine ⟨_, hcount, fun call hcall hisWrite loc hloc => ?_⟩
  have hmem : host.resolveRepoPath root (arg call "path") ∈ (calls.filter isWriteCall).map
      fun call => host.resolveRepoPath root (arg call "path") :=
    List.mem_map_of_mem (f := fun call => host.resolveRepoPath root (arg call "path"))
      (List.mem_filter.mpr ⟨hcall, hisWrite⟩)
  rw [hresolved, hloc] at hmem
  obtain ⟨other, hother, hsame⟩ := List.mem_map.mp hmem
  obtain rfl := Except.ok.inj hsame
  exact List.mem_map_of_mem hother

end executed

section sufficient

variable {host : ToolPlanHost} {settings : ToolPlanSettings} {job : WorkerJob}
  {options : ToolPlanExecutionOptions} {root : Location} {calls : List ToolPlanCall}
  {answers : Nat → CallAnswer} {write : FileWrite} {names : List (List Char)}

theorem exists_granted (hoptions : host.resolveExecutionOptions settings job = .ok options)
    {loc : Location} (hnames : RepoNames host.platform names)
    (hpath : host.repoPath root loc = joined .posix names)
    (hallowed : host.isAllowedWritePath root loc options = true) :
    ∃ dir ∈ granted host settings job, dir <+: names ∧
      (names = dir ∨ opensDirectory host settings job = true) := by
  have hdirs := isAllowedWritePath_eq_true_iff.mp hallowed
  rw [(resolveExecutionOptions_eq_ok hoptions).1] at hdirs
  unfold granted opensDirectory
  cases hforce : prefixesInForce settings job with
  | none => exact ⟨[], by simp, List.nil_prefix, Or.inr rfl⟩
  | some dirs =>
    obtain ⟨dir, hmem, hbelow⟩ := hdirs dirs hforce
    rw [hpath] at hbelow
    obtain ⟨hrepo, hunder, hopens⟩ := hnames.isRepoPath_of_allowed hbelow
    refine ⟨dirNames dir, ?_, hunder, ?_⟩
    · exact List.mem_map_of_mem (List.mem_filter.mpr ⟨hmem, decide_eq_true hrepo⟩)
    · rcases hopens with hsame | hopens
      · exact Or.inl hsame
      · exact Or.inr (List.any_eq_true.mpr ⟨dir, hmem, decide_eq_true hopens⟩)

theorem exists_names_of_mem_writes
    (hoptions : host.resolveExecutionOptions settings job = .ok options)
    (hmay : MayWrite host settings job root)
    (hlimits : host.validatePlanLimits calls root options = none)
    (hback : WithoutBackslash host settings job calls)
    (hset : prefixesInForce settings job ≠ none ∨ jobMaximum job "tool_plan_max_files" ≠ none)
    (h : write ∈ (host.execute ⟨settings, calls⟩ job answers).writes) :
    ∃ names, file host write.location = file host { root with names := root.names ++ names } ∧
      RepoNames host.platform names ∧ host.repoPath root write.location = joined .posix names := by
  obtain ⟨call, hcall, hisWrite, hpath, _, _⟩ := exists_call_of_mem_writes hoptions hmay hlimits h
  obtain ⟨text, names, htext, hfile, hnames⟩ := exists_names_of_resolveRepoPath hpath
  obtain ⟨hrepo, hjoined⟩ := hnames fun hposix => hback hposix hset call hcall hisWrite text htext
  exact ⟨names, hfile, hrepo, hjoined⟩

theorem card_files_le_fileRoom (hoptions : host.resolveExecutionOptions settings job = .ok options)
    (hmay : MayWrite host settings job root)
    (hlimits : host.validatePlanLimits calls root options = none)
    (hback : WithoutBackslash host settings job calls)
    (hset : prefixesInForce settings job ≠ none ∨ jobMaximum job "tool_plan_max_files" ≠ none) :
    ((host.execute ⟨settings, calls⟩ job answers).writes.map
      fun write => file host write.location).toFinset.card ≤ fileRoom host settings job := by
  have hnames : ∀ write ∈ (host.execute ⟨settings, calls⟩ job answers).writes, ∃ names,
      file host write.location = file host { root with names := root.names ++ names } ∧
        RepoNames host.platform names ∧
        host.repoPath root write.location = joined .posix names := fun _ hwrite =>
    exists_names_of_mem_writes hoptions hmay hlimits hback hset hwrite
  have hcounted : ((host.execute ⟨settings, calls⟩ job answers).writes.map
      fun write => file host write.location).toFinset.card ≤ maxFilesInForce settings job := by
    obtain ⟨counted, hcount, hmem⟩ := validated_path hlimits
    rw [(resolveExecutionOptions_eq_ok hoptions).2.1, ← List.card_toFinset] at hcount
    refine le_trans (le_trans (Finset.card_le_card (t := counted.toFinset.image fun path =>
      file host { root with names := root.names ++ dirNames path }) ?_) Finset.card_image_le) hcount
    intro loc hloc
    obtain ⟨write, hwrite, rfl⟩ := List.mem_map.mp (List.mem_toFinset.mp hloc)
    obtain ⟨names, hfile, hrepo, hjoined⟩ := hnames write hwrite
    obtain ⟨call, hcall, hisWrite, hpath, _, _⟩ :=
      exists_call_of_mem_writes hoptions hmay hlimits hwrite
    have hpathMem := hmem call hcall hisWrite _ hpath
    rw [hjoined] at hpathMem
    refine Finset.mem_image.mpr ⟨joined .posix names, List.mem_toFinset.mpr hpathMem, ?_⟩
    rw [hrepo.dirNames_joined, hfile]
  unfold fileRoom
  split_ifs with hopens
  · exact hcounted
  · refine le_min hcounted ?_
    rw [← List.card_toFinset]
    refine le_trans (Finset.card_le_card (t := Finset.image (fun names => (⟨root.device,
      root.names.map (nameForm host.platform host.lowerCase) ++ names⟩ : Location)) _) ?_)
      Finset.card_image_le
    intro loc hloc
    obtain ⟨write, hwrite, rfl⟩ := List.mem_map.mp (List.mem_toFinset.mp hloc)
    obtain ⟨names, hfile, hrepo, hjoined⟩ := hnames write hwrite
    obtain ⟨call, hcall, hisWrite, hpath, hallowed, _⟩ :=
      exists_call_of_mem_writes hoptions hmay hlimits hwrite
    obtain ⟨dir, hdir, _, hsame⟩ := exists_granted hoptions hrepo hjoined hallowed
    rcases hsame with rfl | hdirectory
    · refine Finset.mem_image.mpr ⟨_, List.mem_toFinset.mpr (List.mem_map_of_mem hdir), ?_⟩
      rw [hfile, file, List.map_append]
    · exact absurd hdirectory hopens

theorem granted_of_none (h : prefixesInForce settings job = none) : granted host settings job = [[]] ∧
      fileRoom host settings job = maxFilesInForce settings job := by
  simp [granted, fileRoom, opensDirectory, h]

theorem fileRoom_pos (hoptions : host.resolveExecutionOptions settings job = .ok options)
    (hmay : MayWrite host settings job root)
    (hlimits : host.validatePlanLimits calls root options = none)
    (hback : WithoutBackslash host settings job calls)
    (h : write ∈ (host.execute ⟨settings, calls⟩ job answers).writes) :
    0 < fileRoom host settings job := by
  cases hforce : prefixesInForce settings job with
  | none =>
    obtain ⟨counted, hcount, hmem⟩ := validated_path hlimits
    obtain ⟨call, hcall, hisWrite, hpath, _, _⟩ := exists_call_of_mem_writes hoptions hmay hlimits h
    rw [(granted_of_none hforce).2, ← (resolveExecutionOptions_eq_ok hoptions).2.1]
    have hone := List.mem_dedup.mpr (hmem call hcall hisWrite _ hpath)
    exact Nat.lt_of_lt_of_le (List.length_pos_of_mem hone) hcount
  | some dirs =>
    have hset : prefixesInForce settings job ≠ none := by
      rw [hforce]
      exact Option.some_ne_none _
    have hcard : ((host.execute ⟨settings, calls⟩ job answers).writes.map
        fun write => file host write.location).toFinset.card ≤ fileRoom host settings job :=
      card_files_le_fileRoom hoptions hmay hlimits hback (Or.inl hset)
    refine Nat.lt_of_lt_of_le (Finset.card_pos.mpr ⟨file host write.location, ?_⟩) hcard
    exact List.mem_toFinset.mpr (List.mem_map_of_mem h)

theorem exists_granted_of_mem_writes
    (hoptions : host.resolveExecutionOptions settings job = .ok options)
    (hmay : MayWrite host settings job root)
    (hlimits : host.validatePlanLimits calls root options = none)
    (hback : WithoutBackslash host settings job calls)
    (h : write ∈ (host.execute ⟨settings, calls⟩ job answers).writes) :
    ∃ dir ∈ granted host settings job, (file host write.location).Under
      (file host { root with names := root.names ++ dir }) := by
  cases hforce : prefixesInForce settings job with
  | none =>
    obtain ⟨root', hroot', hinside⟩ := execute_inside h
    obtain rfl := Option.some.inj (hroot'.symm.trans hmay.root)
    refine ⟨[], by simp [(granted_of_none hforce).1], ?_⟩
    rw [List.append_nil]
    exact hinside
  | some dirs =>
    have hset : prefixesInForce settings job ≠ none := by
      rw [hforce]
      exact Option.some_ne_none _
    obtain ⟨names, hfile, hrepo, hjoined⟩ :=
      exists_names_of_mem_writes hoptions hmay hlimits hback (Or.inl hset) h
    obtain ⟨_, _, _, _, hallowed, _⟩ := exists_call_of_mem_writes hoptions hmay hlimits h
    obtain ⟨dir, hdir, ⟨below, hbelow⟩, _⟩ := exists_granted hoptions hrepo hjoined hallowed
    refine ⟨dir, hdir, ?_⟩
    rw [hfile, ← hbelow, ← List.append_assoc, file, file, List.map_append]
    exact ⟨rfl, List.prefix_append _ _⟩

theorem execute_confined (hback : WithoutBackslash host settings job calls)
    (hwithin : ∀ root, MayWrite host settings job root → WithinJobLimits host settings job root) :
    WritesConfined host job (host.execute ⟨settings, calls⟩ job answers).writes := by
  constructor
  · exact fun write h => execute_inside h
  · intro pathTexts hjob write h
    obtain ⟨options, root, hoptions, hmay, hlimits⟩ := exists_options_of_mem_writes h
    obtain ⟨dir, hdir, hunder⟩ := exists_granted_of_mem_writes hoptions hmay hlimits hback h
    obtain ⟨pathText, hmem, hdirUnder⟩ := (hwithin root hmay).paths
      (fileRoom_pos hoptions hmay hlimits hback h) pathTexts hjob dir hdir
    exact ⟨root, hmay.root, pathText, hmem, Location.Under.trans hunder hdirUnder⟩
  · intro n hjob
    cases hwrites : (host.execute ⟨settings, calls⟩ job answers).writes with
    | nil => simp
    | cons write others =>
      have h : write ∈ (host.execute ⟨settings, calls⟩ job answers).writes := by
        rw [hwrites]
        exact List.mem_cons_self
      obtain ⟨options, root, hoptions, hmay, hlimits⟩ := exists_options_of_mem_writes h
      have hset : jobMaximum job "tool_plan_max_files" ≠ none := by
        rw [hjob]
        exact Option.some_ne_none _
      rw [← hwrites]
      exact (card_files_le_fileRoom hoptions hmay hlimits hback (Or.inr hset)).trans
        ((hwithin root hmay).files n hjob)
  · intro n hjob write h
    obtain ⟨options, root, hoptions, hmay, hlimits⟩ := exists_options_of_mem_writes h
    obtain ⟨_, _, _, _, _, hsize⟩ := exists_call_of_mem_writes hoptions hmay hlimits h
    rw [(resolveExecutionOptions_eq_ok hoptions).2.2] at hsize
    have hroom := fileRoom_pos hoptions hmay hlimits hback h
    exact hsize.trans ((hwithin root hmay).bytes hroom n hjob)

end sufficient

def writeCall (content : String) (names : List (List Char)) : ToolPlanCall where
  tool := "write_file"
  args := [("path", .str (String.ofList ('.' :: '/' :: joined .posix names))),
    ("content", .str content)]

/-- A world in which every write succeeds. -/
def willing : CallAnswer where
  fileExists := false
  read := .ok ""
  mkdir := .ok ()
  write := .ok ()
  process := .ok ⟨"", "", 0⟩

section necessary

variable {host : ToolPlanHost} {settings : ToolPlanSettings} {job : WorkerJob}
  {options : ToolPlanExecutionOptions} {root : Location} {names : List (List Char)}
  {targets : List (List (List Char))} {content : String} {n : Nat}

def AllowedNames (settings : ToolPlanSettings) (job : WorkerJob) (names : List (List Char)) : Prop :=
  ∀ dirs, prefixesInForce settings job = some dirs →
    ∃ dir ∈ dirs, joined .posix names = dir ∨ dir ++ ['/'] <+: joined .posix names

theorem repoPath_append (h : RepoNames host.platform names) :
    host.repoPath root { root with names := root.names ++ names } = joined .posix names := by
  have hrelative : host.relative root { root with names := root.names ++ names } =
      joined host.platform names := relative_append
  rw [repoPath, hrelative, slashed_joined h.noSeparator]

theorem runCall_writeCall (hoptions : host.resolveExecutionOptions settings job = .ok options)
    (hdry : options.dryRun = false) (hrepo : RepoNames host.platform names)
    (hallowed : AllowedNames settings job names)
    (hsize : content.utf8ByteSize ≤ maxBytesInForce settings job) :
    (host.runCall root options (writeCall content names) willing).write =
      some ⟨{ root with names := root.names ++ names }, content⟩ := by
  have hpath : host.resolveRepoPath root (arg (writeCall content names) "path") =
      .ok { root with names := root.names ++ names } := hrepo.resolveRepoPath_joined
  have hcontent : arg (writeCall content names) "content" = some (.str content) := rfl
  obtain ⟨hprefixes, _, hbytes⟩ := resolveExecutionOptions_eq_ok hoptions
  have hassert : host.assertAllowedWritePath root { root with names := root.names ++ names }
      options = .ok () := by
    rw [assertAllowedWritePath, if_pos]
    rw [isAllowedWritePath_eq_true_iff, hprefixes, repoPath_append hrepo]
    exact hallowed
  have hassertSize : assertWriteSize content options = .ok () := by
    rw [assertWriteSize, if_neg]
    rw [hbytes]
    exact Nat.not_lt.mpr hsize
  have htool : (writeCall content names).tool = "write_file" := rfl
  simp [runCall, htool, ToolPlanHost.writeFile, hcontent, hpath, hassert, hassertSize, willing,
    hdry, writeOutcome, bind, Except.bind, pure, Except.pure]

theorem not_mem_slashed {path : List Char} : '\\' ∉ slashed path := by
  intro h
  obtain ⟨c, _, hc⟩ := List.mem_map.mp h
  split_ifs at hc with hback
  · cases hc
  · exact hback hc

theorem withoutBackslash_writeCalls (hrepo : ∀ names ∈ targets, RepoNames host.platform names) :
    WithoutBackslash host settings job (targets.map (writeCall content)) := by
  intro _ _ call hcall _ text htext hback
  obtain ⟨names, hnames, rfl⟩ := List.mem_map.mp hcall
  have hpath : some (Json.str (String.ofList ('.' :: '/' :: joined .posix names))) =
      some (.str text) := htext
  obtain rfl := Json.str.inj (Option.some.inj hpath)
  rw [String.toList_ofList, List.mem_cons, List.mem_cons] at hback
  rcases hback with hdot | hslash | hmem
  · cases hdot
  · cases hslash
  · have hslashed : slashed (joined .posix names) = joined .posix names :=
      slashed_joined (hrepo names hnames).noSeparator
    rw [← hslashed] at hmem
    exact not_mem_slashed hmem

theorem execute_writeCalls (hmay : MayWrite host settings job root)
    (hrepo : ∀ names ∈ targets, RepoNames host.platform names)
    (hallowed : ∀ names ∈ targets, AllowedNames settings job names)
    (hsize : content.utf8ByteSize ≤ maxBytesInForce settings job)
    (hcount : targets.length ≤ maxFilesInForce settings job) :
    (host.execute ⟨settings, targets.map (writeCall content)⟩ job fun _ => willing).writes =
      targets.map fun names => ⟨{ root with names := root.names ++ names }, content⟩ := by
  obtain ⟨options, hoptions, hdry⟩ := hmay.options
  have hfilter : (targets.map (writeCall content)).filter isWriteCall =
      targets.map (writeCall content) := by
    rw [List.filter_eq_self]
    intro call hcall
    obtain ⟨names, _, rfl⟩ := List.mem_map.mp hcall
    rfl
  have hresolved : ((targets.map (writeCall content)).filter isWriteCall).mapM
      (fun call => host.resolveRepoPath root (arg call "path")) =
        .ok (targets.map fun names => { root with names := root.names ++ names }) := by
    rw [mapM_eq_ok, hfilter, List.map_map, List.map_map]
    apply List.map_congr_left
    intro names hnames
    exact (hrepo names hnames).resolveRepoPath_joined
  have hlimits : host.validatePlanLimits (targets.map (writeCall content)) root options = none := by
    have hlength := (List.dedup_sublist ((targets.map fun names =>
      { root with names := root.names ++ names }).map (host.repoPath root))).length_le
    rw [List.length_map, List.length_map] at hlength
    rw [validatePlanLimits, hresolved]
    dsimp only
    rw [if_neg]
    rw [(resolveExecutionOptions_eq_ok hoptions).2.1]
    exact Nat.not_lt.mpr (hlength.trans hcount)
  have hwrite : ∀ names ∈ targets,
      (host.runCall root options (writeCall content names) willing).write =
        some ⟨{ root with names := root.names ++ names }, content⟩ := fun names hnames =>
    runCall_writeCall hoptions hdry (hrepo names hnames) (hallowed names hnames) hsize
  have hentries : ((targets.map (writeCall content)).zipIdx.filterMap fun entry =>
      (host.runCall root options entry.1 willing).write) =
        (targets.map (writeCall content)).filterMap fun call =>
          (host.runCall root options call willing).write := by
    conv_rhs => rw [← List.zipIdx_map_fst 0 (targets.map (writeCall content)), List.filterMap_map]
    rfl
  rw [execute_writes hoptions hmay.canWrite hmay.root hlimits, hentries, List.filterMap_map]
  rw [← List.filterMap_eq_map]
  exact List.filterMap_congr hwrite

theorem exists_content (n : Nat) : ∃ content : String, content.utf8ByteSize = n := by
  induction n with
  | zero => exact ⟨"", rfl⟩
  | succ n ih =>
    obtain ⟨content, hcontent⟩ := ih
    refine ⟨content.push 'a', ?_⟩
    rw [String.utf8ByteSize_push, hcontent]
    rfl

theorem allowed_of_mem_granted (h : names ∈ granted host settings job) :
    RepoNames host.platform names ∧ AllowedNames settings job names := by
  unfold granted at h
  unfold AllowedNames
  cases hforce : prefixesInForce settings job with
  | none =>
    simp only [hforce] at h
    obtain rfl := List.mem_singleton.mp h
    refine ⟨⟨nofun, nofun, rfl, ?_⟩, nofun⟩
    cases host.platform <;> rfl
  | some dirs =>
    simp only [hforce] at h
    obtain ⟨dir, hdir, rfl⟩ := List.mem_map.mp h
    obtain ⟨hmem, hrepo⟩ := List.mem_filter.mp hdir
    obtain ⟨hjoined, hnames⟩ := of_decide_eq_true hrepo
    refine ⟨hnames, fun others hothers => ?_⟩
    obtain rfl := Option.some.inj hothers
    exact ⟨dir, hmem, Or.inl hjoined⟩

theorem repoNames_of_isLower {name : List Char} (hne : name ≠ [])
    (hlower : name.all Char.isLower = true) : RepoNames host.platform [name] := by
  have hother : ∀ c : Char, c.isLower = false → c ∉ name := by
    intro c hc hmem
    rw [List.all_eq_true.mp hlower c hmem] at hc
    cases hc
  have hdot : '.' ∉ name := hother '.' (by decide)
  have hslash : '/' ∉ name := hother '/' (by decide)
  have hback : '\\' ∉ name := hother '\\' (by decide)
  have hcolon : ':' ∉ name := hother ':' (by decide)
  refine ⟨?_, ?_, ?_, ?_⟩
  · intro part hpart
    obtain rfl := List.mem_singleton.mp hpart
    have hidle : part ≠ ['.'] := by
      rintro rfl
      exact hdot List.mem_cons_self
    have hup : part ≠ ['.', '.'] := by
      rintro rfl
      exact hdot List.mem_cons_self
    simp [isName, isIdle, hne, hidle, hup]
  · intro part hpart c hc
    obtain rfl := List.mem_singleton.mp hpart
    have hcslash : c ≠ '/' := by
      rintro rfl
      exact hslash hc
    have hcback : c ≠ '\\' := by
      rintro rfl
      exact hback hc
    simp [isSeparator, hcslash, hcback]
  · rw [joined_singleton, ← Bool.not_eq_true, List.isPrefixOf_iff_prefix]
    intro hup
    exact hdot (hup.subset List.mem_cons_self)
  · rw [joined_singleton]
    cases name with
    | nil => exact absurd rfl hne
    | cons c rest =>
      have hcslash : c ≠ '/' := fun h => hslash (h ▸ List.mem_cons_self)
      have hcback : c ≠ '\\' := fun h => hback (h ▸ List.mem_cons_self)
      have hdrive : drive? (c :: rest) = none := by
        cases rest with
        | nil => rfl
        | cons d rest =>
          have hdcolon : d ≠ ':' :=
            fun h => hcolon (h ▸ List.mem_cons_of_mem _ List.mem_cons_self)
          simp [drive?, hdcolon]
      cases host.platform with
      | posix => exact decide_eq_false hcslash
      | win32 => simp [isAbsolute, isSeparator, driveRooted, hcslash, hcback, hdrive]

theorem exists_opened (h : opensDirectory host settings job = true) :
    ∃ dir, dir ∈ granted host settings job ∧ ∀ name, name ≠ [] → name.all Char.isLower = true →
      RepoNames host.platform (dir ++ [name]) ∧ AllowedNames settings job (dir ++ [name]) := by
  unfold opensDirectory at h
  unfold granted AllowedNames
  cases hforce : prefixesInForce settings job with
  | none =>
    exact ⟨[], by simp, fun name hne hlower => ⟨repoNames_of_isLower hne hlower, nofun⟩⟩
  | some dirs =>
    simp only [hforce] at h ⊢
    obtain ⟨dir, hmem, hopens⟩ := List.any_eq_true.mp h
    have hopens : OpensBelow host.platform dir := of_decide_eq_true hopens
    refine ⟨dirNames dir, ?_, fun name hne hlower => ?_⟩
    · exact List.mem_map_of_mem (List.mem_filter.mpr ⟨hmem, decide_eq_true hopens.1⟩)
    · have hname : RepoNames host.platform [name] := repoNames_of_isLower hne hlower
      obtain ⟨hrepo, hjoined⟩ := hopens.repoNames_concat
        (hname.isName name List.mem_cons_self) (hname.noSeparator name List.mem_cons_self)
      refine ⟨hrepo, fun others hothers => ?_⟩
      obtain rfl := Option.some.inj hothers
      refine ⟨dir, hmem, Or.inr ⟨name, ?_⟩⟩
      rw [hjoined, List.append_assoc]
      rfl

theorem length_le_jobMaximum (hconfined : ∀ calls answers, WithoutBackslash host settings job calls →
      WritesConfined host job (host.execute ⟨settings, calls⟩ job answers).writes)
    (hmay : MayWrite host settings job root)
    (hjob : jobMaximum job "tool_plan_max_files" = some n)
    (hrepo : ∀ names ∈ targets, RepoNames host.platform names)
    (hallowed : ∀ names ∈ targets, AllowedNames settings job names)
    (hnodup : (targets.map (·.map (nameForm host.platform host.lowerCase))).Nodup)
    (hcount : targets.length ≤ maxFilesInForce settings job) : targets.length ≤ n := by
  have hback : WithoutBackslash host settings job (targets.map (writeCall "")) :=
    withoutBackslash_writeCalls hrepo
  have hfiles := (hconfined _ (fun _ => willing) hback).files n hjob
  rw [execute_writeCalls hmay hrepo hallowed (Nat.zero_le _) hcount, List.map_map] at hfiles
  have hlocations : (targets.map ((fun write : FileWrite => file host write.location) ∘
      fun names => ⟨{ root with names := root.names ++ names }, ""⟩)) =
      (targets.map (·.map (nameForm host.platform host.lowerCase))).map fun names =>
        ⟨root.device, root.names.map (nameForm host.platform host.lowerCase) ++ names⟩ := by
    rw [List.map_map]
    apply List.map_congr_left
    intro names _
    simp [file]
  have hinjective : Function.Injective fun names : List (List Char) => (⟨root.device,
      root.names.map (nameForm host.platform host.lowerCase) ++ names⟩ : Location) := by
    intro names others hsame
    exact List.append_cancel_left (Location.mk.inj hsame).2
  rw [hlocations, List.toFinset_card_of_nodup (hnodup.map hinjective), List.length_map,
    List.length_map] at hfiles
  exact hfiles

theorem fileRoom_le_maxFilesInForce : fileRoom host settings job ≤ maxFilesInForce settings job := by
  unfold fileRoom
  split_ifs
  · exact le_rfl
  · exact min_le_left _ _

theorem granted_ne_nil (h : 0 < fileRoom host settings job) : granted host settings job ≠ [] := by
  intro hnone
  cases hopens : opensDirectory host settings job with
  | true =>
    obtain ⟨dir, hdir, _⟩ := exists_opened hopens
    rw [hnone] at hdir
    cases hdir
  | false => simp [fileRoom, hopens, hnone] at h

theorem exists_map_eq {α β : Type} {f : α → β} {source : List α} {l : List β}
    (h : ∀ b ∈ l, ∃ a ∈ source, f a = b) :
    ∃ chosen : List α, chosen.map f = l ∧ ∀ a ∈ chosen, a ∈ source := by
  induction l with
  | nil => exact ⟨[], rfl, nofun⟩
  | cons b l ih =>
    obtain ⟨a, ha, hab⟩ := h b List.mem_cons_self
    obtain ⟨chosen, hchosen, hsource⟩ := ih fun c hc => h c (List.mem_cons_of_mem _ hc)
    refine ⟨a :: chosen, by rw [List.map_cons, hab, hchosen], fun c hc => ?_⟩
    rcases List.mem_cons.mp hc with rfl | hmem
    · exact ha
    · exact hsource c hmem

theorem exists_filling : ∃ targets : List (List (List Char)),
    targets.length = fileRoom host settings job ∧
      (targets.map (·.map (nameForm host.platform host.lowerCase))).Nodup ∧
      (∀ names ∈ targets, RepoNames host.platform names) ∧
      ∀ names ∈ targets, AllowedNames settings job names := by
  unfold fileRoom
  split_ifs with hopens
  · obtain ⟨dir, _, hdir⟩ := exists_opened hopens
    have hletters : ∀ k, (List.replicate (k + 1) 'a').all Char.isLower = true := by
      intro k
      rw [List.all_eq_true]
      intro c hc
      rw [List.eq_of_mem_replicate hc]
      rfl
    have hnames := fun k => hdir (List.replicate (k + 1) 'a') (by simp) (hletters k)
    refine ⟨(List.range (maxFilesInForce settings job)).map
      fun k => dir ++ [List.replicate (k + 1) 'a'], by simp, ?_, ?_, ?_⟩
    · rw [List.map_map]
      refine List.Nodup.map ?_ List.nodup_range
      intro k l hsame
      have hform : ∀ k, nameForm host.platform host.lowerCase (List.replicate (k + 1) 'a') =
          List.replicate (k + 1) 'a' := by
        intro k
        cases hhost : host.platform with
        | posix => rfl
        | win32 => exact host.lowerCase_lower _ (hletters k)
      simp only [Function.comp_apply, List.map_append, List.map_singleton, hform] at hsame
      have hlast := List.singleton_inj.mp (List.append_cancel_left hsame)
      have hlength := congrArg List.length hlast
      rw [List.length_replicate, List.length_replicate] at hlength
      exact Nat.succ.inj hlength
    · intro names hmem
      obtain ⟨k, _, rfl⟩ := List.mem_map.mp hmem
      exact (hnames k).1
    · intro names hmem
      obtain ⟨k, _, rfl⟩ := List.mem_map.mp hmem
      exact (hnames k).2
  · have hmem : ∀ names ∈ ((granted host settings job).map
        (·.map (nameForm host.platform host.lowerCase))).dedup.take (maxFilesInForce settings job),
        ∃ dir ∈ granted host settings job,
          dir.map (nameForm host.platform host.lowerCase) = names := by
      intro names hnames
      exact List.mem_map.mp (List.mem_dedup.mp (List.mem_of_mem_take hnames))
    obtain ⟨targets, htargets, hsource⟩ := exists_map_eq hmem
    have hlength := congrArg List.length htargets
    rw [List.length_map, List.length_take] at hlength
    refine ⟨targets, hlength, ?_, fun names h => (allowed_of_mem_granted (hsource names h)).1,
      fun names h => (allowed_of_mem_granted (hsource names h)).2⟩
    rw [htargets]
    exact (List.nodup_dedup _).take

theorem confined_singleton (hconfined : ∀ calls answers, WithoutBackslash host settings job calls →
      WritesConfined host job (host.execute ⟨settings, calls⟩ job answers).writes)
    (hmay : MayWrite host settings job root) (hroom : 0 < fileRoom host settings job)
    (hnames : names ∈ granted host settings job)
    (hsize : content.utf8ByteSize ≤ maxBytesInForce settings job) :
    WritesConfined host job [⟨{ root with names := root.names ++ names }, content⟩] := by
  obtain ⟨hrepo, hallowed⟩ := allowed_of_mem_granted hnames
  have hrepos : ∀ others ∈ [names], RepoNames host.platform others := by
    simpa using hrepo
  have hallowedAll : ∀ others ∈ [names], AllowedNames settings job others := by
    simpa using hallowed
  have hcount : [names].length ≤ maxFilesInForce settings job :=
    Nat.le_trans hroom fileRoom_le_maxFilesInForce
  have hwrites := hconfined ([names].map (writeCall content)) (fun _ => willing)
    (withoutBackslash_writeCalls hrepos)
  rw [execute_writeCalls hmay hrepos hallowedAll hsize hcount] at hwrites
  exact hwrites

theorem withinJobLimits_of_confined
    (hconfined : ∀ calls answers, WithoutBackslash host settings job calls →
      WritesConfined host job (host.execute ⟨settings, calls⟩ job answers).writes)
    (hmay : MayWrite host settings job root) : WithinJobLimits host settings job root := by
  constructor
  · intro hroom pathTexts hjob names hnames
    have hempty : "".utf8ByteSize ≤ maxBytesInForce settings job := Nat.zero_le _
    have hwrites := confined_singleton hconfined hmay hroom hnames hempty
    obtain ⟨root', hroot', pathText, hmem, hunder⟩ :=
      hwrites.allowed pathTexts hjob _ List.mem_cons_self
    obtain rfl := Option.some.inj (hroot'.symm.trans hmay.root)
    exact ⟨pathText, hmem, hunder⟩
  · intro n hjob
    obtain ⟨targets, hlength, hnodup, hrepo, hallowed⟩ := @exists_filling host settings job
    rw [← hlength]
    apply length_le_jobMaximum hconfined hmay hjob hrepo hallowed hnodup
    rw [hlength]
    exact fileRoom_le_maxFilesInForce
  · intro hroom n hjob
    obtain ⟨names, hnames⟩ := List.exists_mem_of_ne_nil _ (granted_ne_nil hroom)
    obtain ⟨content, hcontent⟩ := exists_content (maxBytesInForce settings job)
    have hwrites := confined_singleton hconfined hmay hroom hnames hcontent.le
    rw [← hcontent]
    exact hwrites.bytes n hjob _ List.mem_cons_self

end necessary

/-- A job in the workspace of the repository `shop`, whose metadata lets plans write in `src`. -/
def shopJob : WorkerJob where
  jobId := "job_1"
  taskId := "task_1"
  typedRef := "agent-taskstate:task:github:1"
  stage := .dev
  workerType := .codex
  executionBackend := none
  status := .running
  workspaceRef := ⟨"/work/shop", .hostPath, none⟩
  executorInstanceId := none
  inputPrompt := "tidy up"
  repoRef := ⟨"owner", "shop", "main", none⟩
  capabilityRequirements := []
  riskLevel := .low
  approvalPolicy := ⟨.ask, none, none, some .workspaceWrite⟩
  retryPolicy := none
  retryCount := none
  loopFingerprint := none
  leaseOwner := none
  leaseExpiresAt := none
  requestedOutputs := none
  metadata := some [("tool_plan_allowed_paths", .str "src")]

/-- A process on POSIX in the workspace. -/
def shopHost : ToolPlanHost where
  platform := .posix
  cwd := ⟨[], ["work".toList, "shop".toList]⟩
  driveCwd := fun _ => []
  lowerCase := id
  lowerCase_lower := fun _ _ => rfl
  existsSync := fun _ => true

def shopRoot : Location := ⟨[], ["work".toList, "shop".toList]⟩

end ShipyardCp.Properties
