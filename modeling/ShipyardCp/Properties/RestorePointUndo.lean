import ShipyardCp.Domain.RestorePoints
import ShipyardCp.Domain.ToolPlanExecutor
import ShipyardCp.Properties.SessionLimits
import ShipyardCp.Lib.NumberedIds

/-! Restoring a point of a session undoes what happened to the listed files since, and leaves the
artifacts of its other points alone: exactly for points of listed paths whose files can be put back, made
at instants of their own. -/

namespace ShipyardCp.Properties

open Types Domain Lib Lib.NodePath Machine RestorePointManager RuntimeSession FileTree

/-- The calls of a session with restore points, and what happens to the files around it. -/
inductive RestoringOp where
  | session (op : SessionOp)
  | createRestorePoint (paths : List String)
  | change (change : FileTree.Change DeviceName ByteArray)
  | restore (restorePoint : RestorePoint)

structure RestoringCall where
  now : Timestamp
  op : RestoringOp

section runs

variable (host : WorkspaceHost) (m : RestorePointManager)

def performRestoring (s : RestoringSession) (call : RestoringCall) : RestoringSession :=
  match call.op with
  | .session op => { s with session := s.session.perform host.platform ⟨call.now, op⟩ }
  | .createRestorePoint paths => (s.createRestorePoint host (some m) call.now paths).2
  | .change change => { s with tree := s.tree.apply change }
  | .restore restorePoint => { s with tree := finalState (m.restore host restorePoint) s.tree }

def restoringRuns : Machine RestoringSession RestoringCall where
  init s := ∃ sessionId policy tree, s = ⟨tree, .new sessionId policy, [], []⟩
  step s call s' := s' = performRestoring host m s call

/-- The restore point that a call hands out. -/
def pointMade (s : RestoringSession) (call : RestoringCall) : Option RestorePoint :=
  match call.op with
  | .createRestorePoint paths =>
    match (s.createRestorePoint host (some m) call.now paths).1 with
    | .ok restorePoint => restorePoint
    | .error _ => none
  | _ => none

def pointsMade (h : History RestoringSession RestoringCall) : List RestorePoint :=
  h.filterMap fun p => pointMade host m p.1 p.2

def placesOf (paths : List String) : List (List DeviceName) :=
  paths.filterMap fun pathText => (m.repoFile host pathText).toOption.map fun file => host.place file.2

def listedPlaces (call : RestoringCall) : List (List DeviceName) :=
  match call.op with
  | .createRestorePoint paths => placesOf host m paths
  | _ => []

def jobIdOf (s : RestoringSession) : String := (s.session.job.map (·.jobId)).getD ""

def artifactPlace (jobId restorePointId : String) : List DeviceName :=
  host.place (m.artifactLocation host jobId restorePointId)

def artifactDirectory (jobId sessionId : String) : List DeviceName :=
  host.place ⟨m.artifactRoot.device, walk m.artifactRoot.names (parts host.platform jobId.toList ++
      (parts host.platform ("rp_".toList ++ sessionId.toList)).dropLast)⟩

/-- Restoring brings each listed file back to what it held before, and removes it where there was
nothing, whatever happened to the listed files in between. -/
def RestoreUndoes (before after : WorkspaceTree) (restorePoint : RestorePoint)
    (listed : List (List DeviceName)) : Prop :=
  ∀ changes : List (FileTree.Change DeviceName ByteArray), (∀ change ∈ changes, change.path ∈ listed) →
    wp (m.restore host restorePoint)
      (returns fun t => ∀ place ∈ listed, t.entry place = before.entry place)
      (after.applyAll changes)

/-- A point that a call hands out undoes, and its artifact goes where none of the points before has
one. -/
def PointKept (h : History RestoringSession RestoringCall) (s : RestoringSession)
    (call : RestoringCall) (s' : RestoringSession) : Prop :=
  ∀ restorePoint, pointMade host m s call = some restorePoint →
    RestoreUndoes host m s.tree s'.tree restorePoint (listedPlaces host m call) ∧
    ∀ earlier ∈ pointsMade host m h, artifactPlace host m earlier.jobId earlier.restorePointId ≠
      artifactPlace host m restorePoint.jobId restorePoint.restorePointId

def KeepsContent (mode : RestorePointMode) (content : ByteArray) : Prop :=
  match mode with
  | .snapshot => content.IsValidUTF8
  | _ => content = .empty

/-- The listed paths are of files that the mode keeps, or of nothing; none lies above the artifact, or
above another one unless a file that is not listed stands in the way of that. -/
structure CanRestore (tree : WorkspaceTree) (mode : RestorePointMode)
    (listed : List (List DeviceName)) (artifact : List DeviceName) : Prop where
  files : ∀ place ∈ listed, ∀ entry, tree.entry place = some entry →
    ∃ content, entry = .file content ∧ KeepsContent mode content
  artifact_apart : ∀ place ∈ listed, ¬Above place artifact
  apart : ∀ place ∈ listed, ∀ below ∈ listed, Above place below →
    ∃ f, f ∉ listed ∧ Above f below ∧ (f = artifact ∨ tree.isFile f = true)

/-- A point is made of paths that can be restored, and no point before it at the same instant for the
same directory. -/
def PointAllowed (h : History RestoringSession RestoringCall) (s : RestoringSession)
    (call : RestoringCall) : Prop :=
  (pointMade host m s call).isSome = true →
    CanRestore s.tree s.session.policy.restorePoints (listedPlaces host m call)
      (artifactPlace host m (jobIdOf s) s!"rp_{s.session.sessionId}_{call.now}") ∧
    ∀ p ∈ h, (pointMade host m p.1 p.2).isSome = true →
      ¬(p.2.now = call.now ∧ artifactDirectory host m (jobIdOf p.1) p.1.session.sessionId =
        artifactDirectory host m (jobIdOf s) s.session.sessionId)

end runs

section programs

variable {host : WorkspaceHost} {m : RestorePointManager} {t : WorkspaceTree}
  {place : List DeviceName} {text : String}
  {Q : EStateM.Result RestoreFailure WorkspaceTree Unit → Prop}

theorem wp_writeUtf8 (hQ : ∀ e s, ¬Q (.error e s)) : wp (writeUtf8 place text) Q t ↔
      ∃ t', t.put place text.toByteArray = .ok t' ∧ Q (.ok ⟨⟩ t') := by
  unfold writeUtf8 put
  simp only [bind_eq_ok, wp_bind, wp_get, andThen_ok]
  cases t.makeDirectories place.dropLast with
  | error e => simp [hQ]
  | ok t₁ =>
    cases hwrite : t₁.writeFile place text.toByteArray with
    | error e => simp [hwrite, hQ]
    | ok t' => simp [hwrite]

theorem wp_rmSync (hQ : ∀ e s, ¬Q (.error e s)) : wp (rmSync place) Q t ↔
    ∃ t', t.remove place = .ok t' ∧ Q (.ok ⟨⟩ t') := by
  unfold rmSync
  rw [wp_bind, wp_get, andThen_ok]
  cases t.remove place with
  | error e => simp [hQ]
  | ok t' => simp

def recordOf (file : RestorePointFile) (place : List DeviceName) :
    List DeviceName × Option ByteArray :=
  (place, if file.existed then some (file.content.getD "").toByteArray else none)

theorem wp_restoreFile {file : RestorePointFile} {location : Location}
    (hresolve : host.resolveWorkspacePath m.workspaceRoot file.path = .ok location)
    (hQ : ∀ e s, ¬Q (.error e s)) : wp (m.restoreFile host file) Q t ↔
      ∃ t', t.restoreOne (recordOf file (host.place location)) = .ok t' ∧ Q (.ok ⟨⟩ t') := by
  unfold restoreFile recordOf
  rw [hresolve]
  simp only [wp_bind, wp_get, andThen_ok]
  cases file.existed with
  | true => simpa [restoreOne] using wp_writeUtf8 hQ
  | false =>
    simp only [Bool.false_eq_true, if_false, wp_ite, restoreOne]
    split_ifs with hsome
    · exact wp_rmSync hQ
    · simp

theorem wp_restoreFiles {files : List RestorePointFile}
    {records : List (List DeviceName × Option ByteArray)}
    (hrecords : List.Forall₂ (fun file record => ∃ location,
      host.resolveWorkspacePath m.workspaceRoot file.path = .ok location ∧
        record = recordOf file (host.place location)) files records)
    (hQ : ∀ e s, ¬Q (.error e s)) : wp (forM files (m.restoreFile host)) Q t ↔
      ∃ t', restoreAll records t = .ok t' ∧ Q (.ok ⟨⟩ t') := by
  induction hrecords generalizing t with
  | nil =>
    rw [List.forM_nil, wp_pure, restoreAll, List.foldlM_nil]
    refine ⟨fun hq => ⟨t, rfl, hq⟩, ?_⟩
    rintro ⟨t', ht, hq⟩
    exact Except.ok.inj ht ▸ hq
  | @cons file record files records hfirst _ ih =>
    obtain ⟨location, hresolve, rfl⟩ := hfirst
    rw [List.forM_cons, wp_bind, wp_restoreFile hresolve (by simp [hQ]), restoreAll, List.foldlM_cons]
    simp only [andThen_ok, ih]
    constructor
    · rintro ⟨t₁, hone, t', hall, hq⟩
      exact ⟨t', by rw [hone]; exact hall, hq⟩
    · rintro ⟨t', hall, hq⟩
      obtain ⟨t₁, hone, hrest⟩ := bind_eq_ok.mp hall
      exact ⟨t₁, hone, t', hrest, hq⟩

end programs

section creation

variable {host : WorkspaceHost} {m : RestorePointManager} {tree tree' : WorkspaceTree}
  {mode : RestorePointMode} {now : Timestamp}

/-- What a restore point tells of a place. -/
def recordedIn (host : WorkspaceHost) (tree : WorkspaceTree) (mode : RestorePointMode)
    (place : List DeviceName) : Option ByteArray :=
  (tree.entry place).map fun _ =>
    match mode, tree.readFile place with
    | .snapshot, .ok bytes => (host.decodeUtf8 bytes).toByteArray
    | _, _ => .empty

theorem repoFile_eq_ok {pathText path : String} {location : Location}
    (h : m.repoFile host pathText = .ok (path, location)) :
    host.resolveWorkspacePath m.workspaceRoot path = .ok location := by
  unfold repoFile at h
  cases hnormalize : normalizeRepoPath host.platform (some (.str pathText)) with
  | error message => simp [hnormalize] at h
  | ok normalized =>
    rw [hnormalize] at h
    cases hresolve : host.resolveWorkspacePath m.workspaceRoot normalized with
    | error failure => simp [hresolve] at h
    | ok resolved =>
      simp only [hresolve] at h
      obtain ⟨rfl, rfl⟩ := Prod.mk.inj (Except.ok.inj h)
      exact hresolve

theorem snapshotFile_eq_ok {pathText : String} {file : RestorePointFile}
    (h : m.snapshotFile host tree mode pathText = .ok file) :
    ∃ location, m.repoFile host pathText = .ok (file.path, location) ∧
      recordOf file (host.place location) =
        (host.place location, recordedIn host tree mode (host.place location)) := by
  unfold snapshotFile at h
  cases hrepo : m.repoFile host pathText with
  | error failure => simp [hrepo] at h
  | ok found =>
    obtain ⟨path, location⟩ := found
    simp only [hrepo] at h
    unfold recordOf recordedIn
    cases hentry : tree.entry (host.place location) with
    | none =>
      simp only [hentry, Option.isSome_none, Bool.false_eq_true, and_false, if_false] at h
      obtain rfl := Except.ok.inj h
      exact ⟨location, rfl, by simp [hentry]⟩
    | some entry =>
      cases mode with
      | snapshot =>
        simp only [hentry, Option.isSome_some, and_self, if_true] at h
        cases hread : tree.readFile (host.place location) with
        | error error => simp [hread] at h
        | ok bytes =>
          simp only [hread] at h
          obtain rfl := Except.ok.inj h
          exact ⟨location, rfl, by simp [hentry, hread]⟩
      | manifest =>
        simp only [hentry, reduceCtorEq, false_and, if_false] at h
        obtain rfl := Except.ok.inj h
        exact ⟨location, rfl, by simp [hentry]⟩
      | disabled =>
        simp only [hentry, reduceCtorEq, false_and, if_false] at h
        obtain rfl := Except.ok.inj h
        exact ⟨location, rfl, by simp [hentry]⟩

theorem records_of_mapM {paths : List String} {files : List RestorePointFile}
    (h : paths.mapM (m.snapshotFile host tree mode) = .ok files) :
    List.Forall₂ (fun file record => ∃ location,
      host.resolveWorkspacePath m.workspaceRoot file.path = .ok location ∧
        record = recordOf file (host.place location)) files
      (recordsOf (recordedIn host tree mode) (placesOf host m paths)) := by
  induction paths generalizing files with
  | nil =>
    obtain rfl := Except.ok.inj h
    exact .nil
  | cons pathText paths ih =>
    rw [List.mapM_cons] at h
    obtain ⟨file, hfile, hrest⟩ := bind_eq_ok.mp h
    obtain ⟨others, hothers, hfiles⟩ := bind_eq_ok.mp hrest
    obtain rfl := Except.ok.inj hfiles
    obtain ⟨location, hrepo, hrecord⟩ := snapshotFile_eq_ok hfile
    have hplaces : placesOf host m (pathText :: paths) =
        host.place location :: placesOf host m paths := by
      simp [placesOf, hrepo, Except.toOption]
    rw [hplaces, recordsOf, List.map_cons]
    exact .cons ⟨location, repoFile_eq_ok hrepo, hrecord.symm⟩ (ih hothers)

theorem createRestorePoint_eq_ok {input : RestorePointInput} {restorePoint : RestorePoint}
    (hmode : input.mode ≠ .disabled)
    (h : (m.createRestorePoint host now input).run tree = .ok restorePoint tree') :
    restorePoint.restorePointId = s!"rp_{input.sessionId}_{now}" ∧ restorePoint.jobId = input.jobId ∧
      input.paths.mapM (m.snapshotFile host tree input.mode) = .ok restorePoint.files ∧
      ∃ text : String, tree.put (artifactPlace host m input.jobId s!"rp_{input.sessionId}_{now}")
        text.toByteArray = .ok tree' := by
  have hwp : wp (m.createRestorePoint host now input) (· = .ok restorePoint tree') tree := h
  unfold createRestorePoint at hwp
  rw [wp_bind, wp_get, andThen_ok] at hwp
  simp only [if_neg hmode] at hwp
  cases hfiles : input.paths.mapM (m.snapshotFile host tree input.mode) with
  | error failure => simp [hfiles] at hwp
  | ok files =>
    simp only [hfiles] at hwp
    unfold writeRestorePoint at hwp
    simp only [wp_bind] at hwp
    rw [wp_writeUtf8 (by simp)] at hwp
    obtain ⟨t', hput, hresult⟩ := hwp
    simp only [andThen_ok, wp_pure, EStateM.Result.ok.injEq] at hresult
    obtain ⟨rfl, rfl⟩ := hresult
    exact ⟨rfl, rfl, rfl, _, hput⟩

variable {s : RestoringSession} {call : RestoringCall} {restorePoint : RestorePoint}

theorem pointMade_eq_some (h : pointMade host m s call = some restorePoint) :
    ∃ paths, call.op = .createRestorePoint paths ∧ s.session.policy.restorePoints ≠ .disabled ∧
      (m.createRestorePoint host call.now
        ⟨s.session.sessionId, jobIdOf s, paths, s.session.policy.restorePoints⟩).run s.tree =
          .ok restorePoint (performRestoring host m s call).tree := by
  obtain ⟨now, op⟩ := call
  cases op with
  | createRestorePoint paths =>
    refine ⟨paths, rfl, ?_⟩
    unfold pointMade at h
    unfold performRestoring
    simp only [RestoringSession.createRestorePoint] at h ⊢
    cases hjob : s.session.job with
    | none => simp [hjob] at h
    | some job =>
      simp only [hjob] at h
      unfold jobIdOf
      rw [hjob]
      by_cases hmode : s.session.policy.restorePoints = .disabled
      · simp [hmode] at h
      · refine ⟨hmode, ?_⟩
        simp only [if_neg hmode] at h ⊢
        simp only [Option.map_some, Option.getD_some]
        cases hrun : (m.createRestorePoint host now
            ⟨s.session.sessionId, job.jobId, paths, s.session.policy.restorePoints⟩).run s.tree with
        | error failure tree => simp [hrun] at h
        | ok made tree =>
          simp only [hrun] at h
          obtain rfl := Option.some.inj h
          rfl
  | _ => cases h

end creation

section undoing

variable {host : WorkspaceHost} {m : RestorePointManager} {before after : WorkspaceTree}
  {mode : RestorePointMode} {artifact : List DeviceName} {listed : List (List DeviceName)}

theorem decodeUtf8_toByteArray_iff {bytes : ByteArray} :
    (host.decodeUtf8 bytes).toByteArray = bytes ↔ bytes.IsValidUTF8 := by
  constructor
  · intro h
    rw [← h]
    exact (host.decodeUtf8 bytes).isValidUTF8
  · intro h
    simp [WorkspaceHost.decodeUtf8, String.fromUTF8?, h, String.fromUTF8]

theorem recordedIn_iff {place : List DeviceName} (hmode : mode ≠ .disabled) :
    before.entry place = (recordedIn host before mode place).map .file ↔
      ∀ entry, before.entry place = some entry →
        ∃ content, entry = .file content ∧ KeepsContent mode content := by
  unfold recordedIn
  cases hentry : before.entry place with
  | none => simp
  | some entry =>
    cases entry with
    | directory => simp
    | file content =>
      have hread : before.readFile place = .ok content := by
        simp [readFile, hentry]
      cases mode with
      | disabled => exact absurd rfl hmode
      | manifest => simp [KeepsContent, eq_comm]
      | snapshot => simp [KeepsContent, hread, ← @decodeUtf8_toByteArray_iff host, eq_comm]

theorem restorable_iff (hmode : mode ≠ .disabled) :
    FileTree.Restorable before listed (recordedIn host before mode) artifact ↔
      CanRestore before mode listed artifact :=
  ⟨fun h => ⟨fun place hplace => (recordedIn_iff hmode).mp (h.recorded place hplace),
    h.artifact_apart, h.apart⟩,
  fun h => ⟨fun place hplace => (recordedIn_iff hmode).mpr (h.files place hplace),
    h.artifact_apart, h.apart⟩⟩

theorem restoreUndoes_iff {paths : List String} {restorePoint : RestorePoint} {text : String}
    (hmode : mode ≠ .disabled)
    (hfiles : paths.mapM (m.snapshotFile host before mode) = .ok restorePoint.files)
    (hput : before.put artifact text.toByteArray = .ok after) :
    RestoreUndoes host m before after restorePoint (placesOf host m paths) ↔
      CanRestore before mode (placesOf host m paths) artifact := by
  have hrecords := records_of_mapM hfiles
  have hundoes : RestoreUndoes host m before after restorePoint (placesOf host m paths) ↔
      FileTree.Undoes before after (placesOf host m paths) (recordedIn host before mode) := by
    unfold RestoreUndoes FileTree.Undoes restore
    refine forall₂_congr fun changes _ => ?_
    rw [wp_restoreFiles hrecords (by simp)]
    simp
  have hrecorded : ∀ place ∈ placesOf host m paths,
      (recordedIn host before mode place).isSome = (before.entry place).isSome :=
    fun place _ => Option.isSome_map
  rw [hundoes, undoes_iff hput hrecorded, restorable_iff hmode]

end undoing

section artifacts

variable {host : WorkspaceHost} {m : RestorePointManager}

def stampOf (now : Timestamp) : List Char :=
  '_' :: (toString now).toList ++ ".restore-point.json".toList

theorem stamp_chars {now : Timestamp} {c : Char} (h : c ∈ (toString now).toList) :
    c.isDigit = true := by
  change c ∈ (Nat.repr now).toList at h
  rw [Nat.toList_repr] at h
  exact Nat.isDigit_of_mem_toDigits (by decide) (by decide) h

theorem isSeparator_stampOf {platform : Platform} {now : Timestamp} :
    ∀ c ∈ stampOf now, isSeparator platform c = false := by
  have hsuffix : ∀ c ∈ '_' :: ".restore-point.json".toList, isSeparator platform c = false := by
    have hall : ('_' :: ".restore-point.json".toList).all (fun c => !isSeparator platform c) = true := by
      cases platform <;> rfl
    intro c hc
    simpa using List.all_eq_true.mp hall c hc
  intro c hc
  rcases List.mem_append.mp hc with hc | hc
  · rcases List.mem_cons.mp hc with rfl | hdigit
    · exact hsuffix _ List.mem_cons_self
    · have hisDigit := stamp_chars hdigit
      rw [← Bool.not_eq_true]
      intro hseparator
      have hslash : c = '/' ∨ c = '\\' := by
        cases platform with
        | posix => exact Or.inl (by simpa [isSeparator] using hseparator)
        | win32 => simpa [isSeparator] using hseparator
      rcases hslash with rfl | rfl
      · exact absurd hisDigit (by decide)
      · exact absurd hisDigit (by decide)
  · exact hsuffix c (List.mem_cons_of_mem _ hc)

theorem isName_append_stampOf (l : List Char) (now : Timestamp) : isName (l ++ stampOf now) = true := by
  have hmem : '_' ∈ l ++ stampOf now := by
    simp [stampOf]
  have hne : ∀ name : List Char, '_' ∉ name → l ++ stampOf now ≠ name := by
    rintro name hname rfl
    exact hname hmem
  simp only [isName, isIdle, Bool.and_eq_true, Bool.not_eq_true', Bool.or_eq_false_iff,
    decide_eq_false_iff_not, decide_eq_true_eq, ne_eq]
  exact ⟨⟨hne [] (by decide), hne ['.'] (by decide)⟩, hne ['.', '.'] (by decide)⟩

theorem stampOf_inj {fold : Char → Char} (hfold : ∀ c, c.isDigit = true → fold c = c)
    {now now' : Timestamp} (h : (stampOf now).map fold = (stampOf now').map fold) : now = now' := by
  have hdigits : ∀ n : Timestamp, (toString n).toList.map fold = (toString n).toList := by
    intro n
    refine (List.map_congr_left fun c hc => ?_).trans (List.map_id _)
    exact hfold c (stamp_chars hc)
  unfold stampOf at h
  rw [List.map_append, List.map_append] at h
  have hstamp := List.append_cancel_right h
  rw [List.map_cons, List.map_cons, hdigits, hdigits] at hstamp
  exact toString_nat_inj (String.toList_inj.mp (List.cons.inj hstamp).2)

theorem artifactPlace_eq (jobId sessionId : String) (now : Timestamp) :
    artifactPlace host m jobId s!"rp_{sessionId}_{now}" = artifactDirectory host m jobId sessionId ++
        [(m.artifactRoot.device, ((parts host.platform ("rp_".toList ++ sessionId.toList)).getLastD [] ++
          stampOf now).map host.foldName)] := by
  have hname : artifactName s!"rp_{sessionId}_{now}" =
      ("rp_".toList ++ sessionId.toList) ++ stampOf now := by
    have hid : (s!"rp_{sessionId}_{now}").toList =
        "rp_".toList ++ sessionId.toList ++ ['_'] ++ (toString now).toList := by
      change ("rp_" ++ sessionId ++ "_" ++ toString now).toList = _
      rw [String.toList_append, String.toList_append, String.toList_append]
      rfl
    unfold artifactName stampOf
    rw [hid]
    simp only [List.append_assoc, List.cons_append, List.nil_append]
  unfold artifactPlace artifactDirectory artifactLocation WorkspaceHost.place
  rw [hname, parts_append isSeparator_stampOf, ← List.append_assoc,
    walk_concat (isName_append_stampOf _ _), List.map_append]
  rfl

theorem artifactPlace_eq_iff {jobId jobId' sessionId : String} {now later : Timestamp} :
    artifactPlace host m jobId s!"rp_{sessionId}_{now}" =
        artifactPlace host m jobId' s!"rp_{sessionId}_{later}" ↔
      now = later ∧ artifactDirectory host m jobId sessionId =
        artifactDirectory host m jobId' sessionId := by
  rw [artifactPlace_eq, artifactPlace_eq]
  constructor
  · intro h
    obtain ⟨hdirectory, hlast⟩ := List.append_inj' h rfl
    have htext := (Prod.mk.inj (List.cons.inj hlast).1).2
    rw [List.map_append, List.map_append] at htext
    exact ⟨stampOf_inj host.foldName_digit (List.append_cancel_left htext), hdirectory⟩
  · rintro ⟨rfl, hdirectory⟩
    rw [hdirectory]

end artifacts

section sessions

variable {host : WorkspaceHost} {m : RestorePointManager} {platform : Platform}

theorem decideCalls_sessionId (registry : RuntimeToolRegistry) (now : Timestamp)
    (calls : List ToolInvocationRequest) (s : RuntimeSession) :
    (decideCalls platform registry now calls s).1.sessionId = s.sessionId := by
  induction calls generalizing s with
  | nil => rfl
  | cons call calls ih =>
    unfold decideCalls
    simp only
    split_ifs
    · rw [ih]
      rfl
    · rfl

theorem promoteLoop_sessionId (now : Timestamp) (inputs : List RuntimeInput) (s : RuntimeSession) :
    (promoteLoop now inputs s).sessionId = s.sessionId := by
  induction inputs generalizing s with
  | nil => rfl
  | cons input inputs ih =>
    unfold promoteLoop
    split_ifs
    · exact ih s
    · rfl
    · rw [ih]
      rfl

theorem send_sessionId {s s' : RuntimeSession} {registry : RuntimeToolRegistry} {now : Timestamp}
    {turn : TurnRequest} (h : s.send platform registry now turn = .ok s') :
    s'.sessionId = s.sessionId := by
  unfold send at h
  obtain ⟨_, _, h⟩ := bind_eq_ok.mp h
  split_ifs at h with hturns
  · obtain rfl := Except.ok.inj h
    rfl
  · simp only at h
    split_ifs at h
    · obtain rfl := Except.ok.inj h
      rfl
    · have hdecided := @decideCalls_sessionId platform registry now (turn.toolCalls.getD []) s
      cases hcalls : decideCalls platform registry now (turn.toolCalls.getD []) s with
      | mk decided refused =>
      rw [hcalls] at hdecided
      simp only [hcalls] at h
      cases refused with
      | none =>
        obtain rfl := Except.ok.inj h
        exact hdecided
      | some reason =>
        obtain rfl := Except.ok.inj h
        exact hdecided

theorem admitInput_sessionId {s : RuntimeSession} {request : InputRequest} {now : Timestamp}
    {answer : InputReceipt × RuntimeSession} (h : s.admitInput now request = .ok answer) :
    answer.2.sessionId = s.sessionId := by
  unfold admitInput at h
  obtain ⟨_, _, h⟩ := bind_eq_ok.mp h
  simp only at h
  cases hexisting : s.admittedInputs.get? request.inputId with
  | none =>
    simp only [hexisting] at h
    obtain rfl := Except.ok.inj h
    rfl
  | some existing =>
    simp only [hexisting] at h
    split_ifs at h
    obtain rfl := Except.ok.inj h
    rfl

theorem answer_sessionId {s s' : RuntimeSession} {call : SessionCall}
    (h : s.answer platform call = .ok s') : s'.sessionId = s.sessionId := by
  obtain ⟨now, op⟩ := call
  cases op with
  | send registry turn => exact send_sessionId h
  | admitInput request =>
    have hmap : (s.admitInput now request).map (·.2) = .ok s' := h
    cases hadmitted : s.admitInput now request with
    | error e =>
      rw [hadmitted] at hmap
      cases hmap
    | ok answer =>
      rw [hadmitted] at hmap
      obtain rfl := Except.ok.inj hmap
      exact admitInput_sessionId hadmitted
  | promoteAdmittedInputs =>
    obtain ⟨_, _, h⟩ := bind_eq_ok.mp h
    obtain rfl := Except.ok.inj h
    exact promoteLoop_sessionId now _ s
  | start job =>
    obtain rfl := Except.ok.inj h
    rfl
  | interrupt reason =>
    obtain rfl := Except.ok.inj h
    rfl
  | complete summary =>
    obtain rfl := Except.ok.inj h
    rfl
  | fail reason =>
    obtain rfl := Except.ok.inj h
    rfl
  | close =>
    obtain rfl := Except.ok.inj h
    rfl

theorem performRestoring_sessionId (s : RestoringSession) (call : RestoringCall) :
    (performRestoring host m s call).session.sessionId = s.session.sessionId := by
  obtain ⟨now, op⟩ := call
  cases op with
  | session op =>
    have hsession : (performRestoring host m s ⟨now, .session op⟩).session =
        s.session.perform host.platform ⟨now, op⟩ := rfl
    rw [hsession]
    cases hanswer : s.session.answer host.platform ⟨now, op⟩ with
    | ok s' =>
      rw [perform_of_ok hanswer]
      exact answer_sessionId hanswer
    | error e => rw [perform_of_error hanswer]
  | createRestorePoint paths =>
    unfold performRestoring RestoringSession.createRestorePoint
    cases s.session.job with
    | none => rfl
    | some job =>
      simp only
      split_ifs with hdisabled
      · rfl
      · cases (m.createRestorePoint host now
          ⟨s.session.sessionId, job.jobId, paths, s.session.policy.restorePoints⟩).run s.tree with
        | error failure tree => rfl
        | ok restorePoint tree => rfl
  | change change => rfl
  | restore restorePoint => rfl

variable {h : History RestoringSession RestoringCall} {s t : RestoringSession}

theorem sessionId_of_run (hrun : (restoringRuns host m).Run h s) :
    ∀ p ∈ h, p.1.session.sessionId = s.session.sessionId := by
  induction hrun with
  | start _ => simp
  | @snoc h s call s' _ hstep ih =>
    obtain rfl : s' = performRestoring host m s call := hstep
    intro p hp
    rw [performRestoring_sessionId]
    rcases List.mem_append.mp hp with hp | hp
    · exact ih p hp
    · rw [List.mem_singleton.mp hp]

end sessions

section points

variable {host : WorkspaceHost} {m : RestorePointManager}
  {h : History RestoringSession RestoringCall} {s t : RestoringSession} {call : RestoringCall}

theorem pointMade_fields {restorePoint : RestorePoint}
    (hmade : pointMade host m s call = some restorePoint) :
    restorePoint.restorePointId = s!"rp_{s.session.sessionId}_{call.now}" ∧
      restorePoint.jobId = jobIdOf s := by
  obtain ⟨paths, _, hmode, hcreate⟩ := pointMade_eq_some hmade
  obtain ⟨hid, hjob, -⟩ := createRestorePoint_eq_ok hmode hcreate
  exact ⟨hid, hjob⟩

theorem pointKept_iff (hids : ∀ p ∈ h, p.1.session.sessionId = s.session.sessionId) :
    PointKept host m h s call (performRestoring host m s call) ↔ PointAllowed host m h s call := by
  unfold PointKept PointAllowed
  cases hmade : pointMade host m s call with
  | none => simp
  | some restorePoint =>
    obtain ⟨paths, hop, hmode, hcreate⟩ := pointMade_eq_some hmade
    obtain ⟨hid, hjob, hfiles, text, hput⟩ := createRestorePoint_eq_ok hmode hcreate
    have hlisted : listedPlaces host m call = placesOf host m paths := by
      simp [listedPlaces, hop]
    have hundoes := restoreUndoes_iff hmode hfiles hput
    simp only [Option.some.injEq, forall_eq', Option.isSome_some, forall_const, hlisted]
    refine and_congr hundoes ?_
    rw [hid, hjob]
    constructor
    · intro hapart p hp hearlier ⟨hnow, hdirectory⟩
      obtain ⟨earlier, hmadeEarlier⟩ := Option.isSome_iff_exists.mp hearlier
      obtain ⟨hidEarlier, hjobEarlier⟩ := pointMade_fields hmadeEarlier
      refine hapart earlier (List.mem_filterMap.mpr ⟨p, hp, hmadeEarlier⟩) ?_
      rw [hidEarlier, hjobEarlier, hids p hp]
      rw [hids p hp] at hdirectory
      exact artifactPlace_eq_iff.mpr ⟨hnow, hdirectory⟩
    · intro hapart earlier hearlier hplace
      obtain ⟨p, hp, hmadeEarlier⟩ := List.mem_filterMap.mp hearlier
      obtain ⟨hidEarlier, hjobEarlier⟩ := pointMade_fields hmadeEarlier
      rw [hidEarlier, hjobEarlier, hids p hp] at hplace
      refine hapart p hp (by rw [hmadeEarlier]; rfl) ?_
      rw [hids p hp]
      exact artifactPlace_eq_iff.mp hplace

/-- In a run of a session, every restore point undoes what happens to its files, in an artifact of its
own, exactly when every one is made of paths that can be restored and at an instant of its own. -/
theorem restorePoints_kept_iff (hrun : (restoringRuns host m).Run h t) :
    (restoringRuns host m).EveryStep (PointKept host m) h ↔ Guarded (PointAllowed host m) h := by
  constructor
  · intro hkept h₁ s call h₂ heq
    subst heq
    obtain ⟨s', hrun₁, hstep, _⟩ := hrun.split
    have hpoint := hkept h₁ s call h₂ s' rfl hstep
    obtain rfl : s' = performRestoring host m s call := hstep
    exact (pointKept_iff (sessionId_of_run hrun₁)).mp hpoint
  · intro hallowed h₁ s call h₂ s' heq hstep
    subst heq
    obtain ⟨_, hrun₁, _, _⟩ := hrun.split
    obtain rfl : s' = performRestoring host m s call := hstep
    exact (pointKept_iff (sessionId_of_run hrun₁)).mpr (hallowed h₁ s call h₂ rfl)

end points

section notes

/-- `JSON.stringify` with an indent of two, of values without numbers and texts without escapes. -/
def indentedJson : Nat → String → Json → String
  | _, _, .null => "null"
  | _, _, .bool b => toString b
  | _, _, .str s => "\"" ++ s ++ "\""
  | fuel + 1, indent, .arr (item :: items) =>
    let lines := (item :: items).map fun value => indent ++ "  " ++ indentedJson fuel (indent ++ "  ") value
    "[\n" ++ ",\n".intercalate lines ++ "\n" ++ indent ++ "]"
  | fuel + 1, indent, .obj (first :: members) =>
    let lines := (first :: members).map fun member =>
      indent ++ "  \"" ++ member.1 ++ "\": " ++ indentedJson fuel (indent ++ "  ") member.2
    "\x7b\n" ++ ",\n".intercalate lines ++ "\n" ++ indent ++ "\x7d"
  | _, _, .arr _ => "[]"
  | _, _, _ => "\x7b\x7d"

def noteHost : WorkspaceHost where
  platform := .posix
  driveCwd _ := []
  lowerCase name := name.map Char.toLower
  foldName c := c
  foldName_digit _ _ := rfl
  isoText now := s!"1970-01-01T00:00:00.00{now}Z"
  stringify := indentedJson 8 ""
  lossyDecode _ := "\uFFFD"

def noteManager : RestorePointManager := .new ⟨[], ["work".toList]⟩

def notePolicy (mode : RestorePointMode) : WorkerRuntimePolicy where
  mode := .interactive
  allowedPaths := none
  maxTurns := 1
  maxToolCalls := 1
  restrictedTools := false
  allowSubagents := false
  restorePoints := mode

def notePlace : List DeviceName := [([], "work".toList), ([], "note.txt".toList)]

/-- A new session in a workspace that holds one note. -/
def noteSession (mode : RestorePointMode) : RestoringSession where
  tree := empty.apply (.write notePlace "before".toByteArray)
  session := .new "s" (notePolicy mode)
  artifactRefs := []
  restorePointRefs := []

def noteStart : RestoringCall := ⟨5, .session (.start runtimeJob)⟩

def notePoint : RestoringCall := ⟨5, .createRestorePoint ["./note.txt"]⟩

def startedNotes (mode : RestorePointMode) : RestoringSession :=
  performRestoring noteHost noteManager (noteSession mode) noteStart

theorem noteRun (mode : RestorePointMode) :
    (restoringRuns noteHost noteManager).Run [(noteSession mode, noteStart), (startedNotes mode, notePoint)]
      (performRestoring noteHost noteManager (startedNotes mode) notePoint) := by
  have hnew : (restoringRuns noteHost noteManager).Run [] (noteSession mode) :=
    .start ⟨"s", notePolicy mode, _, rfl⟩
  exact (hnew.snoc rfl).snoc rfl

theorem canRestore_note : CanRestore (startedNotes .snapshot).tree .snapshot
    (listedPlaces noteHost noteManager notePoint)
    (artifactPlace noteHost noteManager "job" "rp_s_5") := by
  have hlisted : listedPlaces noteHost noteManager notePoint = [notePlace] := by
    decide +kernel
  have hentry : (startedNotes .snapshot).tree.entry notePlace = some (.file "before".toByteArray) := by
    decide +kernel
  rw [hlisted]
  refine ⟨?_, by decide +kernel, ?_⟩
  · intro place hplace entry hfound
    obtain rfl := List.mem_singleton.mp hplace
    obtain rfl := Option.some.inj (hentry.symm.trans hfound)
    exact ⟨_, rfl, "before".isValidUTF8⟩
  · intro place hplace below hbelow habove
    obtain rfl := List.mem_singleton.mp hplace
    obtain rfl := List.mem_singleton.mp hbelow
    exact absurd rfl habove.2

/-- A snapshot of the note can be restored. -/
theorem note_snapshot_kept : ∃ h t, (restoringRuns noteHost noteManager).Run h t ∧
    t.restorePointRefs = ["rp_s_5"] ∧
    (restoringRuns noteHost noteManager).EveryStep (PointKept noteHost noteManager) h := by
  refine ⟨_, _, noteRun .snapshot, by decide +kernel, (restorePoints_kept_iff (noteRun .snapshot)).mpr ?_⟩
  have hstart : Guarded (PointAllowed noteHost noteManager) [(noteSession .snapshot, noteStart)] :=
    guarded_snoc.mpr ⟨guarded_nil _, fun hmade => by cases hmade⟩
  refine guarded_snoc.mpr ⟨hstart, fun _ => ⟨canRestore_note, ?_⟩⟩
  intro p hp hmade
  obtain rfl := List.mem_singleton.mp hp
  cases hmade

/-- A manifest of the note tells nothing of what is in it: restoring it empties the note. -/
theorem note_manifest_not_kept : ¬∀ h t, (restoringRuns noteHost noteManager).Run h t →
    (restoringRuns noteHost noteManager).EveryStep (PointKept noteHost noteManager) h := by
  intro hall
  have hkept := hall _ _ (noteRun .manifest) [(noteSession .manifest, noteStart)] _ notePoint [] _ rfl rfl
  have hmade : pointMade noteHost noteManager (startedNotes .manifest) notePoint =
      some ⟨"rp_s_5", "s", "job", 5, [⟨"note.txt", true, none⟩],
        some "artifacts/jobs/job/rp_s_5.restore-point.json"⟩ := by
    decide +kernel
  have hundoes := (hkept _ hmade).1 [] (by simp)
  have hentry := wp_onState_iff.mp (wp_mono hundoes fun _ => onState_of_returns) notePlace
    (by decide +kernel)
  exact absurd hentry (by decide +kernel)

end notes

end ShipyardCp.Properties
