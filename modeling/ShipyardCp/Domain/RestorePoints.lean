import ShipyardCp.Domain.RuntimeSession
import ShipyardCp.Lib.Program
import ShipyardCp.Lib.RestoreRecords

/-! Restore points of runtime sessions: what listed files hold is recorded and written to an artifact,
and is put back later. -/

namespace ShipyardCp.Domain

open Types Lib Lib.NodePath

/-- The process a manager runs in: its paths, how its file systems compare the characters of names, how
it writes times and JSON, and what it reads in bytes that are not UTF-8. -/
structure WorkspaceHost where
  platform : Platform
  driveCwd : List Char → List (List Char)
  lowerCase : List Char → List Char
  foldName : Char → Char
  foldName_digit : ∀ c, c.isDigit = true → foldName c = c
  isoText : Timestamp → String
  stringify : Json → String
  lossyDecode : ByteArray → String

abbrev DeviceName := List Char × List Char

abbrev WorkspaceTree := FileTree DeviceName ByteArray

inductive RestoreFailure where
  | message (text : String)
  | file (error : FileError)

namespace WorkspaceHost

variable (host : WorkspaceHost)

def place (loc : Location) : List DeviceName :=
  loc.names.map fun name => (loc.device, name.map host.foldName)

def decodeUtf8 (bytes : ByteArray) : String := (String.fromUTF8? bytes).getD (host.lossyDecode bytes)

def resolveWorkspacePath (workspaceRoot : Location) (repoPath : String) :
    Except RestoreFailure Location :=
  let resolved := NodePath.resolve host.platform host.driveCwd workspaceRoot repoPath.toList
  let relative := NodePath.relative host.platform host.lowerCase workspaceRoot resolved
  if ['.', '.'].isPrefixOf relative || isAbsolute host.platform relative then
    .error (.message s!"path escapes workspace: {repoPath}")
  else .ok resolved

end WorkspaceHost

structure RestorePointFile where
  path : String
  existed : Bool
  content : Option String
  deriving DecidableEq

structure RestorePoint where
  restorePointId : String
  sessionId : String
  jobId : String
  createdAt : Timestamp
  files : List RestorePointFile
  artifactPath : Option String
  deriving DecidableEq

structure RestorePointInput where
  sessionId : String
  jobId : String
  paths : List String
  mode : RestorePointMode

def RestorePoint.json (host : WorkspaceHost) (restorePoint : RestorePoint) : Json :=
  .obj [("restore_point_id", .str restorePoint.restorePointId),
    ("session_id", .str restorePoint.sessionId), ("job_id", .str restorePoint.jobId),
    ("created_at", .str (host.isoText restorePoint.createdAt)),
    ("files", .arr (restorePoint.files.map fun file =>
      .obj ([("path", .str file.path), ("existed", .bool file.existed)] ++
        (file.content.map fun content => ("content", Json.str content)).toList)))]

structure RestorePointManager where
  workspaceRoot : Location
  artifactRoot : Location

namespace RestorePointManager

def new (workspaceRoot : Location) : RestorePointManager where
  workspaceRoot := workspaceRoot
  artifactRoot := { workspaceRoot with
    names := workspaceRoot.names ++ ["artifacts".toList, "jobs".toList] }

variable (host : WorkspaceHost) (m : RestorePointManager)

def artifactName (restorePointId : String) : List Char :=
  restorePointId.toList ++ ".restore-point.json".toList

def artifactLocation (jobId restorePointId : String) : Location where
  device := m.artifactRoot.device
  names := walk m.artifactRoot.names
    (parts host.platform jobId.toList ++ parts host.platform (artifactName restorePointId))

def repoFile (pathText : String) : Except RestoreFailure (String × Location) :=
  match normalizeRepoPath host.platform (some (.str pathText)) with
  | .error message => .error (.message message)
  | .ok path =>
    match host.resolveWorkspacePath m.workspaceRoot path with
    | .error failure => .error failure
    | .ok location => .ok (path, location)

def snapshotFile (tree : WorkspaceTree) (mode : RestorePointMode) (pathText : String) :
    Except RestoreFailure RestorePointFile :=
  match m.repoFile host pathText with
  | .error failure => .error failure
  | .ok (path, location) =>
    let existed := (tree.entry (host.place location)).isSome
    if mode = .snapshot ∧ existed = true then
      match tree.readFile (host.place location) with
      | .error error => .error (.file error)
      | .ok bytes => .ok ⟨path, existed, some (host.decodeUtf8 bytes)⟩
    else .ok ⟨path, existed, none⟩

def writeUtf8 (place : List DeviceName) (text : String) :
    EStateM RestoreFailure WorkspaceTree Unit := do
  match (← get).makeDirectories place.dropLast with
  | .error error => throw (.file error)
  | .ok tree => set tree
  match (← get).writeFile place text.toByteArray with
  | .error error => throw (.file error)
  | .ok tree => set tree

def rmSync (place : List DeviceName) : EStateM RestoreFailure WorkspaceTree Unit := do
  match (← get).remove place with
  | .error error => throw (.file error)
  | .ok tree => set tree

def writeRestorePoint (jobId : String) (restorePoint : RestorePoint) :
    EStateM RestoreFailure WorkspaceTree String := do
  let location := m.artifactLocation host jobId restorePoint.restorePointId
  writeUtf8 (host.place location) (host.stringify (restorePoint.json host) ++ "\n")
  pure (String.ofList (slashed
    (NodePath.relative host.platform host.lowerCase m.workspaceRoot location)))

def createRestorePoint (now : Timestamp) (input : RestorePointInput) :
    EStateM RestoreFailure WorkspaceTree RestorePoint := do
  let tree ← get
  let restorePoint (files : List RestorePointFile) : RestorePoint :=
    { restorePointId := s!"rp_{input.sessionId}_{now}"
      sessionId := input.sessionId
      jobId := input.jobId
      createdAt := now
      files := files
      artifactPath := none }
  if input.mode = .disabled then pure (restorePoint [])
  else
    match input.paths.mapM (m.snapshotFile host tree input.mode) with
    | .error failure => throw failure
    | .ok files =>
      let artifactPath ← m.writeRestorePoint host input.jobId (restorePoint files)
      pure { restorePoint files with artifactPath := some artifactPath }

def restoreFile (file : RestorePointFile) : EStateM RestoreFailure WorkspaceTree Unit := do
  match host.resolveWorkspacePath m.workspaceRoot file.path with
  | .error failure => throw failure
  | .ok location =>
    let tree ← get
    if file.existed then writeUtf8 (host.place location) (file.content.getD "")
    else if (tree.entry (host.place location)).isSome then rmSync (host.place location)
    else pure ()

def restore (restorePoint : RestorePoint) : EStateM RestoreFailure WorkspaceTree Unit :=
  forM restorePoint.files (m.restoreFile host)

end RestorePointManager

/-- A session with the files around it, and what it refers to of its restore points. -/
structure RestoringSession where
  tree : WorkspaceTree
  session : RuntimeSession
  artifactRefs : List String
  restorePointRefs : List String

namespace RestoringSession

/-- Makes a restore point, unless the session has no job, no manager or a policy without them. -/
def createRestorePoint (host : WorkspaceHost) (manager : Option RestorePointManager) (now : Timestamp)
    (paths : List String) (s : RestoringSession) :
    Except RestoreFailure (Option RestorePoint) × RestoringSession :=
  match s.session.job, manager with
  | some job, some manager =>
    if s.session.policy.restorePoints = .disabled then (.ok none, s)
    else
      match (manager.createRestorePoint host now
        ⟨s.session.sessionId, job.jobId, paths, s.session.policy.restorePoints⟩).run s.tree with
      | .error failure tree => (.error failure, { s with tree := tree })
      | .ok restorePoint tree =>
        let referred := restorePoint.artifactPath.filter (· ≠ "")
        (.ok (some restorePoint), { s with
          tree := tree
          artifactRefs := s.artifactRefs ++ referred.toList
          restorePointRefs := s.restorePointRefs ++
            if referred.isSome then [restorePoint.restorePointId] else []
          session := s.session.recordEvent now .restorePointCreated
            s!"restore point created: {restorePoint.restorePointId}" none })
  | _, _ => (.ok none, s)

end RestoringSession

end ShipyardCp.Domain
