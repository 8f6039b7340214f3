import ShipyardCp.Lib.Transition

/-! The two executors that run a job as a process of a command line tool, event by event. -/

namespace ShipyardCp.Domain
open Lib

/-- `ClaudeCodeExecutor` and `OpenCodeExecutor`. -/
inductive CliKind where
  | claude | openCode

inductive CliFile where
  | prompt | config | stdout | stderr | claudeLog | session
  | other (name : String)
  deriving DecidableEq

namespace CliKind

def preparedFiles : CliKind → List CliFile
  | claude => [.prompt]
  | openCode => [.prompt, .config]

/-- What `collectArtifacts` looks for. -/
def candidates : CliKind → List CliFile
  | claude => [.claudeLog, .session]
  | openCode => [.stdout, .stderr, .prompt, .config]

end CliKind

/-- What the promise of `runCli` settles to. -/
inductive CliSettling where
  | resolved (success : Bool)
  | rejected
  deriving DecidableEq

/-- How far an `execute` call is. -/
inductive CliPhase where
  | idle | preparing | awaiting
  | collected (artifacts : List CliFile)
  | failing | returned
  deriving DecidableEq

/-- A result, with the files that are there when it is returned. -/
structure CliAnswer where
  success : Bool
  artifacts : List CliFile
  files : List CliFile

/-- A job: `running` while it is in `runningJobs`, `alive` while its process has not closed, `cancels` for
the calls that are removing its directory, `exit` while a handler writes the output of its process, and
`interrupted` once it was cancelled or timed out. -/
structure CliJob where
  phase : CliPhase
  files : List CliFile
  alive : Bool
  running : Bool
  completed : Bool
  cancels : Nat
  exit : Option Bool
  settled : Option CliSettling
  interrupted : Bool
  answers : List CliAnswer

inductive CliEvent where
  | execute
  | prepared (ok : Bool)
  | filesChange (files : List CliFile)
  | timeout
  | close (success : Bool)
  | wroteLogs (ok : Bool)
  | error
  | cancel
  | cancelRemoved (removed : Bool)
  | collect
  | finish (removed : Bool)

namespace CliJob

def new (files : List CliFile) : CliJob :=
  ⟨.idle, files, false, false, false, 0, none, none, false, []⟩

def settle (s : CliJob) (settling : CliSettling) : CliJob :=
  { s with settled := s.settled.or (some settling) }

def answer (s : CliJob) (success : Bool) (artifacts : List CliFile) : CliJob :=
  { s with phase := .returned, answers := s.answers ++ [⟨success, artifacts, s.files⟩] }

def perform (kind : CliKind) (debug : Bool) (s : CliJob) : CliEvent → Option CliJob
  | .execute => if s.phase = .idle then some { s with phase := .preparing } else none
  | .prepared ok =>
    if s.phase ≠ .preparing then none
    else if ok then some { s with
      phase := .awaiting, files := kind.preparedFiles ++ s.files, alive := true, running := true }
    else some { s with phase := .failing }
  | .filesChange files => if s.alive then some { s with files } else none
  | .timeout =>
    if s.running && !s.completed then
      some (settle { s with completed := true, interrupted := true } (.resolved false))
    else none
  | .close success =>
    if s.alive then
      let closed := { s with alive := false, completed := true, running := false }
      match kind with
      | .claude => some (closed.settle (.resolved success))
      | .openCode => some { closed with exit := some success }
    else none
  | .wroteLogs ok => s.exit.map fun success =>
    if ok then settle { s with exit := none, files := [.stdout, .stderr] ++ s.files } (.resolved success)
    else { s with exit := none }
  | .error =>
    if s.alive then some (settle { s with completed := true, running := false } .rejected) else none
  | .cancel =>
    if s.running then
      match kind with
      | .claude => some { s with completed := true, interrupted := true, cancels := s.cancels + 1 }
      | .openCode => some { s with completed := true, interrupted := true, running := false }
    else some s
  | .cancelRemoved removed =>
    if s.cancels = 0 then none
    else some { s with
      cancels := s.cancels - 1, running := false, files := if removed then [] else s.files }
  | .collect =>
    if s.phase ≠ .awaiting then none
    else s.settled.map fun
      | .resolved _ => { s with phase := .collected (kind.candidates.filter (· ∈ s.files)) }
      | .rejected => { s with phase := .failing }
  | .finish removed =>
    match s.phase with
    | .collected artifacts =>
      let success := decide (s.settled = some (.resolved true))
      if debug then some (s.answer success artifacts)
      else if removed then some (answer { s with files := [] } success artifacts)
      else some { s with phase := .failing }
    | .failing =>
      match kind with
      | .claude => some (answer { s with files := if removed then [] else s.files } false [])
      | .openCode => some (s.answer false [])
    | _ => none

end CliJob

def performJob (kind : CliKind) (debug : Bool) (s : String → CliJob) (step : String × CliEvent) :
    Option (String → CliJob) :=
  ((s step.1).perform kind debug step.2).map (Function.update s step.1)

def cliExecutor (kind : CliKind) (debug : Bool) : Machine (String → CliJob) (String × CliEvent) :=
  .ofNext (fun s => ∀ jobId, ∃ files, s jobId = .new files) (performJob kind debug)

end ShipyardCp.Domain
