import ShipyardCp.Lib.Transition

/-! The manager of the `opencode serve` process: what its calls do between two awaits, and what the events
of the processes that it has spawned do. -/

namespace ShipyardCp.Domain

open Lib

structure ServerManagerConfig where
  baseUrl : String
  startupTimeout : Nat

structure ServerStatus where
  healthy : Bool := false
  pid : Option Nat := none
  baseUrl : String
  startedAt : Option Nat := none
  lastHealthCheck : Option Nat := none
  error : Option String := none

/-- A `ChildProcess`: one that could not be spawned has no pid; `killed` is set by a signal that was sent,
and `closed` once the close event has been handled. -/
structure ServeProcess where
  pid : Option Nat
  killed : Bool := false
  exited : Bool := false
  closed : Bool := false
  deriving DecidableEq

/-- How `kill` ends: the signal is sent, there is nothing to send it to, an error event is emitted, or the
signal is not supported. -/
inductive KillAnswer where
  | sent
  | notSent
  | refused (message : String)
  | threw
  deriving DecidableEq

inductive HealthAnswer where
  | response (status : Nat)
  | failed (message : String)

/-- `response.ok`. -/
def HealthAnswer.ok : HealthAnswer → Bool
  | .response status => 200 ≤ status && status ≤ 299
  | .failed _ => false

/-- How `spawn` ends; a process that cannot be spawned has no pid and gets an error event. -/
inductive SpawnAnswer where
  | process (pid : Option Nat)
  | threw

/-- What the clock, the file system, the processes and the server answer in one step of a call. -/
structure ServerAnswers where
  now : Nat := 0
  sigterm : KillAnswer := .sent
  sigkill : KillAnswer := .sent
  configWritten : Bool := true
  spawned : SpawnAnswer := .process (some 0)
  health : HealthAnswer := .response 200

/-- What follows a stop: nothing, the rest of a start, or the end of a start that failed. -/
inductive AfterStop where
  | done | restart | giveUp

/-- What a call awaits; a health check may be one of `ensureServerReady`. -/
inductive ServerCall where
  | healthChecking (ensure : Bool)
  | healthChecked (healthy : Bool)
  | stopping (p : Nat) (closedBefore : Bool) (after : AfterStop)
  | writingConfig
  | awaitingHealth (startedAt : Nat)
  | waiting (startedAt : Nat)
  | waited (ready : Bool)
  | returned (answer : Option Bool)
  | rejected

def AfterStop.call : AfterStop → ServerCall
  | .done => .returned none
  | .restart => .writingConfig
  | .giveUp => .returned (some false)

/-- The manager, with all processes it has spawned; `process` is the one it tracks. -/
structure ServerManager where
  config : ServerManagerConfig
  status : ServerStatus
  process : Option Nat := none
  healthCheckInterval : Bool := false
  processes : List ServeProcess := []

namespace ServerManager

def new (config : ServerManagerConfig) : ServerManager where
  config := config
  status := { baseUrl := config.baseUrl }

variable (m : ServerManager)

def onError (message : String) : ServerManager :=
  { m with status := { m.status with healthy := false, error := some message } }

def onClose : ServerManager := { m with status := { m.status with healthy := false, pid := none } }

def update (p : Nat) (f : ServeProcess → ServeProcess) : ServerManager :=
  { m with processes := m.processes.modify p f }

def isKilled (p : Nat) : Bool := m.processes[p]?.any (·.killed)

def isClosed (p : Nat) : Bool := m.processes[p]?.any (·.closed)

/-- `kill`, and whether it throws; a process that has exited gets no signal. -/
def kill (p : Nat) (answer : KillAnswer) : ServerManager × Bool :=
  if m.processes[p]?.any (·.exited) then (m, false)
  else match answer with
    | .sent => (m.update p fun proc => { proc with killed := true }, false)
    | .notSent => (m, false)
    | .refused message => (m.onError message, false)
    | .threw => (m, true)

/-- `stop` up to the wait for the close event of the process. -/
def stop (a : ServerAnswers) (after : AfterStop) : ServerManager × ServerCall :=
  let m := { m with healthCheckInterval := false }
  match m.process with
  | none => (m, after.call)
  | some p =>
    if m.isKilled p then ({ m with process := none }, after.call)
    else
      let (killed, threw) := m.kill p a.sigterm
      (if threw then (m.kill p a.sigkill).1 else killed, .stopping p (m.isClosed p) after)

def finishStop (p : Nat) (closedBefore : Bool) (a : ServerAnswers) : ServerManager :=
  let m := if m.isClosed p && !closedBefore then m
    else match m.process with
      | some q => if m.isKilled q then m else (m.kill q a.sigkill).1
      | none => m
  { m with
    process := none
    status := { m.status with healthy := false, pid := none, error := none } }

def start (a : ServerAnswers) : ServerManager × ServerCall :=
  if m.process.isSome && m.status.healthy then (m, .returned (some true))
  else if m.process.isSome then m.stop a .restart
  else (m, .writingConfig)

/-- The head of the loop of `waitForReady`. -/
def poll (startedAt now : Nat) : ServerCall :=
  if now < startedAt + m.config.startupTimeout then .awaitingHealth startedAt else .waited false

/-- `start` from the spawn to the first health check. -/
def spawn (a : ServerAnswers) : ServerManager × ServerCall :=
  match a.spawned with
  | .threw => (m, .rejected)
  | .process pid =>
    let m := { m with
      process := some m.processes.length
      processes := m.processes ++ [⟨pid, false, false, false⟩]
      status := { m.status with startedAt := some a.now, pid := pid } }
    (m, m.poll a.now a.now)

def healthCheck (ensure : Bool) : ServerManager × ServerCall :=
  if m.process.isNone then
    (m.onError "No server process", .returned (some false))
  else (m, .healthChecking ensure)

/-- `healthCheck` once the request is answered. -/
def healthChecked (a : ServerAnswers) : ServerManager :=
  match a.health with
  | .response status =>
    let error := if a.health.ok then none else some s!"Health check returned {status}"
    { m with status := { m.status with
        healthy := a.health.ok, lastHealthCheck := some a.now, error := error } }
  | .failed message => m.onError message

def ensureServerReady (a : ServerAnswers) : ServerManager × ServerCall :=
  if m.status.healthy && m.process.isSome then (m, .returned (some true))
  else if m.process.isSome then m.healthCheck true
  else m.start a

/-- `waitForReady` once the request is answered. -/
def readyChecked (startedAt : Nat) (a : ServerAnswers) : ServerManager × ServerCall :=
  if a.health.ok then
    ({ m with status := { m.status with healthy := true, lastHealthCheck := some a.now } },
      .waited true)
  else (m, .waiting startedAt)

/-- The end of `start`; the pid of no process cannot be read. -/
def started : ServerManager × ServerCall :=
  if m.process.isNone then (m, .rejected)
  else ({ m with healthCheckInterval := true }, .returned (some true))

/-- What a call does once what it awaits is there. -/
def resume (a : ServerAnswers) : ServerCall → Option (ServerManager × ServerCall)
  | .healthChecking ensure =>
    let healthy := a.health.ok
    some (m.healthChecked a, if ensure then .healthChecked healthy else .returned (some healthy))
  | .healthChecked healthy => some (if healthy then (m, .returned (some true)) else m.start a)
  | .stopping p closedBefore after => some (m.finishStop p closedBefore a, after.call)
  | .writingConfig => some (if a.configWritten then m.spawn a else (m, .rejected))
  | .awaitingHealth startedAt => some (m.readyChecked startedAt a)
  | .waiting startedAt => some (m, m.poll startedAt a.now)
  | .waited ready => some (if ready then m.started else m.stop a .giveUp)
  | .returned _ => none
  | .rejected => none

end ServerManager

/-- A manager and the calls that have been made. -/
structure ServerSystem where
  manager : ServerManager
  calls : List ServerCall

/-- Health checks come from a caller or the interval timer. A process that was spawned exits; its close
event, and that of one that could not be spawned, is handled later. -/
inductive ServerAction where
  | start (a : ServerAnswers)
  | stop (a : ServerAnswers)
  | ensureServerReady (a : ServerAnswers)
  | healthCheck
  | resume (i : Nat) (a : ServerAnswers)
  | exit (p : Nat)
  | error (p : Nat) (message : String)
  | close (p : Nat)

namespace ServerSystem

variable (s : ServerSystem)

def begin (p : ServerManager × ServerCall) : ServerSystem := ⟨p.1, s.calls ++ [p.2]⟩

def next : ServerAction → Option ServerSystem
  | .start a => some (s.begin (s.manager.start a))
  | .stop a => some (s.begin (s.manager.stop a .done))
  | .ensureServerReady a => some (s.begin (s.manager.ensureServerReady a))
  | .healthCheck => some (s.begin (s.manager.healthCheck false))
  | .resume i a => s.calls[i]?.bind fun call =>
    (s.manager.resume a call).map fun (m, call) => ⟨m, s.calls.set i call⟩
  | .exit p => s.manager.processes[p]?.bind fun proc =>
    if proc.pid.isNone || proc.exited then none
    else some { s with manager := s.manager.update p fun proc => { proc with exited := true } }
  | .error p message => s.manager.processes[p]?.map fun _ =>
    { s with manager := s.manager.onError message }
  | .close p => s.manager.processes[p]?.bind fun proc =>
    if proc.closed || (proc.pid.isSome && !proc.exited) then none
    else some { s with
      manager := (s.manager.update p fun proc => { proc with closed := true }).onClose }

end ServerSystem

def serverMachine : Machine ServerSystem ServerAction :=
  .ofNext (fun s => ∃ config, s = ⟨.new config, []⟩) ServerSystem.next

end ShipyardCp.Domain
