import ShipyardCp.Lib.CodeUnits
import ShipyardCp.Lib.KeyedMap
import ShipyardCp.Lib.Transition
import ShipyardCp.Types.Base

/-! The manager of background processes: a record for each process, written by its events, by calls to
stop it and by its timeout. -/

namespace ShipyardCp.Domain

open Types Lib
open JsText (CodeUnits)

inductive BackgroundProcessState where
  | running | exited | failed | stopped
  deriving DecidableEq

structure BackgroundProcessSpec where
  processId : String
  command : String
  args : List String
  cwd : String
  timeoutMs : Option Int

structure BackgroundProcessSnapshot where
  processId : String
  command : String
  args : List String
  cwd : String
  state : BackgroundProcessState
  pid : Option Nat
  exitCode : Option (Option Int) := none
  signal : Option (Option String) := none
  stdoutTail : CodeUnits := []
  stderrTail : CodeUnits := []
  startedAt : Timestamp
  finishedAt : Option Timestamp := none
  error : Option String := none

/-- What comes on a channel at once: bytes, or a text where the channel has an encoding. -/
inductive OutputPiece where
  | buffer (bytes : List UInt8)
  | text (units : CodeUnits)

/-- `typeof data === 'string' ? data : data.toString('utf8')` -/
def OutputPiece.read : OutputPiece → CodeUnits
  | .buffer bytes => Utf8.decode bytes
  | .text units => units

inductive OutputChannel where
  | stdout | stderr
  deriving DecidableEq

/-- A signal sent to a process, and whether the process had closed. -/
structure SentSignal where
  signal : String
  closed : Bool

/-- The process itself: what it has put out, the signals it got and whether it has closed. -/
structure ProcessHandle where
  pid : Option Nat
  output : OutputChannel → List OutputPiece := fun _ => []
  kills : List SentSignal := []
  closed : Bool := false

/-- `timeoutPending` says that the timer of the timeout has neither fired nor been cleared. -/
structure ManagedProcess where
  spec : BackgroundProcessSpec
  handle : ProcessHandle
  snapshot : BackgroundProcessSnapshot
  timeoutPending : Bool

namespace BackgroundProcessManager

def MAX_TAIL_BYTES : Nat := 16 * 1024

def appendTail (previous : CodeUnits) (data : OutputPiece) : CodeUnits :=
  let next := previous ++ data.read
  if next.length > MAX_TAIL_BYTES then lastOf MAX_TAIL_BYTES next else next

/-- The record of a process that has just been spawned. -/
def spawned (spec : BackgroundProcessSpec) (pid : Option Nat) (now : Timestamp) : ManagedProcess where
  spec
  handle := { pid }
  snapshot :=
    { processId := spec.processId
      command := spec.command
      args := spec.args
      cwd := spec.cwd
      state := .running
      pid
      startedAt := now }
  timeoutPending := spec.timeoutMs.any fun ms => 0 < ms

def onData (channel : OutputChannel) (data : OutputPiece) (managed : ManagedProcess) :
    ManagedProcess :=
  { managed with
    handle := { managed.handle with
      output := fun c => if c = channel then managed.handle.output c ++ [data]
        else managed.handle.output c }
    snapshot := match channel with
      | .stdout => { managed.snapshot with
          stdoutTail := appendTail managed.snapshot.stdoutTail data }
      | .stderr => { managed.snapshot with
          stderrTail := appendTail managed.snapshot.stderrTail data } }

def onClose (code : Option Int) (signal : Option String) (now : Timestamp)
    (managed : ManagedProcess) : ManagedProcess :=
  { managed with
    handle := { managed.handle with closed := true }
    snapshot := { managed.snapshot with
      state := if managed.snapshot.state = .stopped then .stopped else .exited
      exitCode := some code
      signal := some signal
      finishedAt := some now }
    timeoutPending := false }

def onError (message : String) (now : Timestamp) (managed : ManagedProcess) : ManagedProcess :=
  { managed with
    snapshot := { managed.snapshot with
      state := .failed
      error := some message
      finishedAt := some now }
    timeoutPending := false }

def stopped (signal : String) (managed : ManagedProcess) : ManagedProcess :=
  if managed.snapshot.state = .running then
    { managed with
      handle := { managed.handle with
        kills := managed.handle.kills ++ [⟨signal, managed.handle.closed⟩] }
      snapshot := { managed.snapshot with state := .stopped }
      timeoutPending := false }
  else { managed with timeoutPending := false }

abbrev Processes := InsertionMap String ManagedProcess

def start (processes : Processes) (spec : BackgroundProcessSpec) (pid : Option Nat)
    (now : Timestamp) : Processes :=
  if processes.has spec.processId then processes
  else processes.set spec.processId (spawned spec pid now)

def write (processes : Processes) (processId : String) (f : ManagedProcess → ManagedProcess) :
    Processes :=
  match processes.get? processId with
  | some managed => processes.set processId (f managed)
  | none => processes

def stop (processes : Processes) (processId signal : String) : Processes :=
  write processes processId (stopped signal)

def stopAll (processes : Processes) (signal : String) : Processes :=
  processes.keys.foldl (fun processes processId => stop processes processId signal) processes

end BackgroundProcessManager

inductive ProcessOp where
  | start (spec : BackgroundProcessSpec) (pid : Option Nat) (now : Timestamp)
  | data (processId : String) (channel : OutputChannel) (piece : OutputPiece)
  | close (processId : String) (code : Option Int) (signal : Option String) (now : Timestamp)
  | error (processId : String) (message : String) (now : Timestamp)
  | stop (processId signal : String)
  | stopAll (signal : String)
  | timeout (processId : String)

namespace ProcessSystem

open BackgroundProcessManager

/-- Only a timer that is pending fires. -/
def next (processes : Processes) : ProcessOp → Option Processes
  | .start spec pid now => some (start processes spec pid now)
  | .data processId channel piece => some (write processes processId (onData channel piece))
  | .close processId code signal now => some (write processes processId (onClose code signal now))
  | .error processId message now => some (write processes processId (onError message now))
  | .stop processId signal => some (stop processes processId signal)
  | .stopAll signal => some (stopAll processes signal)
  | .timeout processId =>
    if (processes.get? processId).any (·.timeoutPending) then
      some (stop processes processId "SIGTERM")
    else none

end ProcessSystem

def processMachine : Machine BackgroundProcessManager.Processes ProcessOp :=
  Machine.ofNext (fun processes => processes = .empty) ProcessSystem.next

end ShipyardCp.Domain
