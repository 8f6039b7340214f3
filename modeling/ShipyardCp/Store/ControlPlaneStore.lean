import ShipyardCp.Lib.Transition
import ShipyardCp.Store.AcceptanceService
import ShipyardCp.Store.IntegrationOrchestrator
import ShipyardCp.Store.JobOutcomes
import ShipyardCp.Store.PublishOrchestrator
import ShipyardCp.Store.Supervision
import ShipyardCp.Store.TaskService
import ShipyardCp.Store.DocsService

/-! The control plane as a transition system. Every synchronous operation is one step; an operation
that awaits is one step up to the await and one after it, and any other steps may fall between. -/

namespace ShipyardCp.Store

open Types Domain Lib

inductive Op where
  | createTask (request : CreateTaskRequest)
  | recordTransition (taskId : String) (event : StateTransitionEvent)
  | cancel (taskId : String)
  | beginDispatch (taskId : String) (request : DispatchRequest)
  | settleDispatch (d : PendingDispatch) (submission : SubmissionResult)
  | applyResult (taskId : String) (result : WorkerResult)
  | settlePoll (job : WorkerJob) (outcome : Except String WorkerResult)
  | heartbeat (jobId workerId : String)
  | completeAcceptance (taskId : String) (request : CompleteAcceptanceRequest)
  | integrate (taskId baseSha : String)
  | completeIntegrate (taskId : String) (request : CompleteIntegrateRequest)
  | publish (taskId : String) (request : PublishRequest)
  | approvePublish (taskId approvalToken : String)
  | completePublish (taskId : String) (request : CompletePublishRequest)
  | checkTimeouts
  | updateIntegrationProgress (taskId : String) (progress : Int)
  | updatePublishProgress (taskId : String) (progress : Int)
  | scanForOrphans
  | resolveDocs (taskId : String) (request : ResolveDocsRequest)
  | ackDocs (taskId : String) (request : AckDocsRequest)
  | beginStaleCheck (taskId : String) (docIds : Option (List String))
  | settleStaleCheck (check : PendingStaleCheck) (currentVersions : List DocVersionInfo)
  | beginLinkTracker (taskId : String) (request : TrackerLinkRequest)
  | settleLinkTracker (link : PendingLink) (succeeded : Bool)

/-- An operation with what it draws from outside. -/
structure Call where
  env : Env
  op : Op

/-- The store and the calls that wait: dispatches for their worker, polls for their job, stale checks
and links for the packages they ask. -/
structure System where
  store : ControlPlane
  dispatching : List PendingDispatch
  polling : List WorkerJob
  checking : List PendingStaleCheck
  linking : List PendingLink

namespace System

def initial (concurrencyManager : ConcurrencyManager) (executorInstanceId : String) : System where
  store := .initial concurrencyManager executorInstanceId
  dispatching := []
  polling := []
  checking := []
  linking := []

def run {α : Type} (sys : System) (p : StoreM α) : System :=
  { sys with store := finalState p sys.store }

def beginDispatch (env : Env) (taskId : String) (request : DispatchRequest) (sys : System) : System :=
  match (Store.beginDispatch env taskId request).run sys.store with
  | .ok d store => { sys with store, dispatching := sys.dispatching ++ [d] }
  | .error _ store => { sys with store }

def settleDispatch (env : Env) (d : PendingDispatch) (submission : SubmissionResult)
    (sys : System) : System :=
  let sys := { sys with dispatching := sys.dispatching.erase d }
  match (Store.settleDispatch env d submission).run sys.store with
  | .ok job store => { sys with store, polling := sys.polling ++ [job] }
  | .error _ store => { sys with store }

def settlePoll (env : Env) (job : WorkerJob) (outcome : Except String WorkerResult)
    (sys : System) : System :=
  { sys with
    store := finalState (Store.settlePoll env job outcome) sys.store
    polling := sys.polling.erase job }

def beginStaleCheck (taskId : String) (docIds : Option (List String)) (sys : System) : System :=
  match returned? (Store.beginStaleCheck taskId docIds) sys.store with
  | some (some check) => { sys with checking := sys.checking ++ [check] }
  | _ => sys

def settleStaleCheck (env : Env) (check : PendingStaleCheck) (currentVersions : List DocVersionInfo)
    (sys : System) : System :=
  { sys with
    store := finalState (Store.settleStaleCheck env check currentVersions) sys.store
    checking := sys.checking.erase check }

def beginLinkTracker (taskId : String) (request : TrackerLinkRequest) (sys : System) : System :=
  match returned? (Store.beginLinkTracker taskId request) sys.store with
  | some link => { sys with linking := sys.linking ++ [link] }
  | none => sys

def settleLinkTracker (env : Env) (link : PendingLink) (succeeded : Bool) (sys : System) : System :=
  { sys with
    store := if succeeded then finalState (Store.settleLinkTracker env link) sys.store else sys.store
    linking := sys.linking.erase link }

/-- A call can be made: what it waits for is pending, and the ids it draws are new. -/
def enabled (sys : System) (call : Call) : Bool :=
  match call.op with
  | .createTask _ => (sys.store.task? (createId call.env 0 "task")).isNone
  | .beginDispatch _ _ => (sys.store.jobs.get? (createId call.env 0 "job")).isNone
  | .settleDispatch d _ => d ∈ sys.dispatching
  | .settlePoll job _ => job ∈ sys.polling
  | .settleStaleCheck check _ => check ∈ sys.checking
  | .settleLinkTracker link _ => link ∈ sys.linking
  | _ => true

/-- What a call does. -/
def perform (sys : System) (call : Call) : System :=
  let env := call.env
  match call.op with
  | .createTask request => sys.run (createTask env request)
  | .recordTransition taskId event => sys.run (recordTransition env taskId event)
  | .cancel taskId => sys.run (cancel env taskId)
  | .beginDispatch taskId request => sys.beginDispatch env taskId request
  | .settleDispatch d submission => sys.settleDispatch env d submission
  | .applyResult taskId result => sys.run (applyResult env taskId result)
  | .settlePoll job outcome => sys.settlePoll env job outcome
  | .heartbeat jobId workerId => sys.run (heartbeat env jobId workerId)
  | .completeAcceptance taskId request => sys.run (completeAcceptance env taskId request)
  | .integrate taskId baseSha => sys.run (integrate env taskId baseSha)
  | .completeIntegrate taskId request => sys.run (completeIntegrate env taskId request)
  | .publish taskId request => sys.run (publish env taskId request)
  | .approvePublish taskId approvalToken => sys.run (approvePublish env taskId approvalToken)
  | .completePublish taskId request => sys.run (completePublish env taskId request)
  | .checkTimeouts => sys.run (checkTimeouts env)
  | .updateIntegrationProgress taskId progress =>
    sys.run (updateIntegrationProgress env taskId progress)
  | .updatePublishProgress taskId progress => sys.run (updatePublishProgress env taskId progress)
  | .scanForOrphans => sys.run (scanForOrphans env)
  | .resolveDocs taskId request => sys.run (resolveDocs env taskId request)
  | .ackDocs taskId request => sys.run (ackDocs env taskId request)
  | .beginStaleCheck taskId docIds => sys.beginStaleCheck taskId docIds
  | .settleStaleCheck check currentVersions => sys.settleStaleCheck env check currentVersions
  | .beginLinkTracker taskId request => sys.beginLinkTracker taskId request
  | .settleLinkTracker link succeeded => sys.settleLinkTracker env link succeeded

/-- The store's error a call is answered with; an error of the tracker bridge is none of these. -/
def thrown? (sys : System) (call : Call) : Option StoreError :=
  let env := call.env
  match call.op with
  | .createTask request => Lib.thrown? (createTask env request) sys.store
  | .recordTransition taskId event => Lib.thrown? (recordTransition env taskId event) sys.store
  | .cancel taskId => Lib.thrown? (cancel env taskId) sys.store
  | .beginDispatch taskId request => Lib.thrown? (Store.beginDispatch env taskId request) sys.store
  | .settleDispatch d submission => Lib.thrown? (Store.settleDispatch env d submission) sys.store
  | .applyResult taskId result => Lib.thrown? (applyResult env taskId result) sys.store
  | .settlePoll job outcome => Lib.thrown? (Store.settlePoll env job outcome) sys.store
  | .heartbeat jobId workerId => Lib.thrown? (heartbeat env jobId workerId) sys.store
  | .completeAcceptance taskId request =>
    Lib.thrown? (completeAcceptance env taskId request) sys.store
  | .integrate taskId baseSha => Lib.thrown? (integrate env taskId baseSha) sys.store
  | .completeIntegrate taskId request =>
    Lib.thrown? (completeIntegrate env taskId request) sys.store
  | .publish taskId request => Lib.thrown? (publish env taskId request) sys.store
  | .approvePublish taskId approvalToken =>
    Lib.thrown? (approvePublish env taskId approvalToken) sys.store
  | .completePublish taskId request => Lib.thrown? (completePublish env taskId request) sys.store
  | .checkTimeouts => Lib.thrown? (checkTimeouts env) sys.store
  | .updateIntegrationProgress taskId progress =>
    Lib.thrown? (updateIntegrationProgress env taskId progress) sys.store
  | .updatePublishProgress taskId progress =>
    Lib.thrown? (updatePublishProgress env taskId progress) sys.store
  | .scanForOrphans => Lib.thrown? (scanForOrphans env) sys.store
  | .resolveDocs taskId request => Lib.thrown? (resolveDocs env taskId request) sys.store
  | .ackDocs taskId request => Lib.thrown? (ackDocs env taskId request) sys.store
  | .beginStaleCheck taskId docIds => Lib.thrown? (Store.beginStaleCheck taskId docIds) sys.store
  | .settleStaleCheck check currentVersions =>
    Lib.thrown? (Store.settleStaleCheck env check currentVersions) sys.store
  | .beginLinkTracker taskId request =>
    Lib.thrown? (Store.beginLinkTracker taskId request) sys.store
  | .settleLinkTracker link succeeded =>
    if succeeded then Lib.thrown? (Store.settleLinkTracker env link) sys.store else none

def next (sys : System) (call : Call) : Option System :=
  if sys.enabled call then some (sys.perform call) else none

theorem beginDispatch_store (sys : System) (env : Env) (taskId : String)
    (request : DispatchRequest) : (sys.beginDispatch env taskId request).store =
      finalState (Store.beginDispatch env taskId request) sys.store := by
  unfold beginDispatch finalState
  cases (Store.beginDispatch env taskId request).run sys.store <;> rfl

theorem settleDispatch_store (sys : System) (env : Env) (d : PendingDispatch)
    (submission : SubmissionResult) : (sys.settleDispatch env d submission).store =
      finalState (Store.settleDispatch env d submission) sys.store := by
  unfold settleDispatch finalState
  dsimp only
  cases (Store.settleDispatch env d submission).run sys.store <;> rfl

theorem beginStaleCheck_store (sys : System) (taskId : String) (docIds : Option (List String)) :
    (sys.beginStaleCheck taskId docIds).store = sys.store := by
  unfold beginStaleCheck
  split <;> rfl

theorem beginLinkTracker_store (sys : System) (taskId : String) (request : TrackerLinkRequest) :
    (sys.beginLinkTracker taskId request).store = sys.store := by
  unfold beginLinkTracker
  split <;> rfl

end System

def IsFresh (sys : System) : Prop := ∃ maxPerWorker maxGlobal executorInstanceId,
    sys = .initial ⟨maxPerWorker, maxGlobal, .empty, .empty⟩ executorInstanceId

def controlPlane : Machine System Call := .ofNext IsFresh System.next

theorem step_iff {sys sys' : System} {call : Call} : controlPlane.step sys call sys' ↔
    sys.enabled call = true ∧ sys' = sys.perform call := by
  change sys.next call = some sys' ↔ _
  unfold System.next
  split_ifs with henabled
  · simp [henabled, eq_comm]
  · simp [henabled]

section scripts

abbrev Script := List (System → Option Call)

def play (script : Script) : Option (History System Call × System) :=
  Machine.replay System.next (.initial ⟨20, 200, .empty, .empty⟩ "executor") script

theorem exists_run_of_play (script : Script) (test : History System Call × System → Bool)
    (h : (play script).any test = true) :
    ∃ h sys, controlPlane.Run h sys ∧ test (h, sys) = true :=
  Machine.exists_run_of_replay ⟨20, 200, "executor", rfl⟩ h

def sampleEnv (uuid : String) : Env where
  now := 0
  uuid _ := uuid
  randomHex := "pending-" ++ uuid
  fingerprintHash := uuid
  regExpTest _ _ := some false

def line (uuid : String) (op : Op) : System → Option Call := fun _ => some ⟨sampleEnv uuid, op⟩

def dispatchLine (uuid : String) (stage : WorkerStage) : System → Option Call :=
  line uuid (.beginDispatch "task_0" ⟨stage, none, none⟩)

def settleLine (submission : SubmissionResult) : System → Option Call := fun sys =>
  sys.dispatching.head?.map fun d => ⟨sampleEnv "0", .settleDispatch d submission⟩

def submitted : SubmissionResult := .success none none

def sampleRequest : CreateTaskRequest where
  title := "title"
  objective := "objective"
  typedRef := "memx:task:local:1"
  description := none
  repoRef := ⟨"owner", "name", "main", none⟩
  repoPolicy := none
  riskLevel := some .low
  labels := none
  publishPlan := none
  externalRefs := none

/-- A result with a summary and one log. -/
def sampleResult (jobId : String) (status : ResultStatus) : WorkerResult where
  jobId := jobId
  typedRef := "memx:task:local:1"
  status := status
  summary := some "done"
  patchRef := none
  branchRef := none
  artifacts := [⟨"log-1", .log, "file:log"⟩]
  testResults := []
  verdict := none
  requestedEscalations := []
  retryCount := none
  failureClass := none
  failureCode := none
  failureSummary := none
  resolverRefs := none
  externalRefs := none
  contextBundleRef := none
  rollbackNotes := none
  loopFingerprint := none
  detectedSideEffects := none
  metadata := none

def devResult (jobId : String) : WorkerResult :=
  { sampleResult jobId .succeeded with patchRef := some ⟨.unifiedDiff, "+ line", none⟩ }

def acceptanceResult (jobId : String) (outcome : VerdictOutcome) : WorkerResult :=
  { sampleResult jobId .succeeded with
    artifacts := [⟨"log-1", .log, "file:log"⟩, ⟨"report-1", .report, "file:report"⟩]
    verdict := some ⟨outcome, none, none⟩ }

def stageScript (uuid : String) (stage : WorkerStage) (result : WorkerResult) : Script :=
  [dispatchLine uuid stage, settleLine submitted, line uuid (.applyResult "task_0" result)]

def acceptingScript (request : CreateTaskRequest) : Script := [line "0" (.createTask request)] ++
    stageScript "0" .plan (sampleResult "job_0" .succeeded) ++
    stageScript "1" .dev (devResult "job_1") ++
    stageScript "2" .acceptance (acceptanceResult "job_2" .accept)

/-- Checks every item of the checklist of a low risk and leaves the verdict to the worker. -/
def checkAll : CompleteAcceptanceRequest where
  checkedItems := some (["tests-passed", "no-regressions", "code-compiles"].map fun id =>
    ⟨id, some "operator", none⟩)
  verdict := none

def eventOf (fromState toState : TaskState) : StateTransitionEvent where
  eventId := "evt"
  taskId := "task_0"
  fromState := fromState
  toState := toState
  actorType := .human
  actorId := "operator"
  reason := "recorded"
  jobId := none
  artifactIds := none
  occurredAt := 0

def recordLine (fromState toState : TaskState) : System → Option Call :=
  line "0" (.recordTransition "task_0" (eventOf fromState toState))

end scripts

end ShipyardCp.Store
