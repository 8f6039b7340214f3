import ShipyardCp.Domain.ManualChecklist
import ShipyardCp.Store.State

/-! Manual acceptance: its gates in their order, and the two writes of a request. -/

namespace ShipyardCp.Store

open Types Domain Lib

inductive StaleAction where
  | proceed
  | blocked (reason : String)

/-- The stale-documents check of the acceptance stage. No re-read and no timestamps are passed to
it, so only fresh documents may proceed. -/
def checkStale : StaleStatus → StaleAction
  | .fresh => .proceed
  | .stale => .blocked "stale_docs_require_reread"
  | .unknown => .blocked "stale_status_unknown"

def outcomeText : VerdictOutcome → String
  | .accept => "accept"
  | .reject => "reject"
  | .rework => "rework"
  | .needsManualReview => "needs_manual_review"

def updatedChecklist (now : Timestamp) (task : Task) (request : CompleteAcceptanceRequest) :
    Option (List ManualChecklistItem) :=
  match request.checkedItems, task.manualChecklist with
  | some items, some checklist => some (checkItems now checklist items)
  | _, checklist => checklist

def effectiveVerdict (task : Task) (request : CompleteAcceptanceRequest) : Option Verdict :=
  request.verdict.orElse fun _ => task.lastVerdict

def hasLogArtifact (task : Task) : Bool := (task.artifacts.getD []).any fun a => a.kind = .log

def staleGate (task : Task) : StaleAction :=
  match task.resolverRefs.bind (·.staleStatus) with
  | none => .proceed
  | some status => checkStale status

/-- The first gate a request fails, in the order in which they are checked. -/
def acceptanceRefusal (now : Timestamp) (task : Task) (request : CompleteAcceptanceRequest) :
    Option String :=
  let checklist := (updatedChecklist now task request).getD []
  if checklist = [] then some "manual checklist is required for acceptance completion"
  else if missingItems checklist ≠ [] then
    some ("manual checklist not complete. Missing required items: " ++
      ", ".intercalate (missingItems checklist))
  else match effectiveVerdict task request with
    | none =>
      some "no verdict available. Worker must provide verdict or override must be given."
    | some verdict =>
      if verdict.outcome ≠ .accept then
        some ("verdict outcome must be 'accept', got '" ++ outcomeText verdict.outcome ++ "'")
      else if !hasLogArtifact task then
        some "at least one log artifact is required for acceptance completion"
      else match staleGate task with
        | .proceed => none
        | .blocked reason =>
          some ("stale docs detected: " ++ reason ++ ". Resolve stale docs before acceptance.")

/-- The task that acceptance stores: the task as it was read, with the checked items and the
effective verdict. -/
def acceptedCandidate (now : Timestamp) (task : Task) (request : CompleteAcceptanceRequest) : Task :=
  { task with
    manualChecklist := updatedChecklist now task request
    lastVerdict := effectiveVerdict task request }

def acceptedInput : TransitionInput :=
  { actorType := .human, actorId := "manual_acceptance", reason := "manual acceptance completed" }

/-- Whether the items of the request are written to the task, whatever the gates say after. -/
def writesChecklist (task : Task) (request : CompleteAcceptanceRequest) : Bool :=
  request.checkedItems.isSome && task.manualChecklist.isSome

def completeAcceptance (env : Env) (taskId : String) (request : CompleteAcceptanceRequest) :
    StoreM Task := do
  let task ← requireTask taskId
  if task.state ≠ .accepting then
    throw (.error ("task is not in accepting state (current: " ++ task.state.text ++ ")"))
  else
    if writesChecklist task request then
      let _ ← updateTask env taskId { manualChecklist := updatedChecklist env.now task request }
    match acceptanceRefusal env.now task request with
    | some message => throw (.error message)
    | none =>
      let (_, acceptedTask) ← transitionTask env 0 (acceptedCandidate env.now task request)
        .accepted acceptedInput
      pure acceptedTask

/-- All gates of manual acceptance. -/
structure AcceptanceGates (now : Timestamp) (task : Task) (request : CompleteAcceptanceRequest) :
    Prop where
  accepting : task.state = .accepting
  checklist : ∃ items, updatedChecklist now task request = some items ∧ items ≠ [] ∧
    ∀ item ∈ items, item.required = true → item.checked = some true
  verdict : ∃ v, effectiveVerdict task request = some v ∧ v.outcome = .accept
  logArtifact : hasLogArtifact task = true
  freshDocs : ∀ refs status, task.resolverRefs = some refs → refs.staleStatus = some status →
    status = .fresh

theorem staleGate_eq_proceed_iff {task : Task} :
    staleGate task = .proceed ↔ ∀ refs status, task.resolverRefs = some refs →
      refs.staleStatus = some status → status = .fresh := by
  unfold staleGate
  cases hrefs : task.resolverRefs with
  | none => simp
  | some refs =>
    cases hstatus : refs.staleStatus with
    | none => simp only [Option.bind_some, hstatus, true_iff]; grind
    | some status =>
      simp only [Option.bind_some, hstatus]
      cases status <;> simp only [checkStale] <;> grind

theorem acceptanceRefusal_eq_none_iff {now : Timestamp} {task : Task}
    {request : CompleteAcceptanceRequest} (hstate : task.state = .accepting) :
    acceptanceRefusal now task request = none ↔ AcceptanceGates now task request := by
  constructor
  · intro h
    unfold acceptanceRefusal at h
    by_cases hempty : (updatedChecklist now task request).getD [] = []
    · simp [hempty] at h
    by_cases hmissing : missingItems ((updatedChecklist now task request).getD []) = []
    swap
    · simp [hempty, hmissing] at h
    cases hverdict : effectiveVerdict task request with
    | none => simp [hempty, hmissing, hverdict] at h
    | some v =>
      by_cases houtcome : v.outcome = .accept
      swap
      · simp [hempty, hmissing, hverdict, houtcome] at h
      by_cases hlog : hasLogArtifact task = true
      swap
      · simp [hempty, hmissing, hverdict, houtcome, hlog] at h
      cases hgate : staleGate task with
      | blocked reason => simp [hempty, hmissing, hverdict, houtcome, hlog, hgate] at h
      | proceed =>
        cases hlist : updatedChecklist now task request with
        | none => simp [hlist] at hempty
        | some items =>
          rw [hlist] at hempty hmissing
          exact ⟨hstate, ⟨items, hlist, hempty, missingItems_eq_nil_iff.mp hmissing⟩,
            ⟨v, hverdict, houtcome⟩, hlog, staleGate_eq_proceed_iff.mp hgate⟩
  · rintro ⟨_, ⟨items, hlist, hne, hchecked⟩, ⟨v, hverdict, houtcome⟩, hlog, hfresh⟩
    have hgate := staleGate_eq_proceed_iff.mpr hfresh
    have hmissing := missingItems_eq_nil_iff.mpr hchecked
    simp [acceptanceRefusal, hlist, hne, hmissing, hverdict, houtcome, hlog, hgate]

def checklistWritten (env : Env) (task : Task) (request : CompleteAcceptanceRequest) : Task :=
  applyTaskUpdate env task { manualChecklist := updatedChecklist env.now task request }

section finalStates

variable {s : ControlPlane} {taskId : String} {task : Task} {request : CompleteAcceptanceRequest}

theorem finalState_completeAcceptance_of_none (env : Env) (htask : s.task? taskId = some task)
    (hstate : task.state = .accepting) (hnone : acceptanceRefusal env.now task request = none) :
    finalState (completeAcceptance env taskId request) s =
      s.commit (transitioned env (acceptedCandidate env.now task request) .accepted)
        (transitionEvent env 0 (acceptedCandidate env.now task request) .accepted
          acceptedInput) := by
  refine finalState_rec (completeAcceptance env taskId request) s ?_
  have hcan : canTransition (acceptedCandidate env.now task request).state .accepted = true := by
    simp [acceptedCandidate, hstate, canTransition, allowedTransitions]
  have hoverwrite := ControlPlane.commit_setTask s
    (transitioned env (acceptedCandidate env.now task request) .accepted)
    (transitionEvent env 0 (acceptedCandidate env.now task request) .accepted acceptedInput)
    (show (checklistWritten env task request).taskId = _ from rfl)
  rw [checklistWritten] at hoverwrite
  by_cases hwrites : writesChecklist task request = true <;>
  simp [completeAcceptance, htask, hstate, hwrites, hnone, hcan, hoverwrite]

theorem finalState_completeAcceptance (env : Env) (taskId : String)
    (request : CompleteAcceptanceRequest) :
    finalState (completeAcceptance env taskId request) s = s ∨
      ∃ task, s.task? taskId = some task ∧ task.state = .accepting ∧
        ((writesChecklist task request = true ∧ finalState (completeAcceptance env taskId request) s =
            s.setTask (checklistWritten env task request)) ∨
        (AcceptanceGates env.now task request ∧ finalState (completeAcceptance env taskId request) s =
            s.commit (transitioned env (acceptedCandidate env.now task request) .accepted)
              (transitionEvent env 0 (acceptedCandidate env.now task request) .accepted
                acceptedInput))) := by
  cases htask : s.task? taskId with
  | none =>
    refine Or.inl (finalState_rec (completeAcceptance env taskId request) s ?_)
    simp [completeAcceptance, htask]
  | some task =>
    by_cases hstate : task.state = .accepting
    swap
    · refine Or.inl (finalState_rec (completeAcceptance env taskId request) s ?_)
      simp [completeAcceptance, htask, hstate]
    cases hrefusal : acceptanceRefusal env.now task request with
    | none => exact Or.inr ⟨task, rfl, hstate, Or.inr
        ⟨(acceptanceRefusal_eq_none_iff hstate).mp hrefusal,
          finalState_completeAcceptance_of_none env htask hstate hrefusal⟩⟩
    | some message =>
      refine finalState_rec (completeAcceptance env taskId request) s ?_
      by_cases hwrites : writesChecklist task request = true <;>
      simp [completeAcceptance, htask, hstate, hwrites, hrefusal, checklistWritten]

end finalStates

end ShipyardCp.Store
