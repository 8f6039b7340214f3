import ShipyardCp.Store.References
import ShipyardCp.Properties.AcknowledgedDocs

/-! The stale flag of a task and the gate that reads it. The flag is what was written last: by resolving
documents, by a stale check that reports something, or by a result that carries one. -/

namespace ShipyardCp.Properties

open Types Domain Store Lib

def staleStatus? (id : String) (sys : System) : Option StaleStatus :=
  (sys.store.task? id).bind fun task => task.resolverRefs.bind (·.staleStatus)

/-- The flag that a call writes to a task. A stale check that reports nothing writes none. -/
def statusWrite? (id : String) (sys : System) (call : Call) : Option StaleStatus :=
  match call.op with
  | .resolveDocs taskId _ =>
    if taskId = id ∧ (sys.store.task? id).isSome then some .fresh else none
  | .settleStaleCheck check currentVersions =>
    if check.taskId = id ∧ (sys.store.task? id).isSome ∧
      staleItems call.env.now check currentVersions ≠ [] then some .stale else none
  | _ =>
    (appliedResult? call sys.store).bind fun r =>
      if r.task.taskId = id then r.resolverRefs.bind (·.staleStatus) else none

def statusWrites (id : String) (h : History System Call) : List StaleStatus :=
  Machine.written (fun sys call => (statusWrite? id sys call).toList) h

section status

variable {sys sys' : System} {call : Call} {id : String} {task task' : Task}

theorem staleStatus_applyResolverRefs (refs update : Option ResolverRefs) :
    (applyResolverRefs refs update).bind (·.staleStatus) =
      overwrite (update.bind (·.staleStatus)) (refs.bind (·.staleStatus)) := by
  cases update with
  | none => rfl
  | some new => cases refs <;> rfl

theorem overwrite_self {α : Type} (a : Option α) : overwrite a a = a := by
  cases a <;> rfl

theorem staleStatus_of_written {write : Option ReferenceUpdate}
    (h : ReferencesWritten write id task task') :
    task'.resolverRefs.bind (·.staleStatus) = overwrite ((write.filter (·.taskId = id)).bind fun u =>
        (u.resolverRefs task).bind (·.staleStatus)) (task.resolverRefs.bind (·.staleStatus)) := by
  unfold ReferencesWritten at h
  cases hwrite : write.filter (·.taskId = id) with
  | none =>
    rw [hwrite] at h
    rw [h.1]
    rfl
  | some u =>
    rw [hwrite] at h
    rw [h.1, staleStatus_applyResolverRefs]
    rfl

theorem overwrite_statusWrite? (htask : sys.store.task? id = some task) :
    overwrite ((((referenceWrite? call sys.store).filter (·.taskId = id)).bind fun u =>
        (u.resolverRefs task).bind (·.staleStatus))) (task.resolverRefs.bind (·.staleStatus)) =
      overwrite (statusWrite? id sys call) (task.resolverRefs.bind (·.staleStatus)) := by
  obtain ⟨env, op⟩ := call
  cases op with
  | resolveDocs taskId request =>
    simp only [referenceWrite?, referenceUpdate?, Option.orElse_some, Option.filter_some,
      decide_eq_true_eq, statusWrite?, htask, Option.isSome_some, and_true]
    split_ifs
    · rfl
    · rfl
  | ackDocs taskId request =>
    simp only [referenceWrite?, referenceUpdate?, Option.orElse_some, Option.filter_some,
      decide_eq_true_eq, statusWrite?, appliedResult?, handedOver?, Option.bind_none]
    split_ifs
    · cases htaskRefs : task.resolverRefs with
      | none => simp [acknowledgedRefs, htaskRefs, ResolverRefs.empty, overwrite]
      | some refs =>
        simp only [acknowledgedRefs, htaskRefs, Option.getD_some, Option.bind_some]
        exact overwrite_self refs.staleStatus
    · rfl
  | settleStaleCheck check currentVersions =>
    simp only [referenceWrite?, referenceUpdate?, statusWrite?, htask, Option.isSome_some, true_and]
    by_cases hstale : staleItems env.now check currentVersions = []
    · simp [hstale, publishReferences?, appliedResult?, handedOver?]
    · simp only [hstale, if_false, Option.orElse_some, Option.filter_some, decide_eq_true_eq,
        ne_eq, not_false_eq_true, and_true]
      split_ifs
      · rfl
      · rfl
  | settleLinkTracker link succeeded =>
    cases succeeded with
    | false => rfl
    | true =>
      simp only [referenceWrite?, referenceUpdate?, Option.orElse_some, Option.filter_some]
      split_ifs <;> rfl
  | completePublish taskId request =>
    simp only [referenceWrite?, referenceUpdate?, publishReferences?, Option.orElse_none]
    split_ifs
    · simp only [Option.orElse_some, Option.filter_some]
      split_ifs <;> rfl
    · rfl
  | applyResult _ _ | settlePoll _ _ =>
    simp only [referenceWrite?, referenceUpdate?, publishReferences?, Option.orElse_none,
      statusWrite?]
    cases appliedResult? _ _ with
    | none => rfl
    | some r =>
      simp only [Option.map_some, Option.filter_some, decide_eq_true_eq, Option.bind_some]
      split_ifs <;> rfl
  | _ => rfl

theorem statusWrite?_eq_none (hnone : sys.store.task? id = none) :
    statusWrite? id sys call = none := by
  unfold statusWrite?
  split
  · simp [hnone]
  · simp [hnone]
  · cases hr : appliedResult? call sys.store with
    | none => rfl
    | some r =>
      refine if_neg fun hid => ?_
      have hstored := appliedResult?_stored hr
      rw [hid, hnone] at hstored
      cases hstored

theorem staleStatus?_of_step (hsync : Synchronous sys) (hstep : controlPlane.step sys call sys') :
    staleStatus? id sys' = overwrite (statusWrite? id sys call) (staleStatus? id sys) := by
  cases htask : sys.store.task? id with
  | none =>
    rw [statusWrite?_eq_none htask, overwrite_none, staleStatus?, staleStatus?, htask]
    cases htask' : sys'.store.task? id with
    | none => rfl
    | some task' =>
      obtain ⟨request, _, rfl⟩ := created_of_step hsync hstep htask htask'
      rfl
  | some task =>
    obtain ⟨task', htask', hwritten⟩ := references_of_step hsync hstep htask
    rw [staleStatus?, staleStatus?, htask, htask', Option.bind_some, Option.bind_some,
      staleStatus_of_written hwritten]
    exact overwrite_statusWrite? htask

theorem staleGate_eq_proceed_iff_of_status {sys : System} (htask : sys.store.task? id = some task) :
    staleGate task = .proceed ↔ ∀ status ∈ staleStatus? id sys, status = .fresh := by
  rw [staleGate_eq_proceed_iff, staleStatus?, htask, Option.bind_some]
  cases task.resolverRefs with
  | none => simp
  | some refs =>
    constructor
    · exact fun hfresh status hstatus => hfresh refs status rfl hstatus
    · rintro hfresh _ status ⟨⟩ hstatus
      exact hfresh status hstatus

/-- In every run whose dispatches complete before the next call, with any interleaving of stale checks,
a task has the flag that was written last: fresh by resolving its documents, stale by a stale check that
reports something, or the one of a valid result. The acceptance gate lets it pass exactly when that is
fresh or nothing was written. -/
theorem staleStatus_eq_last_written {h : History System Call} {sys : System}
    (hrun : controlPlane.Run h sys) (hseq : Machine.Steps Sequential h) (id : String) :
    staleStatus? id sys = (statusWrites id h).getLast? ∧ ∀ task, sys.store.task? id = some task →
        (staleGate task = .proceed ↔ ∀ status ∈ (statusWrites id h).getLast?, status = .fresh) := by
  have hlast : (statusWrites id h).getLast? = staleStatus? id sys := by
    refine hrun.getLast?_written_of_steps (C := Sequential) (I := Synchronous) ?_ ?_ hseq
    · rintro s ⟨_, _, _, rfl⟩
      exact ⟨synchronous_of_idle rfl, rfl⟩
    · intro sys call sys' hsync hsequential hstep
      refine ⟨hsync.step hsequential hstep, ?_⟩
      rw [staleStatus?_of_step hsync hstep, List.getLast?_append]
      cases statusWrite? id sys call <;> cases staleStatus? id sys <;> rfl
  refine ⟨hlast.symm, fun task htask => ?_⟩
  rw [staleGate_eq_proceed_iff_of_status htask, hlast]

/-- What a call reports of the staleness of a task, if it ends a stale check of it. -/
def checkReport? (id : String) (sys : System) (call : Call) : Option Bool :=
  match call.op with
  | .beginStaleCheck taskId docIds =>
    if taskId = id ∧ returned? (beginStaleCheck taskId docIds) sys.store = some none then some false
    else none
  | .settleStaleCheck check currentVersions =>
    if check.taskId = id then some (staleItems call.env.now check currentVersions ≠ []) else none
  | _ => none

def FollowsChecks (id : String) (h : History System Call) (sys : System) : Prop :=
  staleStatus? id sys = some .stale ↔
    (Machine.written (fun sys call => (checkReport? id sys call).toList) h).getLast? = some true

def endsCheck : Op → Bool
  | .settleStaleCheck _ _ => true
  | _ => false

def ChecksComplete (sys : System) (call : Call) : Prop := sys.checking = [] ∨ endsCheck call.op = true

end status

section sample

def ackLine (version : String) : System → Option Call :=
  line "0" (.ackDocs "task_0" ⟨"doc:feature:login", version⟩)

def checkLines (current : String) : Script :=
  [line "0" (.beginStaleCheck "task_0" none), fun sys => sys.checking.head?.map fun check =>
    ⟨sampleEnv "0", .settleStaleCheck check [⟨"doc:feature:login", current, true⟩]⟩]

def acknowledgedAgainScript : Script :=
  [line "0" (.createTask sampleRequest), ackLine "v1"] ++ checkLines "v2" ++ [ackLine "v2"] ++
    checkLines "v2"

/-- The flag stays what the first of two stale checks wrote. -/
theorem status_of_first_check : ∃ h sys, controlPlane.Run h sys ∧
    statusWrites "task_0" h = [.stale] ∧ staleStatus? "task_0" sys = some .stale := by
  obtain ⟨h, sys, hrun, htest⟩ := exists_run_of_play acknowledgedAgainScript
    (fun p => decide (statusWrites "task_0" p.1 = [.stale] ∧ ∀ step ∈ p.1, Sequential step.1 step.2))
    (by decide +kernel)
  obtain ⟨hwrites, hseq⟩ := of_decide_eq_true htest
  refine ⟨h, sys, hrun, hwrites, ?_⟩
  rw [(staleStatus_eq_last_written hrun hseq "task_0").1, hwrites]
  rfl

/-- A stale check that reports nothing does not take the flag away. -/
theorem status_not_followsChecks : ¬∀ h sys, controlPlane.Run h sys →
    Machine.Steps Sequential h → Machine.Steps ChecksComplete h → ∀ id, FollowsChecks id h sys := by
  intro hall
  obtain ⟨h, sys, hrun, htest⟩ := exists_run_of_play acknowledgedAgainScript
    (fun p => decide (staleStatus? "task_0" p.2 = some .stale ∧
      (Machine.written (fun sys call => (checkReport? "task_0" sys call).toList) p.1).getLast? =
        some false ∧ (∀ step ∈ p.1, Sequential step.1 step.2) ∧
      ∀ step ∈ p.1, step.1.checking = [] ∨ endsCheck step.2.op = true))
    (by decide +kernel)
  obtain ⟨hstale, hreport, hseq, hchecks⟩ := of_decide_eq_true htest
  have hfollows := (hall h sys hrun hseq hchecks "task_0").mp hstale
  rw [hreport] at hfollows
  cases hfollows

end sample

end ShipyardCp.Properties
