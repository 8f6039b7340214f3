import ShipyardCp.Store.Growth

/-! What repeated publish requests under one idempotency key do. -/

namespace ShipyardCp.Properties

open Types Domain Lib Store

def publishesUnder (key taskId : String) (call : Call) : Bool :=
  match call.op with
  | .publish id request => id = taskId && request.idempotencyKey = some key
  | _ => false

def inState (s : ControlPlane) (taskId : String) (state : TaskState) : Bool :=
  (s.task? taskId).any fun task => task.state = state

def carriedOut (key taskId : String) (sys : System) (call : Call) : Bool :=
  publishesUnder key taskId call && inState sys.store taskId .integrated &&
    (inState (sys.perform call).store taskId .publishing ||
      inState (sys.perform call).store taskId .publishPendingApproval)

def policyBlocked (key taskId : String) (sys : System) (call : Call) : Bool :=
  publishesUnder key taskId call && inState sys.store taskId .integrated &&
    inState (sys.perform call).store taskId .blocked

def pendingUnder (key : String) (s : ControlPlane) (taskId : String) : Bool :=
  (s.task? taskId).any fun task =>
    task.state = .publishPendingApproval && task.publishPlan.bind (·.idempotencyKey) = some key

/-- A request under the key, or the approval of one, starts a run. -/
def startsRun (key : String) (sys : System) (call : Call) : Bool :=
  match call.op with
  | .publish taskId request => request.idempotencyKey = some key &&
    inState sys.store taskId .integrated && inState (sys.perform call).store taskId .publishing
  | .approvePublish taskId _ => pendingUnder key sys.store taskId &&
    inState (sys.perform call).store taskId .publishing
  | _ => false

def answer? (sys : System) (call : Call) : Option Task :=
  match call.op with
  | .publish taskId request => returned? (publish call.env taskId request) sys.store
  | _ => none

/-- A request that is sent again is answered with its task, and starts no further run. -/
def ResendAnswered (key : String) (h : History System Call) : Prop :=
  ∀ taskId h₁ first h₂, h = h₁ ++ first :: h₂ → carriedOut key taskId first.1 first.2 = true →
    ∀ later ∈ h₂, publishesUnder key taskId later.2 = true → startsRun key later.1 later.2 = false ∧
        ∃ task, later.1.store.task? taskId = some task ∧ answer? later.1 later.2 = some task

def SingleRun (key : String) (h : History System Call) : Prop :=
  (h.countP fun step => startsRun key step.1 step.2) ≤ 1

/-- A request that finds its key in use, by another task or by an attempt that was blocked, is not
answered unless it is carried out itself. -/
def HonestAnswers (key : String) (h : History System Call) : Prop :=
  ∀ taskId h₁ first h₂, h = h₁ ++ first :: h₂ →
    (carriedOut key taskId first.1 first.2 || policyBlocked key taskId first.1 first.2) = true →
    ∀ later ∈ h₂, ∀ other, publishesUnder key other later.2 = true →
      (other ≠ taskId ∨ policyBlocked key taskId first.1 first.2 = true) →
      (answer? later.1 later.2).isSome = true → carriedOut key other later.1 later.2 = true

/-- The operator moves a task into its wait for an approval. -/
def recordsPending (call : Call) : Bool :=
  match call.op with
  | .recordTransition _ event =>
    event.toState = .publishPendingApproval && event.fromState ≠ .publishPendingApproval
  | _ => false

/-- Once a request under the key is carried out for a task, every later request under it changes
nothing, and one for an integrated task is answered with that first task, whichever it names. One run
is started at most, unless the operator moves a task into its wait for an approval. -/
structure PublishedOnce (key : String) (h : History System Call) : Prop where
  repeated : ∀ taskId h₁ first h₂, h = h₁ ++ first :: h₂ →
    carriedOut key taskId first.1 first.2 = true →
    ∀ later ∈ h₂, ∀ other, publishesUnder key other later.2 = true →
      later.1.perform later.2 = later.1 ∧ (inState later.1.store other .integrated = true →
        ∃ task, later.1.store.task? taskId = some task ∧ answer? later.1 later.2 = some task)
  single : Machine.Steps (fun _ call => recordsPending call = false) h → SingleRun key h

section requests

variable {sys sys' : System} {call : Call} {env : Env} {s : ControlPlane} {key taskId : String}
  {request : PublishRequest}

theorem inState_iff {state : TaskState} : inState s taskId state = true ↔
    ∃ task, s.task? taskId = some task ∧ task.state = state := by
  simp [inState, Option.any_eq_true]

theorem publishesUnder_iff : publishesUnder key taskId call = true ↔
    ∃ request, call.op = .publish taskId request ∧ request.idempotencyKey = some key := by
  unfold publishesUnder
  split
  · next id request hop =>
    rw [hop]
    simp only [Bool.and_eq_true, decide_eq_true_eq, Op.publish.injEq]
    constructor
    · rintro ⟨rfl, hrequest⟩
      exact ⟨request, ⟨rfl, rfl⟩, hrequest⟩
    · rintro ⟨_, ⟨rfl, rfl⟩, hrequest⟩
      exact ⟨rfl, hrequest⟩
  · next hne =>
    constructor
    · intro h
      cases h
    · rintro ⟨request, hop, _⟩
      exact absurd hop (hne taskId request)

theorem first_of_moved (hrecords : KeysRecorded sys.store) (hkey : key ≠ "")
    (hrequest : request.idempotencyKey = some key)
    (hintegrated : inState sys.store taskId .integrated = true)
    (hmoved : inState (sys.perform ⟨env, .publish taskId request⟩).store taskId .integrated = false) :
    sys.store.publishIdempotencyKeys.get? key = none ∧
      (sys.perform ⟨env, .publish taskId request⟩).store.publishIdempotencyKeys.get? key =
        some taskId := by
  change inState (finalState (publish env taskId request) sys.store) taskId .integrated = false
    at hmoved
  change _ ∧ (finalState (publish env taskId request) sys.store).publishIdempotencyKeys.get? key = _
  rcases finalState_publish (s := sys.store) env taskId request with
    h | ⟨task, htask, _, hnone, h | ⟨_, _, _, _, _, _, h⟩⟩ <;> rw [h] at hmoved ⊢
  · rw [hintegrated] at hmoved
    cases hmoved
  · have hsame : inState { sys.store with
        publishIdempotencyKeys := keysWith sys.store request taskId } taskId .integrated = true :=
      hintegrated
    rw [hsame] at hmoved
    cases hmoved
  · exact ⟨hrecords.first hkey hrequest hnone, keysWith_get? hrequest hkey taskId⟩

theorem not_integrated_of_inState {state : TaskState} (h : inState s taskId state = true)
    (hne : state ≠ .integrated) : inState s taskId .integrated = false := by
  obtain ⟨task, htask, rfl⟩ := inState_iff.mp h
  simp [inState, htask, hne]

theorem recorded_of_carriedOut (hrecords : KeysRecorded sys.store) (hkey : key ≠ "")
    (hcarried : carriedOut key taskId sys call = true) :
    sys.store.publishIdempotencyKeys.get? key = none ∧
      (sys.perform call).store.publishIdempotencyKeys.get? key = some taskId := by
  simp only [carriedOut, Bool.and_eq_true, Bool.or_eq_true] at hcarried
  obtain ⟨⟨hpublishes, hintegrated⟩, hmoved⟩ := hcarried
  obtain ⟨request, hop, hrequest⟩ := publishesUnder_iff.mp hpublishes
  obtain ⟨env, op⟩ := call
  obtain rfl : op = .publish taskId request := hop
  refine first_of_moved hrecords hkey hrequest hintegrated ?_
  rcases hmoved with hmoved | hmoved <;> exact not_integrated_of_inState hmoved (by decide)

theorem recorded_of_run {h : History System Call} (hrun : controlPlane.Run h sys) (hkey : key ≠ "") :
    ∀ step ∈ h, carriedOut key taskId step.1 step.2 = true →
      sys.store.publishIdempotencyKeys.get? key = some taskId := by
  induction hrun with
  | start _ => simp
  | @snoc h sys call sys' hbefore hstep ih =>
    have hrecords := keysRecorded_of_run hbefore
    intro step hmem hcarried
    rw [List.mem_append, List.mem_singleton] at hmem
    rcases hmem with hmem | rfl
    · exact recorded_of_step hrecords hkey hstep (ih step hmem hcarried)
    · obtain ⟨_, rfl⟩ := step_iff.mp hstep
      exact (recorded_of_carriedOut hrecords hkey hcarried).2

theorem answer_of_recorded (hrecords : KeysRecorded sys.store) (hkey : key ≠ "") {other : String}
    (hrecorded : sys.store.publishIdempotencyKeys.get? key = some taskId)
    (hpublishes : publishesUnder key other call = true) :
    sys.perform call = sys ∧ (inState sys.store other .integrated = true →
      ∃ task, sys.store.task? taskId = some task ∧ answer? sys call = some task) := by
  obtain ⟨request, hop, hrequest⟩ := publishesUnder_iff.mp hpublishes
  obtain ⟨env, op⟩ := call
  obtain rfl : op = .publish other request := hop
  obtain ⟨task, htask⟩ := hrecords.stored key taskId hrecorded
  have hbefore : publishedBefore sys.store request = some task := by
    rw [hrecords.publishedBefore hkey hrequest hrecorded, htask]
  constructor
  · change sys.run (publish env other request) = sys
    rw [System.run, finalState_publish_of_publishedBefore env hbefore]
  · intro hintegrated
    obtain ⟨named, hnamed, hstate⟩ := inState_iff.mp hintegrated
    refine ⟨task, htask, ?_⟩
    simp [answer?, returned?, publish_run_of_publishedBefore env hnamed hstate hbefore]

end requests

section runs

variable {sys sys' : System} {call : Call} {env : Env} {s : ControlPlane} {key id : String}
  {task task' : Task}

theorem pendingUnder_iff : pendingUnder key s id = true ↔ ∃ task, s.task? id = some task ∧
    task.state = .publishPendingApproval ∧ task.publishPlan.bind (·.idempotencyKey) = some key := by
  simp [pendingUnder, Option.any_eq_true]

theorem patched_publishPlan (hpatch : Patched call id task task') :
    task'.publishPlan = task.publishPlan := by
  cases hpatch <;> rfl

theorem pendingUnder_of_effect (hpublishes : publishes call.op = false)
    (hnot : recordsPending call = false) (hstep : controlPlane.step sys call sys')
    (hpending : pendingUnder key sys'.store id = true) : pendingUnder key sys.store id = true := by
  obtain ⟨task', htask', hstate, hplan⟩ := pendingUnder_iff.mp hpending
  have heffect := taskEffect_of_step hstep id
  rw [htask'] at heffect
  rw [pendingUnder_iff]
  generalize hold : sys.store.task? id = old at heffect
  generalize sys.store.log id = log, sys'.store.log id = log' at heffect
  cases heffect with
  | kept => exact ⟨task', rfl, hstate, hplan⟩
  | created request _ _ _ => cases hstate
  | recorded task _ event hop _ hfrom _ =>
    have hto : event.toState = .publishPendingApproval := hstate
    have hsame : task.state = .publishPendingApproval := by
      simpa [recordsPending, hop, hto, hfrom] using hnot
    exact ⟨task, rfl, hsame, hplan⟩
  | moved task _ _ event hmove =>
    cases hmove with
    | publish request n moved toState input hop _ _ =>
      rw [hop] at hpublishes
      cases hpublishes
    | integrationEnded request moved toState reason _ _ hended => cases hended <;> cases hstate
    | _ => cases hstate
  | patched task _ _ hpatch =>
    exact ⟨task, rfl, hpatch.frame.2.2.symm.trans hstate, patched_publishPlan hpatch ▸ hplan⟩
  | answered task _ result job a _ _ _ _ hsound _ =>
    have hpatched := hsound.resultTask_eq_patched call.env (by rw [hstate]; rfl)
    rw [hpatched] at hstate hplan
    exact ⟨task, rfl, hstate, hplan⟩
  | dispatched _ _ d _ _ _ _ _ _ =>
    exact absurd hstate (by cases hnext : d.nextState <;> simp [ResumeState.toTaskState])
  | refused _ _ d _ _ _ _ _ _ _ _ => cases hstate

theorem pendingUnder_of_publish (hrecords : KeysRecorded sys.store) (hkey : key ≠ "")
    {taskId : String} {request : PublishRequest}
    (hpending : pendingUnder key (finalState (publish env taskId request) sys.store) id = true) :
    pendingUnder key sys.store id = true ∨ (sys.store.publishIdempotencyKeys.get? key = none ∧
      id = taskId ∧ request.idempotencyKey = some key ∧
      (finalState (publish env taskId request) sys.store).publishIdempotencyKeys.get? key =
        some taskId) := by
  rcases finalState_publish (s := sys.store) env taskId request with
    h | ⟨task, htask, _, hnone, h | ⟨n, moved, toState, input, hmove, _, h⟩⟩ <;>
    rw [h] at hpending ⊢
  · exact Or.inl hpending
  · exact Or.inl hpending
  · obtain ⟨task', htask', hstate, hplan⟩ := pendingUnder_iff.mp hpending
    rw [ControlPlane.commit_task?] at htask'
    split_ifs at htask' with hid
    · obtain rfl := Option.some.inj htask'
      cases hmove with
      | denied _ => cases hstate
      | started _ _ _ => cases hstate
      | pending warnings _ _ =>
        have hrequest : request.idempotencyKey = some key := hplan
        refine Or.inr ⟨hrecords.first hkey hrequest hnone, ?_, hrequest,
          keysWith_get? hrequest hkey taskId⟩
        exact hid.trans ((withPolicyWarnings_taskId task warnings).trans
          (sys.store.task?_taskId htask))
    · exact Or.inl (pendingUnder_iff.mpr ⟨task', htask', hstate, hplan⟩)

theorem pendingUnder_of_step (hrecords : KeysRecorded sys.store) (hkey : key ≠ "")
    (hnot : recordsPending call = false) (hstep : controlPlane.step sys call sys')
    (hpending : pendingUnder key sys'.store id = true) :
    pendingUnder key sys.store id = true ∨ (sys.store.publishIdempotencyKeys.get? key = none ∧
      publishesUnder key id call = true ∧
      sys'.store.publishIdempotencyKeys.get? key = some id) := by
  cases hpublishes : publishes call.op with
  | false => exact Or.inl (pendingUnder_of_effect hpublishes hnot hstep hpending)
  | true =>
    obtain ⟨_, rfl⟩ := step_iff.mp hstep
    obtain ⟨env, op⟩ := call
    cases op with
    | publish taskId request =>
      rcases pendingUnder_of_publish hrecords hkey hpending with
        hbefore | ⟨hnone, rfl, hrequest, hrecorded⟩
      · exact Or.inl hbefore
      · exact Or.inr ⟨hnone, publishesUnder_iff.mpr ⟨request, rfl, hrequest⟩, hrecorded⟩
    | _ => cases hpublishes

theorem startsRun_cases (hrecords : KeysRecorded sys.store) (hkey : key ≠ "")
    (hstarts : startsRun key sys call = true) :
    ∃ taskId, inState (sys.perform call).store taskId .publishing = true ∧
      ((publishesUnder key taskId call = true ∧ sys.store.publishIdempotencyKeys.get? key = none ∧
          (sys.perform call).store.publishIdempotencyKeys.get? key = some taskId) ∨
        (publishes call.op = false ∧ pendingUnder key sys.store taskId = true)) := by
  obtain ⟨env, op⟩ := call
  unfold startsRun at hstarts
  split at hstarts
  · next taskId request hop =>
    obtain rfl : op = .publish taskId request := hop
    simp only [Bool.and_eq_true, decide_eq_true_eq] at hstarts
    obtain ⟨⟨hrequest, hintegrated⟩, hpublishing⟩ := hstarts
    obtain ⟨hnone, hrecorded⟩ := first_of_moved hrecords hkey hrequest hintegrated
      (not_integrated_of_inState hpublishing (by decide))
    exact ⟨taskId, hpublishing, Or.inl
      ⟨publishesUnder_iff.mpr ⟨request, rfl, hrequest⟩, hnone, hrecorded⟩⟩
  · next taskId approvalToken hop =>
    obtain rfl : op = .approvePublish taskId approvalToken := hop
    rw [Bool.and_eq_true] at hstarts
    exact ⟨taskId, hstarts.2, Or.inr ⟨rfl, hstarts.1⟩⟩
  · cases hstarts

theorem not_pendingUnder_of_publishing (h : inState s id .publishing = true) :
    pendingUnder key s id = false := by
  obtain ⟨task, htask, hstate⟩ := inState_iff.mp h
  simp [pendingUnder, htask, hstate]

/-- How many runs were started under a key, and which task may start the next one. -/
structure RunCount (key : String) (count : Nat) (s : ControlPlane) : Prop where
  unused : s.publishIdempotencyKeys.get? key = none → count = 0 ∧ ∀ id, pendingUnder key s id = false
  started : count = 0 ∨ (count = 1 ∧ ∀ id, pendingUnder key s id = false)
  unique : ∀ id id', pendingUnder key s id = true → pendingUnder key s id' = true → id = id'

theorem publishesUnder_unique {id' : String} (h : publishesUnder key id call = true)
    (h' : publishesUnder key id' call = true) : id = id' := by
  obtain ⟨_, hop, _⟩ := publishesUnder_iff.mp h
  obtain ⟨_, hop', _⟩ := publishesUnder_iff.mp h'
  rw [hop] at hop'
  cases hop'
  rfl

theorem RunCount.started_of_step {count : Nat} (hcount : RunCount key count sys.store)
    (hrecords : KeysRecorded sys.store) (hkey : key ≠ "") (hnot : recordsPending call = false)
    (hstep : controlPlane.step sys call sys') (hstarts : startsRun key sys call = true) :
    RunCount key (count + 1) sys'.store := by
  obtain ⟨taskId, hpublishing, hcases⟩ := startsRun_cases hrecords hkey hstarts
  obtain ⟨_, hsys'⟩ := step_iff.mp hstep
  rw [← hsys'] at hpublishing hcases
  suffices count = 0 ∧ sys'.store.publishIdempotencyKeys.get? key ≠ none ∧
      ∀ id, pendingUnder key sys'.store id = false by
    obtain ⟨rfl, hused, hidle⟩ := this
    refine ⟨fun hnone => absurd hnone hused, Or.inr ⟨rfl, hidle⟩, fun id _ hpending => ?_⟩
    rw [hidle id] at hpending
    cases hpending
  have hother : ∀ id, pendingUnder key sys'.store id = true → id ≠ taskId := by
    rintro id hpending rfl
    rw [not_pendingUnder_of_publishing hpublishing] at hpending
    cases hpending
  rcases hcases with ⟨hpublishes, hnone, hrecorded⟩ | ⟨hpublishes, hpending⟩
  · obtain ⟨hzero, hidle⟩ := hcount.unused hnone
    refine ⟨hzero, by simp [hrecorded], fun id => Bool.eq_false_iff.mpr fun hpending' => ?_⟩
    rcases pendingUnder_of_step hrecords hkey hnot hstep hpending' with hbefore | ⟨_, hsame, _⟩
    · rw [hidle id] at hbefore
      cases hbefore
    · exact hother id hpending' (publishesUnder_unique hsame hpublishes)
  · refine ⟨?_, ?_, fun id => Bool.eq_false_iff.mpr fun hpending' => ?_⟩
    · rcases hcount.started with hzero | ⟨_, hidle⟩
      · exact hzero
      · rw [hidle taskId] at hpending
        cases hpending
    · cases hused : sys.store.publishIdempotencyKeys.get? key with
      | none =>
        rw [(hcount.unused hused).2 taskId] at hpending
        cases hpending
      | some id => simp [recorded_of_step hrecords hkey hstep hused]
    · rcases pendingUnder_of_step hrecords hkey hnot hstep hpending' with hbefore | ⟨_, hsame, _⟩
      · exact hother id hpending' (hcount.unique id taskId hbefore hpending)
      · obtain ⟨request, hop, _⟩ := publishesUnder_iff.mp hsame
        rw [hop] at hpublishes
        cases hpublishes

theorem RunCount.kept_of_step {count : Nat} (hcount : RunCount key count sys.store)
    (hrecords : KeysRecorded sys.store) (hkey : key ≠ "") (hnot : recordsPending call = false)
    (hstep : controlPlane.step sys call sys') : RunCount key count sys'.store := by
  have hfirst : ∀ id, pendingUnder key sys'.store id = true →
      pendingUnder key sys.store id = true ∨ (sys.store.publishIdempotencyKeys.get? key = none ∧
        publishesUnder key id call = true ∧
        sys'.store.publishIdempotencyKeys.get? key = some id) :=
    fun id => pendingUnder_of_step hrecords hkey hnot hstep
  constructor
  · intro hnone'
    have hnone : sys.store.publishIdempotencyKeys.get? key = none := by
      cases hused : sys.store.publishIdempotencyKeys.get? key with
      | none => rfl
      | some id =>
        rw [recorded_of_step hrecords hkey hstep hused] at hnone'
        cases hnone'
    obtain ⟨hzero, hidle⟩ := hcount.unused hnone
    refine ⟨hzero, fun id => Bool.eq_false_iff.mpr fun hpending => ?_⟩
    rcases hfirst id hpending with hbefore | ⟨_, _, hrecorded⟩
    · rw [hidle id] at hbefore
      cases hbefore
    · rw [hnone'] at hrecorded
      cases hrecorded
  · refine hcount.started.imp_right fun ⟨hone, hidle⟩ => ⟨hone, fun id => ?_⟩
    refine Bool.eq_false_iff.mpr fun hpending => ?_
    rcases hfirst id hpending with hbefore | ⟨hnone, _, _⟩
    · rw [hidle id] at hbefore
      cases hbefore
    · rw [(hcount.unused hnone).1] at hone
      cases hone
  · intro id id' hpending hpending'
    rcases hfirst id hpending with hbefore | ⟨hnone, hpublishes, _⟩ <;>
    rcases hfirst id' hpending' with hbefore' | ⟨hnone', hpublishes', _⟩
    · exact hcount.unique id id' hbefore hbefore'
    · rw [(hcount.unused hnone').2 id] at hbefore
      cases hbefore
    · rw [(hcount.unused hnone).2 id'] at hbefore'
      cases hbefore'
    · exact publishesUnder_unique hpublishes hpublishes'

theorem runCount_of_run {h : History System Call} (hrun : controlPlane.Run h sys) (hkey : key ≠ "")
    (hnot : Machine.Steps (fun _ call => recordsPending call = false) h) :
    RunCount key (h.countP fun step => startsRun key step.1 step.2) sys.store := by
  refine hrun.invariant (I := fun h sys =>
    RunCount key (h.countP fun step => startsRun key step.1 step.2) sys.store) ?_ ?_ hnot
  · rintro sys ⟨_, _, _, rfl⟩
    exact ⟨fun _ => ⟨rfl, fun _ => rfl⟩, Or.inl rfl, fun _ _ hpending => by cases hpending⟩
  · intro h sys call sys' hbefore _ ih hnot hstep
    have hrecords := keysRecorded_of_run hbefore
    rw [List.countP_append, List.countP_singleton]
    split_ifs with hstarts
    · exact ih.started_of_step hrecords hkey hnot hstep hstarts
    · exact ih.kept_of_step hrecords hkey hnot hstep

end runs

/-- In every run, requests under one key are carried out once. -/
theorem published_once {h : History System Call} {sys : System} {key : String}
    (hrun : controlPlane.Run h sys) (hkey : key ≠ "") : PublishedOnce key h := by
  constructor
  · rintro taskId h₁ first h₂ rfl hcarried later hlater other hpublishes
    obtain ⟨h₃, h₄, rfl⟩ := List.append_of_mem hlater
    rw [← List.cons_append, ← List.append_assoc] at hrun
    obtain ⟨_, hbefore, _, _⟩ := hrun.split
    have hrecorded := recorded_of_run hbefore hkey first (by simp) hcarried
    exact answer_of_recorded (keysRecorded_of_run hbefore) hkey hrecorded hpublishes
  · intro hnot
    rcases (runCount_of_run hrun hkey hnot).started with hzero | ⟨hone, _⟩
    · exact hzero.le.trans Nat.one_pos.le
    · exact hone.le

section scripts

def recordIntegrated (taskId : String) : Script :=
  [line "0" (.recordTransition taskId { eventOf .queued .blocked with taskId := taskId }),
    line "0" (.recordTransition taskId { eventOf .blocked .integrated with taskId := taskId })]

def publishUnderLine (uuid taskId key : String) (approvalToken : Option String) :
    System → Option Call :=
  line uuid (.publish taskId ⟨some .apply, some key, approvalToken⟩)

def uncheckedRequest (approvalRequired : Bool) : CreateTaskRequest :=
  { sampleRequest with
    repoPolicy := some { defaultRepoPolicy with requireCiPass := false }
    publishPlan := some ⟨none, none, some approvalRequired, none⟩ }

def resentScript : Script :=
  [line "0" (.createTask (uncheckedRequest false))] ++ recordIntegrated "task_0" ++
    [publishUnderLine "1" "task_0" "key" none, recordLine .publishing .blocked,
      recordLine .blocked .integrated, publishUnderLine "2" "task_0" "key" none]

theorem resent_once : ∃ h sys, controlPlane.Run h sys ∧
    (h.countP fun step => publishesUnder "key" "task_0" step.2) = 2 ∧
    (h.countP fun step => carriedOut "key" "task_0" step.1 step.2) = 1 ∧ PublishedOnce "key" h := by
  obtain ⟨h, sys, hrun, htest⟩ := exists_run_of_play resentScript
    (fun p => (p.1.countP fun step => publishesUnder "key" "task_0" step.2) = 2 &&
      (p.1.countP fun step => carriedOut "key" "task_0" step.1 step.2) = 1) (by decide +kernel)
  simp only [Bool.and_eq_true, decide_eq_true_eq] at htest
  exact ⟨h, sys, hrun, htest.1, htest.2, published_once hrun (by decide)⟩

def resentEarlyScript : Script :=
  [line "0" (.createTask (uncheckedRequest false))] ++ recordIntegrated "task_0" ++
    [publishUnderLine "1" "task_0" "key" none, publishUnderLine "2" "task_0" "key" none]

/-- The resend is refused. -/
def resendRefused (h : History System Call) : Bool :=
  match h with
  | [_, _, _, first, later] => carriedOut "key" "task_0" first.1 first.2 &&
    publishesUnder "key" "task_0" later.2 && (answer? later.1 later.2).isNone
  | _ => false

/-- The token of an earlier request approves a task that was put back after it was published. -/
def approvedTwiceScript : Script :=
  [line "0" (.createTask (uncheckedRequest true))] ++ recordIntegrated "task_0" ++
    [publishUnderLine "1" "task_0" "other" none, recordLine .publishPendingApproval .blocked,
      recordLine .blocked .integrated, publishUnderLine "2" "task_0" "key" (some "anything"),
      recordLine .publishing .blocked, recordLine .blocked .integrated,
      recordLine .integrated .publishPendingApproval,
      line "3" (.approvePublish "task_0" "pending-1")]

def sharedKeyScript : Script :=
  [line "0" (.createTask (uncheckedRequest false)), line "1" (.createTask (uncheckedRequest false))] ++
    recordIntegrated "task_0" ++ recordIntegrated "task_1" ++
    [publishUnderLine "2" "task_0" "key" none, publishUnderLine "3" "task_1" "key" none]

/-- The request for the second task is answered and not carried out. -/
def sharedKeyAnswered (h : History System Call) : Bool :=
  match h with
  | [_, _, _, _, _, _, first, later] => carriedOut "key" "task_0" first.1 first.2 &&
    publishesUnder "key" "task_1" later.2 && (answer? later.1 later.2).isSome &&
    !carriedOut "key" "task_1" later.1 later.2
  | _ => false

theorem publish_not_idempotent : (¬∀ h sys, controlPlane.Run h sys → ResendAnswered "key" h) ∧
      (¬∀ h sys, controlPlane.Run h sys → SingleRun "key" h) ∧
      ¬∀ h sys, controlPlane.Run h sys → HonestAnswers "key" h := by
  refine ⟨fun hall => ?_, fun hall => ?_, fun hall => ?_⟩
  · obtain ⟨h, sys, hrun, htest⟩ := exists_run_of_play resentEarlyScript
      (fun p => resendRefused p.1) (by decide +kernel)
    unfold resendRefused at htest
    split at htest
    · next created blocked integrated first later hlist =>
      simp only [Bool.and_eq_true] at htest
      obtain ⟨_, task, _, hanswer⟩ := hall h sys hrun "task_0" [created, blocked, integrated] first
        [later] hlist htest.1.1 later (by simp) htest.1.2
      rw [hanswer] at htest
      cases htest.2
    · cases htest
  · obtain ⟨h, sys, hrun, htest⟩ := exists_run_of_play approvedTwiceScript
      (fun p => 2 ≤ p.1.countP fun step => startsRun "key" step.1 step.2) (by decide +kernel)
    have htwo : 2 ≤ h.countP fun step => startsRun "key" step.1 step.2 := of_decide_eq_true htest
    exact absurd (htwo.trans (hall h sys hrun)) (by decide)
  · obtain ⟨h, sys, hrun, htest⟩ := exists_run_of_play sharedKeyScript
      (fun p => sharedKeyAnswered p.1) (by decide +kernel)
    unfold sharedKeyAnswered at htest
    split at htest
    · next s₁ s₂ s₃ s₄ s₅ s₆ first later hlist =>
      simp only [Bool.and_eq_true, Bool.not_eq_true'] at htest
      obtain ⟨⟨⟨hcarried, hpublishes⟩, hanswered⟩, hnot⟩ := htest
      rw [hall h sys hrun "task_0" [s₁, s₂, s₃, s₄, s₅, s₆] first [later] hlist
        (by rw [hcarried, Bool.true_or]) later (by simp) "task_1" hpublishes (Or.inl (by decide))
        hanswered] at hnot
      cases hnot
    · cases htest

end scripts

end ShipyardCp.Properties
