import ShipyardCp.Store.TaskEffect
import ShipyardCp.Store.Wiring

/-! Which calls put a task into the accepted state. -/

namespace ShipyardCp.Properties

open Types Domain Lib Store ControlPlane

/-- Every task that becomes accepted is completed by hand, with all gates met. -/
def GatedAcceptance (sys : System) (call : Call) (sys' : System) : Prop :=
  ∀ id task', sys'.store.task? id = some task' → task'.state = .accepted →
    (∀ task, sys.store.task? id = some task → task.state ≠ .accepted) →
    ∃ task request, sys.store.task? id = some task ∧
      call.op = .completeAcceptance id request ∧ AcceptanceGates call.env.now task request

/-- The call records a transition of an accepting task to accepted. -/
def recordsAcceptance (sys : System) (call : Call) : Bool :=
  match call.op with
  | .recordTransition taskId event =>
    event.taskId = taskId && event.fromState = .accepting && event.toState = .accepted &&
      (sys.store.task? taskId).any fun task => task.state = .accepting
  | _ => false

section step

variable {sys sys' : System} {call : Call}

theorem recordsAcceptance_iff : recordsAcceptance sys call = true ↔
    ∃ taskId event task, call.op = .recordTransition taskId event ∧ event.taskId = taskId ∧
      event.fromState = .accepting ∧ event.toState = .accepted ∧
      sys.store.task? taskId = some task ∧ task.state = .accepting := by
  unfold recordsAcceptance
  cases hop : call.op with
  | recordTransition taskId event =>
    simp only [Bool.and_eq_true, decide_eq_true_eq, Option.any_eq_true]
    constructor
    · rintro ⟨⟨⟨hid, hfrom⟩, hto⟩, task, htask, hstate⟩
      exact ⟨taskId, event, task, rfl, hid, hfrom, hto, htask, hstate⟩
    · rintro ⟨_, _, task, hsame, hid, hfrom, hto, htask, hstate⟩
      cases hsame
      exact ⟨⟨⟨hid, hfrom⟩, hto⟩, task, htask, hstate⟩
  | _ => simp

theorem accepting_of_canTransition {s : TaskState} (hcan : canTransition s .accepted = true)
    (hne : s ≠ .accepted) : s = .accepting := by
  cases s <;> simp_all [canTransition, allowedTransitions]

theorem gates_of_moved {id : String} {task task' : Task} {event : StateTransitionEvent}
    (hmove : Moved call id task task' event) (haccepted : task'.state = .accepted) :
    ∃ request, call.op = .completeAcceptance id request ∧
      AcceptanceGates call.env.now task request := by
  cases hmove with
  | accepted request hop hgates => exact ⟨request, hop, hgates⟩
  | integrationEnded request moved toState reason _ _ hended =>
    cases hended with
    | _ => cases haccepted
  | publish request n moved toState input _ _ hpublish =>
    cases hpublish with
    | _ => cases haccepted
  | _ => cases haccepted

theorem gates_of_taskEffect {id : String} {old : Option Task} {task' : Task}
    {log log' : List StateTransitionEvent}
    (heffect : TaskEffect sys call id old log (some task') log') (hold : sys.store.task? id = old)
    (hnot : recordsAcceptance sys call = false) (haccepted : task'.state = .accepted)
    (hne : ∀ task, old = some task → task.state ≠ .accepted) :
    ∃ task request, old = some task ∧ call.op = .completeAcceptance id request ∧
      AcceptanceGates call.env.now task request := by
  cases heffect with
  | kept => exact absurd haccepted (hne task' rfl)
  | created request _ _ _ => cases haccepted
  | recorded task _ event hop hid hfrom hcan =>
    have hto : event.toState = .accepted := haccepted
    rw [hto] at hcan
    have hstate := accepting_of_canTransition hcan (hne task rfl)
    have hrecords := recordsAcceptance_iff.mpr ⟨id, event, task, hop, hid, hfrom.trans hstate, hto,
      hold, hstate⟩
    rw [hnot] at hrecords
    cases hrecords
  | moved task _ _ event hmove =>
    obtain ⟨request, hop, hgates⟩ := gates_of_moved hmove haccepted
    exact ⟨task, request, rfl, hop, hgates⟩
  | patched task _ _ hpatch => exact absurd (hpatch.frame.2.2.symm.trans haccepted) (hne task rfl)
  | answered task _ result job a _ _ _ _ hsound _ =>
    rw [hsound.resultTask_eq_patched call.env (by rw [haccepted]; rfl)] at haccepted
    exact absurd haccepted (hne task rfl)
  | dispatched _ _ d backend reason _ _ _ _ =>
    exact absurd haccepted (by cases hnext : d.nextState <;> simp [ResumeState.toTaskState])
  | refused _ _ d error failure _ _ _ _ _ _ => cases haccepted

theorem gatedAcceptance_of_step (hnot : recordsAcceptance sys call = false)
    (hstep : controlPlane.step sys call sys') : GatedAcceptance sys call sys' := by
  intro id task' htask' haccepted hbefore
  have heffect := taskEffect_of_step hstep id
  rw [htask'] at heffect
  exact gates_of_taskEffect heffect rfl hnot haccepted hbefore

theorem not_recordsAcceptance (hstep : controlPlane.step sys call sys')
    (hgated : GatedAcceptance sys call sys') : recordsAcceptance sys call = false := by
  by_contra hrecords
  obtain ⟨id, event, task, hop, hid, hfrom, hto, htask, hstate⟩ :=
    recordsAcceptance_iff.mp (by simpa using hrecords)
  obtain ⟨env, op⟩ := call
  obtain rfl : op = _ := hop
  have hnext : sys.next ⟨env, .recordTransition id event⟩ = some sys' := hstep
  simp only [System.next, System.enabled, if_true, Option.some.injEq] at hnext
  obtain rfl := hnext
  have hfinal := finalState_recordTransition_of_valid env htask hid
    (hfrom.trans hstate.symm) (by rw [hstate, hto]; rfl)
  have htask' : (sys.perform ⟨env, .recordTransition id event⟩).store.task? id =
      some (recorded env task event.toState) := by
    rw [show (sys.perform ⟨env, .recordTransition id event⟩).store = _ from hfinal,
      ControlPlane.commit_task?]
    exact if_pos (sys.store.task?_taskId htask).symm
  obtain ⟨_, request, _, hcomplete, _⟩ := hgated id _ htask' hto fun old hold => by
    rw [htask] at hold
    rw [← Option.some.inj hold, hstate]
    decide
  cases hcomplete

end step

/-- In a run, every task that becomes accepted passes all gates of manual acceptance, exactly when
no call records a transition from accepting to accepted. -/
theorem acceptance_gated_iff {h : History System Call} {sys : System}
    (hrun : controlPlane.Run h sys) :
    controlPlane.EveryStep (fun _ => GatedAcceptance) h ↔
      Machine.Steps (fun sys call => recordsAcceptance sys call = false) h := by
  constructor
  · exact hrun.steps_of_everyStep fun _ _ _ _ _ hstep hgated => not_recordsAcceptance hstep hgated
  · intro hsteps
    refine hrun.everyStep ?_ hsteps
    exact fun _ _ _ _ _ _ hnot hstep => gatedAcceptance_of_step hnot hstep

def acceptedScript : Script :=
  acceptingScript sampleRequest ++ [line "3" (.completeAcceptance "task_0" checkAll)]

theorem acceptance_gated_of_accepted : ∃ h sys, controlPlane.Run h sys ∧
      ((sys.store.task? "task_0").any fun task => task.state = .accepted) = true ∧
      controlPlane.EveryStep (fun _ => GatedAcceptance) h := by
  obtain ⟨h, sys, hrun, htest⟩ := exists_run_of_play acceptedScript
    (fun p => ((p.2.store.task? "task_0").any fun task => task.state = .accepted) &&
      p.1.all fun step => !recordsAcceptance step.1 step.2) (by decide +kernel)
  simp only [Bool.and_eq_true, List.all_eq_true, Bool.not_eq_true'] at htest
  exact ⟨h, sys, hrun, htest.1, (acceptance_gated_iff hrun).mpr htest.2⟩

def recordedScript : Script := acceptingScript sampleRequest ++ [recordLine .accepting .accepted]

theorem acceptance_not_gated :
    ¬∀ h sys, controlPlane.Run h sys → controlPlane.EveryStep (fun _ => GatedAcceptance) h := by
  intro hall
  obtain ⟨h, sys, hrun, htest⟩ := exists_run_of_play recordedScript
    (fun p => p.1.any fun step => recordsAcceptance step.1 step.2) (by decide +kernel)
  obtain ⟨step, hmem, hrecords⟩ := List.any_eq_true.mp htest
  obtain ⟨h₁, h₂, rfl⟩ := List.append_of_mem hmem
  obtain ⟨s', _, hstep, _⟩ := hrun.split
  rw [not_recordsAcceptance hstep (hall _ sys hrun h₁ _ _ h₂ s' rfl hstep)] at hrecords
  cases hrecords

/-! Where the evidence of an acceptance comes from: the verdict and the checked items that it relies
on. -/

def RecordsVerdict (id : String) (v : Verdict) (sys : System) (call : Call) : Prop :=
  (∃ result, appliedBy call sys.store = some (id, result) ∧ result.verdict = some v) ∨
    ∃ request, call.op = .completeAcceptance id request ∧ request.verdict = some v

def ChecksItem (id : String) (item : ManualChecklistItem) (_ : System) (call : Call) : Prop :=
  ∃ request items, call.op = .completeAcceptance id request ∧ request.checkedItems = some items ∧
    ∃ c ∈ items, item.id = c.id ∧ item.checkedAt = some call.env.now ∧ item.checkedBy = c.checkedBy

/-- What the task carries as evidence was recorded by a call of the history. -/
structure Evidenced (h : History System Call) (id : String) (task : Task) : Prop where
  verdict : ∀ v, task.lastVerdict = some v → Machine.Occurs (RecordsVerdict id v) h
  checklist : ∀ items item, task.manualChecklist = some items → item ∈ items →
    item.checked = some true → Machine.Occurs (ChecksItem id item) h

section step

variable {h : History System Call} {sys sys' : System} {call : Call} {id : String} {task task' : Task}

theorem Evidenced.append (hev : Evidenced h id task) (h₂ : History System Call) :
    Evidenced (h ++ h₂) id task where
  verdict v hv := (hev.verdict v hv).append h₂
  checklist items item hitems hmem hchecked := (hev.checklist items item hitems hmem hchecked).append h₂

theorem Evidenced.of_eq (hev : Evidenced h id task) (hverdict : task'.lastVerdict = task.lastVerdict)
    (hchecklist : task'.manualChecklist = task.manualChecklist) : Evidenced h id task' where
  verdict v hv := hev.verdict v (hverdict ▸ hv)
  checklist items item hitems := hev.checklist items item (hchecklist ▸ hitems)

theorem evidence_withPolicyWarnings (warnings : List String) :
    (withPolicyWarnings task warnings).lastVerdict = task.lastVerdict ∧
      (withPolicyWarnings task warnings).manualChecklist = task.manualChecklist := by
  unfold withPolicyWarnings
  split_ifs <;> exact ⟨rfl, rfl⟩

theorem evidence_of_moved {event : StateTransitionEvent} (hmove : Moved call id task task' event) :
    (task'.lastVerdict = task.lastVerdict ∧ task'.manualChecklist = task.manualChecklist) ∨
      ∃ request, call.op = .completeAcceptance id request ∧
        task'.lastVerdict = effectiveVerdict task request ∧
        task'.manualChecklist = updatedChecklist call.env.now task request := by
  cases hmove with
  | accepted request hop _ => exact Or.inr ⟨request, hop, rfl, rfl⟩
  | integrationEnded request moved toState reason _ _ hended =>
    cases hended <;> exact Or.inl ⟨rfl, rfl⟩
  | publish request n moved toState input _ _ hpublish =>
    cases hpublish with
    | denied reason => exact Or.inl ⟨rfl, rfl⟩
    | pending warnings _ _ => exact Or.inl (evidence_withPolicyWarnings warnings)
    | started warnings _ _ => exact Or.inl (evidence_withPolicyWarnings warnings)
  | timedOut updatedTask reason n _ htimed =>
    obtain ⟨_, _, _, _, _, _, _, rfl⟩ := timedOut_eq_some htimed
    exact Or.inl ⟨rfl, rfl⟩
  | _ => exact Or.inl ⟨rfl, rfl⟩

theorem checklist_evidenced {request : CompleteAcceptanceRequest}
    (hop : call.op = .completeAcceptance id request) (hev : Evidenced h id task)
    {items : List ManualChecklistItem} {item : ManualChecklistItem}
    (hitems : updatedChecklist call.env.now task request = some items) (hmem : item ∈ items)
    (hchecked : item.checked = some true) :
    Machine.Occurs (ChecksItem id item) (h ++ [(sys, call)]) := by
  unfold updatedChecklist at hitems
  split at hitems
  · next given checklist hgiven hchecklist =>
    obtain rfl := Option.some.inj hitems
    rcases mem_checkItems hmem with hold | hnew
    · exact (hev.checklist checklist item hchecklist hold hchecked).append _
    · exact Machine.occurs_snoc ⟨request, given, hop, hgiven, hnew⟩
  · exact (hev.checklist items item hitems hmem hchecked).append _

theorem verdict_evidenced {request : CompleteAcceptanceRequest}
    (hop : call.op = .completeAcceptance id request) (hev : Evidenced h id task) {v : Verdict}
    (hv : effectiveVerdict task request = some v) :
    Machine.Occurs (RecordsVerdict id v) (h ++ [(sys, call)]) := by
  unfold effectiveVerdict at hv
  cases hgiven : request.verdict with
  | none =>
    rw [hgiven] at hv
    exact (hev.verdict v hv).append _
  | some given =>
    rw [hgiven] at hv
    exact Machine.occurs_snoc (Or.inr ⟨request, hop, hgiven.trans hv⟩)

theorem evidenced_of_patched (hpatch : Patched call id task task') (hev : Evidenced h id task) :
    Evidenced (h ++ [(sys, call)]) id task' := by
  cases hpatch with
  | checklist request hop _ _ =>
    refine ⟨fun v hv => (hev.verdict v hv).append _, fun items item hitems hmem hchecked => ?_⟩
    have hfield : overwrite (updatedChecklist call.env.now task request) task.manualChecklist =
        some items := hitems
    cases hupdated : updatedChecklist call.env.now task request with
    | none =>
      rw [hupdated, overwrite_none] at hfield
      exact (hev.checklist items item hfield hmem hchecked).append _
    | some updated =>
      rw [hupdated, overwrite_some] at hfield
      exact checklist_evidenced hop hev (hupdated.trans hfield) hmem hchecked
  | integrationProgress _ _ => exact (hev.append _).of_eq rfl rfl
  | publishProgress _ _ => exact (hev.append _).of_eq rfl rfl
  | references _ _ _ => exact (hev.append _).of_eq rfl rfl

theorem evidenced_of_answered {result : WorkerResult} {job : WorkerJob} {a : ResultAnswer}
    (happlied : appliedBy call sys.store = some (id, result)) (hsound : a.Sound result task job)
    (hev : Evidenced h id task) :
    Evidenced (h ++ [(sys, call)]) id (a.resultTask call.env task) := by
  have hpatched : Evidenced (h ++ [(sys, call)]) id (a.patched call.env task) := by
    constructor
    · intro v hv
      have hfield : overwrite a.update.lastVerdict task.lastVerdict = some v := hv
      cases hupdate : a.update.lastVerdict with
      | none =>
        rw [hupdate, overwrite_none] at hfield
        exact (hev.verdict v hfield).append _
      | some given =>
        rw [hupdate, overwrite_some] at hfield
        exact Machine.occurs_snoc
          (Or.inl ⟨result, happlied, hsound.update.verdict v (hupdate.trans hfield)⟩)
    · intro items item hitems hmem hchecked
      have hfield : overwrite a.update.manualChecklist task.manualChecklist = some items := hitems
      cases hupdate : a.update.manualChecklist with
      | none =>
        rw [hupdate, overwrite_none] at hfield
        exact (hev.checklist items item hfield hmem hchecked).append _
      | some generated =>
        rw [hupdate, overwrite_some] at hfield
        obtain ⟨hgenerated, _⟩ := hsound.update.checklist items (hupdate.trans hfield)
        rw [hgenerated] at hmem
        rw [generateChecklist_unchecked hmem] at hchecked
        cases hchecked
  unfold ResultAnswer.resultTask
  split
  · exact hpatched
  · exact hpatched.of_eq rfl rfl

theorem evidenced_of_taskEffect {old : Option Task} {log log' : List StateTransitionEvent}
    (heffect : TaskEffect sys call id old log (some task') log')
    (htask : ∀ task, old = some task → Evidenced h id task)
    (hwaiting : ∀ d ∈ sys.dispatching, Evidenced h d.task.taskId d.task) :
    Evidenced (h ++ [(sys, call)]) id task' := by
  cases heffect with
  | kept => exact (htask task' rfl).append _
  | created request _ _ _ => exact ⟨nofun, nofun⟩
  | recorded task _ event _ _ _ _ => exact ((htask task rfl).append _).of_eq rfl rfl
  | moved task _ _ event hmove =>
    rcases evidence_of_moved hmove with ⟨hverdict, hchecklist⟩ | ⟨request, hop, hverdict, hchecklist⟩
    · exact ((htask task rfl).append _).of_eq hverdict hchecklist
    · refine ⟨fun v hv => ?_, fun items item hitems hmem hchecked => ?_⟩
      · exact verdict_evidenced hop (htask task rfl) (hverdict ▸ hv)
      · exact checklist_evidenced hop (htask task rfl) (hchecklist ▸ hitems) hmem hchecked
  | patched task _ _ hpatch => exact evidenced_of_patched hpatch (htask task rfl)
  | answered task _ result job a happlied _ _ _ hsound _ =>
    exact evidenced_of_answered happlied hsound (htask task rfl)
  | dispatched _ _ d backend reason _ hmem hid _ =>
    subst hid
    exact ((hwaiting d hmem).append _).of_eq rfl rfl
  | refused _ _ d error failure _ _ _ hmem hid _ =>
    subst hid
    exact ((hwaiting d hmem).append _).of_eq rfl rfl

end step

/-- Every task and every snapshot of a waiting dispatch carries recorded evidence only. -/
structure EvidenceRecorded (h : History System Call) (sys : System) : Prop where
  task : ∀ id task, sys.store.task? id = some task → Evidenced h id task
  waiting : ∀ d ∈ sys.dispatching, Evidenced h d.task.taskId d.task

theorem evidenceRecorded_of_fresh {sys : System} (hfresh : IsFresh sys) :
    EvidenceRecorded [] sys := by
  obtain ⟨_, _, _, rfl⟩ := hfresh
  constructor <;> simp [System.initial, initial, task?]

theorem EvidenceRecorded.step {h : History System Call} {sys sys' : System} {call : Call}
    (hrecorded : EvidenceRecorded h sys) (hwired : Wired sys)
    (hstep : controlPlane.step sys call sys') : EvidenceRecorded (h ++ [(sys, call)]) sys' := by
  refine ⟨fun id task' htask' => ?_, fun d hd => ?_⟩
  · have heffect := taskEffect_of_step hstep id
    rw [htask'] at heffect
    exact evidenced_of_taskEffect heffect (hrecorded.task id) hrecorded.waiting
  · rcases (jobEffect_of_step hstep).waiting hwired hd with ⟨hold, _⟩ | ⟨taskId, request, hbegun, _, _⟩
    · exact (hrecorded.waiting d hold).append _
    · rw [sys.store.task?_taskId hbegun.stored]
      exact (hrecorded.task taskId d.task hbegun.stored).append _

theorem evidenceRecorded_of_run {h : History System Call} {sys : System}
    (hrun : controlPlane.Run h sys) : EvidenceRecorded h sys := by
  refine hrun.invariant (C := fun _ _ => True) (fun _ hfresh => evidenceRecorded_of_fresh hfresh)
    ?_ (fun _ _ => trivial)
  intro h sys call sys' hbefore _ hrecorded _ hstep
  exact hrecorded.step (wired_of_run hbefore) hstep

def Accepts (sys : System) (call : Call) (sys' : System) (id : String)
    (request : CompleteAcceptanceRequest) (task' : Task) : Prop :=
  call.op = .completeAcceptance id request ∧ sys'.store.task? id = some task' ∧
    task'.state = .accepted ∧ ∀ task, sys.store.task? id = some task → task.state ≠ .accepted

/-- The verdict that a manual acceptance relies on was recorded before, and each required item is
checked, by this call or by one before it. -/
def EvidencedAcceptance (h : History System Call) (sys : System) (call : Call) (sys' : System) :
    Prop :=
  ∀ id request task', Accepts sys call sys' id request task' →
    (request.verdict = none → ∃ v, task'.lastVerdict = some v ∧ v.outcome = .accept ∧
      Machine.Occurs (RecordsVerdict id v) h) ∧
    ∃ items, task'.manualChecklist = some items ∧ items ≠ [] ∧
      ∀ item ∈ items, item.required = true → item.checked = some true ∧
        Machine.Occurs (ChecksItem id item) (h ++ [(sys, call)])

theorem gates_of_accepts {sys sys' : System} {call : Call} {id : String}
    {request : CompleteAcceptanceRequest} {task' : Task}
    (hstep : controlPlane.step sys call sys') (haccepts : Accepts sys call sys' id request task') :
    ∃ task, sys.store.task? id = some task ∧ AcceptanceGates call.env.now task request ∧
      task'.lastVerdict = effectiveVerdict task request ∧
      task'.manualChecklist = updatedChecklist call.env.now task request := by
  obtain ⟨hop, htask', haccepted, hne⟩ := haccepts
  have hgates : GatedAcceptance sys call sys' :=
    gatedAcceptance_of_step (by simp [recordsAcceptance, hop]) hstep
  obtain ⟨task, request', htask, hop', hgates⟩ := hgates id task' htask' haccepted hne
  obtain rfl : request = request' := by simpa [hop] using hop'
  refine ⟨task, htask, hgates, ?_⟩
  obtain ⟨env, op⟩ := call
  obtain rfl : op = _ := hop
  have hnext : sys.next ⟨env, .completeAcceptance id request⟩ = some sys' := hstep
  simp only [System.next, System.enabled, if_true, Option.some.injEq] at hnext
  obtain rfl := hnext
  have hfinal : (sys.perform ⟨env, .completeAcceptance id request⟩).store =
      finalState (completeAcceptance env id request) sys.store := rfl
  rw [hfinal] at htask'
  have hid := sys.store.task?_taskId htask
  rcases finalState_completeAcceptance (s := sys.store) env id request with
    hsame | ⟨task₀, htask₀, hstate, ⟨_, hwritten⟩ | ⟨_, hcommitted⟩⟩
  · rw [hsame, htask] at htask'
    obtain rfl := Option.some.inj htask'
    exact absurd haccepted (hne task htask)
  · obtain rfl := Option.some.inj (htask.symm.trans htask₀)
    rw [hwritten, setTask_task?, if_pos (by exact hid.symm)] at htask'
    obtain rfl := Option.some.inj htask'
    exact absurd (hstate.symm.trans haccepted) (by decide)
  · obtain rfl := Option.some.inj (htask.symm.trans htask₀)
    rw [hcommitted, commit_task?, if_pos (by exact hid.symm)] at htask'
    obtain rfl := Option.some.inj htask'
    exact ⟨rfl, rfl⟩

theorem evidencedAcceptance_of_step {h : History System Call} {sys sys' : System} {call : Call}
    (hrun : controlPlane.Run h sys) (hstep : controlPlane.step sys call sys') :
    EvidencedAcceptance h sys call sys' := by
  intro id request task' haccepts
  obtain ⟨task, htask, hgates, hverdict, hchecklist⟩ := gates_of_accepts hstep haccepts
  have hev := (evidenceRecorded_of_run hrun).task id task htask
  constructor
  · intro hnone
    obtain ⟨v, hv, houtcome⟩ := hgates.verdict
    refine ⟨v, hverdict.trans hv, houtcome, hev.verdict v ?_⟩
    rwa [effectiveVerdict, hnone] at hv
  · obtain ⟨items, hitems, hne, hchecked⟩ := hgates.checklist
    refine ⟨items, hchecklist.trans hitems, hne, fun item hmem hrequired => ?_⟩
    have hcheck := hchecked item hmem hrequired
    exact ⟨hcheck, checklist_evidenced haccepts.1 hev hitems hmem hcheck⟩

/-- In every run, what a manual acceptance relies on was recorded by calls of the run. -/
theorem acceptance_evidenced {h : History System Call} {sys : System}
    (hrun : controlPlane.Run h sys) : controlPlane.EveryStep EvidencedAcceptance h := by
  refine hrun.everyStep (C := fun _ _ => True) ?_ (fun _ _ => trivial)
  exact fun _ _ _ _ hbefore _ _ hstep => evidencedAcceptance_of_step hbefore hstep

theorem accepted_evidenced : ∃ h sys, controlPlane.Run h sys ∧
      ((sys.store.task? "task_0").any fun task => task.state = .accepted) = true ∧
      controlPlane.EveryStep EvidencedAcceptance h := by
  obtain ⟨h, sys, hrun, htest⟩ := exists_run_of_play
    (acceptingScript sampleRequest ++ [line "3" (.completeAcceptance "task_0" checkAll)])
    (fun p => (p.2.store.task? "task_0").any fun task => task.state = .accepted)
    (by decide +kernel)
  exact ⟨h, sys, hrun, htest, acceptance_evidenced hrun⟩

def devRounds (sys : System) (id : String) : Nat :=
  (sys.store.log id).countP fun event => event.toState = .devCompleted

/-- The evidence of a manual acceptance was recorded since the last completed development. -/
def FreshAcceptance (h : History System Call) (sys : System) (call : Call) (sys' : System) : Prop :=
  ∀ id request task', Accepts sys call sys' id request task' →
    (request.verdict = none → ∃ v, task'.lastVerdict = some v ∧ Machine.Occurs (fun before call =>
      devRounds before id = devRounds sys id ∧ RecordsVerdict id v before call) h) ∧
    ∀ items item, task'.manualChecklist = some items → item ∈ items → item.required = true →
      Machine.Occurs (fun before call =>
        devRounds before id = devRounds sys id ∧ ChecksItem id item before call) (h ++ [(sys, call)])

def relyOnRecord : CompleteAcceptanceRequest := ⟨none, none⟩

/-- A first round whose checks are complete is sent to rework; the second round is accepted before
its worker answers. -/
def reusingScript : Script := acceptingScript sampleRequest ++
    [line "3" (.completeAcceptance "task_0" { checkAll with verdict := some ⟨.rework, none, none⟩ }),
      recordLine .accepting .reworkRequired] ++
    stageScript "4" .dev (devResult "job_4") ++
    [dispatchLine "5" .acceptance, settleLine submitted,
      line "6" (.completeAcceptance "task_0" relyOnRecord)]

def completesAcceptance (call : Call) : Bool :=
  match call.op with
  | .completeAcceptance id _ => id = "task_0"
  | _ => false

def checksNothing (call : Call) : Bool :=
  match call.op with
  | .completeAcceptance _ request => request.checkedItems.isNone
  | _ => true

/-- The last call accepts the task with a required item, and no call since the last completed
development checks anything. -/
def reuses (h : History System Call) (sys : System) : Bool :=
  ((sys.store.task? "task_0").any fun task => task.state = .accepted &&
    (task.manualChecklist.getD []).any (·.required)) &&
  h.getLast?.any fun last =>
    completesAcceptance last.2 &&
    ((last.1.store.task? "task_0").all fun task => task.state ≠ .accepted) &&
    h.all fun p => devRounds p.1 "task_0" ≠ devRounds last.1 "task_0" || checksNothing p.2

theorem completesAcceptance_iff {call : Call} :
    completesAcceptance call = true ↔ ∃ request, call.op = .completeAcceptance "task_0" request := by
  unfold completesAcceptance
  split
  · next id request hop =>
    simp only [hop, decide_eq_true_eq, Op.completeAcceptance.injEq]
    exact ⟨fun h => ⟨request, h, rfl⟩, fun ⟨_, h, _⟩ => h⟩
  · next hne => exact ⟨nofun, fun ⟨request, hop⟩ => absurd hop (hne "task_0" request)⟩

theorem acceptance_not_fresh :
    ¬∀ h sys, controlPlane.Run h sys → controlPlane.EveryStep FreshAcceptance h := by
  intro hall
  obtain ⟨h, sys, hrun, htest⟩ := exists_run_of_play reusingScript
    (fun p => reuses p.1 p.2) (by decide +kernel)
  rw [reuses, Bool.and_eq_true] at htest
  obtain ⟨htask', hlast⟩ := htest
  obtain ⟨task', htask', haccepted⟩ := Option.any_eq_true _ _ |>.mp htask'
  obtain ⟨⟨before, call⟩, hlast, hcheck⟩ := Option.any_eq_true _ _ |>.mp hlast
  simp only [Bool.and_eq_true, decide_eq_true_eq, List.any_eq_true, Option.all_eq_true,
    List.all_eq_true] at haccepted hcheck
  obtain ⟨haccepted, item, hitem, hrequired⟩ := haccepted
  obtain ⟨⟨hcompletes, hbefore⟩, hnone⟩ := hcheck
  obtain ⟨request, hop⟩ := completesAcceptance_iff.mp hcompletes
  obtain ⟨h₁, rfl⟩ := List.getLast?_eq_some_iff.mp hlast
  obtain ⟨_, _, hstep, hpath⟩ := hrun.split
  cases hpath
  obtain ⟨items, hitems⟩ : ∃ items, task'.manualChecklist = some items := by
    cases hchecklist : task'.manualChecklist with
    | none => simp [hchecklist] at hitem
    | some items => exact ⟨items, rfl⟩
  rw [hitems, Option.getD_some] at hitem
  have hfresh := (hall _ sys hrun h₁ before call [] sys rfl hstep "task_0" _ task'
    ⟨hop, htask', haccepted, hbefore⟩).2 items item hitems hitem hrequired
  obtain ⟨p, hp, hround, request, given, hcompleted, hgiven, _⟩ := hfresh
  have hnothing := hnone p hp
  simp [checksNothing, hcompleted, hgiven, hround] at hnothing

end ShipyardCp.Properties
