import ShipyardCp.Store.Wiring

/-! Whether a terminal state is the last state of its task. The synchronous operations check the
stored task; a dispatch writes its snapshot back and does not. -/

namespace ShipyardCp.Properties

open Types Domain Lib Store

def KeepsTerminal (sys sys' : System) : Prop :=
  ∀ id task, sys.store.task? id = some task → isTerminal task.state = true →
    ∃ task', sys'.store.task? id = some task' ∧ task'.state = task.state

theorem KeepsTerminal.trans {s₁ s₂ s₃ : System} (h₁ : KeepsTerminal s₁ s₂)
    (h₂ : KeepsTerminal s₂ s₃) : KeepsTerminal s₁ s₃ := fun id task htask hterminal => by
  obtain ⟨task₂, htask₂, hstate₂⟩ := h₁ id task htask hterminal
  obtain ⟨task₃, htask₃, hstate₃⟩ := h₂ id task₂ htask₂ (by rw [hstate₂]; exact hterminal)
  exact ⟨task₃, htask₃, hstate₃.trans hstate₂⟩

/-- A dispatch that writes back finds its task in a state that is not terminal. -/
def settlesLive (sys : System) (call : Call) : Bool :=
  match call.op with
  | .settleDispatch d submission =>
    !writesBack submission ||
      (sys.store.task? d.task.taskId).all fun task => !isTerminal task.state
  | _ => true

section step

variable {sys sys' : System} {call : Call}

theorem settlesLive_task {d : PendingDispatch} {submission : SubmissionResult} {task : Task}
    (h : settlesLive sys call = true) (hop : call.op = .settleDispatch d submission)
    (hwrites : writesBack submission = true) (htask : sys.store.task? d.task.taskId = some task) :
    isTerminal task.state = false := by
  simpa [settlesLive, hop, hwrites, htask] using h

theorem keepsTerminal_of_step (hlive : settlesLive sys call = true)
    (hstep : controlPlane.step sys call sys') : KeepsTerminal sys sys' := by
  intro id task htask hterminal
  have hid := sys.store.task?_taskId htask
  have heffect := taskEffect_of_step hstep id
  rw [htask] at heffect
  obtain ⟨task', htask'⟩ := heffect.isSome
  rw [htask'] at heffect
  refine ⟨task', htask', ?_⟩
  have hwritten : ∀ (d : PendingDispatch) submission, call.op = .settleDispatch d submission →
      writesBack submission = true → d.task.taskId = task.taskId → False := by
    intro d submission hop hwrites hsame
    have hnot := settlesLive_task hlive hop hwrites (by rw [hsame, hid]; exact htask)
    rw [hterminal] at hnot
    cases hnot
  cases heffect.written hid with
  | stored _ _ hstate =>
    rcases hstate with hsame | hcan
    · exact hsame
    · rw [canTransition_of_isTerminal hterminal] at hcan
      cases hcan
  | dispatched d backend reason hop _ hsame _ => exact (hwritten d _ hop rfl hsame).elim
  | refused d error failure hop hfailure hrefusal _ hsame _ =>
    have hwrites : writesBack (.failure error) = true := by
      rw [writesBack, ← hfailure]
      exact hrefusal
    exact (hwritten d _ hop hwrites hsame).elim

theorem state_of_writesBack (hwired : Wired sys) (env : Env) {d : PendingDispatch}
    {submission : SubmissionResult} (hwrites : writesBack submission = true)
    (hpending : d ∈ sys.dispatching) :
    ∃ task', (sys.settleDispatch env d submission).store.task? d.task.taskId = some task' ∧
      isTerminal task'.state = false := by
  have hwaiting := hwired.waiting d hpending
  cases submission with
  | thrown message => simp [writesBack] at hwrites
  | failure error =>
    rw [hwaiting.settle_refused env sys rfl hwrites, ControlPlane.commit_task?]
    exact ⟨_, if_pos rfl, rfl⟩
  | success backend reason =>
    rw [hwaiting.settle_success env sys backend reason, ControlPlane.commit_task?]
    refine ⟨_, if_pos rfl, ?_⟩
    cases hnext : d.nextState <;> simp [ResumeState.toTaskState, isTerminal]

theorem settlesLive_of_keepsTerminal (hwired : Wired sys) (hstep : controlPlane.step sys call sys')
    (hkeeps : KeepsTerminal sys sys') : settlesLive sys call = true := by
  obtain ⟨env, op⟩ := call
  cases op with
  | settleDispatch d submission =>
    by_contra hnot
    simp only [settlesLive, Bool.or_eq_true, Option.all_eq_true, not_or, not_forall] at hnot
    obtain ⟨hwrites, task, htask, hterminal⟩ := hnot
    replace hwrites : writesBack submission = true := by simpa using hwrites
    replace hterminal : isTerminal task.state = true := by simpa using hterminal
    have hnext : sys.next ⟨env, .settleDispatch d submission⟩ = some sys' := hstep
    simp only [System.next, System.enabled, decide_eq_true_eq] at hnext
    split_ifs at hnext with hpending
    obtain rfl := Option.some.inj hnext
    obtain ⟨task', htask', hlive⟩ := state_of_writesBack hwired env hwrites hpending
    obtain ⟨task'', htask'', hstate⟩ := hkeeps _ task htask hterminal
    rw [show (sys.perform ⟨env, .settleDispatch d submission⟩).store.task? d.task.taskId =
      some task' from htask'] at htask''
    obtain rfl := Option.some.inj htask''
    rw [hstate, hterminal] at hlive
    cases hlive
  | _ => rfl

end step

/-- In a run, every terminal state lasts exactly when no dispatch of a terminal task writes its
snapshot back. -/
theorem terminal_states_absorbing_iff {h : History System Call} {sys : System}
    (hrun : controlPlane.Run h sys) :
    (Machine.states h sys).Pairwise KeepsTerminal ↔
      Machine.Steps (fun sys call => settlesLive sys call = true) h := by
  constructor
  · exact hrun.steps_of_pairwise fun _ _ _ _ hbefore hstep hkeeps =>
      settlesLive_of_keepsTerminal (wired_of_run hbefore) hstep hkeeps
  · intro hsteps
    refine hrun.pairwise (fun _ _ _ h₁ h₂ => h₁.trans h₂) ?_ hsteps
    exact fun _ _ _ _ _ hlive hstep => keepsTerminal_of_step hlive hstep

def cancelledScript : Script :=
  [line "0" (.createTask sampleRequest), dispatchLine "0" .plan, line "0" (.cancel "task_0"),
    settleLine (.thrown "worker stopped"), line "1" (.cancel "task_0")]

theorem cancelled_task_stays : ∃ h sys, controlPlane.Run h sys ∧
      ((sys.store.task? "task_0").any fun task => task.state = .cancelled) = true ∧
      (Machine.states h sys).Pairwise KeepsTerminal := by
  obtain ⟨h, sys, hrun, htest⟩ := exists_run_of_play cancelledScript
    (fun p => ((p.2.store.task? "task_0").any fun task => task.state = .cancelled) &&
      p.1.all fun step => settlesLive step.1 step.2) (by decide +kernel)
  simp only [Bool.and_eq_true, List.all_eq_true] at htest
  exact ⟨h, sys, hrun, htest.1, (terminal_states_absorbing_iff hrun).mpr htest.2⟩

def revivedScript : Script :=
  [line "0" (.createTask sampleRequest), dispatchLine "0" .plan, line "0" (.cancel "task_0"),
    settleLine submitted]

theorem terminal_states_not_absorbing :
    ¬∀ h sys, controlPlane.Run h sys → (Machine.states h sys).Pairwise KeepsTerminal := by
  intro hall
  obtain ⟨h, sys, hrun, htest⟩ := exists_run_of_play revivedScript
    (fun p => ((p.2.store.task? "task_0").any fun task => task.state = .planning) &&
      p.1.any fun step =>
        (step.1.store.task? "task_0").any fun task => task.state = .cancelled)
    (by decide +kernel)
  simp only [Bool.and_eq_true, List.any_eq_true, Option.any_eq_true, decide_eq_true_eq] at htest
  obtain ⟨⟨last, hlast, hplanning⟩, step, hmem, task, htask, hcancelled⟩ := htest
  have hkeeps := Machine.rel_last_of_pairwise (hall h sys hrun) hmem
  obtain ⟨task', htask', hstate⟩ := hkeeps "task_0" task htask (by rw [hcancelled]; rfl)
  rw [hlast] at htask'
  obtain rfl := Option.some.inj htask'
  rw [hplanning, hcancelled] at hstate
  cases hstate

end ShipyardCp.Properties
