import ShipyardCp.Store.Refusals
import ShipyardCp.Store.References

/-! The event log of a task as a chain of transitions that ends in the stored state. -/

namespace ShipyardCp.Properties

open Types Domain Lib Store ControlPlane

/-- The log opens with queued, goes on from where it was by allowed transitions, and ends in the
state of the stored task; only a task that is not stored has no log. -/
structure FaithfulLog (task? : Option Task) (log : List StateTransitionEvent) : Prop where
  opened : ∀ e ∈ log.head?, e.fromState = .queued ∧ e.toState = .queued
  chained : log.IsChain fun e e' => e'.fromState = e.toState
  allowed : ∀ e ∈ log, canTransition e.fromState e.toState = true
  ends : log.getLast?.map (·.toState) = task?.map (·.state)

section log

variable {task task' : Task} {log : List StateTransitionEvent} {event : StateTransitionEvent}

theorem faithfulLog_nil : FaithfulLog none [] := by
  constructor <;> simp

theorem FaithfulLog.create (h : FaithfulLog none log) (hfrom : event.fromState = .queued)
    (hto : event.toState = .queued) (hstate : task.state = .queued) :
    FaithfulLog (some task) (log ++ [event]) := by
  obtain rfl : log = [] := by simpa using h.ends
  constructor
  · simpa using ⟨hfrom, hto⟩
  · simp
  · simp [hfrom, hto, canTransition, allowedTransitions]
  · simp [hto, hstate]

theorem FaithfulLog.keep (h : FaithfulLog (some task) log) (hstate : task'.state = task.state) :
    FaithfulLog (some task') log :=
  ⟨h.opened, h.chained, h.allowed, by simpa [hstate] using h.ends⟩

theorem FaithfulLog.extend (h : FaithfulLog (some task) log) (hfrom : event.fromState = task.state)
    (hto : event.toState = task'.state) (hcan : canTransition task.state task'.state = true) :
    FaithfulLog (some task') (log ++ [event]) := by
  obtain ⟨last, hlast, hstate⟩ : ∃ last, log.getLast? = some last ∧ last.toState = task.state := by
    simpa using h.ends
  have hne : log ≠ [] := by
    rintro rfl
    cases hlast
  constructor
  · rw [List.head?_append_of_ne_nil _ hne]
    exact h.opened
  · refine List.isChain_append.mpr ⟨h.chained, List.isChain_singleton _, ?_⟩
    rintro e he e' he'
    rw [hlast] at he
    obtain rfl := Option.some.inj he
    obtain rfl : event = e' := by simpa using he'
    rw [hfrom, hstate]
  · intro e he
    rcases List.mem_append.mp he with he | he
    · exact h.allowed e he
    · obtain rfl := List.mem_singleton.mp he
      rw [hfrom, hto]
      exact hcan
  · simp [hto]

end log

variable {h : History System Call} {sys sys' : System} {call : Call}

theorem FaithfulLog.taskEffect {id : String} {task? task?' : Option Task}
    {log log' : List StateTransitionEvent} (hsync : Synchronous sys)
    (hstored : sys.store.task? id = task?) (hlog : FaithfulLog task? log)
    (heffect : TaskEffect sys call id task? log task?' log') : FaithfulLog task?' log' := by
  have hsnapshot : ∀ d ∈ sys.dispatching, d.task.taskId = id → task? = some d.task := by
    rintro d hd rfl
    rw [← hstored]
    exact hsync.current d hd
  cases heffect with
  | kept => exact hlog
  | created request => exact hlog.create rfl rfl rfl
  | recorded task log event _ _ hfrom hcan => exact hlog.extend hfrom rfl hcan
  | moved task task' log event hmove =>
    obtain ⟨hcan, hfrom, hto⟩ := hmove.transition
    exact hlog.extend hfrom hto hcan
  | patched task task' log hpatch => exact hlog.keep hpatch.frame.2.2
  | answered task log result job a _ _ _ _ _ hallowed =>
    unfold ResultAnswer.allowed at hallowed
    unfold ResultAnswer.resultTask ResultAnswer.events
    cases hmove : a.move with
    | none =>
      rw [List.append_nil]
      exact hlog.keep rfl
    | some move =>
      rw [hmove] at hallowed
      exact hlog.extend rfl rfl hallowed
  | dispatched _ log d backend reason _ hmem hid hcan =>
    rw [hsnapshot d hmem hid] at hlog
    exact hlog.extend rfl rfl hcan
  | refused _ log d error failure _ _ _ hmem hid hcan =>
    rw [hsnapshot d hmem hid] at hlog
    exact hlog.extend rfl rfl hcan

theorem faithfulLog_of_run (hrun : controlPlane.Run h sys) (hseq : Machine.Steps Sequential h)
    (id : String) : FaithfulLog (sys.store.task? id) (sys.store.log id) := by
  refine hrun.invariant (I := fun _ sys => FaithfulLog (sys.store.task? id) (sys.store.log id))
    ?_ ?_ hseq
  · rintro s ⟨_, _, _, rfl⟩
    exact faithfulLog_nil
  · exact fun h s call s' hrun hsteps hlog _ hstep =>
      hlog.taskEffect (synchronous_of_run hrun hsteps) rfl (taskEffect_of_step hstep id)

/-- A task that is blocked and resumed by hand on its way to a verdict. -/
def interruptedScript : Script :=
  [line "0" (.createTask sampleRequest), dispatchLine "0" .plan, settleLine submitted,
    recordLine .planning .blocked, recordLine .blocked .planning,
    line "0" (.applyResult "task_0" (sampleResult "job_0" .succeeded))] ++
    stageScript "1" .dev (devResult "job_1") ++
    stageScript "2" .acceptance (acceptanceResult "job_2" .accept) ++
    [line "0" (.completeAcceptance "task_0" checkAll)]

def isAccepted (sys : System) : Bool :=
  (sys.store.task? "task_0").any fun task => decide (task.state = .accepted)

end ShipyardCp.Properties
