import ShipyardCp.Domain.CompletionAttempts
import ShipyardCp.Domain.ExecutorStretches
import ShipyardCp.Properties.ToolPlanWrites
import ShipyardCp.Store.ControlPlaneStore

/-! Whether an attempt at a job that is cancelled still runs calls of its tool plan, and how many
attempts at a job have calls to run at a time. -/

namespace ShipyardCp.Properties

open Types Lib Domain WorkerExecutor Machine

def callsLeft : AttemptPhase → List RunnableCall
  | .executing _ calls => calls
  | _ => []

def Changing (attempt : Attempt) : Prop := ∃ c ∈ callsLeft attempt.phase, c.changesWorkspace = true

def RunsUncancelled (s : AttemptSystem) : AttemptAction → Prop
  | .runsCall k => ∀ attempt ∈ s.attempts[k]?, attempt.cancelled = true →
    ∀ c ∈ (callsLeft attempt.phase).head?, c.changesWorkspace = false
  | _ => True

def OneChanging (s : AttemptSystem) : Prop :=
  ∀ (i j : Nat) (a b : Attempt), s.attempts[i]? = some a → s.attempts[j]? = some b →
    Changing a → Changing b → a.job.jobId = b.job.jobId → i = j

/-- Cancelled attempts have had no effects on the workspace, and no two attempts at a job have them at
once. -/
structure CancelledIdle (h : History AttemptSystem AttemptAction) (s : AttemptSystem) : Prop where
  idle : Machine.Steps RunsUncancelled h
  single : OneChanging s

def hasSettled : AttemptPhase → Bool
  | .settled => true
  | _ => false

def StandsInDev (attempt : Attempt) : Prop :=
  attempt.job.stage = .dev ∧ hasSettled attempt.phase = false ∧ attempt.cancelled = false

def CancelsIdle (s : AttemptSystem) (activeJob : ActiveJob) : Prop :=
  ∀ found ∈ (s.adapters activeJob.adapter).get? activeJob.externalJobId, ∀ attempt ∈ s.attempts,
    attempt.adapter = activeJob.adapter → attempt.object = found.1 → ¬Changing attempt

def SubmitsAlone (s : AttemptSystem) (job : WorkerJob) : Prop :=
  job.stage = .dev → ∀ attempt ∈ s.attempts, StandsInDev attempt → attempt.job.jobId ≠ job.jobId

/-- What a call asks of an adapter does not meet an attempt that is under way. -/
def AsksApart (s : AttemptSystem) : ExecutorCall → Prop
  | .submit job _ _ _ => SubmitsAlone s job
  | .cancel _ _ activeJob => CancelsIdle s activeJob
  | .failoverCancel _ _ activeJob _ _ => CancelsIdle s activeJob
  | _ => True

/-- No attempt is cancelled that has calls left to run, or that comes to have them; no attempt at a
job begins while another stands. -/
def AttemptsApart (host : CompletionHost) (s : AttemptSystem) : AttemptAction → Prop
  | .asks call _ _ _ _ => ∀ point ∈ s.executor.calls.get? call, AsksApart s point
  | .answered k content => ∀ attempt ∈ s.attempts[k]?, attempt.cancelled = true →
    ∀ c ∈ host.plannedCalls attempt.job content, c.changesWorkspace = false
  | _ => True

/-- What is known of the attempts. -/
structure AttemptsKept (attempts : List Attempt) : Prop where
  idle : ∀ (i : Nat) (a : Attempt), attempts[i]? = some a → a.cancelled = true → ¬Changing a
  dev : ∀ (i : Nat) (a : Attempt), attempts[i]? = some a → Changing a → a.job.stage = .dev
  single : ∀ (i j : Nat) (a b : Attempt), attempts[i]? = some a → attempts[j]? = some b →
    StandsInDev a → StandsInDev b → a.job.jobId = b.job.jobId → i = j

def PlansFailOver (e : WorkerExecutor) : Prop :=
  ∀ call point failover, e.calls.get? call = some point → point.failover? = some failover →
    failover.activeJob.job.stage = .plan

section attempts

variable {attempts attempts' : List Attempt} {host : CompletionHost}

theorem Changing.not_settled {a : Attempt} (h : Changing a) : hasSettled a.phase = false := by
  obtain ⟨c, hc, _⟩ := h
  cases hphase : a.phase with
  | requesting => rfl
  | executing content calls => rfl
  | settled =>
    rw [hphase] at hc
    cases hc

theorem AttemptsKept.standsInDev (h : AttemptsKept attempts) {i : Nat} {a : Attempt}
    (ha : attempts[i]? = some a) (hchanging : Changing a) : StandsInDev a := by
  refine ⟨h.dev i a ha hchanging, hchanging.not_settled, ?_⟩
  cases hcancelled : a.cancelled with
  | false => rfl
  | true => exact absurd hchanging (h.idle i a ha hcancelled)

theorem AttemptsKept.each (h : AttemptsKept attempts) {f : Nat → Attempt → Attempt}
    (hget : ∀ i, attempts'[i]? = (attempts[i]?).map (f i)) (hjob : ∀ i a, (f i a).job = a.job)
    (hstands : ∀ i a, attempts[i]? = some a → StandsInDev (f i a) → StandsInDev a)
    (hchanging : ∀ i a, attempts[i]? = some a → Changing (f i a) →
      a.job.stage = .dev ∧ (f i a).cancelled = false) : AttemptsKept attempts' where
  idle := by
    intro i b hb hcancelled hb'
    rw [hget] at hb
    obtain ⟨a, ha, rfl⟩ := Option.map_eq_some_iff.mp hb
    exact absurd ((hchanging i a ha hb').2.symm.trans hcancelled) Bool.false_ne_true
  dev := by
    intro i b hb hb'
    rw [hget] at hb
    obtain ⟨a, ha, rfl⟩ := Option.map_eq_some_iff.mp hb
    rw [hjob]
    exact (hchanging i a ha hb').1
  single := by
    intro i j b c hb hc hbstands hcstands hid
    rw [hget] at hb hc
    obtain ⟨a, ha, rfl⟩ := Option.map_eq_some_iff.mp hb
    obtain ⟨a', ha', rfl⟩ := Option.map_eq_some_iff.mp hc
    rw [hjob, hjob] at hid
    exact h.single i j a a' ha ha' (hstands i a ha hbstands) (hstands j a' ha' hcstands) hid

theorem AttemptsKept.add (h : AttemptsKept attempts) {a : Attempt} (hcalls : callsLeft a.phase = [])
    (halone : a.job.stage = .dev → ∀ b ∈ attempts, StandsInDev b → b.job.jobId ≠ a.job.jobId) :
    AttemptsKept (attempts ++ [a]) := by
  have hidle : ¬Changing a := by
    rintro ⟨c, hc, _⟩
    rw [hcalls] at hc
    cases hc
  have hcases : ∀ (i : Nat) (b : Attempt), (attempts ++ [a])[i]? = some b →
      attempts[i]? = some b ∨ i = attempts.length ∧ b = a := by
    intro i b hb
    rw [List.getElem?_append] at hb
    split_ifs at hb with hi
    · exact Or.inl hb
    · obtain ⟨hlt, hb⟩ := List.getElem?_eq_some_iff.mp hb
      rw [List.length_singleton] at hlt
      exact Or.inr ⟨by omega, by rw [← hb, List.getElem_singleton]⟩
  constructor
  · intro i b hb hcancelled
    rcases hcases i b hb with hb | ⟨_, rfl⟩
    · exact h.idle i b hb hcancelled
    · exact hidle
  · intro i b hb hchanging
    rcases hcases i b hb with hb | ⟨_, rfl⟩
    · exact h.dev i b hb hchanging
    · exact absurd hchanging hidle
  · intro i j b c hb hc hbstands hcstands hid
    rcases hcases i b hb with hold | ⟨hi, rfl⟩
    · rcases hcases j c hc with hold' | ⟨_, rfl⟩
      · exact h.single i j b c hold hold' hbstands hcstands hid
      · exact absurd hid (halone hcstands.1 b (List.mem_of_getElem? hold) hbstands)
    · rcases hcases j c hc with hold' | ⟨hj, _⟩
      · exact absurd hid.symm (halone hbstands.1 c (List.mem_of_getElem? hold') hcstands)
      · rw [hi, hj]

variable {s : AttemptSystem} {k : Nat} {a : Attempt}

theorem AttemptsKept.setPhase (h : AttemptsKept s.attempts) (hk : s.attempts[k]? = some a)
    {phase : AttemptPhase} (hsettled : hasSettled phase = false → hasSettled a.phase = false)
    (hchanging : ∀ c ∈ callsLeft phase, c.changesWorkspace = true →
      a.job.stage = .dev ∧ a.cancelled = false) : AttemptsKept (s.setPhase k phase) := by
  apply h.each (f := fun i b => if k = i then { b with phase } else b)
  · intro i
    unfold AttemptSystem.setPhase
    rw [List.getElem?_modify]
    cases s.attempts[i]? with
    | none => rfl
    | some b => split_ifs <;> rfl
  · intro i b
    split_ifs <;> rfl
  · intro i b hb hstands
    split_ifs at hstands with hi
    · subst hi
      obtain rfl := Option.some.inj (hk.symm.trans hb)
      exact ⟨hstands.1, hsettled hstands.2.1, hstands.2.2⟩
    · exact hstands
  · intro i b hb hchanges
    split_ifs at hchanges ⊢ with hi
    · subst hi
      obtain rfl := Option.some.inj (hk.symm.trans hb)
      obtain ⟨c, hc, hchange⟩ := hchanges
      exact hchanging c hc hchange
    · have hstands := h.standsInDev hb hchanges
      exact ⟨hstands.1, hstands.2.2⟩

theorem AttemptsKept.markCancelled (h : AttemptsKept s.attempts) {adapter : AdapterRef}
    {object : Option Nat} (hidle : ∀ b ∈ s.attempts, b.adapter = adapter →
      some b.object = object → ¬Changing b) : AttemptsKept (s.markCancelled adapter object) := by
  apply h.each (f := fun _ b => if b.adapter = adapter ∧ some b.object = object then
    { b with cancelled := true } else b)
  · exact fun i => List.getElem?_map
  · intro i b
    split_ifs <;> rfl
  · intro i b _ hstands
    split_ifs at hstands
    · exact absurd hstands.2.2 Bool.noConfusion
    · exact hstands
  · intro i b hb hchanges
    split_ifs at hchanges ⊢ with hfound
    · exact absurd hchanges (hidle b (List.mem_of_getElem? hb) hfound.1 hfound.2)
    · have hstands := h.standsInDev hb hchanges
      exact ⟨hstands.1, hstands.2.2⟩

theorem plannedCalls_stage {host : CompletionHost} {job : WorkerJob} {content : List Char}
    {c : RunnableCall} (h : c ∈ host.plannedCalls job content) : job.stage = .dev := by
  unfold CompletionHost.plannedCalls at h
  split_ifs at h with hdev
  · exact hdev.1
  · cases h

end attempts

section failovers

variable {e e' : WorkerExecutor} {call : Nat} {wait : Option JobWait} {jobId : String}
  {point : ExecutorCall} {failover : Failover}

def StartsPlans (stretch : Stretch) : Prop :=
  ∀ point failover, stretch.ending = .awaits point → point.failover? = some failover →
    failover.activeJob.job.stage = .plan

variable {stretch : Stretch}

theorem startsPlans_returns {answer : ExecutorReturn}
    (h : stretch.ending = .returns answer) : StartsPlans stretch := by
  intro point failover hending
  rw [h] at hending
  cases hending

theorem startsPlans_awaits (h : stretch.ending = .awaits point)
    (hplain : point.failover? = none) : StartsPlans stretch := by
  intro other failover hending hfailover
  rw [h] at hending
  obtain rfl := StretchEnd.awaits.inj hending
  rw [hplain] at hfailover
  cases hfailover

theorem startsPlans_pollEnds {jobs : InsertionMap String ActiveJob}
    {answer : Except String JobPollResult} : StartsPlans (e.pollEnds jobs wait jobId answer) := by
  rcases pollEnds_ending e jobs wait jobId answer with ⟨w, hw⟩ | hw | ⟨_, _, a, hw⟩
  · exact startsPlans_awaits hw rfl
  · exact startsPlans_returns hw
  · exact startsPlans_returns hw

variable {now : Timestamp}

theorem startsPlans_cancelEnds {jobs : InsertionMap String ActiveJob}
    {answer : Except String CancelResult} :
    StartsPlans (e.cancelEnds now jobs wait jobId answer) := by
  cases wait with
  | none => exact startsPlans_returns rfl
  | some w => cases answer <;> exact startsPlans_returns rfl

theorem startsPlans_pollJob : StartsPlans (e.pollJob wait jobId) := by
  unfold pollJob
  cases e.activeJobs.get? jobId with
  | none => exact startsPlans_pollEnds
  | some activeJob => exact startsPlans_awaits rfl rfl

theorem startsPlans_cancelJob : StartsPlans (e.cancelJob now wait jobId) := by
  unfold cancelJob
  cases e.activeJobs.get? jobId with
  | none => exact startsPlans_cancelEnds
  | some activeJob => exact startsPlans_awaits rfl rfl

theorem startsPlans_waitRound {w : JobWait} : StartsPlans (e.waitRound now jobId w) := by
  unfold waitRound
  split_ifs
  · exact startsPlans_cancelJob
  · exact startsPlans_pollJob

theorem startsPlans_tryFailover {activeJob : ActiveJob} {failed : JobPollResult} :
    StartsPlans (e.tryFailover wait jobId activeJob failed) := by
  unfold tryFailover
  cases htarget : e.failoverTarget activeJob with
  | none => exact startsPlans_pollEnds
  | some nextWorker =>
    intro point failover hending hfailover
    obtain rfl := StretchEnd.awaits.inj hending
    obtain rfl := Option.some.inj hfailover
    have hnext := (Option.filter_eq_some_iff.mp htarget).1
    exact (getFailoverWorker_isSome_iff.mp (by rw [hnext]; rfl)).1

theorem startsPlans_begins {step : ExecutorStep}
    (h : WorkerExecutor.Begins e step stretch) : StartsPlans stretch := by
  cases h with
  | submitJob _ =>
    unfold submitJob
    dsimp only
    split
    · exact startsPlans_returns rfl
    · split_ifs
      · exact startsPlans_awaits rfl rfl
      · exact startsPlans_returns rfl
  | pollJob _ => exact startsPlans_pollJob
  | cancelJob _ => exact startsPlans_cancelJob
  | waitForJob _ => exact startsPlans_waitRound

theorem startsPlans_resume {answer : AwaitedAnswer}
    (hplans : PlansFailOver e) (hpoint : e.calls.get? call = some point)
    (h : e.resume now call point answer = some stretch) : StartsPlans stretch := by
  cases resumes_of_resume h with
  | @submit _ _ _ _ answer =>
    unfold submitted
    cases answer with
    | error error => exact startsPlans_returns rfl
    | ok result =>
      dsimp only
      split_ifs
      · exact startsPlans_awaits rfl rfl
      · split <;> exact startsPlans_returns rfl
  | @poll _ _ _ answer =>
    unfold polled
    cases answer with
    | error error => exact startsPlans_pollEnds
    | ok polled =>
      dsimp only
      split_ifs
      · exact startsPlans_pollEnds
      · exact startsPlans_tryFailover
      · exact startsPlans_pollEnds
      · exact startsPlans_pollEnds
  | @failoverCancel _ jobId activeJob _ _ _ =>
    intro point failover hending hfailover
    obtain rfl := StretchEnd.awaits.inj hending
    obtain rfl := Option.some.inj hfailover
    exact hplans call _ ⟨jobId, activeJob, activeJob.workerType⟩ hpoint rfl
  | @failoverSubmit _ _ _ _ _ answer =>
    unfold failoverSubmitted
    cases answer with
    | error error => exact startsPlans_pollEnds
    | ok submission =>
      dsimp only
      split
      · exact startsPlans_pollEnds
      · exact startsPlans_tryFailover
  | @cancel _ _ _ answer =>
    unfold cancelled
    cases answer with
    | error error => exact startsPlans_cancelEnds
    | ok result =>
      dsimp only
      split_ifs <;> exact startsPlans_cancelEnds
  | sleep =>
    exact startsPlans_waitRound

theorem PlansFailOver.after (h : PlansFailOver e)
    (hstarts : StartsPlans stretch) : PlansFailOver (e.after call stretch) := by
  intro c point failover hpoint hfailover
  rcases calls_after hpoint with ⟨_, hending⟩ | ⟨_, hpoint⟩
  · exact hstarts point failover hending hfailover
  · exact h c point failover hpoint hfailover

theorem PlansFailOver.next (h : PlansFailOver e) {step : ExecutorStep}
    (hstep : e.next step = some e') : PlansFailOver e' := by
  rcases next_eq_some hstep with ⟨stretch, hbegins, rfl⟩ |
    ⟨call, answer, point, stretch, _, hpoint, hresume, rfl⟩
  · have hafter : PlansFailOver (e.after e.nextCall stretch) := h.after (startsPlans_begins hbegins)
    exact hafter
  · exact h.after (startsPlans_resume h hpoint hresume)

end failovers

section runs

variable {host : CompletionHost} {s s' : AttemptSystem}

/-- What is known of an executor and its attempts. -/
structure AttemptInvariant (s : AttemptSystem) : Prop where
  attempts : AttemptsKept s.attempts
  failovers : PlansFailOver s.executor

theorem AttemptInvariant.submits (h : AttemptInvariant s) {call : Nat} {adapter : AdapterRef}
    {job : WorkerJob} {now : Nat} {hasContext hasEnvelope : Bool} {thrown : Option String}
    (halone : SubmitsAlone s job) :
    AttemptInvariant (s.submits host call adapter job now hasContext hasEnvelope thrown) := by
  refine ⟨?_, h.failovers⟩
  unfold AttemptSystem.submits
  dsimp only
  split_ifs
  · refine h.attempts.add ?_ halone
    cases thrown <;> rfl
  · refine h.attempts.add ?_ halone
    cases thrown <;> rfl
  · exact h.attempts

theorem AttemptInvariant.cancels (h : AttemptInvariant s) {call : Nat} {activeJob : ActiveJob}
    (hidle : CancelsIdle s activeJob) : AttemptInvariant (s.cancels call activeJob) := by
  have hmark : ∀ found, (s.adapters activeJob.adapter).get? activeJob.externalJobId = some found →
      AttemptsKept (s.markCancelled activeJob.adapter (some found.1)) := by
    intro found hfound
    apply h.attempts.markCancelled
    intro b hb hadapter hobject
    exact hidle found hfound b hb hadapter (Option.some.inj hobject)
  unfold AttemptSystem.cancels
  unfold OpenAICompatibleCompletionAdapter.cancelJob
  cases hfound : (s.adapters activeJob.adapter).get? activeJob.externalJobId with
  | none => exact ⟨h.attempts, h.failovers⟩
  | some found =>
    dsimp only
    split_ifs
    · exact ⟨h.attempts, h.failovers⟩
    · exact ⟨hmark found hfound, h.failovers⟩

theorem AttemptInvariant.asks (h : AttemptInvariant s) {call now : Nat}
    {hasContext hasEnvelope : Bool} {thrown : Option String}
    (hapart : AttemptsApart host s (.asks call now hasContext hasEnvelope thrown))
    (hstep : s.asks host call now hasContext hasEnvelope thrown = some s') :
    AttemptInvariant s' := by
  unfold AttemptSystem.asks at hstep
  split_ifs at hstep
  obtain ⟨point, hpoint, hstep⟩ := Option.bind_eq_some_iff.mp hstep
  have hguard := hapart point hpoint
  cases point with
  | submit job targetWorker adapter reason =>
    obtain rfl := Option.some.inj hstep
    exact h.submits hguard
  | failoverSubmit wait jobId activeJob nextWorker failed =>
    obtain rfl := Option.some.inj hstep
    apply h.submits
    intro hdev
    have hplan := h.failovers call _ ⟨jobId, activeJob, nextWorker⟩ hpoint rfl
    cases hplan.symm.trans hdev
  | poll wait jobId activeJob =>
    obtain rfl := Option.some.inj hstep
    exact ⟨h.attempts, h.failovers⟩
  | failoverCancel wait jobId activeJob nextWorker failed =>
    obtain rfl := Option.some.inj hstep
    exact h.cancels hguard
  | cancel wait jobId activeJob =>
    obtain rfl := Option.some.inj hstep
    exact h.cancels hguard
  | sleep jobId wait => cases hstep

theorem AttemptInvariant.executes (h : AttemptInvariant s) (step : ExecutorStep)
    (hstep : ((s.executor.next step).map fun executor => { s with executor }) = some s') :
    AttemptInvariant s' := by
  obtain ⟨executor, hexecutor, rfl⟩ := Option.map_eq_some_iff.mp hstep
  exact ⟨h.attempts, h.failovers.next hexecutor⟩

theorem AttemptInvariant.next (h : AttemptInvariant s) {action : AttemptAction}
    (hapart : AttemptsApart host s action) (hstep : s.next host action = some s') :
    AttemptInvariant s' := by
  cases action with
  | begins now op =>
    cases op with
    | submitJob job workerType => exact h.executes ⟨now, .submitJob job workerType⟩ hstep
    | pollJob jobId => exact h.executes ⟨now, .pollJob jobId⟩ hstep
    | cancelJob jobId => exact h.executes ⟨now, .cancelJob jobId⟩ hstep
    | waitForJob jobId timeoutMs => exact h.executes ⟨now, .waitForJob jobId timeoutMs⟩ hstep
    | resume call answer => cases hstep
  | asks call now hasContext hasEnvelope thrown => exact h.asks hapart hstep
  | resumes call now =>
    obtain ⟨answer, _, hstep⟩ := Option.bind_eq_some_iff.mp hstep
    obtain ⟨executor, hexecutor, rfl⟩ := Option.map_eq_some_iff.mp hstep
    exact ⟨h.attempts, h.failovers.next hexecutor⟩
  | answered k content =>
    obtain ⟨a, hk, hstep⟩ := Option.bind_eq_some_iff.mp hstep
    split at hstep
    · next hphase =>
      obtain rfl := Option.some.inj hstep
      refine ⟨h.attempts.setPhase hk (fun _ => by rw [hphase]; rfl) ?_, h.failovers⟩
      intro c hc hchange
      refine ⟨plannedCalls_stage hc, ?_⟩
      cases hcancelled : a.cancelled with
      | false => rfl
      | true =>
        have hidle := hapart a hk hcancelled c hc
        exact absurd (hidle.symm.trans hchange) Bool.false_ne_true
    · cases hstep
  | fails k message =>
    obtain ⟨a, hk, hstep⟩ := Option.bind_eq_some_iff.mp hstep
    split at hstep
    · obtain rfl := Option.some.inj hstep
      exact ⟨h.attempts.setPhase hk nofun nofun, h.failovers⟩
    · cases hstep
  | runsCall k =>
    obtain ⟨a, hk, hstep⟩ := Option.bind_eq_some_iff.mp hstep
    split at hstep
    · next content c calls hphase =>
      obtain rfl := Option.some.inj hstep
      refine ⟨h.attempts.setPhase hk (fun _ => by rw [hphase]; rfl) ?_, h.failovers⟩
      intro c' hc' hchange
      have hleft : c' ∈ callsLeft a.phase := by
        rw [hphase]
        exact List.mem_cons_of_mem c hc'
      have hstands := h.attempts.standsInDev hk ⟨c', hleft, hchange⟩
      exact ⟨hstands.1, hstands.2.2⟩
    · cases hstep
  | settles k env =>
    obtain ⟨a, hk, hstep⟩ := Option.bind_eq_some_iff.mp hstep
    split at hstep
    · obtain rfl := Option.some.inj hstep
      exact ⟨h.attempts.setPhase hk nofun nofun, h.failovers⟩
    · cases hstep

theorem attemptInvariant_empty (config : WorkerExecutorConfig) (adapters : List AdapterRef) :
    AttemptInvariant ⟨.empty config adapters, fun _ => .empty, [], .empty⟩ := by
  refine ⟨⟨?_, ?_, ?_⟩, ?_⟩
  · intro i a ha
    cases ha
  · intro i a ha
    cases ha
  · intro i j a b ha
    cases ha
  · intro call point failover hpoint
    cases hpoint

theorem AttemptInvariant.oneChanging (h : AttemptInvariant s) : OneChanging s :=
  fun i j a b ha hb hachanging hbchanging hid => h.attempts.single i j a b ha hb
    (h.attempts.standsInDev ha hachanging) (h.attempts.standsInDev hb hbchanging) hid

theorem AttemptInvariant.runsUncancelled (h : AttemptInvariant s) (action : AttemptAction) :
    RunsUncancelled s action := by
  cases action with
  | runsCall k =>
    intro a hk hcancelled c hc
    rw [Bool.eq_false_iff]
    exact fun hchange => h.attempts.idle k a hk hcancelled ⟨c, List.mem_of_mem_head? hc, hchange⟩
  | _ => trivial

/-- Where attempts are cancelled only while they are idle, they have no effects later, and one attempt
at a job has effects at a time. A job fails over in the plan stage alone, which runs no tool plans. -/
theorem cancelled_attempts_idle {h : History AttemptSystem AttemptAction}
    (hrun : (attemptMachine host).Run h s) (hapart : Machine.Steps (AttemptsApart host) h) :
    CancelledIdle h s := by
  have hboth : Machine.Steps RunsUncancelled h ∧ AttemptInvariant s := by
    refine hrun.invariant
      (I := fun h s => Machine.Steps RunsUncancelled h ∧ AttemptInvariant s) ?_ ?_ hapart
    · rintro _ ⟨config, adapters, rfl⟩
      exact ⟨steps_nil _, attemptInvariant_empty config adapters⟩
    · rintro h s action s' _ _ ⟨hruns, hinv⟩ hap hstep
      rw [steps_append, steps_cons]
      exact ⟨⟨hruns, hinv.runsUncancelled action, steps_nil _⟩, hinv.next hap hstep⟩
  exact ⟨hboth.1, hboth.2.oneChanging⟩

end runs

section samples

instance : DecidablePred Changing := fun attempt =>
  inferInstanceAs (Decidable (∃ c ∈ callsLeft attempt.phase, c.changesWorkspace = true))

instance : DecidablePred StandsInDev := fun attempt => inferInstanceAs (Decidable
  (attempt.job.stage = .dev ∧ hasSettled attempt.phase = false ∧ attempt.cancelled = false))

instance (s : AttemptSystem) : DecidablePred (AsksApart s)
  | .submit job _ _ _ => inferInstanceAs (Decidable (job.stage = .dev →
      ∀ attempt ∈ s.attempts, StandsInDev attempt → attempt.job.jobId ≠ job.jobId))
  | .cancel _ _ activeJob => inferInstanceAs (Decidable
      (∀ found ∈ (s.adapters activeJob.adapter).get? activeJob.externalJobId,
        ∀ attempt ∈ s.attempts, attempt.adapter = activeJob.adapter →
          attempt.object = found.1 → ¬Changing attempt))
  | .failoverCancel _ _ activeJob _ _ => inferInstanceAs (Decidable
      (∀ found ∈ (s.adapters activeJob.adapter).get? activeJob.externalJobId,
        ∀ attempt ∈ s.attempts, attempt.adapter = activeJob.adapter →
          attempt.object = found.1 → ¬Changing attempt))
  | .poll _ _ _ => .isTrue trivial
  | .failoverSubmit _ _ _ _ _ => .isTrue trivial
  | .sleep _ _ => .isTrue trivial

instance (host : CompletionHost) (s : AttemptSystem) : DecidablePred (AttemptsApart host s)
  | .asks call _ _ _ _ => inferInstanceAs (Decidable
      (∀ point ∈ s.executor.calls.get? call, AsksApart s point))
  | .answered k content => inferInstanceAs (Decidable
      (∀ attempt ∈ s.attempts[k]?, attempt.cancelled = true →
        ∀ c ∈ host.plannedCalls attempt.job content, c.changesWorkspace = false))
  | .begins _ _ => .isTrue trivial
  | .resumes _ _ => .isTrue trivial
  | .fails _ _ => .isTrue trivial
  | .runsCall _ => .isTrue trivial
  | .settles _ _ => .isTrue trivial

/-- Adapters whose completions plan to write one file. -/
def writingHost : CompletionHost where
  toolPlanHost := shopHost
  validPlan _ _ := true
  readPlan _ := { calls := [writeCall "" ["src".toList, "x".toList]] }
  workerResult _ := Store.sampleResult "job_1" .succeeded
  externalJobPrefix _ := "oai"

def envelopeJob : WorkerJob :=
  { shopJob with metadata := some [("instruction_envelope_version", .str "2.0")] }

def oneWorker : AttemptSystem :=
  ⟨.empty ⟨true, ⟨false, [], [], .low, []⟩⟩ [⟨.external, .codex⟩], fun _ => .empty, [], .empty⟩

theorem exists_attempts_of_script (script : List AttemptAction)
    (test : History AttemptSystem AttemptAction × AttemptSystem → Bool)
    (h : (replay (AttemptSystem.next writingHost) oneWorker
      (script.map fun a _ => some a)).any test = true) :
    ∃ h s, (attemptMachine writingHost).Run h s ∧ test (h, s) = true :=
  exists_run_of_replay ⟨_, _, rfl⟩ h

def executorCall (call : Nat) (op : ExecutorOp) : List AttemptAction :=
  [.begins 0 op, .asks call 0 false true none, .resumes call 0]

def cancelledMeanwhile : List AttemptAction :=
  executorCall 0 (.submitJob envelopeJob none) ++ executorCall 1 (.cancelJob "job_1")

/-- The answer to a cancelled attempt asks for nothing, and the next attempt runs its plan. -/
theorem answered_without_plan : ∃ h s, (attemptMachine writingHost).Run h s ∧
    (∃ a ∈ s.attempts, a.cancelled = true) ∧ (∃ a ∈ s.attempts, Changing a) ∧
    CancelledIdle h s := by
  obtain ⟨h, s, hrun, htest⟩ := exists_attempts_of_script
    (cancelledMeanwhile ++ [.answered 0 "no plan".toList] ++
      executorCall 2 (.submitJob envelopeJob none) ++ [.answered 1 "{}".toList])
    (fun p => p.1.all (fun q => AttemptsApart writingHost q.1 q.2) &&
      decide ((∃ a ∈ p.2.attempts, a.cancelled = true) ∧ ∃ a ∈ p.2.attempts, Changing a))
    (by decide +kernel)
  rw [Bool.and_eq_true, List.all_eq_true, decide_eq_true_eq] at htest
  have hapart : Machine.Steps (AttemptsApart writingHost) h := fun p hp =>
    of_decide_eq_true (htest.1 p hp)
  exact ⟨h, s, hrun, htest.2.1, htest.2.2, cancelled_attempts_idle hrun hapart⟩

/-- A completion that is answered after the cancellation of its job has its tool plan run. -/
theorem cancelled_attempt_writes : ¬∀ host h s, (attemptMachine host).Run h s →
    CancelledIdle h s := by
  intro hall
  obtain ⟨h, s, hrun, htest⟩ := exists_attempts_of_script
    (cancelledMeanwhile ++ [.answered 0 "{}".toList, .runsCall 0])
    (fun p => p.1.any fun q => match q.2 with
      | .runsCall k => (q.1.attempts[k]?).any fun (a : Attempt) => a.cancelled &&
          (callsLeft a.phase).head?.any fun (c : RunnableCall) => c.changesWorkspace
      | _ => false)
    (by decide +kernel)
  obtain ⟨⟨t, action⟩, hmem, htest⟩ := List.any_eq_true.mp htest
  have hidle := (hall writingHost h s hrun).idle _ hmem
  cases action with
  | runsCall k =>
    obtain ⟨a, ha, htest⟩ := (Option.any_eq_true _ _).mp htest
    rw [Bool.and_eq_true] at htest
    obtain ⟨c, hc, hchange⟩ := (Option.any_eq_true _ _).mp htest.2
    exact absurd ((hidle a ha htest.1 c hc).symm.trans hchange) Bool.false_ne_true
  | _ => cases htest

end samples

end ShipyardCp.Properties
