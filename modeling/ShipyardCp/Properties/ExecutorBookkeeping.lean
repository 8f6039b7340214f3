import ShipyardCp.Domain.ExecutorStretches

/-! The bookkeeping of the worker executor over its runs: which jobs are active when a wait has ended,
to which workers a submission goes, how far a failover goes, and what late answers do. -/

namespace ShipyardCp.Properties

open Types Lib Domain WorkerExecutor StretchEnd

/-- A step with which a poll is answered after its attempt was replaced or removed, or while its job
is failing over. -/
def AnswersLate (e : WorkerExecutor) (step : ExecutorStep) (jobId : String) : Prop :=
  ∃ call wait activeJob answer, step.op = .resume call (.poll answer) ∧
    e.calls.get? call = some (.poll wait jobId activeJob) ∧
    (e.activeJobs.get? jobId ≠ some activeJob ∨ e.FailsOver jobId)

/-- The step leaves the job as it is, and gives it to no adapter now or in a failover that it
starts. -/
structure LeavesJob (e e' : WorkerExecutor) (jobId : String) : Prop where
  activeJob : e'.activeJobs.get? jobId = e.activeJobs.get? jobId
  requests : e'.requests = e.requests
  failsOver : e'.FailsOver jobId → e.FailsOver jobId

def inFailover (e : WorkerExecutor) (call : Nat) : Bool :=
  (e.calls.get? call).any fun point => point.failover?.isSome

def answers (call : Nat) (step : ExecutorStep) : Bool :=
  match step.op with
  | .resume c _ => c = call
  | _ => false

/-- A job for which a wait has ended is not active, until a submission of it is accepted; a submission
goes to each worker at most once; a failover ends with the sixth answer to its call; and polls that
are answered late leave the job as it is. -/
structure Bookkeeping (h : History WorkerExecutor ExecutorStep) (e : WorkerExecutor) : Prop where
  ended : ∀ jobId accepted answer, .waitForJob jobId accepted answer ∈ e.returned →
    ∀ activeJob, e.activeJobs.get? jobId = some activeJob →
      activeJob.submission ∈ e.accepted ∧ activeJob.submission ∉ accepted
  chain : ∀ submission, (chainWorkers e.requests submission).Nodup
  terminates : ∀ call before during, h = before ++ during →
    (∀ p ∈ during, inFailover p.1 call = true) →
    during.countP (fun p => answers call p.2) ≤ 6
  late : executorRuns.EveryStep (fun _ e step e' => ∀ jobId, AnswersLate e step jobId →
    LeavesJob e e' jobId) h

section late

variable {e e' : WorkerExecutor} {step : ExecutorStep} {jobId : String}

theorem leavesJob_pollEnds {call : Nat} {jobs : InsertionMap String ActiveJob}
    (hjobs : jobs.get? jobId = e.activeJobs.get? jobId) (wait : Option JobWait)
    (answer : Except String JobPollResult) :
    LeavesJob e (e.after call (e.pollEnds jobs wait jobId answer)) jobId where
  activeJob := hjobs
  requests := List.append_nil _
  failsOver := by
    intro hfails
    obtain ⟨c, point, failover, hpoint, hfailover, hid⟩ := hfails
    rcases calls_after hpoint with ⟨_, hending⟩ | ⟨_, hold⟩
    · rcases pollEnds_ending e jobs wait jobId answer with ⟨w, hw⟩ | hw | ⟨_, _, a, hw⟩
      · rw [hw] at hending
        obtain rfl := awaits.inj hending
        cases hfailover
      · rw [hw] at hending
        cases hending
      · rw [hw] at hending
        cases hending
    · exact ⟨c, point, failover, hold, hfailover, hid⟩

theorem leavesJob_of_answersLate (horder : Domain.InOrder e step) (h : e.next step = some e')
    (hlate : AnswersLate e step jobId) : LeavesJob e e' jobId := by
  obtain ⟨call, wait, activeJob, answer, hop, hpoint, hstale⟩ := hlate
  obtain ⟨hsettled, _⟩ := horder call _ _ hop hpoint
  have hstretch : e' = e.after call (e.polled wait jobId activeJob answer) := by
    unfold WorkerExecutor.next at h
    rw [hop] at h
    dsimp only at h
    rw [hpoint] at h
    exact (Option.some.inj h).symm
  have hgone : isSettled answer = true →
      e.activeJobs.get? jobId = none ∧ startsFailover e activeJob answer = false := by
    intro hanswer
    obtain ⟨hnot, hcurrent | hgone⟩ := hsettled hanswer
    · rcases hstale with hreplaced | hfails
      · exact absurd hcurrent hreplaced
      · exact absurd hfails hnot
    · exact hgone
  have hdeleted : isSettled answer = true →
      (e.activeJobs.delete jobId).get? jobId = e.activeJobs.get? jobId := by
    intro hanswer
    rw [InsertionMap.get?_delete, if_pos rfl, (hgone hanswer).1]
  rw [hstretch]
  unfold WorkerExecutor.polled
  cases answer with
  | error error => exact leavesJob_pollEnds rfl wait _
  | ok polled =>
    dsimp only
    have hstatus : (stamped activeJob polled).status = polled.status := rfl
    have hresult : (stamped activeJob polled).result.isSome = polled.result.isSome := by
      simp [stamped]
    rw [hstatus, hresult]
    split_ifs with hsucceeded hfailed hfailover
    · exact leavesJob_pollEnds (hdeleted (by simp [isSettled, hsucceeded])) wait _
    · have hanswer : isSettled (.ok polled) = true := by
        simp [isSettled, hfailed]
      have hnever := (hgone hanswer).2
      unfold WorkerExecutor.tryFailover
      cases htarget : e.failoverTarget activeJob with
      | none => exact leavesJob_pollEnds (hdeleted hanswer) wait _
      | some nextWorker =>
        rw [Bool.and_eq_true] at hfailover
        simp [startsFailover, hfailed, hfailover, htarget] at hnever
    · exact leavesJob_pollEnds (hdeleted (by simp [isSettled, hfailed])) wait _
    · exact leavesJob_pollEnds rfl wait _

end late

section termination

variable {e e' : WorkerExecutor} {step : ExecutorStep} {call : Nat} {point : ExecutorCall}

def CallsBegun (e : WorkerExecutor) : Prop :=
  ∀ call point, e.calls.get? call = some point → call < e.nextCall

theorem callsBegun_next (hbegun : CallsBegun e) (h : e.next step = some e') : CallsBegun e' := by
  rcases WorkerExecutor.next_eq_some h with ⟨stretch, _, rfl⟩ |
    ⟨call, answer, point, stretch, _, hpoint, _, rfl⟩
  · intro c other hget
    have hget : (e.after e.nextCall stretch).calls.get? c = some other := hget
    have hlt : c < e.nextCall + 1 := by
      rcases calls_after hget with ⟨rfl, _⟩ | ⟨_, hold⟩
      · exact Nat.lt_succ_self _
      · exact Nat.lt_succ_of_lt (hbegun c other hold)
    exact hlt
  · intro c other hget
    rcases calls_after hget with ⟨rfl, _⟩ | ⟨_, hold⟩
    · exact hbegun c point hpoint
    · exact hbegun c other hold

theorem callsBegun_of_run {h : History WorkerExecutor ExecutorStep}
    (hrun : executorRuns.Run h e) : CallsBegun e := by
  refine hrun.stateInvariant (C := fun _ _ => True) ?_ ?_ fun _ _ => trivial
  · rintro s ⟨config, adapters, rfl⟩ call point hget
    cases hget
  · exact fun s step s' hs _ hstep => callsBegun_next hs hstep

theorem get?_calls_next (hbegun : CallsBegun e) (h : e.next step = some e')
    (hpoint : e.calls.get? call = some point) (hother : answers call step = false) :
    e'.calls.get? call = some point := by
  rcases WorkerExecutor.next_eq_some h with ⟨stretch, _, rfl⟩ |
    ⟨c, answer, other, stretch, hop, _, _, rfl⟩
  · have hne : call ≠ e.nextCall := Nat.ne_of_lt (hbegun call point hpoint)
    have hkept : (e.after e.nextCall stretch).calls.get? call = some point :=
      WorkerExecutor.calls_after_of_ne hne hpoint
    exact hkept
  · have hne : call ≠ c := by
      rintro rfl
      simp [answers, hop] at hother
    exact WorkerExecutor.calls_after_of_ne hne hpoint

def failoverLeft : ExecutorCall → Nat
  | .failoverCancel _ _ _ nextWorker _ => 2 * (2 - workerRank nextWorker) + 2
  | .failoverSubmit _ _ _ nextWorker _ => 2 * (2 - workerRank nextWorker) + 1
  | _ => 0

theorem failoverLeft_le (point : ExecutorCall) : failoverLeft point ≤ 6 := by
  cases point <;> simp only [failoverLeft] <;> omega

theorem workerRank_le (workerType : WorkerType) : workerRank workerType ≤ 2 := by
  cases workerType <;> decide

theorem pos_failoverLeft (hfails : point.failover?.isSome = true) : 0 < failoverLeft point := by
  cases point with
  | failoverCancel wait jobId activeJob nextWorker failed => exact Nat.succ_pos _
  | failoverSubmit wait jobId activeJob nextWorker failed => exact Nat.succ_pos _
  | _ => cases hfails

theorem failover?_pollEnds {jobs : InsertionMap String ActiveJob} {wait : Option JobWait}
    {jobId : String} {answer : Except String JobPollResult}
    (h : (e.pollEnds jobs wait jobId answer).ending = .awaits point) : point.failover? = none := by
  rcases pollEnds_ending e jobs wait jobId answer with ⟨w, hw⟩ | hw | ⟨_, _, a, hw⟩
  · rw [hw] at h
    obtain rfl := awaits.inj h
    rfl
  · rw [hw] at h
    cases h
  · rw [hw] at h
    cases h

theorem failoverLeft_resume {now : Timestamp} {answer : AwaitedAnswer} {stretch : Stretch}
    {next : ExecutorCall} (hfails : point.failover?.isSome = true)
    (hresume : e.resume now call point answer = some stretch)
    (hending : stretch.ending = .awaits next) (hnext : next.failover?.isSome = true) :
    failoverLeft next < failoverLeft point := by
  cases WorkerExecutor.resumes_of_resume hresume with
  | failoverCancel =>
    obtain rfl := awaits.inj hending
    exact Nat.lt_succ_self _
  | @failoverSubmit _ _ activeJob nextWorker _ answer =>
    unfold WorkerExecutor.failoverSubmitted at hending
    cases answer with
    | error error =>
      rw [failover?_pollEnds hending] at hnext
      cases hnext
    | ok submission =>
      dsimp only at hending
      cases haccepted : submission.acceptedId with
      | some externalJobId =>
        rw [haccepted] at hending
        rw [failover?_pollEnds hending] at hnext
        cases hnext
      | none =>
        rw [haccepted] at hending
        unfold WorkerExecutor.tryFailover at hending
        cases htarget : e.failoverTarget { activeJob with workerType := nextWorker } with
        | none =>
          rw [htarget] at hending
          rw [failover?_pollEnds hending] at hnext
          cases hnext
        | some further =>
          rw [htarget] at hending
          obtain rfl := awaits.inj hending
          have hrank : workerRank further = workerRank nextWorker + 1 :=
            workerRank_of_getFailoverWorker (Option.filter_eq_some_iff.mp htarget).1
          have hle := workerRank_le further
          simp only [failoverLeft]
          omega
  | _ => cases hfails

theorem failoverLeft_next {next : ExecutorCall} (h : e.next step = some e')
    (hanswers : answers call step = true) (hpoint : e.calls.get? call = some point)
    (hfails : point.failover?.isSome = true) (hnext : e'.calls.get? call = some next)
    (hstill : next.failover?.isSome = true) : failoverLeft next < failoverLeft point := by
  cases hop : step.op with
  | resume c answer =>
    unfold answers at hanswers
    rw [hop] at hanswers
    obtain rfl : c = call := of_decide_eq_true hanswers
    unfold WorkerExecutor.next at h
    rw [hop] at h
    dsimp only at h
    rw [hpoint] at h
    obtain ⟨stretch, hresume, rfl⟩ := Option.map_eq_some_iff.mp h
    rcases calls_after hnext with ⟨_, hending⟩ | ⟨hne, _⟩
    · exact failoverLeft_resume hfails hresume hending hstill
    · exact absurd rfl hne
  | submitJob job workerType => simp [answers, hop] at hanswers
  | pollJob jobId => simp [answers, hop] at hanswers
  | cancelJob jobId => simp [answers, hop] at hanswers
  | waitForJob jobId timeoutMs => simp [answers, hop] at hanswers

theorem inFailover_iff : inFailover e call = true ↔
    ∃ point, e.calls.get? call = some point ∧ point.failover?.isSome = true := by
  unfold inFailover
  rw [Option.any_eq_true]

theorem countP_answers_le {h : History WorkerExecutor ExecutorStep}
    (hpath : executorRuns.Path e h e') (hbegun : CallsBegun e)
    (hfails : ∀ p ∈ h, inFailover p.1 call = true) (hpoint : e.calls.get? call = some point) :
    h.countP (fun p => answers call p.2) ≤ failoverLeft point := by
  induction hpath generalizing point with
  | nil => exact Nat.zero_le _
  | @cons s a s₁ rest s₂ hstep hrest ih =>
    obtain ⟨_, hsame, hin⟩ := inFailover_iff.mp (hfails _ List.mem_cons_self)
    obtain rfl := Option.some.inj (hpoint.symm.trans hsame)
    have hbegun₁ : CallsBegun s₁ := callsBegun_next hbegun hstep
    have hrestFails : ∀ p ∈ rest, inFailover p.1 call = true :=
      fun p hp => hfails p (List.mem_cons_of_mem _ hp)
    rw [List.countP_cons]
    by_cases hanswers : answers call a = true
    · rw [if_pos hanswers]
      have hless : rest.countP (fun p => answers call p.2) < failoverLeft point := by
        cases hrest with
        | nil => exact pos_failoverLeft hin
        | cons hstep₁ hrest₁ =>
          obtain ⟨next, hnext, hnextIn⟩ := inFailover_iff.mp (hrestFails _ List.mem_cons_self)
          exact (ih hbegun₁ hrestFails hnext).trans_lt
            (failoverLeft_next hstep hanswers hpoint hin hnext hnextIn)
      omega
    · rw [if_neg hanswers]
      exact ih hbegun₁ hrestFails
        (get?_calls_next hbegun hstep hpoint (Bool.eq_false_iff.mpr hanswers))

theorem failover_ends {h before during : History WorkerExecutor ExecutorStep}
    (hrun : executorRuns.Run h e) (hsplit : h = before ++ during)
    (hfails : ∀ p ∈ during, inFailover p.1 call = true) :
    during.countP (fun p => answers call p.2) ≤ 6 := by
  subst hsplit
  cases during with
  | nil => exact Nat.zero_le _
  | cons p rest =>
    obtain ⟨s, step⟩ := p
    obtain ⟨s₁, hrun₁, hstep, hpath⟩ := hrun.split
    obtain ⟨point, hpoint, _⟩ := inFailover_iff.mp (hfails _ List.mem_cons_self)
    exact (countP_answers_le (.cons hstep hpath) (callsBegun_of_run hrun₁) hfails hpoint).trans
      (failoverLeft_le point)

end termination

/-- In every run whose answers come in order, the books are kept. -/
theorem bookkeeping_of_inOrder {h : History WorkerExecutor ExecutorStep} {e : WorkerExecutor}
    (hrun : executorRuns.Run h e) (horder : Machine.Steps Domain.InOrder h) : Bookkeeping h e := by
  have hkept : BooksKept e := by
    refine hrun.stateInvariant ?_ (fun s step s' => booksKept_next) horder
    rintro s ⟨config, adapters, rfl⟩
    exact booksKept_empty config adapters
  constructor
  · intro jobId accepted answer hmem activeJob hget
    exact ⟨(hkept.held jobId activeJob (Or.inl hget)).2.1,
      (hkept.ended jobId accepted answer hmem).2 activeJob (Or.inl hget)⟩
  · exact hkept.chain
  · exact fun call before during => failover_ends hrun
  · exact hrun.everyStep (fun _ s step s' _ _ hstep hnext jobId =>
      leavesJob_of_answersLate hstep hnext) horder

section replay

/-- Checks that an answer comes in order, with the attempt that it is for active and in no
failover. -/
def answersActive (e : WorkerExecutor) (step : ExecutorStep) : Bool :=
  match step.op with
  | .resume call answer =>
    match e.calls.get? call, answer with
    | some (.poll _ jobId activeJob), .poll answer =>
      e.activeJobs.get? jobId = some activeJob && !isLost answer &&
        e.calls.entries.all fun entry => entry.2.failover?.isNone
    | some (.failoverSubmit _ _ _ _ _), .submission answer => answer.isOk
    | some (.cancel _ _ _), .cancellation _ => false
    | _, _ => true
  | _ => true

theorem inOrder_of_answersActive {e : WorkerExecutor} {step : ExecutorStep}
    (h : answersActive e step = true) : Domain.InOrder e step := by
  intro call answer point hop hpoint
  unfold answersActive at h
  rw [hop] at h
  dsimp only at h
  rw [hpoint] at h
  cases point with
  | poll wait jobId activeJob =>
    cases answer with
    | poll answer =>
      simp only [Bool.and_eq_true, decide_eq_true_eq, Bool.not_eq_true'] at h
      obtain ⟨⟨hactive, hheard⟩, hplain⟩ := h
      refine ⟨fun _ => ⟨?_, Or.inl hactive⟩, fun _ hlost => ?_⟩
      · rintro ⟨c, other, failover, hother, hfailover, _⟩
        have hnone := List.all_eq_true.mp hplain (c, other) (e.calls.mem_entries_iff.mpr hother)
        dsimp only at hnone
        rw [hfailover] at hnone
        cases hnone
      · rw [hheard] at hlost
        cases hlost
    | _ => trivial
  | failoverSubmit wait jobId activeJob nextWorker failed =>
    cases answer with
    | submission answer => exact h
    | _ => trivial
  | cancel wait jobId activeJob =>
    cases answer with
    | cancellation answer => cases h
    | _ => trivial
  | _ => trivial

/-- A job of the plan stage. -/
def planJob : WorkerJob where
  jobId := "job"
  taskId := "task"
  typedRef := "agent-taskstate:task:local:task"
  stage := .plan
  workerType := .codex
  executionBackend := none
  status := .running
  workspaceRef := ⟨"workspace", .container, none⟩
  executorInstanceId := none
  inputPrompt := "prompt"
  repoRef := ⟨"owner", "name", "main", none⟩
  capabilityRequirements := []
  riskLevel := .medium
  approvalPolicy := ⟨.ask, none, none, none⟩
  retryPolicy := none
  retryCount := none
  loopFingerprint := none
  leaseOwner := none
  leaseExpiresAt := none
  requestedOutputs := none
  metadata := none

def twoWorkers : WorkerExecutor :=
  .empty ⟨true, ⟨false, [], [], .low, []⟩⟩ [⟨.external, .codex⟩, ⟨.external, .claudeCode⟩]

def takes (externalJobId : String) : AwaitedAnswer :=
  .submission (.ok { success := true, externalJobId := some externalJobId, status := .running })

def polls (status : PollStatus) : AwaitedAnswer := .poll (.ok { externalJobId := "external", status })

theorem exists_executorRun {ops : List ExecutorOp}
    {test : History WorkerExecutor ExecutorStep × WorkerExecutor → Bool}
    (h : (Machine.replay WorkerExecutor.next twoWorkers
      (ops.map fun op _ => some ⟨0, op⟩)).any test = true) :
    ∃ h e, executorRuns.Run h e ∧ test (h, e) = true :=
  Machine.exists_run_of_replay ⟨_, _, rfl⟩ h

/-- The first worker fails, and then the one that the job fails over to. -/
theorem both_workers_fail : ∃ h e, executorRuns.Run h e ∧
    chainWorkers e.requests 0 = [.codex, .claudeCode] ∧ Bookkeeping h e := by
  have hplayed : (Machine.replay WorkerExecutor.next twoWorkers
      ([.submitJob planJob none, .resume 0 (takes "a"), .waitForJob "job" none,
        .resume 1 (polls .failed), .resume 1 (.cancellation (.error "gone")),
        .resume 1 (takes "b"), .resume 1 .timer, .resume 1 (polls .failed)].map
        fun op _ => some ⟨0, op⟩)).any
      (fun p => p.1.all (fun q => answersActive q.1 q.2) &&
        decide (chainWorkers p.2.requests 0 = [.codex, .claudeCode])) = true := by
    decide +kernel
  obtain ⟨h, e, hrun, htest⟩ := exists_executorRun hplayed
  obtain ⟨horder, hchain⟩ := Bool.and_eq_true_iff.mp htest
  have hsteps : Machine.Steps Domain.InOrder h := fun q hq =>
    inOrder_of_answersActive (List.all_eq_true.mp horder q hq)
  exact ⟨h, e, hrun, of_decide_eq_true hchain, bookkeeping_of_inOrder hrun hsteps⟩

/-- A wait throws when the poll says that the job was cancelled, and leaves it active. -/
theorem cancelled_poll_stays_active : ¬∀ h e, executorRuns.Run h e → Bookkeeping h e := by
  intro hall
  have hplayed : (Machine.replay WorkerExecutor.next twoWorkers
      ([.submitJob planJob none, .resume 0 (takes "a"), .waitForJob "job" none,
        .resume 1 (polls .cancelled)].map fun op _ => some ⟨0, op⟩)).any
      (fun p => decide ((p.2.activeJobs.get? "job").map (·.submission) = some 0 ∧
        .waitForJob "job" [0] (.error "Job job was cancelled") ∈ p.2.returned)) = true := by
    decide +kernel
  obtain ⟨h, e, hrun, htest⟩ := exists_executorRun hplayed
  obtain ⟨hactive, hended⟩ := of_decide_eq_true htest
  obtain ⟨activeJob, hget, hsubmission⟩ := Option.map_eq_some_iff.mp hactive
  have hnew := ((hall h e hrun).ended "job" [0] _ hended activeJob hget).2
  rw [hsubmission] at hnew
  exact hnew List.mem_cons_self

end replay

end ShipyardCp.Properties
