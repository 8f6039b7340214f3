import ShipyardCp.Domain.ExecutorBooks

/-! Each stretch of a call that has an answer in order keeps the books of the worker executor. -/

namespace ShipyardCp.Domain

open Types Lib WorkerExecutor InsertionMap StretchEnd

section stretches

variable {e : WorkerExecutor} {call : Nat} {stretch : Stretch} {jobId : String}
  {activeJob : ActiveJob} {wait : Option JobWait} {jobs : InsertionMap String ActiveJob}

def OtherFailsOver (e : WorkerExecutor) (call : Nat) (jobId : String) : Prop :=
  ∃ c point failover, c ≠ call ∧ e.calls.get? c = some point ∧
    point.failover? = some failover ∧ failover.jobId = jobId

theorem OtherFailsOver.failsOver (h : OtherFailsOver e call jobId) : e.FailsOver jobId := by
  obtain ⟨c, point, failover, _, hrest⟩ := h
  exact ⟨c, point, failover, hrest⟩

theorem OtherFailsOver.after (h : OtherFailsOver e call jobId) :
    (e.after call stretch).FailsOver jobId := by
  obtain ⟨c, point, failover, hne, hpoint, hrest⟩ := h
  exact ⟨c, point, failover, WorkerExecutor.calls_after_of_ne hne hpoint, hrest⟩

/-- What a stretch may leave of the active jobs. -/
structure JobsKept (e : WorkerExecutor) (call : Nat) (jobs : InsertionMap String ActiveJob) :
    Prop where
  entries : ∀ id held, jobs.get? id = some held →
    e.activeJobs.get? id = some held ∧ (e.FailsOver id → OtherFailsOver e call id) ∨
      GoesOn e id held ∧ UpTo e.requests held.submission held.workerType
  kept : ∀ id, OtherFailsOver e call id → (jobs.get? id).isSome = true

theorem JobsKept.unasking (h : JobsKept e call stretch.activeJobs) (hrequest : stretch.request = none)
    (haccepts : stretch.accepts = false)
    (hplain : ∀ point, stretch.ending = .awaits point →
      point.failover? = none ∧ point.isSubmit = false)
    (hwaits : ∀ id accepted answer, stretch.ending = .returns (.waitForJob id accepted answer) →
      accepted = e.accepted ∧ stretch.activeJobs.get? id = none) : Unasking e call stretch where
  request := hrequest
  accepts := haccepts
  notSubmit := fun point hending => (hplain point hending).2
  entries := by
    intro id held hget
    rcases h.entries id held hget with ⟨hsame, hother⟩ | hnew
    · exact Or.inl ⟨hsame, fun hfails => (hother hfails).after⟩
    · exact Or.inr hnew
  kept := fun c point failover hne hpoint hfailover =>
    h.kept failover.jobId ⟨c, point, failover, hne, hpoint, hfailover, rfl⟩
  failover := by
    intro point failover hending hfailover
    rw [(hplain point hending).1] at hfailover
    cases hfailover
  nextWorker := by
    intro wait jobId activeJob nextWorker failed hending
    cases (hplain _ hending).1
  waits := hwaits

theorem BooksKept.jobsKept (hkept : BooksKept e) (hplain : ∀ point, e.calls.get? call = some point →
    point.failover? = none) : JobsKept e call e.activeJobs where
  entries := by
    rintro id held hget
    refine Or.inl ⟨hget, ?_⟩
    rintro ⟨c, point, failover, hpoint, hfailover, hid⟩
    refine ⟨c, point, failover, ?_, hpoint, hfailover, hid⟩
    rintro rfl
    rw [hplain point hpoint] at hfailover
    cases hfailover
  kept := fun id hother => hkept.active id hother.failsOver

theorem BooksKept.jobsKept_delete (hkept : BooksKept e) (hsole : ¬OtherFailsOver e call jobId)
    (hown : ∀ point failover, e.calls.get? call = some point → point.failover? = some failover →
      failover.jobId = jobId) : JobsKept e call (e.activeJobs.delete jobId) where
  entries := by
    intro id held hget
    rw [get?_delete] at hget
    split_ifs at hget with hid
    refine Or.inl ⟨hget, ?_⟩
    rintro ⟨c, point, failover, hpoint, hfailover, rfl⟩
    refine ⟨c, point, failover, ?_, hpoint, hfailover, rfl⟩
    rintro rfl
    exact hid (hown point failover hpoint hfailover)
  kept := by
    intro id hother
    rw [get?_delete, if_neg]
    · exact hkept.active id hother.failsOver
    · rintro rfl
      exact hsole hother

theorem pollEnds_ending (e : WorkerExecutor) (jobs : InsertionMap String ActiveJob)
    (wait : Option JobWait) (jobId : String) (answer : Except String JobPollResult) :
    (∃ w, (e.pollEnds jobs wait jobId answer).ending = .awaits (.sleep jobId w)) ∨
    (e.pollEnds jobs wait jobId answer).ending = .returns (.pollJob jobId answer) ∨
    wait.isSome = true ∧ (isLost answer || isSettled answer) = true ∧
      ∃ a, (e.pollEnds jobs wait jobId answer).ending =
        .returns (.waitForJob jobId e.accepted a) := by
  cases wait with
  | none => exact Or.inr (Or.inl rfl)
  | some w =>
    cases answer with
    | error error => exact Or.inr (Or.inr ⟨rfl, rfl, _, rfl⟩)
    | ok polled =>
      obtain ⟨externalJobId, status, progress, result, error⟩ := polled
      cases status with
      | queued => exact Or.inl ⟨w, rfl⟩
      | running => exact Or.inl ⟨w, rfl⟩
      | blocked => exact Or.inl ⟨w, rfl⟩
      | failed => exact Or.inr (Or.inr ⟨rfl, rfl, _, rfl⟩)
      | cancelled => exact Or.inr (Or.inr ⟨rfl, rfl, _, rfl⟩)
      | succeeded =>
        cases result with
        | none => exact Or.inl ⟨w, rfl⟩
        | some result => exact Or.inr (Or.inr ⟨rfl, rfl, _, rfl⟩)

theorem JobsKept.pollEnds (h : JobsKept e call jobs) {answer : Except String JobPollResult}
    (hend : wait.isSome = true → (isLost answer || isSettled answer) = true →
      jobs.get? jobId = none) : Unasking e call (e.pollEnds jobs wait jobId answer) := by
  apply JobsKept.unasking
  · exact h
  · rfl
  · rfl
  · intro point hending
    rcases pollEnds_ending e jobs wait jobId answer with ⟨w, hw⟩ | hw | ⟨_, _, a, hw⟩
    · rw [hw] at hending
      obtain rfl := awaits.inj hending
      exact ⟨rfl, rfl⟩
    · rw [hw] at hending
      cases hending
    · rw [hw] at hending
      cases hending
  · intro id accepted a hending
    rcases pollEnds_ending e jobs wait jobId answer with ⟨w, hw⟩ | hw | ⟨hwait, hlost, b, hw⟩
    · rw [hw] at hending
      cases hending
    · rw [hw] at hending
      cases hending
    · rw [hw] at hending
      cases hending
      exact ⟨rfl, hend hwait hlost⟩

variable {now : Timestamp}

theorem JobsKept.cancelEnds (h : JobsKept e call jobs) {answer : Except String CancelResult} (hend : wait.isSome = true → jobs.get? jobId = none) :
    Unasking e call (e.cancelEnds now jobs wait jobId answer) := by
  apply JobsKept.unasking
  · exact h
  · rfl
  · rfl
  · intro point hending
    cases wait with
    | none => cases hending
    | some w => cases answer <;> cases hending
  · intro id accepted a hending
    cases wait with
    | none => cases hending
    | some w =>
      have hnone := hend rfl
      cases answer with
      | error error =>
        cases hending
        exact ⟨rfl, hnone⟩
      | ok result =>
        cases hending
        exact ⟨rfl, hnone⟩

theorem BooksKept.stays (hkept : BooksKept e) (hplain : ∀ point, e.calls.get? call = some point →
    point.failover? = none) {point : ExecutorCall} (hfailover : point.failover? = none)
    (hsubmit : point.isSubmit = false) : Unasking e call (e.stays (.awaits point)) := by
  apply JobsKept.unasking
  · exact hkept.jobsKept hplain
  · rfl
  · rfl
  · intro other hending
    obtain rfl := awaits.inj hending
    exact ⟨hfailover, hsubmit⟩
  · intro id accepted a hending
    cases hending

theorem BooksKept.pollJob (hkept : BooksKept e) (hplain : ∀ point, e.calls.get? call = some point →
    point.failover? = none) : Unasking e call (e.pollJob wait jobId) := by
  unfold WorkerExecutor.pollJob
  cases hget : e.activeJobs.get? jobId with
  | none => exact (hkept.jobsKept hplain).pollEnds fun _ _ => hget
  | some activeJob => exact hkept.stays hplain rfl rfl

theorem BooksKept.cancelJob (hkept : BooksKept e) (hplain : ∀ point,
    e.calls.get? call = some point → point.failover? = none) {now : Timestamp} :
    Unasking e call (e.cancelJob now wait jobId) := by
  unfold WorkerExecutor.cancelJob
  cases hget : e.activeJobs.get? jobId with
  | none => exact (hkept.jobsKept hplain).cancelEnds fun _ => hget
  | some activeJob => exact hkept.stays hplain rfl rfl

theorem BooksKept.waitRound (hkept : BooksKept e) (hplain : ∀ point,
    e.calls.get? call = some point → point.failover? = none) {w : JobWait} :
    Unasking e call (e.waitRound now jobId w) := by
  unfold WorkerExecutor.waitRound
  split_ifs
  · exact hkept.cancelJob hplain
  · exact hkept.pollJob hplain

theorem BooksKept.tryFailover (hkept : BooksKept e) (hsole : ¬OtherFailsOver e call jobId)
    (hown : ∀ point failover, e.calls.get? call = some point → point.failover? = some failover →
      failover.jobId = jobId) {failed : JobPollResult}
    (hfails : (e.failoverTarget activeJob).isSome = true → GoesOn e jobId activeJob ∧
      UpTo e.requests activeJob.submission activeJob.workerType ∧
      (e.activeJobs.get? jobId).isSome = true) :
    Unasking e call (e.tryFailover wait jobId activeJob failed) := by
  unfold WorkerExecutor.tryFailover
  cases htarget : e.failoverTarget activeJob with
  | none =>
    apply (hkept.jobsKept_delete hsole hown).pollEnds
    intro _ _
    rw [get?_delete, if_pos rfl]
  | some nextWorker =>
    obtain ⟨hgoes, hreached, hactive⟩ := hfails (by rw [htarget]; rfl)
    constructor
    · rfl
    · rfl
    · intro point hending
      obtain rfl := awaits.inj hending
      rfl
    · intro id held hget
      refine Or.inl ⟨hget, ?_⟩
      rintro ⟨c, point, failover, hpoint, hfailover, rfl⟩
      by_cases hsame : c = call
      · obtain rfl := hown point failover (hsame ▸ hpoint) hfailover
        refine ⟨call, .failoverCancel wait failover.jobId activeJob nextWorker failed,
          ⟨failover.jobId, activeJob, activeJob.workerType⟩, ?_, rfl, rfl⟩
        rw [WorkerExecutor.get?_calls_after, if_pos rfl]
        rfl
      · exact ⟨c, point, failover, WorkerExecutor.calls_after_of_ne hsame hpoint, hfailover, rfl⟩
    · exact fun c point failover _ hpoint hfailover =>
        hkept.active failover.jobId ⟨c, point, failover, hpoint, hfailover, rfl⟩
    · intro point failover hending hfailover
      obtain rfl := awaits.inj hending
      obtain rfl := Option.some.inj hfailover
      exact ⟨hgoes, hreached, hactive, fun c other otherFailover hne hpoint hother hid =>
        hsole ⟨c, other, otherFailover, hne, hpoint, hother, hid⟩⟩
    · intro w id held worker failedPoll hending
      cases hending
      exact (Option.filter_eq_some_iff.mp htarget).1
    · intro id accepted a hending
      cases hending

theorem plain_of_get? {p : ExecutorCall} (hpoint : e.calls.get? call = some p)
    (hplain : p.failover? = none) :
    ∀ point, e.calls.get? call = some point → point.failover? = none := by
  intro point hget
  rw [hpoint] at hget
  obtain rfl := Option.some.inj hget
  exact hplain

theorem BooksKept.polled (hkept : BooksKept e)
    (hpoint : e.calls.get? call = some (.poll wait jobId activeJob))
    {answer : Except String JobPollResult}
    (horder : AnswersInOrder e (.poll wait jobId activeJob) (.poll answer)) :
    Unasking e call (e.polled wait jobId activeJob answer) := by
  obtain ⟨hsettled, hlost⟩ := horder
  have hplain := plain_of_get? hpoint rfl
  have hown : ∀ point failover, e.calls.get? call = some point →
      point.failover? = some failover → failover.jobId = jobId := by
    intro point failover hget hfailover
    rw [hplain point hget] at hfailover
    cases hfailover
  unfold WorkerExecutor.polled
  cases answer with
  | error error =>
    exact (hkept.jobsKept hplain).pollEnds fun hwait _ => hlost hwait rfl
  | ok polled =>
    dsimp only
    have hstatus : (stamped activeJob polled).status = polled.status := rfl
    have hresult : (stamped activeJob polled).result.isSome = polled.result.isSome := by
      simp [stamped]
    have hdeleted : (e.activeJobs.delete jobId).get? jobId = none := by
      rw [get?_delete, if_pos rfl]
    rw [hstatus, hresult]
    split_ifs with hsucceeded hfailed hfailover
    · have hnot := (hsettled (by simp [isSettled, hsucceeded])).1
      exact (hkept.jobsKept_delete (fun hother => hnot hother.failsOver) hown).pollEnds
        fun _ _ => hdeleted
    · obtain ⟨hnot, hcurrent⟩ := hsettled (by simp [isSettled, hfailed])
      apply hkept.tryFailover (fun hother => hnot hother.failsOver) hown
      intro htarget
      rcases hcurrent with hcurrent | ⟨_, hnever⟩
      · exact ⟨Holds.goesOn (Or.inl hcurrent),
          hkept.reachedActive jobId activeJob hcurrent hnot, by rw [hcurrent]; rfl⟩
      · rw [Bool.and_eq_true] at hfailover
        simp [startsFailover, hfailed, hfailover, htarget] at hnever
    · have hnot := (hsettled (by simp [isSettled, hfailed])).1
      exact (hkept.jobsKept_delete (fun hother => hnot hother.failsOver) hown).pollEnds
        fun _ _ => hdeleted
    · apply (hkept.jobsKept hplain).pollEnds
      intro hwait hend
      apply hlost hwait
      have hunsettled : isSettled (.ok (stamped activeJob polled)) = false := by
        simp only [isSettled, hstatus, hresult]
        simpa using ⟨fun h => by simpa [h] using hsucceeded, hfailed⟩
      rw [hunsettled, Bool.or_false] at hend
      exact hend

variable {answer : Except String JobSubmissionResult}

theorem BooksKept.failoverSubmitted (hkept : BooksKept e) {nextWorker : WorkerType}
    {failed : JobPollResult}
    (hpoint : e.calls.get? call = some (.failoverSubmit wait jobId activeJob nextWorker failed)) (hok : answer.isOk = true) :
    Unasking e call (e.failoverSubmitted wait jobId activeJob nextWorker failed answer) := by
  have hheld : e.Holds jobId activeJob := Or.inr ⟨call, _, _, hpoint, rfl, rfl, rfl⟩
  have hreached : UpTo e.requests activeJob.submission nextWorker := hkept.reached call _ _ hpoint rfl
  have hactive := hkept.active jobId ⟨call, _, _, hpoint, rfl, rfl⟩
  have hsole : ¬OtherFailsOver e call jobId := by
    rintro ⟨c, point, failover, hne, hother, hfailover, hid⟩
    exact hne (hkept.single c point failover call _ _ hother hfailover hpoint rfl hid)
  have hown : ∀ point failover, e.calls.get? call = some point →
      point.failover? = some failover → failover.jobId = jobId := by
    intro point failover hget hfailover
    rw [hpoint] at hget
    obtain rfl := Option.some.inj hget
    obtain rfl := Option.some.inj hfailover
    rfl
  unfold WorkerExecutor.failoverSubmitted
  cases answer with
  | error error => cases hok
  | ok submission =>
    dsimp only
    cases haccepted : submission.acceptedId with
    | none =>
      exact hkept.tryFailover hsole hown fun _ => ⟨⟨activeJob, hheld, rfl, rfl⟩, hreached, hactive⟩
    | some externalJobId =>
      apply JobsKept.pollEnds
      · constructor
        · intro id held hget
          rw [get?_set] at hget
          split_ifs at hget with hid
          · obtain rfl := Option.some.inj hget
            rw [hid]
            exact Or.inr ⟨⟨activeJob, hheld, rfl, rfl⟩, hreached⟩
          · refine Or.inl ⟨hget, ?_⟩
            rintro ⟨c, point, failover, hother, hfailover, rfl⟩
            refine ⟨c, point, failover, ?_, hother, hfailover, rfl⟩
            rintro rfl
            exact hid (hown point failover hother hfailover)
        · intro id hother
          rw [get?_set]
          split_ifs
          · rfl
          · exact hkept.active id hother.failsOver
      · intro _ hend
        cases hend

theorem BooksKept.cancelled (hkept : BooksKept e)
    (hpoint : e.calls.get? call = some (.cancel wait jobId activeJob))
    {answer : Except String CancelResult}
    (horder : AnswersInOrder e (.cancel wait jobId activeJob) (.cancellation answer)) :
    Unasking e call (e.cancelled now wait jobId answer) := by
  obtain ⟨hcancelled, hrefused⟩ := horder
  have hplain := plain_of_get? hpoint rfl
  unfold WorkerExecutor.cancelled
  cases answer with
  | error error =>
    exact (hkept.jobsKept hplain).cancelEnds fun hwait => hrefused hwait rfl
  | ok result =>
    dsimp only
    split_ifs with hsuccess
    · have hnot := hcancelled hsuccess
      apply (hkept.jobsKept_delete (fun hother => hnot hother.failsOver) ?_).cancelEnds
      · intro _
        rw [get?_delete, if_pos rfl]
      · intro point failover hget hfailover
        rw [hplain point hget] at hfailover
        cases hfailover
    · apply (hkept.jobsKept hplain).cancelEnds
      intro hwait
      exact hrefused hwait (Bool.eq_false_iff.mpr hsuccess)

theorem BooksKept.rejects (hkept : BooksKept e) (hplain : ∀ point, e.calls.get? call = some point →
    point.failover? = none) :
    Unasking e call (e.stays (.returns (.submitJob answer))) := by
  apply JobsKept.unasking
  · exact hkept.jobsKept hplain
  · rfl
  · rfl
  · intro point hending
    cases hending
  · intro id accepted a hending
    cases hending

theorem BooksKept.submitJob (hkept : BooksKept e) (hcall : call < e.nextCall)
    (hnew : e.calls.get? call = none) (hfresh : call ∉ e.accepted)
    (hunasked : ∀ r ∈ e.requests, r.submission ≠ call) {job : WorkerJob}
    {workerType : Option WorkerType} :
    BooksKept (e.after call (e.submitJob call job workerType)) := by
  have hplain : ∀ point, e.calls.get? call = some point → point.failover? = none := by
    intro point hget
    rw [hnew] at hget
    cases hget
  unfold WorkerExecutor.submitJob
  dsimp only
  split
  · exact (hkept.rejects hplain).booksKept hkept hcall
  · split_ifs
    · apply hkept.submitting_after hcall hplain hfresh rfl rfl
      · intro r hr hsubmission
        exact absurd hsubmission (hunasked r hr)
      · have hnone : chainWorkers e.requests call = [] := by
          unfold chainWorkers
          rw [List.map_eq_nil_iff, List.filter_eq_nil_iff]
          intro r hr
          simp [hunasked r hr]
        rw [chainWorkers_append, hnone, if_pos ⟨rfl, nofun⟩]
        rfl
    · exact (hkept.rejects hplain).booksKept hkept hcall

theorem BooksKept.submitted (hkept : BooksKept e) {job : WorkerJob} {targetWorker : WorkerType}
    {adapter : AdapterRef} {reason : Option String}
    (hpoint : e.calls.get? call = some (.submit job targetWorker adapter reason)) :
    BooksKept (e.after call (e.submitted now call job targetWorker adapter reason answer)) := by
  have hcall := hkept.callsBegun call _ hpoint
  have hplain := plain_of_get? hpoint rfl
  obtain ⟨hfresh, hchain, request, hrequest, hown, hownJob⟩ :=
    hkept.submitting call job targetWorker adapter reason hpoint
  unfold WorkerExecutor.submitted
  cases answer with
  | error error => exact (hkept.rejects hplain).booksKept hkept hcall
  | ok result =>
    dsimp only
    split_ifs
    · apply hkept.submitting_after hcall hplain hfresh rfl rfl
      · intro r hr hsubmission
        rw [hkept.oneJob r hr request hrequest (hsubmission.trans hown.symm), hownJob]
      · rw [chainWorkers_append, hchain, if_neg fun hboth => hboth.2 rfl]
        rfl
    · split
      · exact hkept.accepted_after (fun _ _ _ h => by cases h) hpoint rfl rfl rfl rfl
      · exact (hkept.rejects hplain).booksKept hkept hcall

theorem booksKept_next {step : ExecutorStep} {e' : WorkerExecutor} (hkept : BooksKept e)
    (horder : InOrder e step) (h : e.next step = some e') : BooksKept e' := by
  rcases WorkerExecutor.next_eq_some h with ⟨stretch, hbegins, rfl⟩ |
    ⟨call, answer, point, stretch, hop, hpoint, hresume, rfl⟩
  · have hbegun := hkept.begun
    have hcall : e.nextCall < e.nextCall + 1 := Nat.lt_succ_self _
    have hnew : e.calls.get? e.nextCall = none := by
      cases hget : e.calls.get? e.nextCall with
      | none => rfl
      | some point => exact absurd (hkept.callsBegun _ point hget) (Nat.lt_irrefl _)
    have hplain : ∀ point, e.calls.get? e.nextCall = some point → point.failover? = none := by
      intro point hget
      rw [hnew] at hget
      cases hget
    have hbegins' : e.begins stretch =
        { e with nextCall := e.nextCall + 1 }.after e.nextCall stretch := rfl
    rw [hbegins']
    cases hbegins with
    | submitJob _ =>
      apply hbegun.submitJob hcall hnew
      · exact fun hmem => Nat.lt_irrefl _ (hkept.acceptedBegun _ hmem)
      · intro r hr hsubmission
        exact absurd (hkept.requestsBegun r hr) (hsubmission ▸ Nat.lt_irrefl _)
    | @pollJob jobId _ =>
      have hstretch : Unasking { e with nextCall := e.nextCall + 1 } e.nextCall
          (WorkerExecutor.pollJob { e with nextCall := e.nextCall + 1 } none jobId) :=
        hbegun.pollJob hplain
      exact hstretch.booksKept hbegun hcall
    | @cancelJob jobId _ =>
      have hstretch : Unasking { e with nextCall := e.nextCall + 1 } e.nextCall
          (WorkerExecutor.cancelJob { e with nextCall := e.nextCall + 1 } step.now none jobId) :=
        hbegun.cancelJob hplain
      exact hstretch.booksKept hbegun hcall
    | @waitForJob jobId timeoutMs _ =>
      have hstretch : Unasking { e with nextCall := e.nextCall + 1 } e.nextCall
          (e.waitForJob step.now jobId timeoutMs) := hbegun.waitRound hplain
      exact hstretch.booksKept hbegun hcall
  · have hcall := hkept.callsBegun call point hpoint
    have hanswer := horder call answer point hop hpoint
    cases resumes_of_resume hresume with
    | submit =>
      exact hkept.submitted hpoint
    | poll =>
      exact (hkept.polled hpoint hanswer).booksKept hkept hcall
    | failoverCancel =>
      exact hkept.failoverCancelled_after hpoint
    | failoverSubmit =>
      exact (hkept.failoverSubmitted hpoint hanswer).booksKept hkept hcall
    | cancel =>
      exact (hkept.cancelled hpoint hanswer).booksKept hkept hcall
    | sleep =>
      refine (hkept.waitRound ?_).booksKept hkept hcall
      intro other hget
      rw [hpoint] at hget
      obtain rfl := Option.some.inj hget
      rfl

theorem booksKept_empty (config : WorkerExecutorConfig) (adapters : List AdapterRef) :
    BooksKept (.empty config adapters) := by
  constructor
  · intro call point hget
    cases hget
  · intro submission hmem
    cases hmem
  · intro r hr
    cases hr
  · intro r hr
    cases hr
  · intro call job targetWorker adapter reason hget
    cases hget
  · rintro jobId activeJob (hget | ⟨_, _, _, hget, _⟩)
    · cases hget
    · cases hget
  · intro jobId activeJob hget
    cases hget
  · intro call point failover hget
    cases hget
  · intro call wait jobId activeJob nextWorker failed hget
    cases hget
  · rintro jobId ⟨_, _, _, hget, _⟩
    cases hget
  · intro call point failover _ _ _ hget
    cases hget
  · exact fun _ => List.nodup_nil
  · intro jobId accepted answer hmem
    cases hmem

end stretches

end ShipyardCp.Domain
