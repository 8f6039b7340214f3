import ShipyardCp.Domain.CliExecutors

/-! What the executors keep of the jobs that they run as processes. -/

namespace ShipyardCp.Properties
open Lib Domain CliJob Machine

/-- How far an `execute` call is, as a number. -/
def progress (s : CliJob) : Nat :=
  match s.phase with
  | .idle => 0
  | .preparing => 1
  | .awaiting => 2 + s.exit.isSome.toNat + 2 * s.settled.isSome.toNat
  | .collected _ => 6
  | .failing => 7
  | .returned => 8

/-- The call returns once, and until then something that is due brings it further; a job that was cancelled
or timed out is no success; a job that has returned is not in `runningJobs`, which is what `cancel` answers;
and the artifacts of a result are there when it is returned. -/
structure CliBooksKept (kind : CliKind) (debug : Bool) (s : CliJob) : Prop where
  once : s.answers.length ≤ 1
  goesOn : s.phase ≠ .idle → s.answers = [] →
    ∃ event s', s.perform kind debug event = some s' ∧ progress s < progress s'
  unsuccessful : s.interrupted = true → ∀ answer ∈ s.answers, answer.success = false
  forgotten : s.answers ≠ [] → s.running = false
  present : ∀ answer ∈ s.answers, ∀ file ∈ answer.artifacts, file ∈ answer.files

def collectedFiles (s : CliJob) : List CliFile :=
  match s.phase with
  | .collected artifacts => artifacts
  | _ => []

/-- No process exits with 0 after its job was cancelled and before the call is settled, the output of a
process that settles its call is written, and no call returns while its job is in `runningJobs` or with
files that have been removed. -/
def eventSafe (debug : Bool) (s : CliJob) : CliEvent → Bool
  | .close success => !success || !s.interrupted || s.settled.isSome
  | .wroteLogs ok => ok || s.settled.isSome
  | .filesChange files => (collectedFiles s).all (· ∈ files)
  | .cancelRemoved removed => !removed || (collectedFiles s).isEmpty
  | .finish removed => !s.running && (debug || !removed || (collectedFiles s).isEmpty)
  | _ => true

structure CliInvariant (s : CliJob) : Prop where
  answered : if s.phase = .returned then s.answers.length = 1 else s.answers = []
  unstarted : s.phase = .idle ∨ s.phase = .preparing →
    s.settled = none ∧ s.exit = none ∧ s.alive = false ∧ s.running = false
  pending : s.phase = .awaiting → s.settled = none → s.alive = true ∨ s.exit.isSome = true
  live : s.running = true → s.settled ≠ some (.resolved true) ∧ s.exit = none
  honest : s.interrupted = true →
    s.settled ≠ some (.resolved true) ∧ (s.exit = some true → s.settled.isSome = true)
  collected : ∀ file ∈ collectedFiles s, file ∈ s.files
  unsuccessful : s.interrupted = true → ∀ answer ∈ s.answers, answer.success = false
  forgotten : s.answers ≠ [] → s.running = false
  present : ∀ answer ∈ s.answers, ∀ file ∈ answer.artifacts, file ∈ answer.files

variable {kind : CliKind} {debug : Bool} {s s' : CliJob}

theorem CliInvariant.withFiles {files : List CliFile} (h : CliInvariant s)
    (hfiles : ∀ file ∈ collectedFiles s, file ∈ files) : CliInvariant { s with files } :=
  ⟨h.answered, h.unstarted, h.pending, h.live, h.honest, hfiles, h.unsuccessful, h.forgotten, h.present⟩

theorem CliInvariant.answer {success : Bool} {artifacts : List CliFile} (h : CliInvariant s)
    (hphase : s.phase ≠ .returned) (hrunning : s.running = false)
    (hsuccess : s.interrupted = true → success = false) (hpresent : ∀ file ∈ artifacts, file ∈ s.files) :
    CliInvariant (s.answer success artifacts) := by
  have hnone : s.answers = [] := by simpa [hphase] using h.answered
  constructor
  · simp [CliJob.answer, hnone]
  · simp [CliJob.answer]
  · simp [CliJob.answer]
  · simp [CliJob.answer, hrunning]
  · exact h.honest
  · simp [CliJob.answer, collectedFiles]
  · simpa [CliJob.answer, hnone] using hsuccess
  · exact fun _ => hrunning
  · simpa [CliJob.answer, hnone] using hpresent

theorem CliInvariant.fail (h : CliInvariant s) (hnone : s.answers = []) :
    CliInvariant { s with phase := .failing } :=
  ⟨by simpa using hnone, by simp, by simp, h.live, h.honest, by simp [collectedFiles], h.unsuccessful,
    h.forgotten, h.present⟩

theorem CliInvariant.forget {cancels : Nat} (h : CliInvariant s) :
    CliInvariant { s with cancels, running := false } :=
  ⟨h.answered, fun hp => ⟨(h.unstarted hp).1, (h.unstarted hp).2.1, (h.unstarted hp).2.2.1, rfl⟩,
    h.pending, nofun, h.honest, h.collected, h.unsuccessful, fun _ => rfl, h.present⟩

theorem CliInvariant.answers_nil (h : CliInvariant s) (hphase : s.phase ≠ .returned) : s.answers = [] := by
  simpa [hphase] using h.answered

theorem settle_ne {settling : CliSettling} (h : s.settled ≠ some (.resolved true))
    (hsettling : s.settled.isSome = true ∨ settling ≠ .resolved true) :
    s.settled.or (some settling) ≠ some (.resolved true) := by
  cases hsettled : s.settled <;> simp_all

theorem cliInvariant_step {event : CliEvent} (h : CliInvariant s) (hsafe : eventSafe debug s event = true)
    (hstep : s.perform kind debug event = some s') : CliInvariant s' := by
  cases event with
  | execute =>
    simp only [perform] at hstep
    split_ifs at hstep with hphase
    obtain rfl := Option.some.inj hstep
    have hnone := h.answers_nil (by simp [hphase])
    exact ⟨by simpa using hnone, fun _ => h.unstarted (.inl hphase), by simp, h.live, h.honest,
      by simp [collectedFiles], h.unsuccessful, h.forgotten, h.present⟩
  | prepared ok =>
    simp only [perform] at hstep
    split_ifs at hstep with hphase hok <;> obtain rfl := Option.some.inj hstep
    · have hphase := not_not.mp hphase
      have hnone := h.answers_nil (by simp [hphase])
      obtain ⟨hsettled, hexit, -, -⟩ := h.unstarted (.inr hphase)
      exact ⟨by simpa using hnone, by simp, fun _ _ => .inl rfl, fun _ => ⟨by simp [hsettled], hexit⟩,
        h.honest, by simp [collectedFiles], h.unsuccessful, fun hne => absurd hnone hne, h.present⟩
    · exact h.fail (h.answers_nil (by simp [not_not.mp hphase]))
  | filesChange files =>
    simp only [perform] at hstep
    split_ifs at hstep with halive
    obtain rfl := Option.some.inj hstep
    exact h.withFiles (by simpa [eventSafe] using hsafe)
  | timeout =>
    simp only [perform] at hstep
    split_ifs at hstep with htimer
    obtain rfl := Option.some.inj hstep
    obtain ⟨hrunning, -⟩ := Bool.and_eq_true_iff.mp htimer
    obtain ⟨hfailed, hexit⟩ := h.live hrunning
    have hsettled : s.settled.or (some (.resolved false)) ≠ some (.resolved true) :=
      settle_ne hfailed (.inr (by simp))
    have hnone : s.answers = [] := by_contra fun hne => by simp [h.forgotten hne] at hrunning
    exact ⟨h.answered, fun hp => by simp [(h.unstarted hp).2.2.2] at hrunning, by simp [settle],
      fun _ => ⟨hsettled, hexit⟩, fun _ => ⟨hsettled, by simp [settle]⟩, h.collected,
      fun _ => by simp [settle, hnone], h.forgotten, h.present⟩
  | close success =>
    simp only [perform] at hstep
    split_ifs at hstep with halive
    have hstarted : ¬ (s.phase = .idle ∨ s.phase = .preparing) := fun hp => by
      simp [(h.unstarted hp).2.2.1] at halive
    have hcode : s.interrupted = true → s.settled.isSome = true ∨ success ≠ true := fun hinterrupted => by
      simpa [eventSafe, hinterrupted, or_comm] using hsafe
    cases kind <;> obtain rfl := Option.some.inj hstep
    · exact ⟨h.answered, fun hp => absurd hp hstarted, by simp [settle], nofun,
        fun hi => ⟨settle_ne (h.honest hi).1 (by simpa using hcode hi), by simp [settle]⟩, h.collected,
        h.unsuccessful, fun _ => rfl, h.present⟩
    · exact ⟨h.answered, fun hp => absurd hp hstarted, fun _ _ => .inr rfl, nofun,
        fun hi => ⟨(h.honest hi).1, fun hexit => (hcode hi).resolve_right (by simpa using hexit)⟩,
        h.collected, h.unsuccessful, fun _ => rfl, h.present⟩
  | wroteLogs ok =>
    obtain ⟨success, hexit, rfl⟩ := Option.map_eq_some_iff.mp hstep
    have hstarted : ¬ (s.phase = .idle ∨ s.phase = .preparing) := fun hp => by
      simp [(h.unstarted hp).2.1] at hexit
    have hrunning : s.running = false := by
      by_contra hrunning
      simp [(h.live (by simpa using hrunning)).2] at hexit
    split_ifs with hok
    · refine ⟨h.answered, fun hp => absurd hp hstarted, by simp [settle],
        fun hr => absurd hr (by simp [settle, hrunning]), fun hi => ⟨settle_ne (h.honest hi).1 ?_, nofun⟩,
        fun file hfile => ?_, h.unsuccessful, h.forgotten, h.present⟩
      · cases success
        · exact .inr (by simp)
        · exact .inl ((h.honest hi).2 hexit)
      · exact List.mem_append_right _ (h.collected file hfile)
    · have hsettled : s.settled.isSome = true := by simpa [eventSafe, hok] using hsafe
      exact ⟨h.answered, fun hp => absurd hp hstarted, fun _ (hnone : s.settled = none) => by simp [hnone] at hsettled,
        fun hr => absurd hr (by simp [hrunning]), fun hi => ⟨(h.honest hi).1, nofun⟩, h.collected,
        h.unsuccessful, h.forgotten, h.present⟩
  | error =>
    simp only [perform] at hstep
    split_ifs at hstep with halive
    obtain rfl := Option.some.inj hstep
    exact ⟨h.answered, fun hp => by simp [(h.unstarted hp).2.2.1] at halive, by simp [settle], nofun,
      fun hi => ⟨settle_ne (h.honest hi).1 (.inr (by simp)), by simp [settle]⟩, h.collected,
      h.unsuccessful, fun _ => rfl, h.present⟩
  | cancel =>
    simp only [perform] at hstep
    split_ifs at hstep with hrunning
    · have hnone : s.answers = [] := by_contra fun hne => by simp [h.forgotten hne] at hrunning
      have hstarted : ¬ (s.phase = .idle ∨ s.phase = .preparing) := fun hp => by
        simp [(h.unstarted hp).2.2.2] at hrunning
      obtain ⟨hfailed, hexit⟩ := h.live hrunning
      cases kind <;> obtain rfl := Option.some.inj hstep
      · exact ⟨h.answered, fun hp => absurd hp hstarted, h.pending, h.live,
          fun _ => ⟨hfailed, by simp [hexit]⟩, h.collected, fun _ => by simp [hnone], h.forgotten,
          h.present⟩
      · exact ⟨h.answered, fun hp => absurd hp hstarted, h.pending, nofun,
          fun _ => ⟨hfailed, by simp [hexit]⟩, h.collected, fun _ => by simp [hnone], fun _ => rfl,
          h.present⟩
    · obtain rfl := Option.some.inj hstep
      exact h
  | cancelRemoved removed =>
    simp only [perform] at hstep
    split_ifs at hstep with hcancels hremoved <;> obtain rfl := Option.some.inj hstep
    · have hempty : collectedFiles s = [] := by simpa [eventSafe, hremoved] using hsafe
      have hgone : CliInvariant { s with files := [] } := h.withFiles (by simp [hempty])
      exact hgone.forget
    · exact h.forget
  | collect =>
    simp only [perform] at hstep
    split_ifs at hstep with hphase
    obtain ⟨settling, hsettled, rfl⟩ := Option.map_eq_some_iff.mp hstep
    have hnone := h.answers_nil (by simp [not_not.mp hphase])
    cases settling
    · exact ⟨by simpa using hnone, by simp, by simp, h.live, h.honest, by simp [collectedFiles],
        h.unsuccessful, h.forgotten, h.present⟩
    · exact h.fail hnone
  | finish removed =>
    obtain ⟨hrunning, hkept⟩ := Bool.and_eq_true_iff.mp hsafe
    rw [Bool.not_eq_true'] at hrunning
    cases hphase : s.phase with
    | collected artifacts =>
      have hreturned : s.phase ≠ .returned := by simp [hphase]
      have hsuccess : s.interrupted = true → decide (s.settled = some (.resolved true)) = false :=
        fun hinterrupted => decide_eq_false (h.honest hinterrupted).1
      have hfiles : collectedFiles s = artifacts := by rw [collectedFiles, hphase]
      simp only [perform, hphase] at hstep
      split_ifs at hstep with hdebug hremoved <;> obtain rfl := Option.some.inj hstep
      · exact h.answer hreturned hrunning hsuccess (hfiles ▸ h.collected)
      · obtain rfl : artifacts = [] := by simpa [hdebug, hremoved, hfiles] using hkept
        exact (h.withFiles (by simp [hfiles])).answer hreturned hrunning hsuccess nofun
      · exact h.fail (h.answers_nil hreturned)
    | failing =>
      have hreturned : s.phase ≠ .returned := by simp [hphase]
      simp only [perform, hphase] at hstep
      cases kind <;> obtain rfl := Option.some.inj hstep
      · exact (h.withFiles (by simp [collectedFiles, hphase])).answer hreturned hrunning (fun _ => rfl)
          nofun
      · exact h.answer hreturned hrunning (fun _ => rfl) nofun
    | _ => simp [perform, hphase] at hstep

theorem CliInvariant.goesOn (h : CliInvariant s) (hbegun : s.phase ≠ .idle) (hnone : s.answers = []) :
    ∃ event s', s.perform kind debug event = some s' ∧ progress s < progress s' := by
  cases hphase : s.phase with
  | idle => exact absurd hphase hbegun
  | preparing => exact ⟨.prepared false, _, by simp [perform, hphase]; rfl, by simp [progress, hphase]⟩
  | awaiting =>
    cases hsettled : s.settled with
    | some settling =>
      refine ⟨.collect, _, by simp [perform, hphase, hsettled]; rfl, ?_⟩
      cases settling <;> cases hexit : s.exit <;> simp [progress, hphase, hsettled, hexit]
    | none =>
      cases hexit : s.exit with
      | some success =>
        exact ⟨.wroteLogs true, _, by simp [perform, hexit]; rfl,
          by simp [progress, settle, hphase, hexit, hsettled]⟩
      | none =>
        have halive : s.alive = true := by simpa [hexit] using h.pending hphase hsettled
        cases kind
        · exact ⟨.close false, _, by simp [perform, halive]; rfl,
            by simp [progress, settle, hphase, hexit, hsettled]⟩
        · exact ⟨.close false, _, by simp [perform, halive]; rfl,
            by simp [progress, hphase, hexit, hsettled]⟩
  | collected artifacts =>
    cases debug
    · exact ⟨.finish true, _, by simp [perform, hphase]; rfl, by simp [progress, CliJob.answer, hphase]⟩
    · exact ⟨.finish true, _, by simp [perform, hphase]; rfl, by simp [progress, CliJob.answer, hphase]⟩
  | failing =>
    cases kind
    · exact ⟨.finish true, _, by simp [perform, hphase]; rfl, by simp [progress, CliJob.answer, hphase]⟩
    · exact ⟨.finish true, _, by simp [perform, hphase]; rfl, by simp [progress, CliJob.answer, hphase]⟩
  | returned => simpa [hphase, hnone] using h.answered

theorem CliInvariant.booksKept (h : CliInvariant s) : CliBooksKept kind debug s where
  once := by
    have hanswered := h.answered
    split_ifs at hanswered
    · exact hanswered.le
    · simp [hanswered]
  goesOn := h.goesOn
  unsuccessful := h.unsuccessful
  forgotten := h.forgotten
  present := h.present

theorem cliInvariant_new (files : List CliFile) : CliInvariant (.new files) := by
  constructor <;> simp [CliJob.new, collectedFiles]

/-- Every execution keeps its books, in any interleaving of any jobs whose events are safe. -/
theorem cli_books_kept {h : History (String → CliJob) (String × CliEvent)} {t : String → CliJob}
    (hrun : (cliExecutor kind debug).Run h t)
    (hsafe : Machine.Steps (fun s step => eventSafe debug (s step.1) step.2 = true) h) :
    ∀ s ∈ states h t, ∀ jobId, CliBooksKept kind debug (s jobId) := by
  have hinvariant := (Machine.Run.invariantPairwise (I := fun s => ∀ jobId, CliInvariant (s jobId))
    (R := fun _ _ => True) (fun _ _ _ _ _ => trivial) ?_ ?_ hrun hsafe).2
  · exact fun s hs jobId => (hinvariant s hs jobId).booksKept
  · intro s hinit jobId
    obtain ⟨files, hnew⟩ := hinit jobId
    rw [hnew]
    exact cliInvariant_new files
  · intro s step s' hinvariant hsafe hstep
    refine ⟨fun jobId => ?_, trivial⟩
    obtain ⟨job, hperform, rfl⟩ := Option.map_eq_some_iff.mp hstep
    by_cases hjob : jobId = step.1
    · subst hjob
      rw [Function.update_self]
      exact cliInvariant_step (hinvariant _) hsafe hperform
    · rw [Function.update_of_ne hjob]
      exact hinvariant jobId

theorem empty_directories (kind : CliKind) (debug : Bool) :
    (cliExecutor kind debug).init fun _ => .new [] :=
  fun _ => ⟨[], rfl⟩

/-- A cancelled run whose process exits with 0 is a success, and its artifacts are gone. -/
theorem cancelled_run_succeeds : ∃ h t, (cliExecutor .openCode false).Run h t ∧
    (t "job-1").interrupted = true ∧ ∃ answer ∈ (t "job-1").answers, answer.success = true ∧
      ∃ file ∈ answer.artifacts, file ∉ answer.files := by
  have hplayed : (replay (performJob .openCode false) (fun _ => .new [])
      (([.execute, .prepared true, .cancel, .close true, .wroteLogs true, .collect, .finish true] :
        List CliEvent).map fun event _ => some ("job-1", event))).any (fun p =>
          (p.2 "job-1").interrupted = true ∧ ∃ answer ∈ (p.2 "job-1").answers, answer.success = true ∧
            ∃ file ∈ answer.artifacts, file ∉ answer.files) = true := by
    decide +kernel
  obtain ⟨h, t, hrun, htest⟩ := exists_run_of_replay (empty_directories .openCode false) hplayed
  exact ⟨h, t, hrun, of_decide_eq_true htest⟩

def twoRuns : List (String × CliEvent) :=
  [.execute, .prepared true, .timeout, .close true, .collect, .finish true].map (Prod.mk "job-1") ++
    [.execute, .prepared true, .close true, .collect, .finish true].map (Prod.mk "job-2")

/-- One run times out and closes before it returns, another one succeeds. -/
theorem two_runs_kept : ∃ h t, (cliExecutor .claude false).Run h t ∧
    ((t "job-1").answers.map (·.success) = [false] ∧ (t "job-2").answers.map (·.success) = [true]) ∧
    ∀ s ∈ states h t, ∀ jobId, CliBooksKept .claude false (s jobId) := by
  have hplayed : (replay (performJob .claude false) (fun _ => .new [])
      (twoRuns.map fun step _ => some step)).any (fun p =>
        ((p.2 "job-1").answers.map (·.success) = [false] ∧
          (p.2 "job-2").answers.map (·.success) = [true]) ∧
        p.1.all fun step => eventSafe false (step.1 step.2.1) step.2.2) = true := by
    decide +kernel
  obtain ⟨h, t, hrun, htest⟩ := exists_run_of_replay (empty_directories .claude false) hplayed
  simp only [decide_eq_true_eq, List.all_eq_true] at htest
  exact ⟨h, t, hrun, htest.1, cli_books_kept hrun htest.2⟩

end ShipyardCp.Properties
