import ShipyardCp.Domain.ServeFallback
import ShipyardCp.Properties.SessionLimits

/-! Whether the adapter for served sessions says and counts of exactly those jobs that it fell back
to the other executor for which it did. -/

namespace ShipyardCp.Properties

open Types Domain Lib OpenCodeServeAdapter Machine ServeWait

def serveRuns : Machine ServeSystem ServeAction := .ofNext (fun s => s = .empty) ServeSystem.next

/-- The state object says what an executor answered. -/
def StoresAnswer (state : AdapterJob) : Except String OpenCodeExecutionResult → Prop
  | .ok result =>
    if result.success then
      state.status = .succeeded ∧ state.result =
        some (convertToWorkerResult state.job result.execution)
    else state.status = .failed ∧ state.error = result.error
  | .error message => state.status = .failed ∧ state.error = some message

/-- The fallback executor is called once at most for a job, and a fallback is recorded for it as
often; once the job is over it is marked exactly when the executor was called, and says what that
answered. -/
def FallbackLaws (s : ServeSystem) : Prop :=
  ∀ k state wait, s.jobs.objects[k]? = some state → s.waits[k]? = some wait →
    s.executionsOf k ≤ 1 ∧ s.fallbacksOf k = s.executionsOf k ∧
    ∀ answered, wait = .settled answered → (state.fallbackUsed = true ↔ s.executionsOf k = 1) ∧
      (s.executionsOf k = 1 → ∃ answer, answered = some answer ∧ StoresAnswer state answer)

/-- A failed session says nothing of an error or gives no reason for its clean-up; and the fallback
executor throws for jobs only for which the server was not ready. -/
def HonestStep (s : ServeSystem) : ServeAction → Prop
  | .sessionAnswered _ (.ok result) =>
    result.success = true ∨ result.cleanupReason = none ∨ result.error.getD "" = ""
  | .fallbackAnswered k (.error _) => ∀ state ∈ s.jobs.objects[k]?, state.fallbackUsed = true
  | _ => True

instance (s : ServeSystem) (action : ServeAction) : Decidable (HonestStep s action) :=
  match action with
  | .submitJob .. => .isTrue trivial
  | .serverAnswered .. => .isTrue trivial
  | .sessionAnswered _ (.ok _) => inferInstanceAs (Decidable (_ ∨ _ ∨ _))
  | .sessionAnswered _ (.error _) => .isTrue trivial
  | .fallbackAnswered _ (.ok _) => .isTrue trivial
  | .fallbackAnswered k (.error _) => inferInstanceAs (Decidable (∀ state ∈ s.jobs.objects[k]?, _))
  | .pollJob _ => .isTrue trivial

/-- What is known of a job while it awaits something. -/
def JobHonest (s : ServeSystem) (k : Nat) (state : AdapterJob) : ServeWait → Prop
  | .server => s.executionsOf k = 0 ∧ state.fallbackUsed = false
  | .session => s.executionsOf k = 0 ∧ state.fallbackUsed = false
  | .fallback _ => s.executionsOf k = 1
  | .refused => s.executionsOf k = 0
  | .settled none => s.executionsOf k = 0 ∧ state.fallbackUsed = false
  | .settled (some answer) =>
    s.executionsOf k = 1 ∧ state.fallbackUsed = true ∧ StoresAnswer state answer

structure FallbackHonest (s : ServeSystem) : Prop where
  lengths : s.waits.length = s.jobs.objects.length
  counted : ∀ k, s.fallbacksOf k = s.executionsOf k
  known : ∀ k ∈ s.executed, k < s.waits.length
  jobs : ∀ k state wait, s.jobs.objects[k]? = some state → s.waits[k]? = some wait →
    JobHonest s k state wait

section steps

variable {s s' : ServeSystem} {k : Nat} {action : ServeAction}

theorem FallbackHonest.laws (hs : FallbackHonest s) : FallbackLaws s := by
  intro k state wait hstate hwait
  have hjob := hs.jobs k state wait hstate hwait
  refine ⟨?_, hs.counted k, ?_⟩
  · cases wait with
    | server => exact hjob.1.le.trans (Nat.zero_le 1)
    | session => exact hjob.1.le.trans (Nat.zero_le 1)
    | fallback reason => exact hjob.le
    | refused => exact hjob.le.trans (Nat.zero_le 1)
    | settled answered =>
      cases answered with
      | none => exact hjob.1.le.trans (Nat.zero_le 1)
      | some answer => exact hjob.1.le
  · rintro answered rfl
    cases answered with
    | none =>
      obtain ⟨hnone, hflag⟩ := hjob
      rw [hnone, hflag]
      exact ⟨iff_of_false Bool.false_ne_true Nat.zero_ne_one, fun h => absurd h Nat.zero_ne_one⟩
    | some answer =>
      obtain ⟨hone, hflag, hstores⟩ := hjob
      exact ⟨iff_of_true hflag hone, fun _ => ⟨answer, rfl, hstores⟩⟩

theorem FallbackHonest.goesOn (hs : FallbackHonest s) (calls : List Nat) (reason : FallbackReason)
    {f : AdapterJob → AdapterJob} {wait : ServeWait}
    (hjobs : s'.jobs = s.jobs.update k f) (hwaits : s'.waits = s.waits.set k wait)
    (hexecuted : s'.executed = s.executed ++ calls)
    (hrecorded : s'.recorded = s.recorded ++ calls.map (·, reason))
    (hk : k < s.waits.length) (hcalls : ∀ m ∈ calls, m = k)
    (hjob : ∀ state, s.jobs.objects[k]? = some state → JobHonest s' k (f state) wait) :
    FallbackHonest s' := by
  refine ⟨?_, fun m => ?_, fun m hm => ?_, ?_⟩
  · rw [hjobs, hwaits, List.length_set, hs.lengths]
    exact (List.length_modify _ _ _).symm
  · have hcounted := hs.counted m
    unfold ServeSystem.fallbacksOf ServeSystem.executionsOf at hcounted ⊢
    rw [hrecorded, hexecuted, List.countP_append, List.count_append, hcounted, List.countP_map,
      List.count_eq_countP]
    rfl
  · rw [hwaits, List.length_set]
    rw [hexecuted] at hm
    rcases List.mem_append.mp hm with hbefore | hnow
    · exact hs.known m hbefore
    · rw [hcalls m hnow]
      exact hk
  · intro m state' wait' hstate' hwait'
    rw [hjobs] at hstate'
    change (s.jobs.objects.modify k f)[m]? = some state' at hstate'
    rw [hwaits] at hwait'
    by_cases hm : k = m
    · subst hm
      rw [List.getElem?_modify_eq] at hstate'
      obtain ⟨state, hstate, rfl⟩ := Option.map_eq_some_iff.mp hstate'
      rw [List.getElem?_set_self hk] at hwait'
      obtain rfl := Option.some.inj hwait'
      exact hjob state hstate
    · rw [List.getElem?_modify_ne _ _ hm] at hstate'
      rw [List.getElem?_set_ne hm] at hwait'
      have hother : s'.executionsOf m = s.executionsOf m := by
        have hnone : calls.count m = 0 := List.count_eq_zero.mpr fun hmem => hm (hcalls m hmem).symm
        rw [ServeSystem.executionsOf, hexecuted, List.count_append, hnone]
        rfl
      have hbefore := hs.jobs m state' wait' hstate' hwait'
      cases wait' with
      | settled answered => cases answered <;> simpa only [JobHonest, hother] using hbefore
      | _ => simpa only [JobHonest, hother] using hbefore

theorem lt_length_of_waits {wait : ServeWait} (hwait : s.waits[k]? = some wait) :
    k < s.waits.length :=
  (List.getElem?_eq_some_iff.mp hwait).1

theorem exists_object (hs : FallbackHonest s) {wait : ServeWait} (hwait : s.waits[k]? = some wait) :
    ∃ state, s.jobs.objects[k]? = some state :=
  ⟨_, List.getElem?_eq_getElem (hs.lengths ▸ lt_length_of_waits hwait)⟩

theorem executionsOf_fallBack (reason : FallbackReason) (jobs : AdapterJobs) :
    (s.fallBack k reason jobs).executionsOf k = s.executionsOf k + 1 := by
  unfold ServeSystem.executionsOf ServeSystem.fallBack
  rw [List.count_append, List.count_singleton_self]

theorem honest_serverAnswered (hs : FallbackHonest s) (hwait : s.waits[k]? = some .server)
    (ready : Option Bool) : FallbackHonest (s.serverAnswered k ready) := by
  have hk := lt_length_of_waits hwait
  have hjob : ∀ state, s.jobs.objects[k]? = some state →
      s.executionsOf k = 0 ∧ state.fallbackUsed = false :=
    fun state hstate => hs.jobs k state _ hstate hwait
  cases ready with
  | none =>
    refine hs.goesOn [] .serverStartFailed (s.jobs.update_id k).symm rfl (List.append_nil _).symm
      (List.append_nil _).symm hk nofun ?_
    exact fun state hstate => (hjob state hstate).1
  | some ready =>
    cases ready with
    | true =>
      refine hs.goesOn [] .serverStartFailed rfl rfl (List.append_nil _).symm
        (List.append_nil _).symm hk nofun ?_
      exact fun state hstate => hjob state hstate
    | false =>
      refine hs.goesOn [k] _ rfl rfl rfl rfl hk (by simp) fun state hstate => ?_
      have hcount := executionsOf_fallBack (s := s) (k := k) .serverStartFailed
        (serverAnswered s.jobs k false)
      rw [(hjob state hstate).1] at hcount
      exact hcount

theorem storesAnswer_settle (state : AdapterJob) (answer : Except String OpenCodeExecutionResult) :
    StoresAnswer (settle state
      (answer.map fallbackReturned)) answer := by
  cases answer with
  | error message => exact ⟨rfl, rfl⟩
  | ok result =>
    cases hsuccess : result.success with
    | true => simp [StoresAnswer, Except.map, settle, fallbackReturned, hsuccess]
    | false => simp [StoresAnswer, Except.map, settle, fallbackReturned, hsuccess]

theorem fallbackUsed_settle_ok (state : AdapterJob) (result : ExecutionResult) :
    (settle state (.ok result)).fallbackUsed = result.fallbackUsed := by
  unfold settle
  dsimp only
  split_ifs <;> rfl

theorem sessionReturned_of_honest {result : SessionExecutionResult}
    (hhonest : HonestStep s (.sessionAnswered k (.ok result))) :
    (sessionReturned result).1 = none := by
  unfold sessionReturned
  dsimp only
  split_ifs with hfailed
  · rcases hhonest with hsuccess | hreason | herror
    · simp [hsuccess] at hfailed
    · simp [hreason] at hfailed
    · cases he : result.error with
      | none => rfl
      | some error =>
        rw [he] at herror
        simp [determineFallbackReason, show error = "" from herror]
  · rfl

theorem honest_sessionAnswered (hs : FallbackHonest s) (hwait : s.waits[k]? = some .session)
    {answer : Except String SessionExecutionResult}
    (hhonest : HonestStep s (.sessionAnswered k answer)) :
    FallbackHonest (s.sessionAnswered k answer) := by
  have hk := lt_length_of_waits hwait
  have hjob : ∀ state, s.jobs.objects[k]? = some state →
      s.executionsOf k = 0 ∧ state.fallbackUsed = false :=
    fun state hstate => hs.jobs k state _ hstate hwait
  cases answer with
  | ok result =>
    have hnone := sessionReturned_of_honest hhonest
    have hrecorded : (s.sessionAnswered k (.ok result)).recorded = s.recorded := by
      simp [ServeSystem.sessionAnswered, hnone]
    refine hs.goesOn [] .serverStartFailed rfl rfl (List.append_nil _).symm
      (hrecorded.trans (List.append_nil _).symm) hk nofun fun state hstate => ?_
    refine ⟨(hjob state hstate).1, (fallbackUsed_settle_ok _ _).trans ?_⟩
    change (sessionReturned result).1.isSome = false
    rw [hnone]
    rfl
  | error message =>
    refine hs.goesOn [k] _ (s.jobs.update_id k).symm rfl rfl rfl hk (by simp) fun state hstate => ?_
    have hcount := executionsOf_fallBack (s := s) (k := k)
      (determineFallbackReasonFromError message) s.jobs
    rw [(hjob state hstate).1] at hcount
    exact hcount

theorem honest_fallbackAnswered (hs : FallbackHonest s) {reason : FallbackReason}
    (hwait : s.waits[k]? = some (.fallback reason)) {answer : Except String OpenCodeExecutionResult}
    (hhonest : HonestStep s (.fallbackAnswered k answer)) :
    FallbackHonest (s.fallbackAnswered k answer) := by
  refine hs.goesOn [] reason rfl rfl (List.append_nil _).symm (List.append_nil _).symm
    (lt_length_of_waits hwait) nofun fun state hstate => ?_
  refine ⟨hs.jobs k state _ hstate hwait, ?_, storesAnswer_settle state answer⟩
  cases answer with
  | ok result => exact fallbackUsed_settle_ok _ _
  | error message => exact hhonest state hstate

theorem honest_submitJob (hs : FallbackHonest s) (job : WorkerJob) (hasContext hasEnvelope : Bool)
    (now : Nat) : FallbackHonest (s.submitJob job hasContext hasEnvelope now) := by
  unfold ServeSystem.submitJob submitJob
  cases validateJob job hasContext hasEnvelope with
  | cons error errors =>
    refine ⟨?_, hs.counted, ?_, ?_⟩
    · exact (congrArg List.length (List.append_nil _)).trans hs.lengths
    · intro m hm
      exact (hs.known m hm).trans_eq (congrArg List.length (List.append_nil _)).symm
    · intro m state wait hstate hwait
      exact hs.jobs m state wait hstate ((congrArg (·[m]?) (List.append_nil _)).symm.trans hwait)
  | nil =>
    refine ⟨?_, hs.counted, ?_, ?_⟩
    · change (s.waits ++ [server]).length = (s.jobs.objects ++ [newJob job now]).length
      rw [List.length_append, List.length_append, hs.lengths]
      rfl
    · intro m hm
      have hlength : s.waits.length < (s.waits ++ [server]).length := by simp
      exact (hs.known m hm).trans hlength
    · intro m state wait hstate hwait
      change (s.jobs.objects ++ [newJob job now])[m]? = some state at hstate
      change (s.waits ++ [server])[m]? = some wait at hwait
      rcases Nat.lt_or_ge m s.waits.length with hold | hnew
      · rw [List.getElem?_append_left (hs.lengths ▸ hold)] at hstate
        rw [List.getElem?_append_left hold] at hwait
        exact hs.jobs m state wait hstate hwait
      · have hlength := lt_length_of_waits (s := { s with waits := s.waits ++ [.server] }) hwait
        rw [List.length_append, List.length_singleton] at hlength
        obtain rfl : m = s.waits.length := by omega
        obtain rfl : server = wait := by simpa using hwait
        rw [hs.lengths] at hstate
        obtain rfl : newJob job now = state := by simpa using hstate
        exact ⟨List.count_eq_zero.mpr fun hmem => absurd (hs.known _ hmem) (Nat.lt_irrefl _), rfl⟩

theorem objects_pollJob (jobs : AdapterJobs) (externalJobId : String) :
    (pollJob jobs externalJobId).1.objects = jobs.objects := by
  unfold pollJob pollWith
  cases jobs.get? externalJobId with
  | none => rfl
  | some found =>
    dsimp only
    split_ifs <;> rfl

theorem honest_pollJob (hs : FallbackHonest s) (externalJobId : String) :
    FallbackHonest { s with jobs := (pollJob s.jobs externalJobId).1 } := by
  have hobjects := objects_pollJob s.jobs externalJobId
  refine ⟨hs.lengths.trans (congrArg List.length hobjects).symm, hs.counted, hs.known, ?_⟩
  intro m state wait hstate hwait
  rw [hobjects] at hstate
  exact hs.jobs m state wait hstate hwait

theorem next_eq_some_cases (hnext : s.next action = some s') :
    (∃ job hasContext hasEnvelope now, action = .submitJob job hasContext hasEnvelope now ∧
      s' = s.submitJob job hasContext hasEnvelope now) ∨
    (∃ k ready, action = .serverAnswered k ready ∧ s.waits[k]? = some .server ∧
      s' = s.serverAnswered k ready) ∨
    (∃ k answer, action = .sessionAnswered k answer ∧ s.waits[k]? = some .session ∧
      s' = s.sessionAnswered k answer) ∨
    (∃ k answer reason, action = .fallbackAnswered k answer ∧
      s.waits[k]? = some (.fallback reason) ∧ s' = s.fallbackAnswered k answer) ∨
    (∃ externalJobId, action = .pollJob externalJobId ∧
      s' = { s with jobs := (pollJob s.jobs externalJobId).1 }) := by
  cases action with
  | submitJob job hasContext hasEnvelope now =>
    exact Or.inl ⟨job, hasContext, hasEnvelope, now, rfl, (Option.some.inj hnext).symm⟩
  | serverAnswered k ready =>
    simp only [ServeSystem.next] at hnext
    split at hnext
    · next hwait => exact Or.inr (Or.inl ⟨k, ready, rfl, hwait, (Option.some.inj hnext).symm⟩)
    · cases hnext
  | sessionAnswered k answer =>
    simp only [ServeSystem.next] at hnext
    split at hnext
    · next hwait =>
      exact Or.inr (Or.inr (Or.inl ⟨k, answer, rfl, hwait, (Option.some.inj hnext).symm⟩))
    · cases hnext
  | fallbackAnswered k answer =>
    simp only [ServeSystem.next] at hnext
    split at hnext
    · next reason hwait =>
      exact Or.inr (Or.inr (Or.inr (Or.inl
        ⟨k, answer, reason, rfl, hwait, (Option.some.inj hnext).symm⟩)))
    · cases hnext
  | pollJob externalJobId =>
    exact Or.inr (Or.inr (Or.inr (Or.inr ⟨externalJobId, rfl, (Option.some.inj hnext).symm⟩)))

theorem honest_next (hs : FallbackHonest s) (hhonest : HonestStep s action)
    (hnext : s.next action = some s') : FallbackHonest s' := by
  obtain ⟨job, hasContext, hasEnvelope, now, rfl, rfl⟩ | ⟨k, ready, rfl, hwait, rfl⟩ |
    ⟨k, answer, rfl, hwait, rfl⟩ | ⟨k, answer, reason, rfl, hwait, rfl⟩ | ⟨externalJobId, rfl, rfl⟩ :=
    next_eq_some_cases hnext
  · exact honest_submitJob hs job hasContext hasEnvelope now
  · exact honest_serverAnswered hs hwait ready
  · exact honest_sessionAnswered hs hwait hhonest
  · exact honest_fallbackAnswered hs hwait hhonest
  · exact honest_pollJob hs externalJobId

theorem sessionReturned_isSome {result : SessionExecutionResult}
    (hhonest : ¬HonestStep s (.sessionAnswered k (.ok result))) :
    (sessionReturned result).1.isSome = true := by
  simp only [HonestStep, not_or] at hhonest
  obtain ⟨hfailed, hreason, herror⟩ := hhonest
  have hcleaned : result.success = false ∧ result.cleanupReason.isSome :=
    ⟨Bool.eq_false_of_not_eq_true hfailed, Option.isSome_iff_ne_none.mpr hreason⟩
  unfold sessionReturned
  rw [if_pos hcleaned]
  cases he : result.error with
  | none => exact absurd (by rw [he]; rfl) herror
  | some error =>
    rw [he] at herror
    unfold determineFallbackReason
    dsimp only
    rw [if_neg (show error ≠ "" from herror)]
    split_ifs <;> rfl

theorem honest_of_laws (hs : FallbackHonest s) (hnext : s.next action = some s')
    (hlaws : FallbackLaws s') : HonestStep s action := by
  obtain ⟨job, hasContext, hasEnvelope, now, rfl, rfl⟩ | ⟨k, ready, rfl, hwait, rfl⟩ |
    ⟨k, answer, rfl, hwait, rfl⟩ | ⟨k, answer, reason, rfl, hwait, rfl⟩ | ⟨externalJobId, rfl, rfl⟩ :=
    next_eq_some_cases hnext
  · trivial
  · trivial
  · cases answer with
    | error message => trivial
    | ok result =>
      by_contra hdishonest
      have hmarked := sessionReturned_isSome hdishonest
      obtain ⟨state, hstate⟩ := exists_object hs hwait
      have hnone := (hs.jobs k state _ hstate hwait).1
      have hobject : (s.sessionAnswered k (.ok result)).jobs.objects[k]? = some (settle state
            (.ok (sessionReturned result).2)) := by
        change (s.jobs.objects.modify k _)[k]? = _
        rw [List.getElem?_modify_eq, hstate]
        rfl
      have hsettled : (s.sessionAnswered k (.ok result)).waits[k]? = some (.settled none) :=
        List.getElem?_set_self (lt_length_of_waits hwait)
      have hflag := ((hlaws k _ _ hobject hsettled).2.2 none rfl).1
      have hone := hflag.mp ((fallbackUsed_settle_ok _ _).trans hmarked)
      exact Nat.zero_ne_one (hnone.symm.trans hone)
  · cases answer with
    | ok result => trivial
    | error message =>
      intro state hstate
      have hone := hs.jobs k state _ hstate hwait
      have hobject : (s.fallbackAnswered k (.error message)).jobs.objects[k]? =
          some (settle state (.error message)) := by
        change (s.jobs.objects.modify k _)[k]? = _
        rw [List.getElem?_modify_eq, show s.jobs.objects[k]? = some state from hstate]
        rfl
      have hsettled : (s.fallbackAnswered k (.error message)).waits[k]? =
          some (.settled (some (.error message))) :=
        List.getElem?_set_self (lt_length_of_waits hwait)
      exact ((hlaws k _ _ hobject hsettled).2.2 _ rfl).1.mpr hone
  · trivial

theorem honest_empty : FallbackHonest .empty := by
  refine ⟨rfl, fun _ => rfl, fun k hk => ?_, fun k state wait hstate _ => ?_⟩
  · cases hk
  · cases hstate

/-- In every run all jobs are marked and counted as they were run exactly when no session fails with
an error and a reason for its clean-up, and no fallback after a failed session throws. -/
theorem fallbackLaws_iff {h : History ServeSystem ServeAction} (hrun : serveRuns.Run h s) :
    (∀ t ∈ states h s, FallbackLaws t) ↔ Machine.Steps HonestStep h := by
  refine hrun.forall_states_iff (I := FallbackHonest) ?_ ?_ ?_ ?_
  · rintro t rfl
    exact honest_empty
  · exact fun t ht => ht.laws
  · exact fun h t action t' _ ht hhonest hnext => honest_next ht hhonest hnext
  · exact fun h t action t' _ ht hnext hlaws => honest_of_laws ht hnext hlaws

end steps

theorem exists_serveRun {actions : List ServeAction}
    {test : History ServeSystem ServeAction × ServeSystem → Bool}
    (h : (replay ServeSystem.next .empty (actions.map fun action _ => some action)).any test = true) :
    ∃ h t, serveRuns.Run h t ∧ test (h, t) = true :=
  exists_run_of_replay rfl h

def brokenExecution : AdapterExecution := ⟨none, none⟩

/-- A server that is not there, and a fallback that throws. -/
theorem fallback_without_server : ∃ h s, serveRuns.Run h s ∧ s.fallbacksUsed = 1 ∧
    ∀ t ∈ states h s, FallbackLaws t := by
  have hplayed : (replay ServeSystem.next .empty
      ([.submitJob runtimeJob false false 0, .serverAnswered 0 (some false),
        .fallbackAnswered 0 (.error "spawn opencode ENOENT")].map fun action _ => some action)).any
      (fun p => p.1.all (fun q => decide (HonestStep q.1 q.2)) &&
        decide (p.2.fallbacksUsed = 1)) = true := by
    decide +kernel
  obtain ⟨h, s, hrun, htest⟩ := exists_serveRun hplayed
  obtain ⟨hhonest, hcount⟩ := Bool.and_eq_true_iff.mp htest
  have hsteps : Machine.Steps HonestStep h := fun q hq =>
    of_decide_eq_true (List.all_eq_true.mp hhonest q hq)
  exact ⟨h, s, hrun, of_decide_eq_true hcount, (fallbackLaws_iff hrun).mpr hsteps⟩

/-- A session that times out is counted as a fallback that never ran; and a fallback that throws
after the session has thrown is not marked. -/
theorem unused_fallback_counted :
    (¬∀ h s, serveRuns.Run h s → ∀ k, s.fallbacksOf k = s.executionsOf k) ∧
    (¬∀ h s, serveRuns.Run h s → ∀ k state answered, s.jobs.objects[k]? = some state →
      s.waits[k]? = some (.settled answered) → s.executionsOf k = 1 → state.fallbackUsed = true) := by
  constructor
  · intro hall
    have hplayed : (replay ServeSystem.next .empty
        ([.submitJob runtimeJob false false 0, .serverAnswered 0 (some true),
          .sessionAnswered 0 (.ok ⟨false, none, brokenExecution, some "Request timed out",
            some .taskFailed⟩)].map fun action _ => some action)).any
        (fun p => decide (p.2.fallbacksOf 0 = 1 ∧ p.2.executionsOf 0 = 0)) = true := by
      decide +kernel
    obtain ⟨h, s, hrun, htest⟩ := exists_serveRun hplayed
    obtain ⟨hcounted, hcalled⟩ := of_decide_eq_true htest
    have hsame := hall h s hrun 0
    rw [hcounted, hcalled] at hsame
    cases hsame
  · intro hall
    have hplayed : (replay ServeSystem.next .empty
        ([.submitJob runtimeJob false false 0, .serverAnswered 0 (some true),
          .sessionAnswered 0 (.error "connection reset"),
          .fallbackAnswered 0 (.error "spawn opencode ENOENT")].map fun action _ => some action)).any
        (fun p => p.2.jobs.objects[0]?.any (fun state => !state.fallbackUsed) &&
          (p.2.waits[0]?.any (fun wait => wait matches .settled _) &&
            decide (p.2.executionsOf 0 = 1))) = true := by
      decide +kernel
    obtain ⟨h, s, hrun, htest⟩ := exists_serveRun hplayed
    obtain ⟨hstate, hrest⟩ := Bool.and_eq_true_iff.mp htest
    obtain ⟨hwait, hcalled⟩ := Bool.and_eq_true_iff.mp hrest
    obtain ⟨state, hobject, hunmarked⟩ := (Option.any_eq_true _ _).mp hstate
    obtain ⟨wait, hwaits, hsettled⟩ := (Option.any_eq_true _ _).mp hwait
    cases wait with
    | settled answered =>
      have hmarked := hall h s hrun 0 state answered hobject hwaits (of_decide_eq_true hcalled)
      rw [hmarked] at hunmarked
      cases hunmarked
    | _ => cases hsettled

end ShipyardCp.Properties
