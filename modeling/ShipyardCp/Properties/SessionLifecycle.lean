import ShipyardCp.Domain.RuntimeBridge
import ShipyardCp.Properties.SessionLimits

/-! Whether a session that has ended keeps its outcome. -/

namespace ShipyardCp.Properties

open Types Domain Lib Lib.NodePath RuntimeBridge Machine

/-- The states in which a session has ended. -/
def isOutcome : SessionState → Bool
  | .completed => true
  | .failed => true
  | .closed => true
  | _ => false

def sessionState (b : RuntimeBridge) (session : Nat) : Option SessionState :=
  b.allSessions[session]?.map (·.state)

/-- A session that had ended in the earlier state does not run in the later, and has no other
outcome. -/
def KeepsOutcomes (b b' : RuntimeBridge) : Prop :=
  ∀ session outcome, sessionState b session = some outcome → isOutcome outcome = true →
    sessionState b' session ≠ some .running ∧
    ∀ other, sessionState b' session = some other → isOutcome other = true → other = outcome

/-- The session's call that a step makes. -/
def sessionOp (b : RuntimeBridge) (call : BridgeCall) : Option (Nat × SessionOp) :=
  match call.op with
  | .call session op => some (session, op)
  | .submitted ticket (.ok submission) =>
    match b.waiting.get? ticket with
    | some (.submit _ session) =>
      some (session, submissionCall call.now submission)
    | _ => none
  | .poll jobId =>
    if b.externalJobId jobId = none then
      (b.sessions.get? jobId).map fun session => (session, .fail "external job id is missing")
    else none
  | .polled ticket (.ok poll) =>
    match b.waiting.get? ticket with
    | some (.poll session) => some (session, pollCall call.now poll)
    | _ => none
  | .interrupt jobId reason =>
    if b.externalJobId jobId = none then
      (b.sessions.get? jobId).map fun session => (session, .interrupt reason)
    else none
  | .cancelled ticket (.ok _) =>
    match b.waiting.get? ticket with
    | some (.cancel session reason) => some (session, .interrupt reason)
    | _ => none
  | _ => none

/-- The state that a call writes whether or not the session has ended. -/
def writes : SessionOp → Option SessionState
  | .start _ => some .running
  | .interrupt _ => some .interrupted
  | .complete _ => some .completed
  | .fail _ => some .failed
  | .close => some .closed
  | _ => none

def Ended (session : Nat) (outcome : SessionState) (h : History RuntimeBridge BridgeCall)
    (b : RuntimeBridge) : Prop :=
  isOutcome outcome = true ∧ ∃ b' ∈ states h b, sessionState b' session = some outcome

def OutcomeSafe (h : History RuntimeBridge BridgeCall) (b : RuntimeBridge) (call : BridgeCall) :
    Prop :=
  ∀ session op outcome, sessionOp b call = some (session, op) → Ended session outcome h b →
    ∀ state, writes op = some state → state = outcome ∨ state = .interrupted

section step

variable {platform : Platform} {b b' : RuntimeBridge} {call : BridgeCall} {session : Nat}

theorem modify_eq_self {α : Type*} {l : List α} {i : Nat} {f : α → α}
    (h : ∀ a, l[i]? = some a → f a = a) : l.modify i f = l := by
  apply List.ext_getElem?
  intro j
  rw [List.getElem?_modify]
  split_ifs with hij
  · subst hij
    cases ha : l[i]? with
    | none => rfl
    | some a => exact congrArg some (h a ha)
  · exact Option.map_id'

theorem allSessions_settleSubmission (job : WorkerJob) (session : Nat)
    (submission : JobSubmission) (now : Timestamp) :
    (b.settleSubmission platform now job session submission).allSessions =
      b.allSessions.modify session fun s =>
        s.perform platform ⟨now, submissionCall now submission⟩ := by
  have hsessions : (b.recordExternalId job.jobId submission).allSessions = b.allSessions := by
    unfold recordExternalId
    split <;> rfl
  unfold settleSubmission
  dsimp only
  split_ifs with hanswered
  · rw [← hsessions]
    rfl
  · rw [hsessions] at hanswered ⊢
    symm
    apply modify_eq_self
    intro s hs
    rw [hs, Option.any_some] at hanswered
    cases hanswer : s.answer platform ⟨now, submissionCall now submission⟩ with
    | ok s' =>
      rw [hanswer] at hanswered
      exact absurd rfl hanswered
    | error error => exact RuntimeSession.perform_of_error hanswer

theorem allSessions_next (h : b.next platform call = some b') :
    (sessionOp b call = none ∧ ∃ new, b'.allSessions = b.allSessions ++ new) ∨
    ∃ session op, sessionOp b call = some (session, op) ∧
      b'.allSessions = b.allSessions.modify session fun s => s.perform platform ⟨call.now, op⟩ := by
  obtain ⟨now, op⟩ := call
  unfold next at h
  cases op with
  | new sessionId policy =>
    rw [← Option.some.inj h]
    exact Or.inl ⟨rfl, _, rfl⟩
  | call session op =>
    rw [← Option.some.inj h]
    exact Or.inr ⟨session, op, rfl, rfl⟩
  | start job =>
    rw [← Option.some.inj h]
    exact Or.inl ⟨rfl, _, rfl⟩
  | submitted ticket answer =>
    dsimp only at h
    split at h
    · next job session hwait =>
      cases answer with
      | ok submission =>
        rw [← Option.some.inj h]
        refine Or.inr ⟨session, submissionCall now submission, ?_, ?_⟩
        · simp [sessionOp, hwait]
        · exact allSessions_settleSubmission job session submission now
      | error error =>
        rw [← Option.some.inj h]
        exact Or.inl ⟨rfl, [], (List.append_nil _).symm⟩
    · cases h
  | poll jobId =>
    obtain rfl := Option.some.inj h
    unfold poll
    cases hsession : b.sessions.get? jobId with
    | none => exact Or.inl ⟨by simp [sessionOp, hsession], [], (List.append_nil _).symm⟩
    | some session =>
      cases hexternal : b.externalJobId jobId with
      | none =>
        exact Or.inr ⟨session, .fail "external job id is missing",
          by simp [sessionOp, hsession, hexternal], rfl⟩
      | some externalJobId =>
        exact Or.inl ⟨by simp [sessionOp, hexternal], [], (List.append_nil _).symm⟩
  | polled ticket answer =>
    dsimp only at h
    split at h
    · next session hwait =>
      cases answer with
      | ok poll =>
        rw [← Option.some.inj h]
        exact Or.inr ⟨session, pollCall now poll, by simp [sessionOp, hwait], rfl⟩
      | error error =>
        rw [← Option.some.inj h]
        exact Or.inl ⟨rfl, [], (List.append_nil _).symm⟩
    · cases h
  | interrupt jobId reason =>
    obtain rfl := Option.some.inj h
    unfold interrupt
    cases hsession : b.sessions.get? jobId with
    | none => exact Or.inl ⟨by simp [sessionOp, hsession], [], (List.append_nil _).symm⟩
    | some session =>
      cases hexternal : b.externalJobId jobId with
      | none =>
        exact Or.inr ⟨session, .interrupt reason,
          by simp [sessionOp, hsession, hexternal], rfl⟩
      | some externalJobId =>
        exact Or.inl ⟨by simp [sessionOp, hexternal], [], (List.append_nil _).symm⟩
  | cancelled ticket answer =>
    dsimp only at h
    split at h
    · next session reason hwait =>
      cases answer with
      | ok _ =>
        rw [← Option.some.inj h]
        exact Or.inr ⟨session, .interrupt reason, by simp [sessionOp, hwait], rfl⟩
      | error error =>
        rw [← Option.some.inj h]
        exact Or.inl ⟨rfl, [], (List.append_nil _).symm⟩
    · cases h

theorem perform_state {s : RuntimeSession} (hstate : s.state ≠ .running) (now : Timestamp)
    (op : SessionOp) : (s.perform platform ⟨now, op⟩).state = (writes op).getD s.state := by
  cases op with
  | start job => rfl
  | admitInput request =>
    rw [RuntimeSession.perform_of_not_running hstate rfl]
    rfl
  | promoteAdmittedInputs =>
    rw [RuntimeSession.perform_of_not_running hstate rfl]
    rfl
  | send registry turn =>
    rw [RuntimeSession.perform_of_not_running hstate rfl]
    rfl
  | interrupt reason => rfl
  | complete summary => rfl
  | fail reason => rfl
  | close => rfl

theorem sessionState_next {state : SessionState} (h : b.next platform call = some b')
    (hstate : sessionState b session = some state) (hnot : state ≠ .running) :
    sessionState b' session = some state ∨
      ∃ op state', sessionOp b call = some (session, op) ∧ writes op = some state' ∧
        sessionState b' session = some state' := by
  obtain ⟨s, hs, rfl⟩ := Option.map_eq_some_iff.mp hstate
  rcases allSessions_next h with ⟨_, new, hsessions⟩ | ⟨target, op, hop, hsessions⟩
  · left
    rw [sessionState, hsessions, List.getElem?_append_left (List.getElem?_eq_some_iff.mp hs).1, hs]
    rfl
  · by_cases hsame : target = session
    · subst hsame
      have hafter : sessionState b' target = some ((writes op).getD s.state) := by
        rw [sessionState, hsessions, List.getElem?_modify_eq, hs]
        exact congrArg some (perform_state hnot call.now op)
      cases hwrites : writes op with
      | none =>
        rw [hwrites] at hafter
        exact Or.inl hafter
      | some state' =>
        rw [hwrites] at hafter
        exact Or.inr ⟨op, state', hop, hwrites, hafter⟩
    · left
      rw [sessionState, hsessions, List.getElem?_modify_ne _ _ hsame, hs]
      rfl

theorem sessionState_next_of_writes {op : SessionOp} {state state' : SessionState}
    (h : b.next platform call = some b') (hstate : sessionState b session = some state)
    (hnot : state ≠ .running) (hop : sessionOp b call = some (session, op))
    (hwrites : writes op = some state') : sessionState b' session = some state' := by
  obtain ⟨s, hs, rfl⟩ := Option.map_eq_some_iff.mp hstate
  rcases allSessions_next h with ⟨hnone, _⟩ | ⟨target, op', hop', hsessions⟩
  · rw [hop] at hnone
    cases hnone
  · rw [hop] at hop'
    obtain ⟨rfl, rfl⟩ : session = target ∧ op = op' := by simpa using hop'
    rw [sessionState, hsessions, List.getElem?_modify_eq, hs]
    refine congrArg some ((perform_state hnot call.now op).trans ?_)
    rw [hwrites]
    rfl

end step

section runs

variable {platform : Platform} {h : History RuntimeBridge BridgeCall} {b b' : RuntimeBridge}
  {call : BridgeCall} {session : Nat} {outcome : SessionState}

theorem ne_running_of_isOutcome (h : isOutcome outcome = true) : outcome ≠ .running := by
  rintro rfl
  cases h

theorem ended_snoc : Ended session outcome (h ++ [(b, call)]) b' ↔
    Ended session outcome h b ∨ isOutcome outcome = true ∧ sessionState b' session = some outcome := by
  simp only [Ended, states_snoc, List.mem_append, List.mem_singleton]
  constructor
  · rintro ⟨houtcome, u, hu | rfl, hstate⟩
    · exact Or.inl ⟨houtcome, u, hu, hstate⟩
    · exact Or.inr ⟨houtcome, hstate⟩
  · rintro (⟨houtcome, u, hu, hstate⟩ | ⟨houtcome, hstate⟩)
    · exact ⟨houtcome, u, Or.inl hu, hstate⟩
    · exact ⟨houtcome, b', Or.inr rfl, hstate⟩

def Resting (h : History RuntimeBridge BridgeCall) (b : RuntimeBridge) : Prop :=
  ∀ session outcome, Ended session outcome h b →
    ∃ state, sessionState b session = some state ∧ (state = outcome ∨ state = .interrupted)

theorem resting_of_step (hresting : Resting h b) (hsafe : OutcomeSafe h b call)
    (hnext : b.next platform call = some b') : Resting (h ++ [(b, call)]) b' := by
  intro session outcome hended
  rcases ended_snoc.mp hended with hbefore | ⟨_, hstate⟩
  · obtain ⟨state, hstate, hkind⟩ := hresting session outcome hbefore
    have hnot : state ≠ .running := by
      rcases hkind with rfl | rfl
      · exact ne_running_of_isOutcome hbefore.1
      · exact nofun
    rcases sessionState_next hnext hstate hnot with hsame | ⟨op, state', hop, hwrites, hafter⟩
    · exact ⟨state, hsame, hkind⟩
    · exact ⟨state', hafter, hsafe session op outcome hop hbefore state' hwrites⟩
  · exact ⟨outcome, hstate, Or.inl rfl⟩

theorem keepsOutcomes_iff (hresting : Resting h b) (hnext : b.next platform call = some b') :
    (∀ u ∈ states h b, KeepsOutcomes u b') ↔ OutcomeSafe h b call := by
  constructor
  · intro hkeeps session op outcome hop hended state' hwrites
    obtain ⟨state, hstate, hkind⟩ := hresting session outcome hended
    obtain ⟨houtcome, u, hu, hbefore⟩ := hended
    have hnot : state ≠ .running := by
      rcases hkind with rfl | rfl
      · exact ne_running_of_isOutcome houtcome
      · exact nofun
    have hafter := sessionState_next_of_writes hnext hstate hnot hop hwrites
    obtain ⟨hrunning, hother⟩ := hkeeps u hu session outcome hbefore houtcome
    have hsame := hother state' hafter
    cases state' with
    | running => exact absurd hafter hrunning
    | interrupted => exact Or.inr rfl
    | completed => exact Or.inl (hsame rfl)
    | failed => exact Or.inl (hsame rfl)
    | closed => exact Or.inl (hsame rfl)
    | created => cases op <;> cases hwrites
  · intro hsafe u hu session outcome hbefore houtcome
    have hresting' := resting_of_step hresting hsafe hnext
    have hended : Ended session outcome (h ++ [(b, call)]) b' :=
      ended_snoc.mpr (Or.inl ⟨houtcome, u, hu, hbefore⟩)
    obtain ⟨state, hstate, hkind⟩ := hresting' session outcome hended
    constructor
    · intro hrunning
      rw [hstate] at hrunning
      obtain rfl := Option.some.inj hrunning
      rcases hkind with rfl | hkind
      · cases houtcome
      · cases hkind
    · intro other hother hkindOther
      rw [hstate] at hother
      obtain rfl := Option.some.inj hother
      rcases hkind with rfl | rfl
      · rfl
      · cases hkindOther

/-- In every run of sessions and of a bridge, whatever the adapter answers, each session that has
ended keeps its outcome exactly when no call starts it again or gives it another. -/
theorem outcomes_final_iff (hrun : (bridgeRuns platform).Run h b) :
    (states h b).Pairwise KeepsOutcomes ↔ Machine.Guarded OutcomeSafe h := by
  refine hrun.pairwise_iff (I := Resting) ?_ ?_ ?_
  · rintro b ⟨workerType, policy, rfl⟩ session outcome ⟨_, u, hu, hstate⟩
    obtain rfl : u = empty workerType policy := by
      simpa [states] using hu
    simp [sessionState, empty] at hstate
  · intro h b call b' _ hresting hsafe hnext
    exact resting_of_step hresting hsafe hnext
  · intro h b call b' _ hresting hnext
    exact keepsOutcomes_iff hresting hnext

end runs

def callsLiveSession (h : History RuntimeBridge BridgeCall) (b : RuntimeBridge)
    (call : BridgeCall) : Bool :=
  (sessionOp b call).all fun target =>
    (states h b).all fun u => !(sessionState u target.1).any isOutcome

theorem outcomeSafe_of_callsLiveSession {h : History RuntimeBridge BridgeCall} {b : RuntimeBridge}
    {call : BridgeCall} (hlive : callsLiveSession h b call = true) : OutcomeSafe h b call := by
  intro session op outcome hop hended
  obtain ⟨houtcome, u, hu, hstate⟩ := hended
  rw [callsLiveSession, hop, Option.all_some] at hlive
  have hnot := List.all_eq_true.mp hlive u hu
  simp [hstate, houtcome] at hnot

/-- The calls of a job whose adapter answers its polls in a way. -/
def bridgeScript (polls : List JobPoll) : List (RuntimeBridge → Option BridgeCall) :=
  [fun _ => some ⟨0, .start runtimeJob⟩,
    fun _ => some ⟨1, .submitted 0 (.ok ⟨true, some "external", none⟩)⟩] ++
  polls.flatMap fun answer =>
    [fun _ => some ⟨2, .poll "job"⟩,
      fun b => some ⟨3, .polled (b.nextTicket - 1) (.ok answer)⟩]

def limitedBridge (maxTurns : Nat) : RuntimeBridge :=
  .empty .codex (some (limitedSession maxTurns).policy)

theorem exists_bridgeRun {maxTurns : Nat} {script : List (RuntimeBridge → Option BridgeCall)}
    {test : History RuntimeBridge BridgeCall × RuntimeBridge → Bool}
    (h : (replay (next .posix) (limitedBridge maxTurns) script).any test =
      true) : ∃ h b, (bridgeRuns .posix).Run h b ∧ test (h, b) = true :=
  exists_run_of_replay ⟨_, _, rfl⟩ h

def completesAlive (p : History RuntimeBridge BridgeCall × RuntimeBridge) : Bool :=
  guardedAfter callsLiveSession [] p.1 && decide (sessionState p.2 0 = some .completed)

/-- A job runs for a while, and succeeds. -/
theorem polled_until_succeeded : ∃ h b, (bridgeRuns .posix).Run h b ∧
    sessionState b 0 = some .completed ∧ (states h b).Pairwise KeepsOutcomes := by
  have hplayed : (replay (next .posix) (limitedBridge 5) (bridgeScript
      [⟨.running, none, none⟩, ⟨.succeeded, some "done", none⟩])).any completesAlive = true := by
    decide +kernel
  obtain ⟨h, b, hrun, htest⟩ := exists_bridgeRun hplayed
  obtain ⟨hlive, hcompleted⟩ := Bool.and_eq_true_iff.mp htest
  have hguarded : Machine.Guarded OutcomeSafe h := fun h₁ b call h₂ heq =>
    outcomeSafe_of_callsLiveSession (guarded_of_check hlive h₁ b call h₂ heq)
  exact ⟨h, b, hrun, of_decide_eq_true hcompleted, (outcomes_final_iff hrun).mpr hguarded⟩

def completesFailed (p : History RuntimeBridge BridgeCall × RuntimeBridge) : Bool :=
  (p.1.any fun q => sessionState q.1 0 = some .failed) && decide (sessionState p.2 0 = some .completed)

/-- A session that failed at its limit of turns is completed by the next answer of the adapter. -/
theorem limit_failure_completed : ¬∀ platform h b, (bridgeRuns platform).Run h b →
    (states h b).Pairwise KeepsOutcomes := by
  intro hall
  have hplayed : (replay (next .posix) (limitedBridge 2) (bridgeScript
      [⟨.running, none, none⟩, ⟨.succeeded, some "done", none⟩])).any completesFailed = true := by
    decide +kernel
  obtain ⟨h, b, hrun, htest⟩ := exists_bridgeRun hplayed
  obtain ⟨hfailed, hcompleted⟩ := Bool.and_eq_true_iff.mp htest
  obtain ⟨q, hq, hstate⟩ := List.any_eq_true.mp hfailed
  obtain ⟨_, hother⟩ := rel_last_of_pairwise (hall .posix h b hrun) hq 0 .failed
    (of_decide_eq_true hstate) rfl
  cases hother .completed (of_decide_eq_true hcompleted) rfl

end ShipyardCp.Properties
