import ShipyardCp.Domain.DoomLoopDetector
import ShipyardCp.Lib.Transition

/-! What the check for loops answers over any sequence of checks and clears: the count of a window, a
block that stays, and at most one warning before it. -/

namespace ShipyardCp.Properties

open Domain Lib Machine FingerprintHistoryEntry LoopChecks

inductive LoopOp where
  | checkLoop (entry : FingerprintHistoryEntry)
  | clearFingerprintState (fingerprint : String)
  | clearAllFingerprintState

def performLoop (config : LoopFingerprintConfig) (checks : LoopChecks) (op : LoopOp) : LoopChecks :=
  match op with
  | .checkLoop entry => (checks.checkLoop config entry).2
  | .clearFingerprintState fingerprint => checks.clearFingerprintState fingerprint
  | .clearAllFingerprintState => checks.clearAllFingerprintState

def loopRuns (config : LoopFingerprintConfig) : Machine LoopChecks LoopOp :=
  .ofNext (fun checks => checks = .empty) fun checks op => some (performLoop config checks op)

/-- The call answers a check of the fingerprint with one of the actions. -/
def AnswersLoop (config : LoopFingerprintConfig) (fingerprint : String) (actions : List LoopAction)
    (checks : LoopChecks) (op : LoopOp) : Prop :=
  match op with
  | .checkLoop entry =>
    entry.fingerprint = fingerprint ∧ (checks.checkLoop config entry).1.action ∈ actions
  | _ => False

def ClearsLoop (fingerprint : String) (_ : LoopChecks) (op : LoopOp) : Prop :=
  op = .clearFingerprintState fingerprint ∨ op = .clearAllFingerprintState

def checkedKeys (h : History LoopChecks LoopOp) : List (String × String) :=
  h.filterMap fun p => match p.2 with
    | .checkLoop entry => some entry.key
    | _ => none

/-- Those of the checks since all state was cleared last. -/
def keysSinceCleared (h : History LoopChecks LoopOp) : List (String × String) :=
  h.foldl (fun keys p => match p.2 with
    | .checkLoop entry => keys ++ [entry.key]
    | .clearFingerprintState _ => keys
    | .clearAllFingerprintState => []) []

theorem window_slide {α : Type*} (l : List α) (x : α) (n : ℕ) :
    (l.rtake n ++ [x]).rtake n = (l ++ [x]).rtake n := by
  cases n with
  | zero => simp
  | succ n =>
    rw [List.rtake_concat_succ, List.rtake_concat_succ, List.rtake_eq_reverse_take_reverse,
      List.rtake_eq_reverse_take_reverse, List.rtake_eq_reverse_take_reverse, List.reverse_reverse,
      List.take_take, Nat.min_eq_left (Nat.le_succ n)]

theorem map_rtake {α β : Type*} (f : α → β) (l : List α) (n : ℕ) :
    (l.rtake n).map f = (l.map f).rtake n := by
  simp [List.rtake]

/-- The window is that of the checks since all was cleared, and the marks are those of the answers since
the fingerprint was cleared. -/
structure LoopBooks (config : LoopFingerprintConfig) (h : History LoopChecks LoopOp)
    (checks : LoopChecks) : Prop where
  window : checks.fingerprintHistory.map key = (keysSinceCleared h).rtake config.loopWindowSize
  blocked : ∀ fingerprint, fingerprint ∈ checks.blockedFingerprints ↔
    Since (AnswersLoop config fingerprint [.block]) (ClearsLoop fingerprint) h
  warned : ∀ fingerprint, fingerprint ∈ checks.warningIssued ↔
    Since (AnswersLoop config fingerprint [.warn]) (ClearsLoop fingerprint) h

section books

variable {config : LoopFingerprintConfig} {h : History LoopChecks LoopOp} {checks : LoopChecks}

theorem map_key_recorded (entry : FingerprintHistoryEntry)
    (hwindow : checks.fingerprintHistory.map key = (keysSinceCleared h).rtake config.loopWindowSize) :
    (checks.recorded config entry).fingerprintHistory.map key =
      (keysSinceCleared h ++ [entry.key]).rtake config.loopWindowSize := by
  rw [recorded, trimmed_eq_rtake, map_rtake, List.map_append, hwindow]
  exact window_slide _ _ _

theorem LoopBooks.checkLoop (hbooks : LoopBooks config h checks) (entry : FingerprintHistoryEntry) :
    LoopBooks config (h ++ [(checks, .checkLoop entry)]) (checks.checkLoop config entry).2 := by
  have hanswer := checks.answered_checkLoop config entry
  have hmark : ∀ {marks marks' : Finset String} {action : LoopAction},
      (∀ fingerprint, fingerprint ∈ marks ↔
        Since (AnswersLoop config fingerprint [action]) (ClearsLoop fingerprint) h) →
      marks' = (if (checks.checkLoop config entry).1.action = action then
        insert entry.fingerprint marks else marks) →
      ∀ fingerprint, fingerprint ∈ marks' ↔ Since (AnswersLoop config fingerprint [action])
        (ClearsLoop fingerprint) (h ++ [(checks, .checkLoop entry)]) := by
    intro marks marks' action hmarks hmarks' fingerprint
    have hkept : ¬ClearsLoop fingerprint checks (.checkLoop entry) := by simp [ClearsLoop]
    rw [since_snoc, ← hmarks, AnswersLoop, List.mem_singleton, hmarks', and_iff_left hkept]
    split_ifs with haction
    · simp [haction, eq_comm]
    · simp [haction]
  constructor
  · have hkeys : keysSinceCleared (h ++ [(checks, .checkLoop entry)]) =
        keysSinceCleared h ++ [entry.key] := by simp [keysSinceCleared]
    rw [hanswer.history, hkeys]
    exact map_key_recorded entry hbooks.window
  · exact hmark hbooks.blocked hanswer.blocked
  · exact hmark hbooks.warned hanswer.warned

theorem LoopBooks.clearFingerprintState (hbooks : LoopBooks config h checks) (cleared : String) :
    LoopBooks config (h ++ [(checks, .clearFingerprintState cleared)])
      (checks.clearFingerprintState cleared) := by
  have hmark : ∀ {marks : Finset String} {actions : List LoopAction},
      (∀ fingerprint, fingerprint ∈ marks ↔
        Since (AnswersLoop config fingerprint actions) (ClearsLoop fingerprint) h) →
      ∀ fingerprint, fingerprint ∈ marks.erase cleared ↔ Since (AnswersLoop config fingerprint actions)
        (ClearsLoop fingerprint) (h ++ [(checks, .clearFingerprintState cleared)]) := by
    intro marks actions hmarks fingerprint
    rw [since_snoc, ← hmarks, Finset.mem_erase]
    simp [AnswersLoop, ClearsLoop, and_comm, eq_comm]
  have hkeys : keysSinceCleared (h ++ [(checks, .clearFingerprintState cleared)]) =
      keysSinceCleared h := by simp [keysSinceCleared]
  exact ⟨hkeys ▸ hbooks.window, hmark hbooks.blocked, hmark hbooks.warned⟩

theorem loopBooks_cleared : LoopBooks config (h ++ [(checks, .clearAllFingerprintState)]) .empty := by
  have hmark : ∀ (actions : List LoopAction) (fingerprint : String), fingerprint ∈ (∅ : Finset String) ↔
      Since (AnswersLoop config fingerprint actions) (ClearsLoop fingerprint)
        (h ++ [(checks, .clearAllFingerprintState)]) := by
    intro actions fingerprint
    rw [since_snoc]
    simp [AnswersLoop, ClearsLoop]
  exact ⟨by simp [keysSinceCleared, empty], hmark _, hmark _⟩

theorem loopBooks_of_run (hrun : (loopRuns config).Run h checks) : LoopBooks config h checks := by
  induction hrun with
  | start hinit =>
    obtain rfl := hinit
    have hmark : ∀ (actions : List LoopAction) (fingerprint : String),
        fingerprint ∈ (∅ : Finset String) ↔
          Since (AnswersLoop config fingerprint actions) (ClearsLoop fingerprint) [] := by
      intro actions fingerprint
      exact iff_of_false (Finset.notMem_empty _) not_since_nil
    exact ⟨by simp [keysSinceCleared, empty], hmark _, hmark _⟩
  | @snoc h checks op checks' _ hstep ih =>
    obtain rfl : performLoop config checks op = checks' := Option.some.inj hstep
    cases op with
    | checkLoop entry => exact ih.checkLoop entry
    | clearFingerprintState fingerprint => exact ih.clearFingerprintState fingerprint
    | clearAllFingerprintState => exact loopBooks_cleared

end books

/-- A check counts its fingerprint and stage among the last checks since all was cleared. It blocks when
it blocked and was not cleared, else exactly when the count reaches the threshold; and it does not warn
after a warning or a block that was not cleared. -/
theorem checkLoop_meets {config : LoopFingerprintConfig} {h : History LoopChecks LoopOp}
    {checks : LoopChecks} (hrun : (loopRuns config).Run h checks) (entry : FingerprintHistoryEntry) :
    let result := (checks.checkLoop config entry).1
    let after := fun actions =>
      Since (AnswersLoop config entry.fingerprint actions) (ClearsLoop entry.fingerprint) h
    result.occurrenceCount =
      ((keysSinceCleared h ++ [entry.key]).rtake config.loopWindowSize).count entry.key ∧
    (after [.block] → result.action = .block) ∧
    (¬after [.block] → (result.action = .block ↔
      config.loopBlockThreshold ≤ result.occurrenceCount)) ∧
    (after [.warn] ∨ after [.block] → result.action ≠ .warn) := by
  have hbooks := loopBooks_of_run hrun
  have hanswer := checks.answered_checkLoop config entry
  dsimp only
  rw [← hbooks.blocked, ← hbooks.warned]
  refine ⟨?_, fun hblocked => hanswer.block.mpr (Or.inl hblocked), fun hfree => ?_, ?_⟩
  · rw [hanswer.count, getFingerprintOccurrenceCount_eq_count, hanswer.history,
      map_key_recorded entry hbooks.window]
    rfl
  · rw [hanswer.block, or_iff_right hfree]
  · rintro (hwarned | hblocked) hwarns
    · exact (hanswer.warn hwarns).2 hwarned
    · exact (hanswer.warn hwarns).1 hblocked

def loopEntry (fingerprint jobId : String) : FingerprintHistoryEntry :=
  ⟨fingerprint, "plan", "task_0", jobId, 0⟩

def narrowWindow : LoopFingerprintConfig := ⟨3, 1, 2⟩

def playedLoops (ops : List LoopOp) : Option (History LoopChecks LoopOp × LoopChecks) :=
  replay (fun checks op => some (performLoop narrowWindow checks op)) .empty
    (ops.map fun op _ => some op)

theorem exists_loopRun {ops : List LoopOp} {test : History LoopChecks LoopOp × LoopChecks → Bool}
    (h : (playedLoops ops).any test = true) :
    ∃ h checks, (loopRuns narrowWindow).Run h checks ∧ test (h, checks) = true :=
  exists_run_of_replay rfl h

/-- The first check of a fingerprint has left the window when the next two block it. -/
theorem repeated_check_blocked : ∃ h checks, (loopRuns narrowWindow).Run h checks ∧
    (checks.checkLoop narrowWindow (loopEntry "a" "job_2")).1.occurrenceCount = 2 ∧
    (checks.checkLoop narrowWindow (loopEntry "a" "job_2")).1.action = .block := by
  have hplayed : (playedLoops [.checkLoop (loopEntry "a" "job_0"),
      .checkLoop (loopEntry "b" "job_1"), .checkLoop (loopEntry "c" "job_3"),
      .checkLoop (loopEntry "a" "job_4")]).any (fun p =>
        decide (((keysSinceCleared p.1 ++ [("a", "plan")]).rtake 3).count ("a", "plan") = 2) &&
          !decide ("a" ∈ p.2.blockedFingerprints)) = true := by
    decide +kernel
  obtain ⟨h, checks, hrun, htest⟩ := exists_loopRun hplayed
  obtain ⟨hcount, hfree⟩ := Bool.and_eq_true_iff.mp htest
  have hmeets := checkLoop_meets hrun (loopEntry "a" "job_2")
  have htwo := hmeets.1.trans (of_decide_eq_true hcount)
  refine ⟨h, checks, hrun, htwo, (hmeets.2.2.1 ?_).mpr htwo.ge⟩
  rw [Bool.not_eq_true', decide_eq_false_iff_not] at hfree
  exact fun hsince => hfree (((loopBooks_of_run hrun).blocked "a").mpr hsince)

/-- After all was cleared, a check does not count those before. -/
theorem cleared_count_restarts : ¬∀ (config : LoopFingerprintConfig) h checks,
    config.loopWarnThreshold < config.loopBlockThreshold →
    config.loopBlockThreshold ≤ config.loopWindowSize → (loopRuns config).Run h checks →
    ∀ entry, (checks.checkLoop config entry).1.occurrenceCount =
      ((checkedKeys h ++ [entry.key]).rtake config.loopWindowSize).count entry.key := by
  intro hall
  have hplayed : (playedLoops [.checkLoop (loopEntry "a" "job_0"), .clearAllFingerprintState]).any
      (fun p => decide (p.2 = .empty) && decide (checkedKeys p.1 = [("a", "plan")])) = true := by
    decide +kernel
  obtain ⟨h, checks, hrun, htest⟩ := exists_loopRun hplayed
  simp only [Bool.and_eq_true, decide_eq_true_eq] at htest
  obtain ⟨hempty, hkeys⟩ := htest
  have hcount := hall narrowWindow h checks (by decide) (by decide) hrun (loopEntry "a" "job_1")
  rw [hempty, hkeys] at hcount
  exact absurd hcount (by decide +kernel)

end ShipyardCp.Properties
