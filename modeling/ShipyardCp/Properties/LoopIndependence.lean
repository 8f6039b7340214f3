import ShipyardCp.Lib.Interleaving
import ShipyardCp.Properties.FingerprintWindow

/-! When the checks for loops of one task and stage are answered the same, whatever checks of other
tasks and stages come between them. -/

namespace ShipyardCp.Properties

open Domain Lib FingerprintHistoryEntry

def callOf (entry : FingerprintHistoryEntry) : String × String × String × String :=
  (entry.stage, entry.fingerprint, entry.taskId, entry.jobId)

def ofTaskStage (taskId stage : String) (entry : FingerprintHistoryEntry) : Bool :=
  entry.taskId = taskId && entry.stage = stage

def loopCallsOf (taskId stage : String) (calls : List FingerprintHistoryEntry) :
    List (String × String × String × String) :=
  (calls.filter (ofTaskStage taskId stage)).map callOf

/-- The calls, each with its answer. -/
def checkLoops (config : LoopFingerprintConfig) (checks : LoopChecks) :
    List FingerprintHistoryEntry → List (FingerprintHistoryEntry × LoopCheckResult)
  | [] => []
  | entry :: calls => (entry, (checks.checkLoop config entry).1) ::
      checkLoops config (checks.checkLoop config entry).2 calls

def loopAnswersOf (config : LoopFingerprintConfig) (taskId stage : String)
    (calls : List FingerprintHistoryEntry) : List LoopCheckResult :=
  ((checkLoops config .empty calls).filter fun p => ofTaskStage taskId stage p.1).map Prod.snd

def afterLoops (config : LoopFingerprintConfig) (calls : List FingerprintHistoryEntry) : LoopChecks :=
  calls.foldl (fun checks entry => (checks.checkLoop config entry).2) .empty

def repeats (windowSize : Nat) (calls : List FingerprintHistoryEntry)
    (entry : FingerprintHistoryEntry) : Nat :=
  (calls.rtake windowSize).countP fun other => other.key = entry.key

def RepeatedTo (windowSize threshold : Nat) (fingerprint : String)
    (calls : List FingerprintHistoryEntry) : Prop :=
  ∃ m ∈ moments [] calls, m.2.fingerprint = fingerprint ∧
    threshold ≤ repeats windowSize (m.1 ++ [m.2]) m.2

section answers

variable {config : LoopFingerprintConfig}

variable {calls : List FingerprintHistoryEntry}

theorem repeatedTo_concat {windowSize threshold : Nat} {fingerprint : String} {entry : FingerprintHistoryEntry} :
    RepeatedTo windowSize threshold fingerprint (calls ++ [entry]) ↔
      RepeatedTo windowSize threshold fingerprint calls ∨
        entry.fingerprint = fingerprint ∧ threshold ≤ repeats windowSize (calls ++ [entry]) entry := by
  simp only [RepeatedTo, moments_concat, List.mem_append, List.mem_singleton, or_and_right, exists_or,
    exists_eq_left]

theorem afterLoops_concat (calls : List FingerprintHistoryEntry) (entry : FingerprintHistoryEntry) :
    afterLoops config (calls ++ [entry]) = ((afterLoops config calls).checkLoop config entry).2 := by
  rw [afterLoops, List.foldl_append]
  rfl

theorem checkLoops_afterLoops (before calls : List FingerprintHistoryEntry) :
    checkLoops config (afterLoops config before) calls = (moments before calls).map fun m =>
      (m.2, ((afterLoops config m.1).checkLoop config m.2).1) := by
  induction calls generalizing before with
  | nil => rfl
  | cons entry calls ih =>
    rw [checkLoops, moments, List.map_cons, ← afterLoops_concat, ih]

theorem loopAnswersOf_eq (taskId stage : String) (calls : List FingerprintHistoryEntry) :
    loopAnswersOf config taskId stage calls = (ownMoments (ofTaskStage taskId stage) calls).map fun m =>
      ((afterLoops config m.1).checkLoop config m.2).1 := by
  have hall := @checkLoops_afterLoops config [] calls
  rw [loopAnswersOf, ownMoments, show LoopChecks.empty = afterLoops config [] from rfl, hall,
    List.filter_map, List.map_map]
  rfl

/-- The window of a detector, and its marks as far as they matter. -/
structure RepeatBooks (config : LoopFingerprintConfig) (calls : List FingerprintHistoryEntry)
    (checks : LoopChecks) : Prop where
  window : checks.fingerprintHistory = calls.rtake config.loopWindowSize
  blocked : ∀ fingerprint, fingerprint ∈ checks.blockedFingerprints ↔
    RepeatedTo config.loopWindowSize config.loopBlockThreshold fingerprint calls
  warned : ∀ fingerprint,
    ¬RepeatedTo config.loopWindowSize config.loopBlockThreshold fingerprint calls →
    (fingerprint ∈ checks.warningIssued ↔
      RepeatedTo config.loopWindowSize config.loopWarnThreshold fingerprint calls)

theorem repeatedTo_nil {windowSize threshold : Nat} {fingerprint : String} :
    ¬RepeatedTo windowSize threshold fingerprint [] := by
  simp [RepeatedTo, moments]

variable {checks : LoopChecks}

theorem RepeatBooks.recorded
    (hbooks : RepeatBooks config calls checks) (entry : FingerprintHistoryEntry) :
    (checks.recorded config entry).fingerprintHistory =
      (calls ++ [entry]).rtake config.loopWindowSize := by
  rw [LoopChecks.recorded, LoopChecks.trimmed_eq_rtake, hbooks.window]
  exact window_slide _ _ _

theorem RepeatBooks.count
    (hbooks : RepeatBooks config calls checks) (entry : FingerprintHistoryEntry) :
    (checks.checkLoop config entry).1.occurrenceCount =
      repeats config.loopWindowSize (calls ++ [entry]) entry := by
  have hanswer := checks.answered_checkLoop config entry
  rw [hanswer.count, LoopChecks.getFingerprintOccurrenceCount_eq_count, hanswer.history,
    hbooks.recorded, List.count, List.countP_map]
  exact List.countP_congr fun other _ => by
    simp [key]

theorem RepeatBooks.block_iff
    (hbooks : RepeatBooks config calls checks) (entry : FingerprintHistoryEntry) :
    (checks.checkLoop config entry).1.action = .block ↔
      RepeatedTo config.loopWindowSize config.loopBlockThreshold entry.fingerprint
        (calls ++ [entry]) := by
  rw [(checks.answered_checkLoop config entry).block, hbooks.count, hbooks.blocked, repeatedTo_concat]
  simp

theorem RepeatBooks.warn_iff
    (hbooks : RepeatBooks config calls checks) (entry : FingerprintHistoryEntry)
    (hfree : ¬RepeatedTo config.loopWindowSize config.loopBlockThreshold entry.fingerprint
      (calls ++ [entry])) :
    (checks.checkLoop config entry).1.action = .warn ↔
      config.loopWarnThreshold ≤ repeats config.loopWindowSize (calls ++ [entry]) entry ∧
        ¬RepeatedTo config.loopWindowSize config.loopWarnThreshold entry.fingerprint calls := by
  have hbefore : ¬RepeatedTo config.loopWindowSize config.loopBlockThreshold entry.fingerprint
      calls := fun hreached => hfree (repeatedTo_concat.mpr (Or.inl hreached))
  have hnot : (checks.checkLoop config entry).1.action ≠ .block :=
    fun hblock => hfree ((hbooks.block_iff entry).mp hblock)
  rw [LoopChecks.checkLoop_warn_iff, hbooks.count, hbooks.warned _ hbefore]
  exact and_iff_right hnot

theorem RepeatBooks.concat
    (hbooks : RepeatBooks config calls checks) (entry : FingerprintHistoryEntry) :
    RepeatBooks config (calls ++ [entry]) (checks.checkLoop config entry).2 := by
  have hanswer := checks.answered_checkLoop config entry
  refine ⟨hanswer.history.trans (hbooks.recorded entry), fun fingerprint => ?_,
    fun fingerprint hfree => ?_⟩
  · rw [hanswer.blocked]
    by_cases hblock : (checks.checkLoop config entry).1.action = .block
    · rw [if_pos hblock, Finset.mem_insert, hbooks.blocked]
      by_cases hsame : entry.fingerprint = fingerprint
      · subst hsame
        simp [(hbooks.block_iff entry).mp hblock]
      · rw [repeatedTo_concat, or_iff_right (Ne.symm hsame), or_iff_left fun h => hsame h.1]
    · rw [if_neg hblock, hbooks.blocked, repeatedTo_concat, or_iff_left]
      rintro ⟨rfl, hcount⟩
      exact hblock ((hbooks.block_iff entry).mpr (repeatedTo_concat.mpr (Or.inr ⟨rfl, hcount⟩)))
  · have hbefore : ¬RepeatedTo config.loopWindowSize config.loopBlockThreshold fingerprint calls :=
      fun hreached => hfree (repeatedTo_concat.mpr (Or.inl hreached))
    rw [hanswer.warned, repeatedTo_concat, ← hbooks.warned fingerprint hbefore]
    by_cases hsame : entry.fingerprint = fingerprint
    · subst hsame
      have hwarn := hbooks.warn_iff entry hfree
      rw [← hbooks.warned _ hbefore] at hwarn
      by_cases haction : (checks.checkLoop config entry).1.action = .warn
      · simp [haction, (hwarn.mp haction).1]
      · rw [if_neg haction]
        refine ⟨Or.inl, fun hnow => hnow.elim id fun hcount => ?_⟩
        by_contra hmarked
        exact haction (hwarn.mpr ⟨hcount.2, hmarked⟩)
    · by_cases hwarn : (checks.checkLoop config entry).1.action = .warn
      · simp [hwarn, hsame, Ne.symm hsame]
      · simp [hwarn, hsame]

theorem repeatBooks_afterLoops (calls : List FingerprintHistoryEntry) :
    RepeatBooks config calls (afterLoops config calls) := by
  induction calls using List.reverseRecOn with
  | nil =>
    refine ⟨by simp [afterLoops, LoopChecks.empty], fun fingerprint => ?_, fun fingerprint _ => ?_⟩
    · exact iff_of_false (Finset.notMem_empty _) repeatedTo_nil
    · exact iff_of_false (Finset.notMem_empty _) repeatedTo_nil
  | append_singleton calls entry ih =>
    rw [afterLoops_concat]
    exact ih.concat entry

end answers

/-- The last calls of the task and stage with the fingerprint of the moment's check, when there are no
others. -/
def aloneRepeats (windowSize : Nat) (taskId stage : String)
    (m : List FingerprintHistoryEntry × FingerprintHistoryEntry) : Nat :=
  ((loopCallsOf taskId stage (m.1 ++ [m.2])).rtake windowSize).countP fun call =>
    call.2.1 = m.2.fingerprint

def keptRepeats (windowSize : Nat) (taskId stage : String)
    (m : List FingerprintHistoryEntry × FingerprintHistoryEntry) : Nat :=
  (((m.1 ++ [m.2]).rtake windowSize).filter (ofTaskStage taskId stage)).countP fun other =>
    other.fingerprint = m.2.fingerprint

def displacedRepeats (windowSize : Nat) (taskId stage : String)
    (m : List FingerprintHistoryEntry × FingerprintHistoryEntry) : Nat :=
  aloneRepeats windowSize taskId stage m - keptRepeats windowSize taskId stage m

def foreignRepeats (windowSize : Nat) (taskId stage : String)
    (m : List FingerprintHistoryEntry × FingerprintHistoryEntry) : Nat :=
  (((m.1 ++ [m.2]).rtake windowSize).filter fun other => !ofTaskStage taskId stage other).countP
    fun other => other.key = m.2.key

/-- What was called between the calls of the task and stage weighs the same at two moments: it adds to
the window as many more repetitions than it pushes out, and the fingerprint was blocked by then, or
had been warned about, after both or after neither. -/
structure SameInterference (config : LoopFingerprintConfig) (taskId stage : String)
    (m m' : List FingerprintHistoryEntry × FingerprintHistoryEntry) : Prop where
  balance : foreignRepeats config.loopWindowSize taskId stage m +
      displacedRepeats config.loopWindowSize taskId stage m' =
    foreignRepeats config.loopWindowSize taskId stage m' +
      displacedRepeats config.loopWindowSize taskId stage m
  blocked : RepeatedTo config.loopWindowSize config.loopBlockThreshold m.2.fingerprint
      (m.1 ++ [m.2]) ↔
    RepeatedTo config.loopWindowSize config.loopBlockThreshold m.2.fingerprint (m'.1 ++ [m'.2])
  warned : ¬RepeatedTo config.loopWindowSize config.loopBlockThreshold m.2.fingerprint
      (m.1 ++ [m.2]) →
    config.loopWarnThreshold ≤ repeats config.loopWindowSize (m.1 ++ [m.2]) m.2 →
    (RepeatedTo config.loopWindowSize config.loopWarnThreshold m.2.fingerprint m.1 ↔
      RepeatedTo config.loopWindowSize config.loopWarnThreshold m.2.fingerprint m'.1)

section balance

variable {config : LoopFingerprintConfig} {taskId stage : String}
  {m m' : List FingerprintHistoryEntry × FingerprintHistoryEntry}

theorem filter_rtake_suffix {α : Type*} (p : α → Bool) (l : List α) (n : ℕ) :
    (l.rtake n).filter p <:+ (l.filter p).rtake n := by
  have hwindow : l.rtake n <:+ l := List.drop_suffix _ _
  refine List.suffix_of_suffix_length_le (hwindow.filter p) (List.drop_suffix _ _) ?_
  have hle : ((l.rtake n).filter p).length ≤ (l.filter p).length := (hwindow.filter p).length_le
  have hshort : ((l.rtake n).filter p).length ≤ n := by
    refine (List.length_filter_le _ _).trans ?_
    rw [List.rtake, List.length_drop]
    omega
  have hlong : ((l.filter p).rtake n).length =
      (l.filter p).length - ((l.filter p).length - n) := List.length_drop
  omega

theorem keptRepeats_le_aloneRepeats (windowSize : Nat) :
    keptRepeats windowSize taskId stage m ≤ aloneRepeats windowSize taskId stage m := by
  rw [aloneRepeats, loopCallsOf, ← map_rtake, List.countP_map]
  exact (filter_rtake_suffix _ _ _).sublist.countP_le

theorem repeats_eq (windowSize : Nat) (hown : ofTaskStage taskId stage m.2 = true) :
    repeats windowSize (m.1 ++ [m.2]) m.2 =
      keptRepeats windowSize taskId stage m + foreignRepeats windowSize taskId stage m := by
  rw [repeats, List.countP_eq_countP_filter_add _ _ (ofTaskStage taskId stage), keptRepeats,
    foreignRepeats]
  refine congrArg₂ _ (List.countP_congr fun other hother => ?_) (by simp)
  have hother := (List.mem_filter.mp hother).2
  simp only [ofTaskStage, Bool.and_eq_true, decide_eq_true_eq] at hother hown
  simp [key, hother.2, hown.2]

theorem loopCallsOf_concat (calls : List FingerprintHistoryEntry) {entry : FingerprintHistoryEntry}
    (hown : ofTaskStage taskId stage entry = true) :
    loopCallsOf taskId stage (calls ++ [entry]) =
      loopCallsOf taskId stage calls ++ [callOf entry] := by
  simp [loopCallsOf, hown]

theorem repeats_eq_iff_balance (windowSize : Nat)
    (hown : ofTaskStage taskId stage m.2 = true) (hown' : ofTaskStage taskId stage m'.2 = true)
    (hbefore : loopCallsOf taskId stage m.1 = loopCallsOf taskId stage m'.1)
    (hcall : callOf m.2 = callOf m'.2) :
    repeats windowSize (m.1 ++ [m.2]) m.2 = repeats windowSize (m'.1 ++ [m'.2]) m'.2 ↔
      foreignRepeats windowSize taskId stage m + displacedRepeats windowSize taskId stage m' =
        foreignRepeats windowSize taskId stage m' + displacedRepeats windowSize taskId stage m := by
  have hfingerprint : m.2.fingerprint = m'.2.fingerprint := congrArg (·.2.1) hcall
  have halone : aloneRepeats windowSize taskId stage m = aloneRepeats windowSize taskId stage m' := by
    rw [aloneRepeats, aloneRepeats, loopCallsOf_concat _ hown, loopCallsOf_concat _ hown', hbefore,
      hcall, hfingerprint]
  have hkept := @keptRepeats_le_aloneRepeats taskId stage m windowSize
  have hkept' := @keptRepeats_le_aloneRepeats taskId stage m' windowSize
  rw [repeats_eq windowSize hown, repeats_eq windowSize hown', displacedRepeats, displacedRepeats]
  omega

theorem loopAction_eq_iff {action action' : LoopAction} :
    action = action' ↔ (action = .block ↔ action' = .block) ∧
      (action ≠ .block → action' ≠ .block → (action = .warn ↔ action' = .warn)) := by
  cases action <;> cases action' <;> simp

theorem answer_eq_iff (hown : ofTaskStage taskId stage m.2 = true)
    (hbefore : loopCallsOf taskId stage m.1 = loopCallsOf taskId stage m'.1)
    (hcall : callOf m.2 = callOf m'.2) :
    ((afterLoops config m.1).checkLoop config m.2).1 =
        ((afterLoops config m'.1).checkLoop config m'.2).1 ↔
      SameInterference config taskId stage m m' := by
  have hbooks := @repeatBooks_afterLoops config m.1
  have hbooks' := @repeatBooks_afterLoops config m'.1
  have hown' : ofTaskStage taskId stage m'.2 = true := by
    simp only [callOf, Prod.mk.injEq] at hcall
    simpa [ofTaskStage, hcall] using hown
  have hfingerprint : m.2.fingerprint = m'.2.fingerprint := congrArg (·.2.1) hcall
  have hbalance := repeats_eq_iff_balance config.loopWindowSize hown hown' hbefore hcall
  have hblock := hbooks.block_iff m.2
  have hblock' := hbooks'.block_iff m'.2
  have hwarn := hbooks.warn_iff m.2
  have hwarn' := hbooks'.warn_iff m'.2
  rw [LoopChecks.checkLoop_fst, LoopChecks.checkLoop_fst (afterLoops config m'.1), hbooks.count,
    hbooks'.count, LoopCheckResult.mk.injEq]
  rw [← hfingerprint] at hblock' hwarn' ⊢
  constructor
  · rintro ⟨-, hcount, -, haction⟩
    refine ⟨hbalance.mp hcount, ?_, fun hfree hwarns => ?_⟩
    · rw [← hblock, haction, hblock']
    · have hfree' : ¬RepeatedTo config.loopWindowSize config.loopBlockThreshold m.2.fingerprint
          (m'.1 ++ [m'.2]) := by
        rwa [← hblock', ← haction, hblock]
      have hsame := (hwarn hfree).symm.trans ((iff_of_eq (congrArg (· = _) haction)).trans
        (hwarn' hfree'))
      rw [← hcount, and_iff_right hwarns, and_iff_right hwarns] at hsame
      exact not_iff_not.mp hsame
  · rintro ⟨hsum, hblocked, hwarned⟩
    have hcount := hbalance.mpr hsum
    refine ⟨rfl, hcount, rfl, loopAction_eq_iff.mpr ⟨?_, fun hfree hfree' => ?_⟩⟩
    · rw [hblock, hblock', hblocked]
    · rw [ne_eq, hblock] at hfree
      rw [ne_eq, hblock'] at hfree'
      rw [hwarn hfree, hwarn' hfree', ← hcount]
      exact and_congr_right fun hwarns => not_congr (hwarned hfree hwarns)

end balance

/-- Two sequences with the same calls of a task and stage answer these calls the same exactly when at
each of them the calls in between interfere the same. -/
theorem loopAnswersOf_eq_iff (config : LoopFingerprintConfig) (taskId stage : String)
    {calls calls' : List FingerprintHistoryEntry}
    (hsame : loopCallsOf taskId stage calls = loopCallsOf taskId stage calls') :
    loopAnswersOf config taskId stage calls = loopAnswersOf config taskId stage calls' ↔
      List.Forall₂ (SameInterference config taskId stage)
        (ownMoments (ofTaskStage taskId stage) calls)
        (ownMoments (ofTaskStage taskId stage) calls') := by
  rw [loopAnswersOf_eq, loopAnswersOf_eq]
  exact map_ownMoments_eq_iff hsame fun m m' hown hbefore hcall =>
    answer_eq_iff hown hbefore hcall

def loopCall (fingerprint taskId : String) : FingerprintHistoryEntry :=
  ⟨fingerprint, "plan", taskId, "job_0", 0⟩

/-- A call of another task that leaves the window again makes no difference. -/
theorem early_call_interferes_not : List.Forall₂ (SameInterference narrowWindow "task_0" "plan")
      (ownMoments (ofTaskStage "task_0" "plan")
        [loopCall "b" "task_1", loopCall "a" "task_0", loopCall "a" "task_0"])
      (ownMoments (ofTaskStage "task_0" "plan") [loopCall "a" "task_0", loopCall "a" "task_0"]) :=
  (loopAnswersOf_eq_iff narrowWindow "task_0" "plan" (by decide)).mp (by decide +kernel)

/-- The third planning of a task is warned about, and with one planning of another task before them it
is blocked. -/
theorem other_task_blocks : ¬∀ (config : LoopFingerprintConfig) (taskId stage : String)
    (calls calls' : List FingerprintHistoryEntry),
    loopCallsOf taskId stage calls = loopCallsOf taskId stage calls' →
    loopAnswersOf config taskId stage calls = loopAnswersOf config taskId stage calls' := by
  intro hall
  have hplans := hall DEFAULT_LOOP_FINGERPRINT_CONFIG "task_0" "plan"
    [loopCall "a" "task_1", loopCall "a" "task_0", loopCall "a" "task_0", loopCall "a" "task_0"]
    [loopCall "a" "task_0", loopCall "a" "task_0", loopCall "a" "task_0"] (by decide)
  exact absurd hplans (by decide +kernel)

end ShipyardCp.Properties
