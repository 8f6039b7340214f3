import Mathlib.Data.Finset.Basic
import Mathlib.Data.List.DropRight
import ShipyardCp.Lib.InsertionMap
import ShipyardCp.Lib.JsText
import ShipyardCp.Types.Job

/-! Loops of jobs: repeated states in their histories, and repeated fingerprints. -/

namespace ShipyardCp.Domain

open Types Lib

/-! Detection of repeated and oscillating states in the transition history of one job. -/

structure TransitionRecord where
  fromState : TaskState
  toState : TaskState
  stage : WorkerStage
  timestamp : Timestamp

inductive LoopType where
  | stateRepeat | simple | complex

def LoopType.text : LoopType → String
  | stateRepeat => "state_repeat"
  | simple => "simple"
  | complex => "complex"

def maxRepeats : Nat := 3

structure DoomLoopDetector where
  transitionHistory : InsertionMap String (List TransitionRecord)

namespace DoomLoopDetector

def empty : DoomLoopDetector := ⟨.empty⟩

def getTransitionHistory (d : DoomLoopDetector) (jobId : String) : List TransitionRecord :=
  (d.transitionHistory.get? jobId).getD []

def trackTransition (d : DoomLoopDetector) (jobId : String) (record : TransitionRecord) :
    DoomLoopDetector :=
  ⟨d.transitionHistory.set jobId (d.getTransitionHistory jobId ++ [record])⟩

def stateSequence : List TransitionRecord → List TaskState
  | [] => []
  | record :: records => record.fromState :: (record :: records).map (·.toState)

/-- The start state comes back after at least two others, in a sequence of five or more. -/
def detectComplexLoop (sequence : List TaskState) : Bool :=
  if sequence.length < 5 then false
  else match sequence with
    | [] => false
    | startState :: _ =>
      let lastPos := sequence.length - 1 - sequence.reverse.idxOf startState
      lastPos ≥ 3

def detectLoop (d : DoomLoopDetector) (jobId : String) : Option LoopType :=
  let history := d.getTransitionHistory jobId
  if history.length < 2 then none
  else
    let sequence := stateSequence history
    if sequence.any fun state => sequence.count state > maxRepeats then some .stateRepeat
    else if sequence.dedup.length = 2 ∧ 3 ≤ sequence.length then some .simple
    else if detectComplexLoop sequence then some .complex
    else none

theorem detectLoop_of_short {d : DoomLoopDetector} {jobId : String}
    (h : (d.getTransitionHistory jobId).length < 2) : d.detectLoop jobId = none := by
  simp [detectLoop, h]

end DoomLoopDetector

/-! The fingerprints by which repeated jobs are known, and how many of them are too many. -/

def loopWindowSize : Nat := 20

def loopBlockThreshold : Nat := 4

/-- What fingerprints draw from the runtime: the lower case of a text, and its SHA-256 digest in
hexadecimal digits. -/
structure FingerprintHost where
  lowerCase : List Char → List Char
  sha256 : String → String

def collapseSpaces : List Char → List Char
  | [] => []
  | c :: text =>
    if JsText.isSpace c then
      if text.head?.any JsText.isSpace then collapseSpaces text else ' ' :: collapseSpaces text
    else c :: collapseSpaces text

def digestStart (digest : String) (n : Nat) : String := String.ofList (digest.toList.take n)

def repoRefToString (repoRef : RepoRef) : String := "github:" ++ repoRef.owner ++ "/" ++ repoRef.name

namespace FingerprintHost

variable (host : FingerprintHost)

def hashPrompt (prompt : String) : String :=
  let normalized := collapseSpaces (host.lowerCase (JsText.trim prompt.toList))
  digestStart (host.sha256 (String.ofList normalized)) 16

def generateFingerprintFromComponents (stage : WorkerStage) (workerType : WorkerType)
    (prompt : String) (repoRef : RepoRef) (typedRef : String) (targetResourceKey : Option String) :
    String :=
  let parts := ["stage:" ++ stage.text, "worker:" ++ workerType.text,
      "prompt:" ++ host.hashPrompt prompt,
      "repo:" ++ repoRefToString repoRef,
      "typed:" ++ typedRef] ++
    (if isTruthy targetResourceKey then ["resource:" ++ targetResourceKey.getD ""] else [])
  digestStart (host.sha256 ("|".intercalate parts)) 32

def generateFingerprint (job : WorkerJob) : String :=
  let parts := ["stage:" ++ job.stage.text, "worker:" ++ job.workerType.text,
      "prompt:" ++ host.hashPrompt job.inputPrompt,
      "repo:" ++ repoRefToString job.repoRef,
      "typed:" ++ job.typedRef]
  digestStart (host.sha256 ("|".intercalate parts)) 32

theorem generateFingerprint_eq (job : WorkerJob) : host.generateFingerprint job =
    host.generateFingerprintFromComponents job.stage job.workerType job.inputPrompt job.repoRef
      job.typedRef none := by
  simp [generateFingerprint, generateFingerprintFromComponents, isTruthy]

end FingerprintHost

/-! The check of fingerprints for loops: a window of the last ones, and which were warned about or
blocked. -/

structure LoopFingerprintConfig where
  loopWindowSize : Nat
  loopWarnThreshold : Nat
  loopBlockThreshold : Nat

def DEFAULT_LOOP_FINGERPRINT_CONFIG : LoopFingerprintConfig where
  loopWindowSize := 20
  loopWarnThreshold := 3
  loopBlockThreshold := 4

inductive LoopAction where
  | none | warn | block
  deriving DecidableEq

structure LoopCheckResult where
  fingerprint : String
  occurrenceCount : Nat
  windowSize : Nat
  action : LoopAction
  deriving DecidableEq

structure FingerprintHistoryEntry where
  fingerprint : String
  stage : String
  taskId : String
  jobId : String
  timestamp : Timestamp
  deriving DecidableEq

def FingerprintHistoryEntry.key (entry : FingerprintHistoryEntry) : String × String :=
  (entry.fingerprint, entry.stage)

structure LoopChecks where
  fingerprintHistory : List FingerprintHistoryEntry
  warningIssued : Finset String
  blockedFingerprints : Finset String
  deriving DecidableEq

namespace LoopChecks

def empty : LoopChecks := ⟨[], ∅, ∅⟩

def trimmed (windowSize : Nat) (history : List FingerprintHistoryEntry) :
    List FingerprintHistoryEntry :=
  if history.length > windowSize then history.drop (history.length - windowSize) else history

def getFingerprintOccurrenceCount (checks : LoopChecks) (fingerprint stage : String) : Nat :=
  (checks.fingerprintHistory.filter fun entry =>
    entry.fingerprint = fingerprint && entry.stage = stage).length

def recorded (checks : LoopChecks) (config : LoopFingerprintConfig)
    (entry : FingerprintHistoryEntry) : LoopChecks :=
  { checks with
    fingerprintHistory := trimmed config.loopWindowSize (checks.fingerprintHistory ++ [entry]) }

/-- `entry` holds the arguments of the call, and its instant. -/
def checkLoop (checks : LoopChecks) (config : LoopFingerprintConfig)
    (entry : FingerprintHistoryEntry) : LoopCheckResult × LoopChecks :=
  let checks := checks.recorded config entry
  let fingerprint := entry.fingerprint
  let occurrenceCount := checks.getFingerprintOccurrenceCount fingerprint entry.stage
  let result := LoopCheckResult.mk fingerprint occurrenceCount config.loopWindowSize
  if fingerprint ∈ checks.blockedFingerprints then (result .block, checks)
  else if occurrenceCount ≥ config.loopBlockThreshold then
    (result .block,
      { checks with blockedFingerprints := insert fingerprint checks.blockedFingerprints })
  else if occurrenceCount ≥ config.loopWarnThreshold ∧ fingerprint ∉ checks.warningIssued then
    (result .warn, { checks with warningIssued := insert fingerprint checks.warningIssued })
  else (result .none, checks)

def clearFingerprintState (checks : LoopChecks) (fingerprint : String) : LoopChecks :=
  { checks with
    blockedFingerprints := checks.blockedFingerprints.erase fingerprint
    warningIssued := checks.warningIssued.erase fingerprint }

def clearAllFingerprintState (_ : LoopChecks) : LoopChecks := empty

/-- What a check answers, and which marks it leaves. -/
structure Answered (config : LoopFingerprintConfig) (entry : FingerprintHistoryEntry)
    (checks : LoopChecks) (result : LoopCheckResult) (checks' : LoopChecks) : Prop where
  count : result.occurrenceCount = checks'.getFingerprintOccurrenceCount entry.fingerprint entry.stage
  history : checks'.fingerprintHistory = (checks.recorded config entry).fingerprintHistory
  block : result.action = .block ↔ entry.fingerprint ∈ checks.blockedFingerprints ∨
    config.loopBlockThreshold ≤ result.occurrenceCount
  warn : result.action = .warn →
    entry.fingerprint ∉ checks.blockedFingerprints ∧ entry.fingerprint ∉ checks.warningIssued
  blocked : checks'.blockedFingerprints =
    if result.action = .block then insert entry.fingerprint checks.blockedFingerprints
    else checks.blockedFingerprints
  warned : checks'.warningIssued =
    if result.action = .warn then insert entry.fingerprint checks.warningIssued
    else checks.warningIssued

section lemmas

variable (checks : LoopChecks) (config : LoopFingerprintConfig) (entry : FingerprintHistoryEntry)

theorem trimmed_eq_rtake (windowSize : Nat) (history : List FingerprintHistoryEntry) :
    trimmed windowSize history = history.rtake windowSize := by
  unfold trimmed List.rtake
  split_ifs with hlong
  · rfl
  · rw [Nat.sub_eq_zero_of_le (Nat.le_of_not_lt hlong), List.drop_zero]

theorem getFingerprintOccurrenceCount_eq_count (fingerprint stage : String) :
    checks.getFingerprintOccurrenceCount fingerprint stage =
      (checks.fingerprintHistory.map FingerprintHistoryEntry.key).count (fingerprint, stage) := by
  have hkey : ∀ entry : FingerprintHistoryEntry,
      (entry.fingerprint = fingerprint && entry.stage = stage) =
        (entry.key == (fingerprint, stage)) := by
    intro entry
    rw [Bool.eq_iff_iff, beq_iff_eq, FingerprintHistoryEntry.key, Prod.mk.injEq, Bool.and_eq_true,
      decide_eq_true_eq, decide_eq_true_eq]
  unfold getFingerprintOccurrenceCount
  rw [List.count, List.countP_map, List.countP_eq_length_filter]
  exact congrArg _ (List.filter_congr fun entry _ => hkey entry)

theorem answered_checkLoop : Answered config entry checks (checks.checkLoop config entry).1
      (checks.checkLoop config entry).2 := by
  have hblocked : (checks.recorded config entry).blockedFingerprints =
      checks.blockedFingerprints := rfl
  have hwarned : (checks.recorded config entry).warningIssued = checks.warningIssued := rfl
  unfold checkLoop
  dsimp only
  rw [hblocked, hwarned]
  split_ifs with hmarked hcount hwarns
  · exact ⟨rfl, rfl, by simp [hmarked], nofun, by simp [hmarked, hblocked], rfl⟩
  · exact ⟨rfl, rfl, by simpa using Or.inr hcount, nofun, rfl, rfl⟩
  · exact ⟨rfl, rfl, by simpa using ⟨hmarked, Nat.lt_of_not_le hcount⟩, fun _ => ⟨hmarked, hwarns.2⟩,
      rfl, rfl⟩
  · exact ⟨rfl, rfl, by simpa using ⟨hmarked, Nat.lt_of_not_le hcount⟩, nofun, rfl, rfl⟩

theorem checkLoop_fst : (checks.checkLoop config entry).1 = ⟨entry.fingerprint,
      (checks.checkLoop config entry).1.occurrenceCount, config.loopWindowSize,
      (checks.checkLoop config entry).1.action⟩ := by
  unfold checkLoop
  dsimp only
  split_ifs <;> rfl

theorem checkLoop_warn_iff : (checks.checkLoop config entry).1.action = .warn ↔
      (checks.checkLoop config entry).1.action ≠ .block ∧
        config.loopWarnThreshold ≤ (checks.checkLoop config entry).1.occurrenceCount ∧
        entry.fingerprint ∉ checks.warningIssued := by
  have hwarned : (checks.recorded config entry).warningIssued = checks.warningIssued := rfl
  unfold checkLoop
  dsimp only
  split_ifs with hmarked hcount hwarns
  · simp
  · simp
  · simpa [hwarned] using hwarns
  · simpa [hwarned] using hwarns

end lemmas

end LoopChecks

end ShipyardCp.Domain
