import Mathlib.Algebra.Order.Ring.Rat
import ShipyardCp.Lib.JsText
import ShipyardCp.Types.Job

/-! The assessment of the risk of a change from factors: what forces it high, what makes it medium,
and what the number of files says. -/

namespace ShipyardCp.Domain

open Types

inductive RiskReason where
  | secretsReferenced | networkAccess | destructiveTool | protectedPathWrite | coreAreaModified
  | noTestCoverage | escalationRequested
  | configModified | dependenciesChanged | moderateChangeScope
  | largeChangeScope
  deriving DecidableEq

inductive RiskFactorKind where
  | fileCount | testCoverage | secretsReferenced | networkAccess | destructiveTool
  | protectedPathWrite | coreAreaModified | modifiedAreas | configModified | dependenciesChanged
  | escalationRequested | regressionTestPassed
  deriving DecidableEq

inductive RiskFactorValue where
  | flag (value : Bool)
  | number (value : ℚ)
  | texts (value : List String)
  deriving DecidableEq

/-- Any kind may come with any value. -/
structure RiskFactor where
  kind : RiskFactorKind
  value : RiskFactorValue
  deriving DecidableEq

structure RiskAssessment where
  level : RiskLevel
  reasons : List RiskReason

namespace RiskAssessor

def CORE_AREAS : List String :=
  ["src/auth/", "src/authentication/", "src/payment/", "src/payments/", "src/security/", "src/iam/",
    "src/identity/", "src/crypto/", "src/secrets/"]

def MEDIUM_FILE_THRESHOLD : ℚ := 5

def HIGH_FILE_THRESHOLD : ℚ := 20

/-- `text.includes(part)` -/
def includes (text part : String) : Bool := Lib.JsText.includes text.toList part.toList

def highRiskEscalations : List String :=
  ["network_access", "secret_access", "destructive_tool", "protected_path_write"]

def hasRegression (allFactors : List RiskFactor) : Bool :=
  allFactors.any fun f => f.kind = .regressionTestPassed ∧ f.value = .flag true

/-- The reason for which a factor forces the risk high, when it does. -/
def checkForcedHigh (factor : RiskFactor) (allFactors : List RiskFactor) : Option RiskReason :=
  match factor.kind, factor.value with
  | .secretsReferenced, .flag true => some .secretsReferenced
  | .networkAccess, .flag true => some .networkAccess
  | .destructiveTool, .flag true => some .destructiveTool
  | .protectedPathWrite, .flag true => some .protectedPathWrite
  | .coreAreaModified, .flag true => some .coreAreaModified
  | .modifiedAreas, .texts areas =>
    if areas.any fun area => CORE_AREAS.any fun core => includes area core || includes core area then
      some .coreAreaModified
    else none
  | .testCoverage, .flag false =>
    if hasRegression allFactors then none else some .noTestCoverage
  | .escalationRequested, .texts escalations =>
    if escalations.any fun e => highRiskEscalations.contains e then some .escalationRequested
    else none
  | _, _ => none

def mediumReason (factor : RiskFactor) : Option RiskReason :=
  match factor.kind, factor.value with
  | .configModified, .flag true => some .configModified
  | .dependenciesChanged, .flag true => some .dependenciesChanged
  | _, _ => none

def checkMediumRisk (reasons : List RiskReason) (factor : RiskFactor) : List RiskReason :=
  match mediumReason factor with
  | some reason => if reasons.contains reason then reasons else reasons ++ [reason]
  | none => reasons

def count (factor : RiskFactor) : ℚ :=
  match factor.value with
  | .number value => value
  | _ => 1

def fileCount (factors : List RiskFactor) : ℚ :=
  match factors.find? fun f => f.kind = .fileCount with
  | some factor => count factor
  | none => 1

def assessRisk (factors : List RiskFactor) : RiskAssessment :=
  let reasons := factors.filterMap fun factor => checkForcedHigh factor factors
  if reasons ≠ [] then ⟨.high, reasons⟩
  else
    let reasons := factors.foldl checkMediumRisk []
    if reasons ≠ [] then ⟨.medium, reasons⟩
    else if fileCount factors ≥ HIGH_FILE_THRESHOLD then ⟨.high, [.largeChangeScope]⟩
    else if fileCount factors ≥ MEDIUM_FILE_THRESHOLD then ⟨.medium, [.moderateChangeScope]⟩
    else ⟨.low, []⟩

def forcedHigh (factors : List RiskFactor) : Bool :=
  factors.any fun factor => (checkForcedHigh factor factors).isSome

def raisedMedium (factors : List RiskFactor) : Bool :=
  factors.any fun factor => (mediumReason factor).isSome

def scopeLevel (fileCount : ℚ) : RiskLevel :=
  if fileCount ≥ HIGH_FILE_THRESHOLD then .high
  else if fileCount ≥ MEDIUM_FILE_THRESHOLD then .medium
  else .low

theorem checkMediumRisk_eq_nil_iff {reasons : List RiskReason} {factor : RiskFactor} :
    checkMediumRisk reasons factor = [] ↔ reasons = [] ∧ mediumReason factor = none := by
  unfold checkMediumRisk
  cases hreason : mediumReason factor with
  | none => simp
  | some reason =>
    dsimp only
    split_ifs with hmem
    · refine iff_of_false (fun hnil => ?_) nofun
      rw [hnil] at hmem
      cases hmem
    · simp

theorem foldl_checkMediumRisk_eq_nil_iff {factors : List RiskFactor} {reasons : List RiskReason} :
    factors.foldl checkMediumRisk reasons = [] ↔ reasons = [] ∧ raisedMedium factors = false := by
  induction factors generalizing reasons with
  | nil => simp [raisedMedium]
  | cons factor factors ih =>
    rw [List.foldl_cons, ih, checkMediumRisk_eq_nil_iff]
    simp only [raisedMedium, List.any_cons, Bool.or_eq_false_iff, Option.isSome_eq_false_iff,
      Option.isNone_iff_eq_none, and_assoc]

theorem level_assessRisk (factors : List RiskFactor) : (assessRisk factors).level =
    if forcedHigh factors then .high
    else if raisedMedium factors then .medium
    else scopeLevel (fileCount factors) := by
  have hforced : (factors.filterMap fun factor => checkForcedHigh factor factors) ≠ [] ↔
      forcedHigh factors = true := by
    simp [forcedHigh, Option.isSome_iff_ne_none]
  have hraised : factors.foldl checkMediumRisk [] ≠ [] ↔ raisedMedium factors = true := by
    rw [Ne, foldl_checkMediumRisk_eq_nil_iff]
    simp
  unfold assessRisk scopeLevel
  simp only [hforced, hraised]
  split_ifs <;> rfl

end RiskAssessor

/-! The risk of a change as its result tells it: factors from the patch, the escalations asked for and
the tests, and their assessment. -/

structure RiskIntegrationResult where
  level : RiskLevel
  assessment : RiskAssessment
  forcedHighFactors : List RiskReason

namespace RiskIntegration

open Lib.JsText (isSpace isLineTerminator)
open RiskAssessor (assessRisk includes)

/-- The length of the match of `---\s+a\/.+$` at a place. White space is taken greedily, which is
exact before a letter. -/
def matchHeader : List Char → Option Nat
  | '-' :: '-' :: '-' :: text =>
    let spaces := text.takeWhile isSpace
    match text.dropWhile isSpace with
    | 'a' :: '/' :: path =>
      let named := path.takeWhile fun c => !isLineTerminator c
      if spaces ≠ [] ∧ named ≠ [] then some (3 + spaces.length + 2 + named.length) else none
    | _ => none
  | _ => none

/-- The matches of `/^---\s+a\/.+$/gm` in a text of which `skipped` characters belong to the match
before; `atStart` says whether a line begins here. -/
def countMatches : Nat → Bool → List Char → Nat
  | _, _, [] => 0
  | skipped + 1, _, c :: text => countMatches skipped (isLineTerminator c) text
  | 0, atStart, c :: text =>
    match if atStart then matchHeader (c :: text) else none with
    | some length => 1 + countMatches (length - 1) (isLineTerminator c) text
    | none => countMatches 0 (isLineTerminator c) text

def countFilesInPatch (patch : String) : Nat := countMatches 0 true patch.toList

def patchFactors (result : WorkerResult) : List RiskFactor :=
  match result.patchRef with
  | some patch =>
    if patch.content ≠ "" then [⟨.fileCount, .number (countFilesInPatch patch.content)⟩] else []
  | none => []

def asksFor (result : WorkerResult) (kind : EscalationKind) : Bool :=
  result.requestedEscalations.any fun e => e.kind = kind

def escalationFactors (result : WorkerResult) : List RiskFactor :=
  (if result.requestedEscalations ≠ [] then
    [⟨.escalationRequested, .texts (result.requestedEscalations.map fun e => e.kind.text)⟩]
  else []) ++
  (if asksFor result .networkAccess then [⟨.networkAccess, .flag true⟩] else []) ++
  (if asksFor result .secretAccess then [⟨.secretsReferenced, .flag true⟩] else []) ++
  (if asksFor result .destructiveTool then [⟨.destructiveTool, .flag true⟩] else []) ++
  (if asksFor result .protectedPathWrite then [⟨.protectedPathWrite, .flag true⟩] else [])

def testFactors (result : WorkerResult) : List RiskFactor :=
  if result.testResults ≠ [] then
    let allPassed := result.testResults.all fun t => t.status = .passed
    let hasRegression := result.testResults.any fun t => includes t.suite "regression"
    ⟨.testCoverage, .flag allPassed⟩ ::
      if hasRegression && allPassed then [⟨.regressionTestPassed, .flag true⟩] else []
  else [⟨.testCoverage, .flag false⟩]

def extractRiskFactorsFromResult (result : WorkerResult) : List RiskFactor :=
  patchFactors result ++ escalationFactors result ++ testFactors result

def assessFromResult (result : WorkerResult) : RiskIntegrationResult :=
  let assessment := assessRisk (extractRiskFactorsFromResult result)
  { level := assessment.level
    assessment
    forcedHighFactors := assessment.reasons.filter fun r =>
      r ≠ .largeChangeScope ∧ r ≠ .moderateChangeScope }

end RiskIntegration

end ShipyardCp.Domain
