import Mathlib.Tactic.Positivity
import Mathlib.Tactic.Ring
import ShipyardCp.Domain.SpawnControl
import ShipyardCp.Lib.Meters

/-! How many agents a scope can spawn in an interval, and whether a window ever sees more than the
limit for it. -/

namespace ShipyardCp.Properties

open Types Domain Lib Machine TokenBucket InsertionMap SpawnRateLimit

section bucket

theorem tokensPerMs_nonneg (limit : SpawnRateLimit) : 0 ≤ limit.tokensPerMs := by
  unfold tokensPerMs
  positivity

/-- A bucket of the limit, with no more tokens than it can hold. -/
structure Fits (limit : SpawnRateLimit) (b : TokenBucket) : Prop where
  maxTokens : b.maxTokens = limit.burst
  refillRate : b.refillRate = limit.tokensPerMs
  nonneg : 0 ≤ b.tokens
  le : b.tokens ≤ limit.burst

/-- What a call does to a bucket, and what it takes out of it. -/
inductive BucketMove (b : TokenBucket) (now : Timestamp) : ℚ → TokenBucket → Prop
  | kept : BucketMove b now 0 b
  | refilled : BucketMove b now 0 (b.refill now)
  | consumed {count : ℚ} : 0 ≤ count →
      BucketMove b now (if (b.consume now count).1 then count else 0) (b.consume now count).2

variable {limit : SpawnRateLimit} {b b' : TokenBucket} {now t u : Timestamp} {amount : ℚ}

theorem fits_new : Fits limit (.new now limit.burst (limit.tokensPerMs)) :=
  ⟨rfl, rfl, Nat.cast_nonneg _, le_rfl⟩

theorem Fits.tokens_refill (hfits : Fits limit b) : (b.refill t).tokens = min (limit.burst : ℚ)
      (b.tokens + ((t : ℚ) - (b.lastRefill : ℚ)) * limit.tokensPerMs) := by
  unfold refill
  rw [hfits.maxTokens, hfits.refillRate]
  simp

theorem tokens_refill_self {tokens : ℚ} (hle : tokens ≤ b.maxTokens) :
    (refill { b.refill now with tokens := tokens } now).tokens = tokens := by
  simp [refill, hle]

theorem Fits.refill_nonneg (hfits : Fits limit b) (ht : b.lastRefill ≤ t) :
    0 ≤ (b.refill t).tokens := by
  have helapsed : (0 : ℚ) ≤ (t : ℚ) - (b.lastRefill : ℚ) := sub_nonneg.mpr (Nat.cast_le.mpr ht)
  rw [hfits.tokens_refill]
  exact le_min (Nat.cast_nonneg _)
    (add_nonneg hfits.nonneg (mul_nonneg helapsed (tokensPerMs_nonneg limit)))

theorem Fits.refill_le (hfits : Fits limit b) : (b.refill t).tokens ≤ limit.burst := by
  rw [hfits.tokens_refill]
  exact min_le_left _ _

theorem Fits.refill_grows (hfits : Fits limit b) (htu : t ≤ u) : (b.refill u).tokens ≤
      (b.refill t).tokens + limit.tokensPerMs * ((u : ℚ) - (t : ℚ)) := by
  have hgrowth : 0 ≤ limit.tokensPerMs * ((u : ℚ) - (t : ℚ)) :=
    mul_nonneg (tokensPerMs_nonneg limit) (sub_nonneg.mpr (Nat.cast_le.mpr htu))
  rw [hfits.tokens_refill, hfits.tokens_refill, ← min_add_add_right]
  refine le_min ((min_le_left _ _).trans (le_add_of_nonneg_right hgrowth)) ?_
  refine (min_le_right _ _).trans (le_of_eq ?_)
  ring

theorem Fits.refill (hfits : Fits limit b) (ht : b.lastRefill ≤ t) : Fits limit (b.refill t) :=
  ⟨hfits.maxTokens, hfits.refillRate, hfits.refill_nonneg ht, hfits.refill_le⟩

theorem Fits.move (hfits : Fits limit b) (hnow : b.lastRefill ≤ now)
    (hmove : BucketMove b now amount b') : Fits limit b' ∧ b'.lastRefill ≤ now := by
  cases hmove with
  | kept => exact ⟨hfits, hnow⟩
  | refilled => exact ⟨hfits.refill hnow, le_rfl⟩
  | @consumed count hcount =>
    have hrefilled := hfits.refill hnow
    rcases le_or_gt count (b.refill now).tokens with htokens | htokens
    · rw [consume_of_le htokens]
      exact ⟨⟨hrefilled.maxTokens, hrefilled.refillRate, sub_nonneg.mpr htokens,
        (sub_le_self _ hcount).trans hrefilled.le⟩, le_rfl⟩
    · rw [consume_of_lt htokens]
      exact ⟨hrefilled, le_rfl⟩

theorem Fits.pays (hfits : Fits limit b) (hmove : BucketMove b now amount b') :
    (b'.refill now).tokens + amount = (b.refill now).tokens := by
  cases hmove with
  | kept => exact add_zero _
  | refilled => rw [refill_refill, add_zero]
  | @consumed count hcount =>
    rcases le_or_gt count (b.refill now).tokens with htokens | htokens
    · have hless := (sub_le_self _ hcount).trans (hfits.refill_le (t := now))
      rw [consume_of_le htokens, if_pos rfl, tokens_refill_self]
      · exact sub_add_cancel _ _
      · exact hless.trans_eq hfits.maxTokens.symm
    · rw [consume_of_lt htokens, if_neg (by simp), refill_refill, add_zero]

/-- A call of a bucket. -/
inductive BucketOp where
  | consume (count : ℚ)
  | peek
  | getTokens

structure BucketCall where
  now : Timestamp
  op : BucketOp

def BucketOp.perform (op : BucketOp) (b : TokenBucket) (now : Timestamp) : TokenBucket :=
  match op with
  | .consume count => (b.consume now count).2
  | .peek => (b.peek now).2
  | .getTokens => (b.getTokens now).2

def BucketOp.Counts : BucketOp → Prop
  | .consume count => 0 ≤ count
  | _ => True

instance (op : BucketOp) : Decidable op.Counts :=
  match op with
  | .consume count => inferInstanceAs (Decidable (0 ≤ count))
  | .peek => .isTrue trivial
  | .getTokens => .isTrue trivial

def consumed (b : TokenBucket) (call : BucketCall) : ℚ :=
  match call.op with
  | .consume count => if (b.consume call.now count).1 then count else 0
  | _ => 0

def bucketNext (b : TokenBucket) (call : BucketCall) : Option TokenBucket :=
  if b.lastRefill ≤ call.now ∧ call.op.Counts then some (call.op.perform b call.now) else none

def bucketRuns (limit : SpawnRateLimit) : Machine TokenBucket BucketCall :=
  .ofNext (fun b => ∃ now, b = .new now limit.burst limit.tokensPerMs) bucketNext

theorem bucketMove_perform {call : BucketCall} (hcounts : call.op.Counts) :
    BucketMove b call.now (consumed b call) (call.op.perform b call.now) := by
  obtain ⟨now, op⟩ := call
  cases op with
  | consume count => exact .consumed hcounts
  | peek => exact .refilled
  | getTokens => exact .refilled

theorem bucketRuns_step_iff {call : BucketCall} : (bucketRuns limit).step b call b' ↔
    b.lastRefill ≤ call.now ∧ call.op.Counts ∧ b' = call.op.perform b call.now := by
  change bucketNext b call = some b' ↔ _
  unfold bucketNext
  rw [Option.ite_none_right_eq_some, and_assoc, Option.some.injEq, eq_comm]

theorem lastRefill_perform (op : BucketOp) : (op.perform b now).lastRefill = now := by
  cases op with
  | consume count =>
    rcases le_or_gt count (b.refill now).tokens with htokens | htokens
    · rw [BucketOp.perform, consume_of_le htokens]
      rfl
    · rw [BucketOp.perform, consume_of_lt htokens]
      rfl
  | peek => rfl
  | getTokens => rfl

/-- The tokens of a bucket are an allowance. -/
def bucketAllowance (limit : SpawnRateLimit) :
    Allowance (bucketRuns limit) consumed BucketCall.now (limit.burst : ℚ) limit.tokensPerMs where
  met := Fits limit
  clock := lastRefill
  credit b t := (b.refill t).tokens
  rate_nonneg := tokensPerMs_nonneg limit
  init := by
    rintro b ⟨now, rfl⟩
    exact fits_new
  keeps := by
    intro b call b' hfits hst
    obtain ⟨hnow, hcounts, rfl⟩ := bucketRuns_step_iff.mp hst
    exact (hfits.move hnow (bucketMove_perform hcounts)).1
  advances := by
    intro b call b' _ hst
    obtain ⟨hnow, _, rfl⟩ := bucketRuns_step_iff.mp hst
    exact ⟨hnow, lastRefill_perform _⟩
  credit_le b t hfits := hfits.refill_le
  credit_nonneg b t hfits ht := hfits.refill_nonneg ht
  grows b t u hfits _ htu := hfits.refill_grows htu
  pays := by
    intro b call b' hfits hst
    obtain ⟨_, hcounts, rfl⟩ := bucketRuns_step_iff.mp hst
    exact (hfits.pays (bucketMove_perform hcounts)).le

end bucket

section scope

/-- A call of the scope manager. -/
inductive ScopeOp where
  | registerAgent (scopeKey agentId : String)
  | unregisterAgent (scopeKey agentId : String)
  | getRemainingTokens (scopeKey : String)
  | tryConsumeToken (scopeKey : String)

def ScopeOp.scopeKey : ScopeOp → String
  | .registerAgent scopeKey _ => scopeKey
  | .unregisterAgent scopeKey _ => scopeKey
  | .getRemainingTokens scopeKey => scopeKey
  | .tryConsumeToken scopeKey => scopeKey

structure ScopeCall where
  now : Timestamp
  op : ScopeOp

def ScopeOp.perform (op : ScopeOp) (m : ScopeManager) (now : Timestamp) : ScopeManager :=
  match op with
  | .registerAgent scopeKey agentId => m.registerAgent now scopeKey agentId
  | .unregisterAgent scopeKey agentId => m.unregisterAgent scopeKey agentId
  | .getRemainingTokens scopeKey => (m.getRemainingTokens now scopeKey).2
  | .tryConsumeToken scopeKey => (m.tryConsumeToken now scopeKey).2

/-- The scopes, and the instant of the last call. -/
structure ScopeSystem where
  manager : ScopeManager
  clock : Timestamp

def ScopeSystem.next (sys : ScopeSystem) (call : ScopeCall) : Option ScopeSystem :=
  if sys.clock ≤ call.now then some ⟨call.op.perform sys.manager call.now, call.now⟩ else none

def scopeRuns (limits : AgentTreeLimits) : Machine ScopeSystem ScopeCall :=
  .ofNext (fun sys => sys.manager = .new limits) ScopeSystem.next

/-- The spawns that a call allows in a scope: one, when it finds a token. -/
def allowedIn (scopeKey : String) (sys : ScopeSystem) (call : ScopeCall) : ℚ :=
  match call.op with
  | .tryConsumeToken key =>
    if key = scopeKey ∧ (sys.manager.tryConsumeToken call.now key).1 then 1 else 0
  | _ => 0

variable {limits : AgentTreeLimits} {m m' : ScopeManager} {sys sys' : ScopeSystem}
  {call : ScopeCall} {scopeKey : String} {now t u : Timestamp}

theorem scopeRuns_step_iff : (scopeRuns limits).step sys call sys' ↔
    sys.clock ≤ call.now ∧ sys' = ⟨call.op.perform sys.manager call.now, call.now⟩ := by
  change sys.next call = some sys' ↔ _
  unfold ScopeSystem.next
  rw [Option.ite_none_right_eq_some, Option.some.injEq, eq_comm]

theorem getScopeState_of_get? {state : ScopeState}
    (hstate : m.states.get? scopeKey = some state) : m.getScopeState now scopeKey = state := by
  simp [ScopeManager.getScopeState, hstate]

theorem get?_perform_of_ne {op : ScopeOp} (hkey : scopeKey ≠ op.scopeKey) :
    (op.perform m now).states.get? scopeKey = m.states.get? scopeKey := by
  cases op with
  | registerAgent key agentId => exact get?_set_of_ne _ _ hkey
  | unregisterAgent key agentId =>
    change (m.unregisterAgent key agentId).states.get? scopeKey = _
    unfold ScopeManager.unregisterAgent
    cases m.states.get? key with
    | none => rfl
    | some state => exact get?_set_of_ne _ _ hkey
  | getRemainingTokens key => exact get?_set_of_ne _ _ hkey
  | tryConsumeToken key => exact get?_set_of_ne _ _ hkey

theorem allowedIn_of_ne (hkey : scopeKey ≠ call.op.scopeKey) : allowedIn scopeKey sys call = 0 := by
  obtain ⟨now, op⟩ := call
  cases op with
  | tryConsumeToken key => exact if_neg fun h => hkey h.1.symm
  | registerAgent key agentId => rfl
  | unregisterAgent key agentId => rfl
  | getRemainingTokens key => rfl

theorem allowedIn_tryConsumeToken : allowedIn scopeKey sys ⟨now, .tryConsumeToken scopeKey⟩ =
    if ((sys.manager.getScopeState now scopeKey).tokenBucket.consume now 1).1 then 1 else 0 := by
  simp [allowedIn, ScopeManager.tryConsumeToken]

theorem bucketMove_scope (sys : ScopeSystem) (call : ScopeCall) (scopeKey : String) :
    ((call.op.perform sys.manager call.now).states.get? scopeKey = none ∧
      sys.manager.states.get? scopeKey = none ∧ allowedIn scopeKey sys call = 0) ∨
    ∃ state, (call.op.perform sys.manager call.now).states.get? scopeKey = some state ∧
      BucketMove (sys.manager.getScopeState call.now scopeKey).tokenBucket call.now
        (allowedIn scopeKey sys call) state.tokenBucket := by
  by_cases hkey : scopeKey = call.op.scopeKey
  · obtain ⟨now, op⟩ := call
    cases op with
    | registerAgent key agentId =>
      subst hkey
      exact Or.inr ⟨_, get?_set_self _ _ _, .kept⟩
    | unregisterAgent key agentId =>
      subst hkey
      change ((sys.manager.unregisterAgent scopeKey agentId).states.get? scopeKey = none ∧ _) ∨
        ∃ state, (sys.manager.unregisterAgent scopeKey agentId).states.get? scopeKey = some state ∧ _
      unfold ScopeManager.unregisterAgent
      cases hstate : sys.manager.states.get? scopeKey with
      | none => exact Or.inl ⟨hstate, rfl, rfl⟩
      | some state =>
        refine Or.inr ⟨_, get?_set_self _ _ _, ?_⟩
        rw [getScopeState_of_get? hstate]
        exact .kept
    | getRemainingTokens key =>
      subst hkey
      exact Or.inr ⟨_, get?_set_self _ _ _, .refilled⟩
    | tryConsumeToken key =>
      subst hkey
      refine Or.inr ⟨_, get?_set_self _ _ _, ?_⟩
      rw [allowedIn_tryConsumeToken]
      exact .consumed zero_le_one
  · rw [get?_perform_of_ne hkey, allowedIn_of_ne hkey]
    cases hstate : sys.manager.states.get? scopeKey with
    | none => exact Or.inl ⟨rfl, rfl, rfl⟩
    | some state =>
      refine Or.inr ⟨state, rfl, ?_⟩
      rw [getScopeState_of_get? hstate]
      exact .kept

/-- Every scope has a bucket of the limit that was last filled no later than the last call. -/
structure ScopesFit (limits : AgentTreeLimits) (sys : ScopeSystem) : Prop where
  config : sys.manager.config = limits
  buckets : ∀ scopeKey state, sys.manager.states.get? scopeKey = some state →
    Fits limits.spawnRateLimit state.tokenBucket ∧ state.tokenBucket.lastRefill ≤ sys.clock

theorem config_perform (op : ScopeOp) : (op.perform m now).config = m.config := by
  cases op with
  | unregisterAgent key agentId =>
    change (m.unregisterAgent key agentId).config = m.config
    unfold ScopeManager.unregisterAgent
    cases m.states.get? key <;> rfl
  | registerAgent key agentId => rfl
  | getRemainingTokens key => rfl
  | tryConsumeToken key => rfl

theorem ScopesFit.bucket (hfit : ScopesFit limits sys) :
    Fits limits.spawnRateLimit (sys.manager.getScopeState t scopeKey).tokenBucket := by
  cases hstate : sys.manager.states.get? scopeKey with
  | none =>
    unfold ScopeManager.getScopeState
    rw [hstate, hfit.config]
    exact fits_new
  | some state =>
    rw [getScopeState_of_get? hstate]
    exact (hfit.buckets scopeKey state hstate).1

theorem ScopesFit.lastRefill_le (hfit : ScopesFit limits sys) (ht : sys.clock ≤ t) :
    (sys.manager.getScopeState t scopeKey).tokenBucket.lastRefill ≤ t := by
  cases hstate : sys.manager.states.get? scopeKey with
  | none =>
    unfold ScopeManager.getScopeState
    rw [hstate]
    exact le_rfl
  | some state =>
    rw [getScopeState_of_get? hstate]
    exact (hfit.buckets scopeKey state hstate).2.trans ht

theorem ScopesFit.step (hfit : ScopesFit limits sys) (hst : (scopeRuns limits).step sys call sys') :
    ScopesFit limits sys' := by
  obtain ⟨hclock, rfl⟩ := scopeRuns_step_iff.mp hst
  refine ⟨(config_perform _).trans hfit.config, fun key state hstate => ?_⟩
  rcases bucketMove_scope sys call key with ⟨hnone, _⟩ | ⟨state', hstate', hmove⟩
  · exact absurd (hnone.symm.trans hstate) nofun
  · obtain rfl : state' = state := Option.some.inj (hstate'.symm.trans hstate)
    exact hfit.bucket.move (hfit.lastRefill_le hclock) hmove

def tokensAt (scopeKey : String) (sys : ScopeSystem) (t : Timestamp) : ℚ :=
  ((sys.manager.getScopeState t scopeKey).tokenBucket.refill t).tokens

theorem ScopesFit.tokensAt_of_none (hfit : ScopesFit limits sys)
    (hnone : sys.manager.states.get? scopeKey = none) :
    tokensAt scopeKey sys t = limits.spawnRateLimit.burst := by
  unfold tokensAt ScopeManager.getScopeState
  rw [hnone, hfit.config]
  simp [new, refill]

theorem tokensAt_of_some {state : ScopeState} (hstate : sys.manager.states.get? scopeKey = some state) :
    tokensAt scopeKey sys t = (state.tokenBucket.refill t).tokens := by
  unfold tokensAt
  rw [getScopeState_of_get? hstate]

/-- The tokens of a scope are an allowance. -/
def scopeAllowance (limits : AgentTreeLimits) (scopeKey : String) :
    Allowance (scopeRuns limits) (allowedIn scopeKey) ScopeCall.now
      (limits.spawnRateLimit.burst : ℚ) limits.spawnRateLimit.tokensPerMs where
  met := ScopesFit limits
  clock := ScopeSystem.clock
  credit := tokensAt scopeKey
  rate_nonneg := tokensPerMs_nonneg _
  init := by
    intro sys hsys
    refine ⟨by rw [hsys]; rfl, fun key state hstate => ?_⟩
    rw [hsys] at hstate
    cases hstate
  keeps _ _ _ hfit hst := hfit.step hst
  advances := by
    intro sys call sys' _ hst
    obtain ⟨hclock, rfl⟩ := scopeRuns_step_iff.mp hst
    exact ⟨hclock, rfl⟩
  credit_le _ _ hfit := hfit.bucket.refill_le
  credit_nonneg _ _ hfit ht := hfit.bucket.refill_nonneg (hfit.lastRefill_le ht)
  grows := by
    intro sys t u hfit _ htu
    cases hstate : sys.manager.states.get? scopeKey with
    | none =>
      have hgrowth := mul_nonneg (tokensPerMs_nonneg limits.spawnRateLimit)
        (sub_nonneg.mpr (Nat.cast_le (α := ℚ).mpr htu))
      rw [hfit.tokensAt_of_none hstate, hfit.tokensAt_of_none hstate]
      exact le_add_of_nonneg_right hgrowth
    | some state =>
      rw [tokensAt_of_some hstate, tokensAt_of_some hstate]
      exact (hfit.buckets scopeKey state hstate).1.refill_grows htu
  pays := by
    intro sys call sys' hfit hst
    have hfit' := hfit.step hst
    obtain ⟨hclock, rfl⟩ := scopeRuns_step_iff.mp hst
    rcases bucketMove_scope sys call scopeKey with ⟨hnone', hnone, hallowed⟩ | ⟨state, hstate, hmove⟩
    · rw [hfit'.tokensAt_of_none hnone', hfit.tokensAt_of_none hnone, hallowed, add_zero]
    · rw [tokensAt_of_some hstate]
      exact (hfit.bucket.pays hmove).le

end scope

section window

variable {limits : AgentTreeLimits} {sys : ScopeSystem} {h : History ScopeSystem ScopeCall}
  {scopeKey : String}

theorem spentDuring_allowedIn_eq_natCast (scopeKey : String) (window : Finset ℕ)
    (h : History ScopeSystem ScopeCall) :
    ∃ n : ℕ, spentDuring (allowedIn scopeKey) ScopeCall.now window h = n := by
  induction h using List.reverseRecOn with
  | nil => exact ⟨0, by simp⟩
  | append_singleton h p ih =>
    obtain ⟨n, hn⟩ := ih
    have hone : ∃ n : ℕ, allowedIn scopeKey p.1 p.2 = n := by
      unfold allowedIn
      cases p.2.op with
      | tryConsumeToken key =>
        dsimp only
        split_ifs
        · exact ⟨1, Nat.cast_one.symm⟩
        · exact ⟨0, Nat.cast_zero.symm⟩
      | registerAgent key agentId => exact ⟨0, Nat.cast_zero.symm⟩
      | unregisterAgent key agentId => exact ⟨0, Nat.cast_zero.symm⟩
      | getRemainingTokens key => exact ⟨0, Nat.cast_zero.symm⟩
    obtain ⟨one, hone⟩ := hone
    rw [spentDuring_snoc, hn, hone]
    split_ifs
    · exact ⟨n + one, (Nat.cast_add _ _).symm⟩
    · exact ⟨n, add_zero _⟩

theorem tokensPerMs_mul_windowMs {limit : SpawnRateLimit} (hwindow : 0 < limit.windowSeconds) :
    limit.tokensPerMs * limit.windowMs = limit.maxSpawnsPerWindow := by
  have hne : (limit.windowSeconds : ℚ) * 1000 ≠ 0 := by
    have hpos : (0 : ℚ) < limit.windowSeconds := Nat.cast_pos.mpr hwindow
    positivity
  unfold tokensPerMs windowMs
  push_cast
  exact div_mul_cancel₀ _ hne

theorem spentDuring_window_le (hwindow : 0 < limits.spawnRateLimit.windowSeconds)
    (hburst : limits.spawnRateLimit.burst * limits.spawnRateLimit.windowMs <
      limits.spawnRateLimit.maxSpawnsPerWindow + limits.spawnRateLimit.windowMs)
    (hrun : (scopeRuns limits).Run h sys) (t : ℕ) :
    spentDuring (allowedIn scopeKey) ScopeCall.now
      (Finset.Ico t (t + limits.spawnRateLimit.windowMs)) h ≤
        limits.spawnRateLimit.maxSpawnsPerWindow := by
  have hpos : 0 < limits.spawnRateLimit.windowMs := Nat.mul_pos hwindow (by decide)
  obtain ⟨w, hw⟩ : ∃ w, limits.spawnRateLimit.windowMs = w + 1 :=
    ⟨_, (Nat.succ_pred_eq_of_pos hpos).symm⟩
  have hsame : Finset.Ico t (t + limits.spawnRateLimit.windowMs) = Finset.Icc t (t + w) := by
    ext i
    simp only [Finset.mem_Ico, Finset.mem_Icc]
    omega
  have hmax := tokensPerMs_mul_windowMs hwindow
  have hspent := (scopeAllowance limits scopeKey).spentDuring_le hrun (Nat.le_add_right t w)
  obtain ⟨n, hn⟩ := spentDuring_allowedIn_eq_natCast scopeKey (Finset.Icc t (t + w)) h
  have hburst' : (limits.spawnRateLimit.burst : ℚ) * (w + 1) <
      limits.spawnRateLimit.maxSpawnsPerWindow + (w + 1) := by
    rw [hw] at hburst
    exact_mod_cast hburst
  rw [hw] at hmax
  push_cast at hmax hspent
  have hless : (limits.spawnRateLimit.burst : ℚ) - limits.spawnRateLimit.tokensPerMs < 1 := by
    have hw' : (0 : ℚ) < w + 1 := by positivity
    rw [← sub_neg, ← mul_lt_mul_iff_left₀ hw']
    linarith
  rw [hsame, hn]
  rw [hn] at hspent
  have hn' : (n : ℚ) < limits.spawnRateLimit.maxSpawnsPerWindow + 1 := by
    linarith
  exact_mod_cast Nat.lt_succ_iff.mp (by exact_mod_cast hn')

end window

section exceeding

def due (limit : SpawnRateLimit) (k : ℕ) : ℕ :=
  ((k + 1 - limit.burst) * limit.windowMs + limit.maxSpawnsPerWindow - 1) / limit.maxSpawnsPerWindow

variable {limit : SpawnRateLimit} {limits : AgentTreeLimits} {sys : ScopeSystem} {k : ℕ}

theorem due_mono (limit : SpawnRateLimit) (k : ℕ) : due limit k ≤ due limit (k + 1) := by
  have hmore : (k + 1 - limit.burst) * limit.windowMs ≤ (k + 1 + 1 - limit.burst) * limit.windowMs :=
    Nat.mul_le_mul_right _ (by omega)
  unfold due
  exact Nat.div_le_div_right (by omega)

theorem due_eq_zero (hk : k < limit.burst) : due limit k = 0 := by
  have hnone : k + 1 - limit.burst = 0 := by omega
  unfold due
  rw [hnone, Nat.zero_mul, Nat.zero_add]
  rcases Nat.eq_zero_or_pos limit.maxSpawnsPerWindow with hzero | hpos
  · rw [hzero]
  · exact Nat.div_eq_of_lt (Nat.sub_lt hpos Nat.one_pos)

theorem due_bounds (hmax : 0 < limit.maxSpawnsPerWindow) (hk : limit.burst ≤ k) :
    ((k : ℚ) + 1 - limit.burst) * limit.windowMs ≤ due limit k * limit.maxSpawnsPerWindow ∧
    (due limit k : ℚ) * limit.maxSpawnsPerWindow <
      ((k : ℚ) + 1 - limit.burst) * limit.windowMs + limit.maxSpawnsPerWindow := by
  obtain ⟨n, hn⟩ : ∃ n, n = (k + 1 - limit.burst) * limit.windowMs := ⟨_, rfl⟩
  have hn' : ((k : ℚ) + 1 - limit.burst) * limit.windowMs = n := by
    rw [hn, Nat.cast_mul, Nat.cast_sub (by omega), Nat.cast_add, Nat.cast_one]
  have hlower := Nat.div_mul_le_self (n + limit.maxSpawnsPerWindow - 1) limit.maxSpawnsPerWindow
  have hupper := Nat.lt_div_mul_add (a := n + limit.maxSpawnsPerWindow - 1) hmax
  unfold due
  rw [hn', ← hn]
  constructor
  · exact_mod_cast (by omega : n ≤
      (n + limit.maxSpawnsPerWindow - 1) / limit.maxSpawnsPerWindow * limit.maxSpawnsPerWindow)
  · exact_mod_cast (by omega :
      (n + limit.maxSpawnsPerWindow - 1) / limit.maxSpawnsPerWindow * limit.maxSpawnsPerWindow <
        n + limit.maxSpawnsPerWindow)

/-- When a burst is more than the growth of one instant makes up for, a spawn is due before the window
ends and while the bucket is not full again. -/
structure DueInWindow (limit : SpawnRateLimit) (k : ℕ) : Prop where
  available : 1 ≤ (limit.burst : ℚ) + due limit k * limit.tokensPerMs - k
  notFull : (due limit k : ℚ) * limit.tokensPerMs ≤ k
  inWindow : due limit k < limit.windowMs

theorem dueInWindow (hwindow : 0 < limit.windowSeconds)
    (hburst : limit.maxSpawnsPerWindow + limit.windowMs ≤ limit.burst * limit.windowMs)
    (hk : k ≤ limit.maxSpawnsPerWindow) : DueInWindow limit k := by
  have hpos : 0 < limit.windowMs := Nat.mul_pos hwindow (by decide)
  have hpos' : (0 : ℚ) < limit.windowMs := Nat.cast_pos.mpr hpos
  have hrate := tokensPerMs_mul_windowMs hwindow
  have hburst' : (limit.maxSpawnsPerWindow : ℚ) + limit.windowMs ≤ limit.burst * limit.windowMs := by
    exact_mod_cast hburst
  rcases Nat.lt_or_ge k limit.burst with hless | hmore
  · have hless' : (k : ℚ) + 1 ≤ limit.burst := by exact_mod_cast hless
    constructor
    · rw [due_eq_zero hless, Nat.cast_zero, zero_mul]
      linarith
    · rw [due_eq_zero hless, Nat.cast_zero, zero_mul]
      exact Nat.cast_nonneg k
    · rw [due_eq_zero hless]
      exact hpos
  · have hmax : 0 < limit.maxSpawnsPerWindow := by
      rcases Nat.eq_zero_or_pos limit.burst with hzero | hpos
      · rw [hzero, Nat.zero_mul] at hburst
        omega
      · omega
    have hmax' : (0 : ℚ) < limit.maxSpawnsPerWindow := Nat.cast_pos.mpr hmax
    have hk' : (k : ℚ) ≤ limit.maxSpawnsPerWindow := Nat.cast_le.mpr hk
    obtain ⟨hlower, hupper⟩ := due_bounds hmax hmore
    have hscaled : (due limit k : ℚ) * limit.tokensPerMs * limit.windowMs =
        due limit k * limit.maxSpawnsPerWindow := by
      rw [mul_assoc, hrate]
    constructor
    · have henough : (k : ℚ) + 1 - limit.burst ≤ due limit k * limit.tokensPerMs :=
        le_of_mul_le_mul_right (hlower.trans_eq hscaled.symm) hpos'
      linarith
    · refine le_of_mul_le_mul_right ?_ hpos'
      rw [hscaled]
      linarith
    · have hearly : (due limit k : ℚ) * limit.maxSpawnsPerWindow <
          limit.windowMs * limit.maxSpawnsPerWindow := by
        have hscale := mul_le_mul_of_nonneg_right hk' hpos'.le
        linarith
      exact_mod_cast lt_of_mul_lt_mul_right hearly hmax'.le

theorem tryConsumeToken_of_tokensAt {scopeKey : String} {t : Timestamp}
    (hfit : ScopesFit limits sys) (hclock : sys.clock ≤ t) (htokens : 1 ≤ tokensAt scopeKey sys t) :
    ∃ sys', (scopeRuns limits).step sys ⟨t, .tryConsumeToken scopeKey⟩ sys' ∧ sys'.clock = t ∧
      allowedIn scopeKey sys ⟨t, .tryConsumeToken scopeKey⟩ = 1 ∧
      ∀ u, tokensAt scopeKey sys' u = min (limits.spawnRateLimit.burst : ℚ)
        (tokensAt scopeKey sys t - 1 + ((u : ℚ) - (t : ℚ)) * limits.spawnRateLimit.tokensPerMs) := by
  obtain ⟨sys', hsys'⟩ : ∃ sys' : ScopeSystem,
      sys' = ⟨(ScopeOp.tryConsumeToken scopeKey).perform sys.manager t, t⟩ := ⟨_, rfl⟩
  have hst : (scopeRuns limits).step sys ⟨t, .tryConsumeToken scopeKey⟩ sys' :=
    scopeRuns_step_iff.mpr ⟨hclock, hsys'⟩
  have hconsume := consume_of_le htokens
  have hstate : sys'.manager.states.get? scopeKey = some
      ⟨(sys.manager.getScopeState t scopeKey).activeAgents,
        ((sys.manager.getScopeState t scopeKey).tokenBucket.consume t 1).2⟩ := by
    rw [hsys']
    exact get?_set_self _ _ _
  refine ⟨sys', hst, by rw [hsys'], ?_, fun u => ?_⟩
  · rw [allowedIn_tryConsumeToken, hconsume]
    rfl
  · have hbucket := ((hfit.step hst).buckets scopeKey _ hstate).1
    rw [tokensAt_of_some hstate, hbucket.tokens_refill, hconsume]
    rfl

theorem exists_spawns (hwindow : 0 < limits.spawnRateLimit.windowSeconds)
    (hburst : limits.spawnRateLimit.maxSpawnsPerWindow + limits.spawnRateLimit.windowMs ≤
      limits.spawnRateLimit.burst * limits.spawnRateLimit.windowMs) (scopeKey : String) (k : ℕ)
    (hk : k ≤ limits.spawnRateLimit.maxSpawnsPerWindow + 1) :
    ∃ h sys, (scopeRuns limits).Run h sys ∧ sys.clock ≤ due limits.spawnRateLimit k ∧
      (∀ t, tokensAt scopeKey sys t = min (limits.spawnRateLimit.burst : ℚ)
        (limits.spawnRateLimit.burst + t * limits.spawnRateLimit.tokensPerMs - k)) ∧
      spentDuring (allowedIn scopeKey) ScopeCall.now
        (Finset.Ico 0 limits.spawnRateLimit.windowMs) h = k := by
  induction k with
  | zero =>
    have hstart : (scopeRuns limits).Run [] ⟨.new limits, 0⟩ := .start rfl
    refine ⟨[], _, hstart, Nat.zero_le _, fun t => ?_, by simp⟩
    have hgrowth := mul_nonneg (Nat.cast_nonneg (α := ℚ) t) (tokensPerMs_nonneg limits.spawnRateLimit)
    rw [((scopeAllowance limits scopeKey).met_of_run hstart).tokensAt_of_none rfl, Nat.cast_zero,
      sub_zero, min_eq_left (le_add_of_nonneg_right hgrowth)]
  | succ k ih =>
    obtain ⟨h, sys, hrun, hclock, htokens, hspent⟩ := ih (by omega)
    have hdue := dueInWindow hwindow hburst (k := k) (by omega)
    have hfit := (scopeAllowance limits scopeKey).met_of_run hrun
    have hfound : tokensAt scopeKey sys (due limits.spawnRateLimit k) = limits.spawnRateLimit.burst +
          due limits.spawnRateLimit k * limits.spawnRateLimit.tokensPerMs - k := by
      rw [htokens]
      refine min_eq_right ?_
      have hnotFull := hdue.notFull
      linarith
    obtain ⟨sys', hst, hclock', hallowed, htokens'⟩ :=
      tryConsumeToken_of_tokensAt hfit hclock (hfound.symm ▸ hdue.available)
    refine ⟨_, sys', hrun.snoc hst, hclock'.trans_le (due_mono _ k), fun t => ?_, ?_⟩
    · rw [htokens', hfound]
      congr 1
      push_cast
      ring
    · rw [spentDuring_snoc, hspent, hallowed,
        if_pos (Finset.mem_Ico.mpr ⟨Nat.zero_le _, hdue.inWindow⟩), Nat.cast_add, Nat.cast_one]

end exceeding

section controller

variable {limits : AgentTreeLimits} {clock : Timestamp}

end controller

section laws

/-- The bounds on the tokens of buckets and scopes, and on what is spawned in an interval. -/
structure RateLaws (limits : AgentTreeLimits) : Prop where
  bucket : ∀ h b, (bucketRuns limits.spawnRateLimit).Run h b →
    (0 ≤ b.tokens ∧ b.tokens ≤ limits.spawnRateLimit.burst) ∧
    ∀ t d : ℕ, spentDuring consumed BucketCall.now (Finset.Icc t (t + d)) h ≤
      limits.spawnRateLimit.burst + d * (limits.spawnRateLimit.maxSpawnsPerWindow /
        (limits.spawnRateLimit.windowSeconds * 1000))
  scope : ∀ h sys, (scopeRuns limits).Run h sys → ∀ scopeKey,
    (∀ state, sys.manager.states.get? scopeKey = some state →
      0 ≤ state.tokenBucket.tokens ∧ state.tokenBucket.tokens ≤ limits.spawnRateLimit.burst) ∧
    ∀ t d : ℕ, spentDuring (allowedIn scopeKey) ScopeCall.now (Finset.Icc t (t + d)) h ≤
      limits.spawnRateLimit.burst + d * (limits.spawnRateLimit.maxSpawnsPerWindow /
        (limits.spawnRateLimit.windowSeconds * 1000))
  window : ∀ h sys, (scopeRuns limits).Run h sys → ∀ scopeKey, ∀ t : ℕ,
    spentDuring (allowedIn scopeKey) ScopeCall.now
      (Finset.Ico t (t + limits.spawnRateLimit.windowSeconds * 1000)) h ≤
        limits.spawnRateLimit.maxSpawnsPerWindow

variable {limits : AgentTreeLimits}

theorem spentDuring_interval_le {σ α : Type} {M : Machine σ α} {spent : σ → α → ℚ}
    {instant : α → ℕ} {h : History σ α} {s : σ}
    (A : Allowance M spent instant (limits.spawnRateLimit.burst : ℚ)
      limits.spawnRateLimit.tokensPerMs) (hrun : M.Run h s) (t d : ℕ) :
    spentDuring spent instant (Finset.Icc t (t + d)) h ≤
      limits.spawnRateLimit.burst + d * (limits.spawnRateLimit.maxSpawnsPerWindow /
        (limits.spawnRateLimit.windowSeconds * 1000)) := by
  refine (A.spentDuring_le hrun (Nat.le_add_right t d)).trans_eq ?_
  unfold tokensPerMs
  push_cast
  ring

/-- Tokens and spawns keep to the burst and the rate in every run; and no window has more spawns than
the limit exactly when the burst is at most the tokens of one instant, rounded up. -/
theorem rateLaws_iff (limits : AgentTreeLimits) (hwindow : 0 < limits.spawnRateLimit.windowSeconds) :
    RateLaws limits ↔ limits.spawnRateLimit.burst * (limits.spawnRateLimit.windowSeconds * 1000) <
        limits.spawnRateLimit.maxSpawnsPerWindow + limits.spawnRateLimit.windowSeconds * 1000 := by
  constructor
  · intro hlaws
    refine Nat.lt_of_not_le fun hburst => ?_
    obtain ⟨h, sys, hrun, _, _, hspent⟩ := exists_spawns hwindow hburst "global" _ le_rfl
    have hfew := hlaws.window h sys hrun "global" 0
    rw [Nat.zero_add] at hfew
    exact absurd (hspent.symm.trans_le hfew) (by push_cast; linarith)
  · intro hburst
    constructor
    · intro h b hrun
      have hfits := (bucketAllowance limits.spawnRateLimit).met_of_run hrun
      exact ⟨⟨hfits.nonneg, hfits.le⟩, spentDuring_interval_le (bucketAllowance _) hrun⟩
    · intro h sys hrun scopeKey
      have hfit := (scopeAllowance limits scopeKey).met_of_run hrun
      exact ⟨fun state hstate => ⟨(hfit.buckets _ _ hstate).1.nonneg, (hfit.buckets _ _ hstate).1.le⟩,
        spentDuring_interval_le (scopeAllowance limits scopeKey) hrun⟩
    · exact fun h sys hrun scopeKey t => spentDuring_window_le hwindow hburst hrun t

/-- The limits that are in force when none are given. -/
theorem default_limits_exceed_window :
    ¬∀ limits : AgentTreeLimits, 0 < limits.spawnRateLimit.windowSeconds → RateLaws limits := by
  intro hlaws
  have hwindow : 0 < DEFAULT_AGENT_TREE_LIMITS.spawnRateLimit.windowSeconds := by decide
  obtain ⟨h, sys, hrun, _, _, hspent⟩ := exists_spawns hwindow (by decide) "global" _ le_rfl
  have hfew := (hlaws _ hwindow).window h sys hrun "global" 0
  rw [Nat.zero_add] at hfew
  exact absurd (hspent.symm.trans_le hfew) (by push_cast; linarith)

/-- Limits without bursts. -/
theorem single_spawns_keep_window :
    RateLaws { DEFAULT_AGENT_TREE_LIMITS with
      spawnRateLimit := { windowSeconds := 60, maxSpawnsPerWindow := 150, burst := 1 } } :=
  (rateLaws_iff _ (by decide)).mpr (by decide)

end laws

end ShipyardCp.Properties
