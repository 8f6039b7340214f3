import Mathlib.Algebra.Order.Ring.Rat
import Mathlib.Data.Finset.Card
import ShipyardCp.Lib.InsertionMap
import ShipyardCp.Types.Base

/-! The limits under which agents spawn others: how many are active at once in a scope, and how many
spawn in a window, by a token bucket. -/

namespace ShipyardCp.Domain

open Types Lib

inductive SpawnControlScope where
  | job | worker | global
  deriving DecidableEq

/-- What becomes of a request over a limit. -/
inductive OverflowAction where
  | queue | reject

structure OverflowPolicy where
  onConcurrentLimitExceeded : OverflowAction
  onRateLimitExceeded : OverflowAction

structure SpawnRateLimit where
  windowSeconds : Nat
  maxSpawnsPerWindow : Nat
  burst : Nat

namespace SpawnRateLimit

def windowMs (limit : SpawnRateLimit) : Nat := limit.windowSeconds * 1000

def tokensPerMs (limit : SpawnRateLimit) : ℚ :=
  limit.maxSpawnsPerWindow / (limit.windowSeconds * 1000)

end SpawnRateLimit

structure AgentTreeLimits where
  enabled : Bool
  scope : SpawnControlScope
  maxConcurrentAgents : Nat
  spawnRateLimit : SpawnRateLimit
  overflowPolicy : OverflowPolicy
  maxQueueWaitSeconds : Nat

def DEFAULT_AGENT_TREE_LIMITS : AgentTreeLimits where
  enabled := true
  scope := .job
  maxConcurrentAgents := 300
  spawnRateLimit := { windowSeconds := 60, maxSpawnsPerWindow := 150, burst := 150 }
  overflowPolicy := { onConcurrentLimitExceeded := .queue, onRateLimitExceeded := .queue }
  maxQueueWaitSeconds := 60

inductive SpawnReasonCode where
  | allowed | concurrentLimitExceeded | rateLimitExceeded | disabled
  deriving DecidableEq

inductive SpawnDecision where
  | allow | queue | reject
  deriving DecidableEq

structure SpawnRequest where
  spawnRequestId : String
  parentJobId : String
  parentAgentId : String
  scope : SpawnControlScope
  requestedAt : Timestamp
  activeCount : Nat
  remainingTokens : ℚ
  queueExpiresAt : Option Timestamp
  deriving DecidableEq

structure SpawnResult where
  decision : SpawnDecision
  reasonCode : SpawnReasonCode
  queueWaitSeconds : Option Nat
  request : SpawnRequest

/-- Tokens, refilled at a rate for each millisecond. -/
structure TokenBucket where
  tokens : ℚ
  lastRefill : Timestamp
  maxTokens : ℚ
  refillRate : ℚ

namespace TokenBucket

def new (now : Timestamp) (maxTokens refillRate : ℚ) : TokenBucket :=
  ⟨maxTokens, now, maxTokens, refillRate⟩

def refill (bucket : TokenBucket) (now : Timestamp) : TokenBucket :=
  let elapsed : ℚ := (now : ℤ) - (bucket.lastRefill : ℤ)
  { bucket with
    tokens := min bucket.maxTokens (bucket.tokens + elapsed * bucket.refillRate)
    lastRefill := now }

def consume (bucket : TokenBucket) (now : Timestamp) (count : ℚ) : Bool × TokenBucket :=
  let refilled := bucket.refill now
  if refilled.tokens ≥ count then
    (true, { refilled with tokens := refilled.tokens - count })
  else (false, refilled)

def peek (bucket : TokenBucket) (now : Timestamp) : ℚ × TokenBucket :=
  let refilled := bucket.refill now
  (refilled.tokens, refilled)

def getTokens (bucket : TokenBucket) (now : Timestamp) : ℚ × TokenBucket :=
  let refilled := bucket.refill now
  (refilled.tokens, refilled)

theorem refill_refill (bucket : TokenBucket) (now : Timestamp) :
    (bucket.refill now).refill now = bucket.refill now := by
  simp [refill]

theorem consume_of_le {bucket : TokenBucket} {now : Timestamp} {count : ℚ}
    (htokens : count ≤ (bucket.refill now).tokens) :
    bucket.consume now count =
      (true, { bucket.refill now with tokens := (bucket.refill now).tokens - count }) :=
  if_pos htokens

theorem consume_of_lt {bucket : TokenBucket} {now : Timestamp} {count : ℚ}
    (htokens : (bucket.refill now).tokens < count) :
    bucket.consume now count = (false, bucket.refill now) :=
  if_neg (not_le.mpr htokens)

end TokenBucket

structure ScopeState where
  activeAgents : Finset String
  tokenBucket : TokenBucket

/-- Scopes under their keys. -/
structure ScopeManager where
  config : AgentTreeLimits
  states : InsertionMap String ScopeState

namespace ScopeManager

def new (config : AgentTreeLimits) : ScopeManager := ⟨config, .empty⟩

def getScopeState (m : ScopeManager) (now : Timestamp) (scopeKey : String) : ScopeState :=
  match m.states.get? scopeKey with
  | some state => state
  | none =>
    let limit := m.config.spawnRateLimit
    let tokensPerMs : ℚ := limit.maxSpawnsPerWindow / (limit.windowSeconds * 1000)
    ⟨∅, .new now limit.burst tokensPerMs⟩

def putScopeState (m : ScopeManager) (scopeKey : String) (state : ScopeState) : ScopeManager :=
  { m with states := m.states.set scopeKey state }

def activeAgents (m : ScopeManager) (scopeKey : String) : Finset String :=
  match m.states.get? scopeKey with
  | some state => state.activeAgents
  | none => ∅

def getActiveCount (m : ScopeManager) (scopeKey : String) : Nat := (m.activeAgents scopeKey).card

def registerAgent (m : ScopeManager) (now : Timestamp) (scopeKey agentId : String) : ScopeManager :=
  let state := m.getScopeState now scopeKey
  m.putScopeState scopeKey { state with activeAgents := insert agentId state.activeAgents }

def unregisterAgent (m : ScopeManager) (scopeKey agentId : String) : ScopeManager :=
  match m.states.get? scopeKey with
  | some state =>
    m.putScopeState scopeKey { state with activeAgents := state.activeAgents.erase agentId }
  | none => m

def getRemainingTokens (m : ScopeManager) (now : Timestamp) (scopeKey : String) : ℚ × ScopeManager :=
  let state := m.getScopeState now scopeKey
  let (tokens, tokenBucket) := state.tokenBucket.getTokens now
  (tokens, m.putScopeState scopeKey { state with tokenBucket })

def tryConsumeToken (m : ScopeManager) (now : Timestamp) (scopeKey : String) : Bool × ScopeManager :=
  let state := m.getScopeState now scopeKey
  let (consumed, tokenBucket) := state.tokenBucket.consume now 1
  (consumed, m.putScopeState scopeKey { state with tokenBucket })

def buildScopeKey (scope : SpawnControlScope) (jobId workerId : Option String) : String :=
  match scope with
  | .job => "job:" ++ jobId.getD "unknown"
  | .worker => "worker:" ++ workerId.getD "unknown"
  | .global => "global"

section lemmas

variable (m : ScopeManager) (now : Timestamp) (scopeKey agentId key : String)

theorem activeAgents_putScopeState (state : ScopeState) :
    (m.putScopeState scopeKey state).activeAgents key =
      if key = scopeKey then state.activeAgents else m.activeAgents key := by
  unfold activeAgents putScopeState
  rw [InsertionMap.get?_set]
  split_ifs <;> rfl

@[simp] theorem activeAgents_getScopeState :
    (m.getScopeState now scopeKey).activeAgents = m.activeAgents scopeKey := by
  unfold getScopeState activeAgents
  cases m.states.get? scopeKey <;> rfl

theorem activeAgents_registerAgent : (m.registerAgent now scopeKey agentId).activeAgents key =
      if key = scopeKey then insert agentId (m.activeAgents key) else m.activeAgents key := by
  unfold registerAgent
  rw [activeAgents_putScopeState, activeAgents_getScopeState]
  split_ifs with hkey
  · rw [hkey]
  · rfl

theorem activeAgents_unregisterAgent : (m.unregisterAgent scopeKey agentId).activeAgents key =
      if key = scopeKey then (m.activeAgents key).erase agentId else m.activeAgents key := by
  unfold unregisterAgent
  cases hstate : m.states.get? scopeKey with
  | none =>
    split_ifs with hkey
    · have hnone : m.activeAgents key = ∅ := by simp [activeAgents, hkey, hstate]
      rw [hnone, Finset.erase_empty]
    · rfl
  | some state =>
    dsimp only
    rw [activeAgents_putScopeState]
    split_ifs with hkey
    · have hsome : m.activeAgents key = state.activeAgents := by simp [activeAgents, hkey, hstate]
      rw [hsome]
    · rfl

@[simp] theorem activeAgents_getRemainingTokens :
    (m.getRemainingTokens now scopeKey).2.activeAgents key = m.activeAgents key := by
  unfold getRemainingTokens
  rw [activeAgents_putScopeState, activeAgents_getScopeState]
  split_ifs with hkey
  · rw [hkey]
  · rfl

@[simp] theorem activeAgents_tryConsumeToken :
    (m.tryConsumeToken now scopeKey).2.activeAgents key = m.activeAgents key := by
  unfold tryConsumeToken
  rw [activeAgents_putScopeState, activeAgents_getScopeState]
  split_ifs with hkey
  · rw [hkey]
  · rfl

theorem getScopeState_putScopeState (state : ScopeState) :
    (m.putScopeState scopeKey state).getScopeState now scopeKey = state := by
  simp [getScopeState, putScopeState]

theorem tryConsumeToken_getRemainingTokens :
    ((m.getRemainingTokens now scopeKey).2.tryConsumeToken now scopeKey).1 = true ↔
      1 ≤ (m.getRemainingTokens now scopeKey).1 := by
  unfold getRemainingTokens tryConsumeToken
  rw [getScopeState_putScopeState]
  simp only [TokenBucket.getTokens, TokenBucket.consume, TokenBucket.refill_refill, ge_iff_le]
  split_ifs with htoken
  · exact iff_of_true rfl htoken
  · exact iff_of_false nofun htoken

end lemmas

end ScopeManager

/-- What asks for an agent to be spawned. -/
structure SpawnCall where
  spawnRequestId : String
  parentJobId : String
  parentAgentId : String
  workerId : Option String
  scope : Option SpawnControlScope

structure SpawnController where
  config : AgentTreeLimits
  scopeManager : ScopeManager

namespace SpawnController

def new (config : AgentTreeLimits) : SpawnController := ⟨config, .new config⟩

def createResult (decision : SpawnDecision) (reasonCode : SpawnReasonCode)
    (request : SpawnRequest) : SpawnResult :=
  ⟨decision, reasonCode, none, request⟩

def queueRequest (c : SpawnController) (now : Timestamp) (request : SpawnRequest)
    (reasonCode : SpawnReasonCode) : SpawnResult :=
  let queueExpiresAt := now + c.config.maxQueueWaitSeconds * 1000
  let queuedRequest := { request with queueExpiresAt := some queueExpiresAt }
  { createResult .queue reasonCode queuedRequest with queueWaitSeconds := some 0 }

def handleLimitExceeded (c : SpawnController) (action : OverflowAction)
    (reasonCode : SpawnReasonCode) (now : Timestamp) (request : SpawnRequest) : SpawnResult :=
  match action with
  | .reject => createResult .reject reasonCode request
  | .queue => c.queueRequest now request reasonCode

def handleConcurrentLimitExceeded (c : SpawnController) (now : Timestamp)
    (request : SpawnRequest) : SpawnResult :=
  c.handleLimitExceeded c.config.overflowPolicy.onConcurrentLimitExceeded
    .concurrentLimitExceeded now request

def handleRateLimitExceeded (c : SpawnController) (now : Timestamp)
    (request : SpawnRequest) : SpawnResult :=
  c.handleLimitExceeded c.config.overflowPolicy.onRateLimitExceeded .rateLimitExceeded now request

def scopeKey (c : SpawnController) (call : SpawnCall) : String :=
  ScopeManager.buildScopeKey (call.scope.getD c.config.scope) (some call.parentJobId) call.workerId

def evaluateSpawn (c : SpawnController) (now : Timestamp) (call : SpawnCall) :
    SpawnResult × SpawnController :=
  let scopeKey := c.scopeKey call
  let activeCount := c.scopeManager.getActiveCount scopeKey
  let (remainingTokens, manager) := c.scopeManager.getRemainingTokens now scopeKey
  let c' : SpawnController := { c with scopeManager := manager }
  let spawnRequest : SpawnRequest :=
    { spawnRequestId := call.spawnRequestId
      parentJobId := call.parentJobId
      parentAgentId := call.parentAgentId
      scope := call.scope.getD c.config.scope
      requestedAt := now
      activeCount
      remainingTokens
      queueExpiresAt := none }
  if !c.config.enabled then (createResult .allow .disabled spawnRequest, c')
  else if activeCount ≥ c.config.maxConcurrentAgents then
    (c'.handleConcurrentLimitExceeded now spawnRequest, c')
  else
    let (consumed, manager) := manager.tryConsumeToken now scopeKey
    let c'' : SpawnController := { c with scopeManager := manager }
    if !consumed then (c''.handleRateLimitExceeded now spawnRequest, c'')
    else (createResult .allow .allowed spawnRequest, c'')

def registerActiveAgent (c : SpawnController) (now : Timestamp) (scope : SpawnControlScope)
    (agentId : String) (jobId workerId : Option String) : SpawnController :=
  let scopeKey := ScopeManager.buildScopeKey scope jobId workerId
  { c with scopeManager := c.scopeManager.registerAgent now scopeKey agentId }

def unregisterAgent (c : SpawnController) (scope : SpawnControlScope) (agentId : String)
    (jobId workerId : Option String) : SpawnController :=
  let scopeKey := ScopeManager.buildScopeKey scope jobId workerId
  { c with scopeManager := c.scopeManager.unregisterAgent scopeKey agentId }

theorem evaluateSpawn_frame (c : SpawnController) (now : Timestamp) (call : SpawnCall) :
    (c.evaluateSpawn now call).2.config = c.config ∧
    ∀ key, (c.evaluateSpawn now call).2.scopeManager.activeAgents key =
      c.scopeManager.activeAgents key := by
  unfold evaluateSpawn
  dsimp only
  split_ifs with henabled hfull hconsumed
  · exact ⟨rfl, by simp⟩
  · exact ⟨rfl, by simp⟩
  · exact ⟨rfl, by simp⟩
  · exact ⟨rfl, by simp⟩

theorem evaluateSpawn_allow_iff {c : SpawnController} (henabled : c.config.enabled = true)
    (now : Timestamp) (call : SpawnCall) :
    (c.evaluateSpawn now call).1.decision = .allow ↔
      c.scopeManager.getActiveCount (c.scopeKey call) < c.config.maxConcurrentAgents ∧
      1 ≤ (c.scopeManager.getRemainingTokens now (c.scopeKey call)).1 := by
  have hoverflow : ∀ (c : SpawnController) action code request,
      (c.handleLimitExceeded action code now request).decision ≠ .allow := by
    intro c action code request
    cases action <;> simp [handleLimitExceeded, queueRequest, createResult]
  have htoken := c.scopeManager.tryConsumeToken_getRemainingTokens now (c.scopeKey call)
  unfold evaluateSpawn
  dsimp only
  split_ifs with hdisabled hfull hconsumed
  · simp [henabled] at hdisabled
  · exact iff_of_false (hoverflow _ _ _ _) fun h => absurd h.1 (Nat.not_lt.mpr hfull)
  · refine iff_of_false (hoverflow _ _ _ _) fun h => ?_
    simp [htoken.mpr h.2] at hconsumed
  · exact iff_of_true rfl ⟨Nat.lt_of_not_le hfull, htoken.mp (by simpa using hconsumed)⟩

end SpawnController

end ShipyardCp.Domain
