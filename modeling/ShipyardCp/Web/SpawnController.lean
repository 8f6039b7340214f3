import Mathlib.Data.Rat.Floor
import ShipyardCp.Domain.SpawnControl

/-! The spawn control of the web application: its own token bucket, which rounds, and the queue in
which requests wait for an agent to end. -/

namespace ShipyardCp.Web

open Types Lib
open Domain (SpawnControlScope AgentTreeLimits SpawnDecision SpawnRequest)
open Domain.ScopeManager

/-- Tokens, refilled at a rate for each millisecond; next to nothing counts as nothing, and nearly
full as full. -/
structure TokenBucket where
  tokens : ℚ
  lastRefill : Timestamp
  maxTokens : ℚ
  refillRate : ℚ

namespace TokenBucket

def EPSILON : ℚ := 5 / 1000

def new (now : Timestamp) (maxTokens refillRate : ℚ) : TokenBucket :=
  ⟨maxTokens, now, maxTokens, refillRate⟩

def floorTokens (tokens : ℚ) : ℚ := if tokens < EPSILON then 0 else tokens

def refill (bucket : TokenBucket) (now : Timestamp) : TokenBucket :=
  let elapsed : ℚ := (now : ℤ) - (bucket.lastRefill : ℤ)
  let tokens := floorTokens (min bucket.maxTokens (bucket.tokens + elapsed * bucket.refillRate))
  { bucket with
    tokens := if bucket.maxTokens - tokens < EPSILON then bucket.maxTokens else tokens
    lastRefill := now }

def consume (bucket : TokenBucket) (now : Timestamp) (count : ℚ) : Bool × TokenBucket :=
  let refilled := bucket.refill now
  if refilled.tokens ≥ count then
    (true, { refilled with tokens := floorTokens (refilled.tokens - count) })
  else (false, refilled)

def peek (bucket : TokenBucket) (now : Timestamp) : ℚ × TokenBucket :=
  let refilled := bucket.refill now
  (refilled.tokens, refilled)

def getTokens (bucket : TokenBucket) (now : Timestamp) : ℚ × TokenBucket :=
  let refilled := bucket.refill now
  (refilled.tokens, refilled)

section lemmas

variable {bucket : TokenBucket} {now : Timestamp} {tokens count : ℚ}

theorem EPSILON_pos : 0 < EPSILON := by
  norm_num [EPSILON]

theorem EPSILON_lt_one : EPSILON < 1 := by
  norm_num [EPSILON]

theorem floor_floorTokens : ⌊floorTokens tokens⌋₊ = ⌊tokens⌋₊ := by
  unfold floorTokens
  split_ifs with hfew
  · rw [Nat.floor_zero, Nat.floor_eq_zero.mpr (hfew.trans EPSILON_lt_one)]
  · rfl

theorem refill_le : (bucket.refill now).tokens ≤ bucket.maxTokens := by
  unfold refill
  dsimp only
  split_ifs with hfull
  · exact le_rfl
  · linarith [EPSILON_pos]

theorem consume_of_le (htokens : count ≤ (bucket.refill now).tokens) :
    bucket.consume now count = (true, { bucket.refill now with
      tokens := floorTokens ((bucket.refill now).tokens - count) }) :=
  if_pos htokens

theorem consume_of_lt (htokens : (bucket.refill now).tokens < count) :
    bucket.consume now count = (false, bucket.refill now) :=
  if_neg (not_le.mpr htokens)

theorem refill_floorTokens (hfew : tokens ≤ bucket.maxTokens - 1) (hnonneg : 0 ≤ tokens) :
    (TokenBucket.refill { bucket.refill now with tokens := floorTokens tokens } now).tokens =
      floorTokens tokens := by
  have hpos := EPSILON_pos
  have hone := EPSILON_lt_one
  have hle : floorTokens tokens ≤ bucket.maxTokens - 1 := by
    unfold floorTokens
    split_ifs
    · exact hnonneg.trans hfew
    · exact hfew
  have hmin : min bucket.maxTokens (floorTokens tokens) = floorTokens tokens :=
    min_eq_right (by linarith)
  have htwice : floorTokens (floorTokens tokens) = floorTokens tokens := by
    unfold floorTokens
    split_ifs <;> rfl
  have hgap : ¬bucket.maxTokens - floorTokens tokens < EPSILON := by linarith
  simp [refill, hmin, htwice, hgap]

end lemmas

end TokenBucket

inductive SpawnReasonCode where
  | allowed | concurrentLimitExceeded | rateLimitExceeded | agentQueueTimeout | disabled
  | invalidRequest
  deriving DecidableEq

structure SpawnResult where
  decision : SpawnDecision
  reasonCode : SpawnReasonCode
  queueWaitSeconds : Option ℚ
  request : SpawnRequest

/-- A request in a queue, with the promise that waits for the answer. The timer that was set for the
request stays with it and is never cleared. -/
structure QueuedRequest where
  request : SpawnRequest
  promise : Nat
  queuedAt : Timestamp
  deriving DecidableEq

/-- A call of the function that resolves a promise. -/
structure Resolution where
  promise : Nat
  result : SpawnResult

def Resolution.allows (r : Resolution) : Bool := r.result.decision = .allow

/-- One more spawn counted, as allowed or as rejected for a reason, for the request of a promise. -/
structure SpawnCount where
  promise : Nat
  scope : SpawnControlScope
  reasonCode : SpawnReasonCode

def Resolution.count (r : Resolution) : SpawnCount :=
  ⟨r.promise, r.result.request.scope, r.result.reasonCode⟩

structure SpawnMetrics where
  spawnCounts : List SpawnCount
  activeCounts : InsertionMap SpawnControlScope Nat
  queueWaitTimes : List ℚ

namespace SpawnMetrics

def empty : SpawnMetrics := ⟨[], .empty, []⟩

def incrementSpawnAllowed (m : SpawnMetrics) (promise : Nat) (scope : SpawnControlScope) :
    SpawnMetrics :=
  { m with spawnCounts := m.spawnCounts ++ [⟨promise, scope, .allowed⟩] }

def incrementSpawnRejected (m : SpawnMetrics) (promise : Nat) (scope : SpawnControlScope)
    (reasonCode : SpawnReasonCode) : SpawnMetrics :=
  { m with spawnCounts := m.spawnCounts ++ [⟨promise, scope, reasonCode⟩] }

def setActiveCount (m : SpawnMetrics) (scope : SpawnControlScope) (count : Nat) : SpawnMetrics :=
  { m with activeCounts := m.activeCounts.set scope count }

def recordQueueWaitTime (m : SpawnMetrics) (seconds : ℚ) : SpawnMetrics :=
  { m with queueWaitTimes := m.queueWaitTimes ++ [seconds] }

def getSpawnAllowed (m : SpawnMetrics) (scope : SpawnControlScope) : Nat :=
  m.spawnCounts.countP fun count => count.scope = scope ∧ count.reasonCode = .allowed

def getSpawnRejected (m : SpawnMetrics) (scope : SpawnControlScope)
    (reasonCode : SpawnReasonCode) : Nat :=
  m.spawnCounts.countP fun count => count.scope = scope ∧ count.reasonCode = reasonCode

end SpawnMetrics

structure ScopeState where
  activeAgents : Finset String
  tokenBucket : TokenBucket
  queue : List QueuedRequest

/-- Scopes under their keys. -/
structure ScopeManager where
  config : AgentTreeLimits
  states : InsertionMap String ScopeState

namespace ScopeManager

def new (config : AgentTreeLimits) : ScopeManager := ⟨config, .empty⟩

def getScopeState (m : ScopeManager) (now : Timestamp) (scopeKey : String) : ScopeState :=
  match m.states.get? scopeKey with
  | some state => state
  | none =>
    let limit := m.config.spawnRateLimit
    let tokensPerMs : ℚ := limit.maxSpawnsPerWindow / (limit.windowSeconds * 1000)
    ⟨∅, .new now limit.burst tokensPerMs, []⟩

def putScopeState (m : ScopeManager) (scopeKey : String) (state : ScopeState) : ScopeManager :=
  { m with states := m.states.set scopeKey state }

def activeAgents (m : ScopeManager) (scopeKey : String) : Finset String :=
  match m.states.get? scopeKey with
  | some state => state.activeAgents
  | none => ∅

def getActiveCount (m : ScopeManager) (scopeKey : String) : Nat := (m.activeAgents scopeKey).card

def queue (m : ScopeManager) (scopeKey : String) : List QueuedRequest :=
  match m.states.get? scopeKey with
  | some state => state.queue
  | none => []

def registerAgent (m : ScopeManager) (now : Timestamp) (scopeKey agentId : String) : ScopeManager :=
  let state := m.getScopeState now scopeKey
  m.putScopeState scopeKey { state with activeAgents := insert agentId state.activeAgents }

def unregisterAgent (m : ScopeManager) (scopeKey agentId : String) : ScopeManager :=
  match m.states.get? scopeKey with
  | some state =>
    m.putScopeState scopeKey { state with activeAgents := state.activeAgents.erase agentId }
  | none => m

def addToQueue (m : ScopeManager) (now : Timestamp) (scopeKey : String) (entry : QueuedRequest) :
    ScopeManager :=
  let state := m.getScopeState now scopeKey
  m.putScopeState scopeKey { state with queue := state.queue ++ [entry] }

def removeFromQueue (m : ScopeManager) (scopeKey spawnRequestId : String) : ScopeManager :=
  match m.states.get? scopeKey with
  | some state =>
    let queue := state.queue.eraseP fun entry => entry.request.spawnRequestId = spawnRequestId
    m.putScopeState scopeKey { state with queue }
  | none => m

section lemmas

variable (m : ScopeManager) (now : Timestamp) (scopeKey agentId key : String)

theorem activeAgents_putScopeState (state : ScopeState) :
    (m.putScopeState scopeKey state).activeAgents key =
      if key = scopeKey then state.activeAgents else m.activeAgents key := by
  unfold activeAgents putScopeState
  rw [InsertionMap.get?_set]
  split_ifs <;> rfl

theorem queue_putScopeState (state : ScopeState) : (m.putScopeState scopeKey state).queue key =
      if key = scopeKey then state.queue else m.queue key := by
  unfold queue putScopeState
  rw [InsertionMap.get?_set]
  split_ifs <;> rfl

@[simp] theorem activeAgents_getScopeState :
    (m.getScopeState now scopeKey).activeAgents = m.activeAgents scopeKey := by
  unfold getScopeState activeAgents
  cases m.states.get? scopeKey <;> rfl

@[simp] theorem queue_getScopeState : (m.getScopeState now scopeKey).queue = m.queue scopeKey := by
  unfold getScopeState queue
  cases m.states.get? scopeKey <;> rfl

theorem activeAgents_putScopeState_of_eq {state : ScopeState}
    (hagents : state.activeAgents = m.activeAgents scopeKey) :
    (m.putScopeState scopeKey state).activeAgents key = m.activeAgents key := by
  rw [activeAgents_putScopeState, hagents]
  split_ifs with hkey
  · rw [hkey]
  · rfl

theorem queue_putScopeState_of_eq {state : ScopeState} (hqueue : state.queue = m.queue scopeKey) :
    (m.putScopeState scopeKey state).queue key = m.queue key := by
  rw [queue_putScopeState, hqueue]
  split_ifs with hkey
  · rw [hkey]
  · rfl

theorem activeAgents_registerAgent : (m.registerAgent now scopeKey agentId).activeAgents key =
      if key = scopeKey then insert agentId (m.activeAgents key) else m.activeAgents key := by
  unfold registerAgent
  rw [activeAgents_putScopeState, activeAgents_getScopeState]
  split_ifs with hkey
  · rw [hkey]
  · rfl

theorem queue_registerAgent : (m.registerAgent now scopeKey agentId).queue key = m.queue key :=
  queue_putScopeState_of_eq _ _ _ (queue_getScopeState _ _ _)

theorem activeAgents_unregisterAgent_subset :
    (m.unregisterAgent scopeKey agentId).activeAgents key ⊆ m.activeAgents key := by
  unfold unregisterAgent
  cases hstate : m.states.get? scopeKey with
  | none => exact subset_rfl
  | some state =>
    dsimp only
    rw [activeAgents_putScopeState]
    split_ifs with hkey
    · have hsome : m.activeAgents key = state.activeAgents := by simp [activeAgents, hkey, hstate]
      rw [hsome]
      exact Finset.erase_subset _ _
    · exact subset_rfl

theorem queue_unregisterAgent : (m.unregisterAgent scopeKey agentId).queue key = m.queue key := by
  unfold unregisterAgent
  cases hstate : m.states.get? scopeKey with
  | none => rfl
  | some state => exact queue_putScopeState_of_eq _ _ _ (by simp [queue, hstate])

theorem activeAgents_addToQueue (entry : QueuedRequest) :
    (m.addToQueue now scopeKey entry).activeAgents key = m.activeAgents key :=
  activeAgents_putScopeState_of_eq _ _ _ (activeAgents_getScopeState _ _ _)

theorem queue_addToQueue (entry : QueuedRequest) : (m.addToQueue now scopeKey entry).queue key =
    if key = scopeKey then m.queue key ++ [entry] else m.queue key := by
  unfold addToQueue
  rw [queue_putScopeState, queue_getScopeState]
  split_ifs with hkey
  · rw [hkey]
  · rfl

theorem activeAgents_removeFromQueue (spawnRequestId : String) :
    (m.removeFromQueue scopeKey spawnRequestId).activeAgents key = m.activeAgents key := by
  unfold removeFromQueue
  cases hstate : m.states.get? scopeKey with
  | none => rfl
  | some state => exact activeAgents_putScopeState_of_eq _ _ _ (by simp [activeAgents, hstate])

theorem queue_removeFromQueue (spawnRequestId : String) :
    (m.removeFromQueue scopeKey spawnRequestId).queue key =
      if key = scopeKey then
        (m.queue key).eraseP fun entry => entry.request.spawnRequestId = spawnRequestId
      else m.queue key := by
  unfold removeFromQueue
  cases hstate : m.states.get? scopeKey with
  | none =>
    split_ifs with hkey
    · have hnone : m.queue key = [] := by simp [queue, hkey, hstate]
      rw [hnone]
      rfl
    · rfl
  | some state =>
    dsimp only
    rw [queue_putScopeState]
    split_ifs with hkey
    · have hsome : m.queue key = state.queue := by simp [queue, hkey, hstate]
      rw [hsome]
    · rfl

end lemmas

end ScopeManager

structure SpawnController where
  config : AgentTreeLimits
  scopeManager : ScopeManager
  metrics : SpawnMetrics

/-- A timer that is set for a queued request. -/
structure QueueTimer where
  scopeKey : String
  entry : QueuedRequest
  deadline : Timestamp

/-- What the processing of a queue leaves, and whom it answered. -/
structure QueuePass where
  tokenBucket : TokenBucket
  queue : List QueuedRequest
  metrics : SpawnMetrics
  resolved : List Resolution

namespace SpawnController

def new (config : AgentTreeLimits) : SpawnController := ⟨config, .new config, .empty⟩

def createResult (decision : SpawnDecision) (reasonCode : SpawnReasonCode)
    (request : SpawnRequest) : SpawnResult :=
  ⟨decision, reasonCode, none, request⟩

def waitForQueuedSpawn (c : SpawnController) (now : Timestamp) (scopeKey : String)
    (request : SpawnRequest) (promise : Nat) : QueueTimer × SpawnController :=
  let entry : QueuedRequest := ⟨request, promise, now⟩
  let timeoutMs := c.config.maxQueueWaitSeconds * 1000
  (⟨scopeKey, entry, now + timeoutMs⟩,
    { c with scopeManager := c.scopeManager.addToQueue now scopeKey entry })

def queueTimeout (c : SpawnController) (timer : QueueTimer) : Resolution × SpawnController :=
  let request := timer.entry.request
  (⟨timer.entry.promise, createResult .reject .agentQueueTimeout request⟩,
    { c with
      scopeManager := c.scopeManager.removeFromQueue timer.scopeKey request.spawnRequestId
      metrics := c.metrics.incrementSpawnRejected timer.entry.promise request.scope
        .agentQueueTimeout })

def expired (now : Timestamp) (entry : QueuedRequest) : Bool :=
  match entry.request.queueExpiresAt with
  | some queueExpiresAt => queueExpiresAt < now
  | none => false

/-- The loop of `processQueue`, while there is room. -/
def processEntries (now : Timestamp) : List QueuedRequest → TokenBucket → SpawnMetrics → QueuePass
  | [], bucket, metrics => ⟨bucket, [], metrics, []⟩
  | entry :: queue, bucket, metrics =>
    let waitTime : ℚ := ((now : ℤ) - (entry.queuedAt : ℤ)) / 1000
    let scope := entry.request.scope
    if expired now entry then
      let metrics := metrics.incrementSpawnRejected entry.promise scope .agentQueueTimeout
      let pass := processEntries now queue bucket (metrics.recordQueueWaitTime waitTime)
      let result := createResult .reject .agentQueueTimeout entry.request
      { pass with resolved := ⟨entry.promise, result⟩ :: pass.resolved }
    else
      let (consumed, bucket) := bucket.consume now 1
      if !consumed then ⟨bucket, entry :: queue, metrics, []⟩
      else
        let metrics := metrics.recordQueueWaitTime waitTime
        let pass := processEntries now queue bucket
          (metrics.incrementSpawnAllowed entry.promise scope)
        let result := { createResult .allow .allowed entry.request with
          queueWaitSeconds := some waitTime }
        { pass with resolved := ⟨entry.promise, result⟩ :: pass.resolved }

/-- The active agents are counted once, before the loop. -/
def processQueue (c : SpawnController) (now : Timestamp) (scopeKey : String) :
    List Resolution × SpawnController :=
  let state := c.scopeManager.getScopeState now scopeKey
  let activeCount := c.scopeManager.getActiveCount scopeKey
  if activeCount < c.config.maxConcurrentAgents then
    let pass := processEntries now state.queue state.tokenBucket c.metrics
    let state := { state with tokenBucket := pass.tokenBucket, queue := pass.queue }
    (pass.resolved, { c with
      scopeManager := c.scopeManager.putScopeState scopeKey state
      metrics := pass.metrics })
  else ([], { c with scopeManager := c.scopeManager.putScopeState scopeKey state })

def registerActiveAgent (c : SpawnController) (now : Timestamp) (scope : SpawnControlScope)
    (agentId : String) (jobId workerId : Option String) : SpawnController :=
  let scopeKey := buildScopeKey scope jobId workerId
  let scopeManager := c.scopeManager.registerAgent now scopeKey agentId
  { c with
    scopeManager
    metrics := c.metrics.setActiveCount scope (scopeManager.getActiveCount scopeKey) }

def dropAgent (c : SpawnController) (scope : SpawnControlScope) (agentId : String)
    (jobId workerId : Option String) : SpawnController :=
  let scopeKey := buildScopeKey scope jobId workerId
  let scopeManager := c.scopeManager.unregisterAgent scopeKey agentId
  { c with
    scopeManager
    metrics := c.metrics.setActiveCount scope (scopeManager.getActiveCount scopeKey) }

def unregisterAgent (c : SpawnController) (now : Timestamp) (scope : SpawnControlScope)
    (agentId : String) (jobId workerId : Option String) : List Resolution × SpawnController :=
  (c.dropAgent scope agentId jobId workerId).processQueue now (buildScopeKey scope jobId workerId)

section processing

variable {now : Timestamp} (queue : List QueuedRequest) (bucket : TokenBucket)
  (metrics : SpawnMetrics)

theorem exists_processed :
    ∃ processed, queue = processed ++ (processEntries now queue bucket metrics).queue ∧
      (processEntries now queue bucket metrics).resolved.map Resolution.promise =
        processed.map QueuedRequest.promise ∧
      (processEntries now queue bucket metrics).metrics.spawnCounts = metrics.spawnCounts ++
        (processEntries now queue bucket metrics).resolved.map Resolution.count := by
  induction queue generalizing bucket metrics with
  | nil => exact ⟨[], rfl, rfl, (List.append_nil _).symm⟩
  | cons entry queue ih =>
    simp only [processEntries]
    split_ifs with hexpired hrefused
    · obtain ⟨processed, hqueue, hpromises, hcounts⟩ := ih bucket
        ((metrics.incrementSpawnRejected entry.promise entry.request.scope
          .agentQueueTimeout).recordQueueWaitTime (((now : ℤ) - (entry.queuedAt : ℤ)) / 1000))
      refine ⟨entry :: processed, congrArg (entry :: ·) hqueue, ?_, ?_⟩
      · exact congrArg (entry.promise :: ·) hpromises
      · exact hcounts.trans (List.append_assoc _ _ _)
    · exact ⟨[], rfl, rfl, (List.append_nil _).symm⟩
    · obtain ⟨processed, hqueue, hpromises, hcounts⟩ := ih (bucket.consume now 1).2
        ((metrics.recordQueueWaitTime (((now : ℤ) - (entry.queuedAt : ℤ)) / 1000)
          ).incrementSpawnAllowed entry.promise entry.request.scope)
      refine ⟨entry :: processed, congrArg (entry :: ·) hqueue, ?_, ?_⟩
      · exact congrArg (entry.promise :: ·) hpromises
      · exact hcounts.trans (List.append_assoc _ _ _)

theorem floor_refill_consume (htokens : 1 ≤ (bucket.refill now).tokens) :
    ⌊((bucket.consume now 1).2.refill now).tokens⌋₊ + 1 = ⌊(bucket.refill now).tokens⌋₊ := by
  have hfew := sub_le_sub_right (@TokenBucket.refill_le bucket now) 1
  rw [TokenBucket.consume_of_le htokens]
  dsimp only
  rw [TokenBucket.refill_floorTokens hfew (sub_nonneg.mpr htokens), TokenBucket.floor_floorTokens,
    Nat.floor_sub_one]
  exact Nat.sub_add_cancel (Nat.le_floor (by simpa using htokens))

theorem countP_allows : (processEntries now queue bucket metrics).resolved.countP
      Resolution.allows =
    min (queue.countP fun entry => !expired now entry) ⌊(bucket.refill now).tokens⌋₊ := by
  induction queue generalizing bucket metrics with
  | nil => simp [processEntries]
  | cons entry queue ih =>
    simp only [processEntries]
    split_ifs with hexpired hrefused
    · rw [List.countP_cons_of_neg (by simp [Resolution.allows, createResult]), ih,
        List.countP_cons_of_neg (by simp [hexpired])]
    · have hfew : (bucket.refill now).tokens < 1 := by
        refine not_le.mp fun hmany => ?_
        rw [TokenBucket.consume_of_le hmany] at hrefused
        cases hrefused
      rw [Nat.floor_eq_zero.mpr hfew, Nat.min_zero]
      rfl
    · have hmany : 1 ≤ (bucket.refill now).tokens := by
        refine not_lt.mp fun hfew => ?_
        rw [TokenBucket.consume_of_lt hfew] at hrefused
        exact hrefused rfl
      rw [List.countP_cons_of_pos (by rfl), ih, List.countP_cons_of_pos (by simp [hexpired]),
        ← floor_refill_consume bucket hmany, Nat.add_min_add_right]

end processing

/-- The requests that a call of `processQueue` finds to allow: those that have not expired, up to
the whole tokens of the scope. -/
def allowable (c : SpawnController) (now : Timestamp) (scopeKey : String) : Nat :=
  min ((c.scopeManager.queue scopeKey).countP fun entry => !expired now entry)
    ⌊((c.scopeManager.getScopeState now scopeKey).tokenBucket.refill now).tokens⌋₊

theorem processQueue_spec (c : SpawnController) (now : Timestamp) (scopeKey : String) :
    (c.processQueue now scopeKey).2.config = c.config ∧
    (∀ key, (c.processQueue now scopeKey).2.scopeManager.activeAgents key =
      c.scopeManager.activeAgents key) ∧
    ∃ processed rest, c.scopeManager.queue scopeKey = processed ++ rest ∧
      (∀ key, (c.processQueue now scopeKey).2.scopeManager.queue key =
        if key = scopeKey then rest else c.scopeManager.queue key) ∧
      (c.processQueue now scopeKey).1.map Resolution.promise = processed.map QueuedRequest.promise ∧
      (c.processQueue now scopeKey).2.metrics.spawnCounts = c.metrics.spawnCounts ++
        (c.processQueue now scopeKey).1.map Resolution.count ∧
      (c.processQueue now scopeKey).1.countP Resolution.allows =
        if c.scopeManager.getActiveCount scopeKey < c.config.maxConcurrentAgents then
          c.allowable now scopeKey
        else 0 := by
  unfold processQueue allowable
  dsimp only
  split_ifs with hroom
  · have hmanager := ScopeManager.queue_getScopeState c.scopeManager now scopeKey
    obtain ⟨processed, hqueue, hpromises, hcounts⟩ := @exists_processed now
      (c.scopeManager.getScopeState now scopeKey).queue
      (c.scopeManager.getScopeState now scopeKey).tokenBucket c.metrics
    refine ⟨rfl, fun key => ?_, processed, (processEntries now
      (c.scopeManager.getScopeState now scopeKey).queue
      (c.scopeManager.getScopeState now scopeKey).tokenBucket c.metrics).queue, hmanager ▸ hqueue,
      fun key => ?_, hpromises, hcounts, ?_⟩
    · exact ScopeManager.activeAgents_putScopeState_of_eq _ _ _
        (ScopeManager.activeAgents_getScopeState _ _ _)
    · exact ScopeManager.queue_putScopeState _ _ _ _
    · rw [countP_allows, hmanager]
  · refine ⟨rfl, fun key => ?_, [], c.scopeManager.queue scopeKey, rfl, fun key => ?_, rfl,
      (List.append_nil _).symm, rfl⟩
    · exact ScopeManager.activeAgents_putScopeState_of_eq _ _ _
        (ScopeManager.activeAgents_getScopeState _ _ _)
    · rw [ScopeManager.queue_putScopeState, ScopeManager.queue_getScopeState]

end SpawnController

end ShipyardCp.Web
