import ShipyardCp.Lib.Transition
import ShipyardCp.Web.SpawnController

/-! The queue of spawn requests: each is answered once, in the order of arrival, and no more agents
are allowed than the limit, as long as no timer outlives its request and no pass allows too many. -/

namespace ShipyardCp.Properties

open Types Lib Web
open Domain (SpawnControlScope AgentTreeLimits SpawnDecision SpawnRequest)
open Domain.ScopeManager Resolution Machine List.Sublist

inductive QueueOp where
  | wait (now : Timestamp) (scopeKey : String) (request : SpawnRequest)
  | register (now : Timestamp) (scope : SpawnControlScope) (agentId : String)
      (jobId workerId : Option String)
  | unregister (now : Timestamp) (scope : SpawnControlScope) (agentId : String)
      (jobId workerId : Option String)
  | process (now : Timestamp) (scopeKey : String)
  | timeout (now : Timestamp)

/-- A controller, the timers that it has set, first to last, the scopes of the requests that have
waited, by their promises, what the promises were told, and the scopes of the agents that are
allowed and not registered yet. -/
structure QueueSystem where
  controller : SpawnController
  timers : List QueueTimer
  arrivals : List String
  resolved : List Resolution
  allowed : List String

namespace QueueSystem

def start (limits : AgentTreeLimits) : QueueSystem := ⟨.new limits, [], [], [], []⟩

/-- The promises of a scope are told the answers. -/
def answer (sys : QueueSystem) (scopeKey : String) (answers : List Resolution × SpawnController) :
    QueueSystem :=
  { sys with
    controller := answers.2
    resolved := sys.resolved ++ answers.1
    allowed := sys.allowed ++ .replicate (answers.1.countP allows) scopeKey }

def wait (sys : QueueSystem) (now : Timestamp) (scopeKey : String) (request : SpawnRequest) :
    QueueSystem :=
  let (timer, controller) :=
    sys.controller.waitForQueuedSpawn now scopeKey request sys.arrivals.length
  { sys with
    controller
    timers := sys.timers ++ [timer]
    arrivals := sys.arrivals ++ [scopeKey] }

def register (sys : QueueSystem) (now : Timestamp) (scope : SpawnControlScope) (agentId : String)
    (jobId workerId : Option String) : QueueSystem :=
  { sys with
    controller := sys.controller.registerActiveAgent now scope agentId jobId workerId
    allowed := sys.allowed.erase (buildScopeKey scope jobId workerId) }

def process (sys : QueueSystem) (now : Timestamp) (scopeKey : String) : QueueSystem :=
  sys.answer scopeKey (sys.controller.processQueue now scopeKey)

def drop (sys : QueueSystem) (scope : SpawnControlScope) (agentId : String)
    (jobId workerId : Option String) : QueueSystem :=
  { sys with controller := sys.controller.dropAgent scope agentId jobId workerId }

def fire (sys : QueueSystem) (timer : QueueTimer) : QueueSystem :=
  let (resolution, controller) := sys.controller.queueTimeout timer
  sys.answer timer.scopeKey ([resolution], controller)

/-- An agent is registered after a request of its scope was allowed. Timers run for one time, so
that they fire in the order in which they were set. -/
def next (sys : QueueSystem) : QueueOp → Option QueueSystem
  | .wait now scopeKey request => some (sys.wait now scopeKey request)
  | .register now scope agentId jobId workerId =>
    if buildScopeKey scope jobId workerId ∈ sys.allowed then
      some (sys.register now scope agentId jobId workerId)
    else none
  | .unregister now scope agentId jobId workerId =>
    some ((sys.drop scope agentId jobId workerId).process now (buildScopeKey scope jobId workerId))
  | .process now scopeKey => some (sys.process now scopeKey)
  | .timeout now =>
    match sys.timers with
    | timer :: timers =>
      if timer.deadline ≤ now then some { sys.fire timer with timers } else none
    | [] => none

def waiting (sys : QueueSystem) (scopeKey : String) : List QueuedRequest :=
  sys.controller.scopeManager.queue scopeKey

def active (sys : QueueSystem) (scopeKey : String) : Nat :=
  sys.controller.scopeManager.getActiveCount scopeKey

def awaited (sys : QueueSystem) (scopeKey : String) : Nat := sys.allowed.count scopeKey

def answers (sys : QueueSystem) (promise : Nat) : List Resolution :=
  sys.resolved.filter (·.promise = promise)

def counts (sys : QueueSystem) (promise : Nat) : List SpawnCount :=
  sys.controller.metrics.spawnCounts.filter (·.promise = promise)

end QueueSystem

def queueRuns (limits : AgentTreeLimits) : Machine QueueSystem QueueOp :=
  .ofNext (fun sys => sys = .start limits) QueueSystem.next

/-- Every request is answered and counted once, or waits for its timer; those of a scope are allowed
in the order of arrival; and no scope has more agents, registered or about to be, than the limit. -/
structure QueueLaws (limits : AgentTreeLimits) (sys : QueueSystem) : Prop where
  settledOnce : ∀ promise < sys.arrivals.length,
    (∃ answer, sys.answers promise = [answer] ∧ sys.counts promise = [answer.count]) ∨
    (sys.answers promise = [] ∧ sys.counts promise = [] ∧
      ∃ timer ∈ sys.timers, timer.entry.promise = promise)
  inOrder : sys.resolved.Pairwise fun first second => first.allows = true →
    second.allows = true → sys.arrivals[first.promise]? = sys.arrivals[second.promise]? →
      first.promise < second.promise
  withinLimit : ∀ scopeKey, sys.active scopeKey + sys.awaited scopeKey ≤ limits.maxConcurrentAgents

/-- The scope whose queue is processed. -/
def QueueOp.processes : QueueOp → Option String
  | .process _ scopeKey => some scopeKey
  | .unregister _ scope _ jobId workerId =>
    some (buildScopeKey scope jobId workerId)
  | _ => none

/-- No pass allows more requests than the limit leaves beside the active agents. -/
def PassLaw (limits : AgentTreeLimits) (sys : QueueSystem) (op : QueueOp) (sys' : QueueSystem) :
    Prop :=
  ∀ scopeKey, op.processes = some scopeKey → sys'.awaited scopeKey ≤
      sys.awaited scopeKey + (limits.maxConcurrentAgents - sys'.active scopeKey)

/-- A pass that finds room finds it for all the requests that it can allow, beside the agents that
are active and those that were allowed before. -/
def HasQueueRoom (limits : AgentTreeLimits) (sys : QueueSystem) (now : Timestamp)
    (scopeKey : String) : Prop :=
  sys.active scopeKey < limits.maxConcurrentAgents →
    sys.active scopeKey + sys.awaited scopeKey + sys.controller.allowable now scopeKey ≤
      limits.maxConcurrentAgents

/-- A pass has room for all that it can allow, and a timer fires for a request that still waits. -/
def SoundQueueOp (limits : AgentTreeLimits) (sys : QueueSystem) : QueueOp → Prop
  | .process now scopeKey => HasQueueRoom limits sys now scopeKey
  | .unregister now scope agentId jobId workerId =>
    HasQueueRoom limits (sys.drop scope agentId jobId workerId) now
      (buildScopeKey scope jobId workerId)
  | .timeout _ => ∀ timer ∈ sys.timers.head?, timer.entry ∈ sys.waiting timer.scopeKey
  | _ => True

def timedEntries (timers : List QueueTimer) (scopeKey : String) : List QueuedRequest :=
  (timers.filter (·.scopeKey = scopeKey)).map (·.entry)

instance (limits : AgentTreeLimits) (sys : QueueSystem) (now : Timestamp) (scopeKey : String) :
    Decidable (HasQueueRoom limits sys now scopeKey) :=
  inferInstanceAs (Decidable (_ → _))

instance (limits : AgentTreeLimits) (sys : QueueSystem) (op : QueueOp) :
    Decidable (SoundQueueOp limits sys op) :=
  match op with
  | .process .. => inferInstanceAs (Decidable (HasQueueRoom ..))
  | .unregister .. => inferInstanceAs (Decidable (HasQueueRoom ..))
  | .timeout _ => inferInstanceAs (Decidable (∀ timer ∈ sys.timers.head?, _))
  | .wait .. => .isTrue trivial
  | .register .. => .isTrue trivial

/-- The requests that wait have timers, set in the order of arrival; the others were answered,
before the requests that arrived after them. -/
structure SettlingQueues (limits : AgentTreeLimits) (sys : QueueSystem) : Prop where
  config : sys.controller.config = limits
  timed : ∀ scopeKey, (sys.waiting scopeKey).Sublist (timedEntries sys.timers scopeKey)
  increasing : sys.timers.Pairwise fun first second => first.entry.promise < second.entry.promise
  arrived : ∀ timer ∈ sys.timers, sys.arrivals[timer.entry.promise]? = some timer.scopeKey
  known : ∀ answer ∈ sys.resolved, answer.promise < sys.arrivals.length
  balanced : ∀ promise scopeKey, sys.arrivals[promise]? = some scopeKey →
    (sys.answers promise).length +
      (sys.waiting scopeKey).countP (fun entry => entry.promise = promise) = 1
  counted : sys.controller.metrics.spawnCounts = sys.resolved.map count
  ordered : sys.resolved.Pairwise fun first second =>
    sys.arrivals[first.promise]? = sys.arrivals[second.promise]? → first.promise < second.promise
  ahead : ∀ answer ∈ sys.resolved, ∀ scopeKey, sys.arrivals[answer.promise]? = some scopeKey →
    ∀ entry ∈ sys.waiting scopeKey, answer.promise < entry.promise
  room : ∀ scopeKey, sys.active scopeKey + sys.awaited scopeKey ≤ limits.maxConcurrentAgents

section settling

variable {limits : AgentTreeLimits} {sys sys' : QueueSystem} {scopeKey : String} {now : Timestamp}

theorem counts_eq (hcounted : sys.controller.metrics.spawnCounts =
    sys.resolved.map count) (promise : Nat) :
    sys.counts promise = (sys.answers promise).map count := by
  unfold QueueSystem.counts QueueSystem.answers
  rw [hcounted, List.filter_map]
  rfl

theorem SettlingQueues.arrivals_of_waiting (hsettling : SettlingQueues limits sys)
    {entry : QueuedRequest}
    (hentry : entry ∈ sys.waiting scopeKey) : sys.arrivals[entry.promise]? = some scopeKey := by
  obtain ⟨timer, htimer, rfl⟩ := List.mem_map.mp ((hsettling.timed scopeKey).subset hentry)
  obtain ⟨hmem, hkey⟩ := List.mem_filter.mp htimer
  rw [hsettling.arrived timer hmem, of_decide_eq_true hkey]

theorem SettlingQueues.laws (hsettling : SettlingQueues limits sys) : QueueLaws limits sys := by
  refine ⟨fun promise hpromise => ?_, ?_, hsettling.room⟩
  · have harrived := List.getElem?_eq_getElem hpromise
    have hbalance := hsettling.balanced promise _ harrived
    rw [counts_eq hsettling.counted]
    rcases Nat.eq_zero_or_pos (sys.answers promise).length with hnone | hsome
    · have hempty := List.length_eq_zero_iff.mp hnone
      have hwaits : 0 < (sys.waiting sys.arrivals[promise]).countP
          (fun entry => entry.promise = promise) := by omega
      obtain ⟨entry, hentry, hsame⟩ := List.countP_pos_iff.mp hwaits
      have htimed := (hsettling.timed _).subset hentry
      obtain ⟨timer, htimer, rfl⟩ := List.mem_map.mp htimed
      refine Or.inr ⟨hempty, by rw [hempty, List.map_nil], timer, List.mem_of_mem_filter htimer, ?_⟩
      exact of_decide_eq_true hsame
    · obtain ⟨answer, hanswer⟩ := List.length_eq_one_iff.mp
        (show (sys.answers promise).length = 1 by omega)
      exact Or.inl ⟨answer, hanswer, by rw [hanswer, List.map_singleton]⟩
  · exact hsettling.ordered.imp fun hless _ _ => hless

theorem SettlingQueues.answered (hsettling : SettlingQueues limits sys)
    {processed rest : List QueuedRequest} {answers : List Resolution}
    (hqueue : sys.waiting scopeKey = processed ++ rest)
    (hpromises : answers.map promise = processed.map QueuedRequest.promise)
    (hconfig : sys'.controller.config = limits)
    (hwaiting : ∀ key, sys'.waiting key = if key = scopeKey then rest else sys.waiting key)
    (htimed : ∀ key, (sys'.waiting key).Sublist (timedEntries sys'.timers key))
    (htimers : sys'.timers.Sublist sys.timers) (harrivals : sys'.arrivals = sys.arrivals)
    (hresolved : sys'.resolved = sys.resolved ++ answers)
    (hcounted : sys'.controller.metrics.spawnCounts =
      sys.controller.metrics.spawnCounts ++ answers.map count)
    (hroom : ∀ key, sys'.active key + sys'.awaited key ≤ limits.maxConcurrentAgents) :
    SettlingQueues limits sys' := by
  have hmem : ∀ answer ∈ answers, ∃ entry ∈ processed, entry.promise = answer.promise := by
    intro answer hanswer
    have hpromise := List.mem_map_of_mem (f := promise) hanswer
    rw [hpromises] at hpromise
    exact List.mem_map.mp hpromise
  have hscope : ∀ entry ∈ processed ++ rest, sys.arrivals[entry.promise]? = some scopeKey := by
    intro entry hentry
    exact hsettling.arrivals_of_waiting (hqueue ▸ hentry)
  have hincreasing : (processed ++ rest).Pairwise fun first second =>
      first.promise < second.promise := by
    rw [← hqueue]
    have htimers : (timedEntries sys.timers scopeKey).Pairwise fun first second =>
        first.promise < second.promise :=
      List.pairwise_map.mpr (hsettling.increasing.filter fun timer => timer.scopeKey = scopeKey)
    exact htimers.sublist (hsettling.timed scopeKey)
  have hanswers : ∀ answer ∈ answers, sys.arrivals[answer.promise]? = some scopeKey := by
    intro answer hanswer
    obtain ⟨entry, hentry, hsame⟩ := hmem answer hanswer
    rw [← hsame]
    exact hscope entry (List.mem_append_left _ hentry)
  rw [List.pairwise_append] at hincreasing
  refine ⟨hconfig, htimed, hsettling.increasing.sublist htimers, ?_, ?_, ?_, ?_, ?_, ?_, hroom⟩
  · intro timer htimer
    rw [harrivals]
    exact hsettling.arrived timer (htimers.subset htimer)
  · intro answer hanswer
    rw [harrivals]
    rw [hresolved] at hanswer
    rcases List.mem_append.mp hanswer with hbefore | hnow
    · exact hsettling.known answer hbefore
    · exact (List.getElem?_eq_some_iff.mp (hanswers answer hnow)).1
  · intro promise key hkey
    rw [harrivals] at hkey
    have hbalance := hsettling.balanced promise key hkey
    have hsame : (answers.filter (·.promise = promise)).length =
        processed.countP (·.promise = promise) := by
      rw [← List.countP_eq_length_filter]
      have hcount := congrArg (List.countP (· = promise)) hpromises
      rw [List.countP_map, List.countP_map] at hcount
      exact hcount
    unfold QueueSystem.answers at hbalance ⊢
    rw [hresolved, List.filter_append, List.length_append, hwaiting, hsame]
    split_ifs with hscopeKey
    · subst hscopeKey
      rw [hqueue, List.countP_append] at hbalance
      omega
    · have hnone : processed.countP (·.promise = promise) = 0 := by
        refine List.countP_eq_zero.mpr fun entry hentry hpromise => hscopeKey ?_
        have hother := hscope entry (List.mem_append_left _ hentry)
        rw [of_decide_eq_true hpromise, hkey] at hother
        exact Option.some.inj hother
      omega
  · rw [hcounted, hresolved, hsettling.counted, List.map_append]
  · rw [hresolved, harrivals, List.pairwise_append]
    refine ⟨hsettling.ordered, ?_, ?_⟩
    · have hpairs : (answers.map promise).Pairwise (· < ·) := by
        rw [hpromises]
        exact List.pairwise_map.mpr hincreasing.1
      refine (List.pairwise_map.mp hpairs).imp ?_
      intro first second hless _
      exact hless
    · intro first hfirst second hsecond hsame
      obtain ⟨entry, hentry, hpromise⟩ := hmem second hsecond
      rw [hanswers second hsecond] at hsame
      rw [← hpromise]
      exact hsettling.ahead first hfirst scopeKey hsame entry (hqueue ▸ List.mem_append_left _ hentry)
  · intro answer hanswer key hkey entry hentry
    rw [harrivals] at hkey
    rw [hresolved] at hanswer
    rw [hwaiting] at hentry
    split_ifs at hentry with hscopeKey
    · subst hscopeKey
      rcases List.mem_append.mp hanswer with hbefore | hnow
      · exact hsettling.ahead answer hbefore key hkey entry (hqueue ▸ List.mem_append_right _ hentry)
      · obtain ⟨first, hfirst, hpromise⟩ := hmem answer hnow
        rw [← hpromise]
        exact hincreasing.2.2 first hfirst entry hentry
    · rcases List.mem_append.mp hanswer with hbefore | hnow
      · exact hsettling.ahead answer hbefore key hkey entry hentry
      · rw [hanswers answer hnow] at hkey
        exact absurd (Option.some.inj hkey).symm hscopeKey

theorem timedEntries_append_singleton (timers : List QueueTimer) (timer : QueueTimer) :
    timedEntries (timers ++ [timer]) scopeKey =
      timedEntries timers scopeKey ++ if timer.scopeKey = scopeKey then [timer.entry] else [] := by
  unfold timedEntries
  rw [List.filter_append, List.map_append]
  split_ifs with hkey <;> simp [hkey]

theorem settlingQueues_wait (hsettling : SettlingQueues limits sys) (request : SpawnRequest) :
    SettlingQueues limits (sys.wait now scopeKey request) := by
  have hwaiting : ∀ key, (sys.wait now scopeKey request).waiting key =
      if key = scopeKey then sys.waiting key ++ [⟨request, sys.arrivals.length, now⟩]
      else sys.waiting key := fun key => ScopeManager.queue_addToQueue _ _ _ _ _
  have hbefore : ∀ promise < sys.arrivals.length,
      (sys.arrivals ++ [scopeKey])[promise]? = sys.arrivals[promise]? :=
    fun promise hpromise => List.getElem?_append_left hpromise
  have hlast : (sys.arrivals ++ [scopeKey])[sys.arrivals.length]? = some scopeKey := by simp
  have hearlier : ∀ {promise key}, sys.arrivals[promise]? = some key →
      promise < sys.arrivals.length := fun h => (List.getElem?_eq_some_iff.mp h).1
  refine ⟨hsettling.config, fun key => ?_, ?_, ?_, ?_, ?_, hsettling.counted, ?_, ?_, fun key => ?_⟩
  · rw [hwaiting]
    change List.Sublist _ (timedEntries (sys.timers ++ [_]) key)
    rw [timedEntries_append_singleton]
    split_ifs with hkey hother hother
    · exact (hsettling.timed key).append (refl _)
    · exact absurd hkey.symm hother
    · exact absurd hother.symm hkey
    · rw [List.append_nil]
      exact hsettling.timed key
  · refine List.pairwise_append.mpr ⟨hsettling.increasing, List.pairwise_singleton _ _, ?_⟩
    intro first hfirst second hsecond
    rw [List.mem_singleton.mp hsecond]
    exact hearlier (hsettling.arrived first hfirst)
  · intro timer htimer
    rcases List.mem_append.mp htimer with hold | hnew
    · have harrived := hsettling.arrived timer hold
      exact (hbefore _ (hearlier harrived)).trans harrived
    · rw [List.mem_singleton.mp hnew]
      exact hlast
  · intro answer hanswer
    refine (hsettling.known answer hanswer).trans ?_
    change _ < (sys.arrivals ++ [scopeKey]).length
    simp
  · intro promise key hkey
    change (sys.arrivals ++ [scopeKey])[promise]? = some key at hkey
    change (sys.answers promise).length + _ = 1
    rw [hwaiting]
    rcases Nat.lt_or_ge promise sys.arrivals.length with hless | hmore
    · rw [hbefore promise hless] at hkey
      have hbalance := hsettling.balanced promise key hkey
      split_ifs with hscopeKey
      · rw [List.countP_append, List.countP_singleton, if_neg (by simpa using hless.ne')]
        exact hbalance
      · exact hbalance
    · have hlength := (List.getElem?_eq_some_iff.mp hkey).1
      rw [List.length_append, List.length_singleton] at hlength
      obtain rfl : promise = sys.arrivals.length := by omega
      obtain rfl := Option.some.inj (hlast.symm.trans hkey)
      have hnone : sys.answers sys.arrivals.length = [] :=
        List.filter_eq_nil_iff.mpr fun answer hanswer =>
          by simpa using (hsettling.known answer hanswer).ne
      have hfresh : (sys.waiting scopeKey).countP (·.promise = sys.arrivals.length) = 0 :=
        List.countP_eq_zero.mpr fun entry hentry =>
          by simpa using (hearlier (hsettling.arrivals_of_waiting hentry)).ne
      rw [if_pos rfl, List.countP_append, hfresh, hnone, List.countP_singleton, if_pos (by simp)]
      rfl
  · refine hsettling.ordered.imp_of_mem fun hfirst hsecond hless hsame => hless ?_
    change (sys.arrivals ++ [scopeKey])[_]? = (sys.arrivals ++ [scopeKey])[_]? at hsame
    rwa [hbefore _ (hsettling.known _ hfirst), hbefore _ (hsettling.known _ hsecond)] at hsame
  · intro answer hanswer key hkey entry hentry
    have hknown := hsettling.known answer hanswer
    change (sys.arrivals ++ [scopeKey])[_]? = some key at hkey
    rw [hbefore _ hknown] at hkey
    rw [hwaiting] at hentry
    split_ifs at hentry with hscopeKey
    · rcases List.mem_append.mp hentry with hold | hnew
      · exact hsettling.ahead answer hanswer key hkey entry hold
      · rw [List.mem_singleton.mp hnew]
        exact hknown
    · exact hsettling.ahead answer hanswer key hkey entry hentry
  · have hactive : (sys.wait now scopeKey request).active key = sys.active key :=
      congrArg Finset.card (ScopeManager.activeAgents_addToQueue _ _ _ _ _)
    rw [hactive]
    exact hsettling.room key

theorem settlingQueues_register (hsettling : SettlingQueues limits sys) {scope : SpawnControlScope}
    {agentId : String} {jobId workerId : Option String}
    (hallowed : buildScopeKey scope jobId workerId ∈ sys.allowed) :
    SettlingQueues limits (sys.register now scope agentId jobId workerId) := by
  have hwaiting : ∀ key, (sys.register now scope agentId jobId workerId).waiting key =
      sys.waiting key := fun key => ScopeManager.queue_registerAgent _ _ _ _ _
  refine ⟨hsettling.config, fun key => ?_, hsettling.increasing, hsettling.arrived,
    hsettling.known, fun promise key => ?_, hsettling.counted, hsettling.ordered,
    fun answer hanswer key => ?_, fun key => ?_⟩
  · rw [hwaiting]
    exact hsettling.timed key
  · rw [hwaiting]
    exact hsettling.balanced promise key
  · rw [hwaiting]
    exact hsettling.ahead answer hanswer key
  · have hroom := hsettling.room key
    have hactive : (sys.register now scope agentId jobId workerId).active key =
        if key = buildScopeKey scope jobId workerId then
          (insert agentId (sys.controller.scopeManager.activeAgents key)).card
        else sys.active key := by
      refine (congrArg Finset.card (ScopeManager.activeAgents_registerAgent _ _ _ _ _)).trans ?_
      split_ifs <;> rfl
    unfold QueueSystem.awaited at hroom ⊢
    rw [hactive]
    change _ + (sys.allowed.erase _).count key ≤ _
    split_ifs with hkey
    · have hinsert := Finset.card_insert_le agentId (sys.controller.scopeManager.activeAgents key)
      have hpos := List.count_pos_iff.mpr hallowed
      rw [hkey] at hroom hinsert ⊢
      rw [List.count_erase_self]
      unfold QueueSystem.active ScopeManager.getActiveCount at hroom
      omega
    · rw [List.count_erase_of_ne hkey]
      exact hroom

theorem settlingQueues_drop (hsettling : SettlingQueues limits sys) (scope : SpawnControlScope)
    (agentId : String) (jobId workerId : Option String) :
    SettlingQueues limits (sys.drop scope agentId jobId workerId) := by
  have hwaiting : ∀ key, (sys.drop scope agentId jobId workerId).waiting key =
      sys.waiting key := fun key => ScopeManager.queue_unregisterAgent _ _ _ _
  refine ⟨hsettling.config, fun key => ?_, hsettling.increasing, hsettling.arrived,
    hsettling.known, fun promise key => ?_, hsettling.counted, hsettling.ordered,
    fun answer hanswer key => ?_, fun key => ?_⟩
  · rw [hwaiting]
    exact hsettling.timed key
  · rw [hwaiting]
    exact hsettling.balanced promise key
  · rw [hwaiting]
    exact hsettling.ahead answer hanswer key
  · have hfewer : (sys.drop scope agentId jobId workerId).active key ≤ sys.active key :=
      Finset.card_le_card (ScopeManager.activeAgents_unregisterAgent_subset _ _ _ _)
    exact (Nat.add_le_add_right hfewer _).trans (hsettling.room key)

theorem awaited_answer (answers : List Resolution × SpawnController) (key : String) :
    (sys.answer scopeKey answers).awaited key =
      sys.awaited key + if key = scopeKey then answers.1.countP allows else 0 := by
  unfold QueueSystem.awaited QueueSystem.answer
  rw [List.count_append, List.count_replicate]
  split_ifs with h₁ h₂ h₂
  · rfl
  · exact absurd (eq_of_beq h₁).symm h₂
  · exact absurd (beq_iff_eq.mpr h₂.symm) h₁
  · rfl

theorem active_process (key : String) : (sys.process now scopeKey).active key = sys.active key :=
  congrArg Finset.card ((sys.controller.processQueue_spec now scopeKey).2.1 key)

theorem awaited_process (key : String) : (sys.process now scopeKey).awaited key =
    sys.awaited key + if key = scopeKey ∧
      sys.active scopeKey < sys.controller.config.maxConcurrentAgents then
        sys.controller.allowable now scopeKey
      else 0 := by
  obtain ⟨_, _, _, _, _, _, _, _, hcount⟩ := sys.controller.processQueue_spec now scopeKey
  rw [QueueSystem.process, awaited_answer, hcount]
  unfold QueueSystem.active
  split_ifs with h₁ h₂ h₃ h₃ h₃
  · rfl
  · exact absurd ⟨h₁, h₂⟩ h₃
  · exact absurd h₃.2 h₂
  · rfl
  · exact absurd h₃.1 h₁
  · rfl

theorem room_process_iff (hsettling : SettlingQueues limits sys) :
    (∀ key, (sys.process now scopeKey).active key + (sys.process now scopeKey).awaited key ≤
      limits.maxConcurrentAgents) ↔ HasQueueRoom limits sys now scopeKey := by
  constructor
  · intro hroom hbelow
    have hkey := hroom scopeKey
    rw [active_process, awaited_process, if_pos ⟨rfl, hsettling.config ▸ hbelow⟩] at hkey
    omega
  · intro hroom key
    have hbefore := hsettling.room key
    rw [active_process, awaited_process]
    split_ifs with hallows
    · obtain ⟨rfl, hbelow⟩ := hallows
      have hmore := hroom (hsettling.config ▸ hbelow)
      omega
    · exact hbefore

theorem settlingQueues_process (hsettling : SettlingQueues limits sys)
    (hroom : HasQueueRoom limits sys now scopeKey) :
    SettlingQueues limits (sys.process now scopeKey) := by
  obtain ⟨hconfig, _, processed, rest, hqueue, hwaiting, hpromises, hcounts, _⟩ :=
    sys.controller.processQueue_spec now scopeKey
  refine hsettling.answered hqueue hpromises
    (hconfig.trans hsettling.config) hwaiting (fun key => ?_) (refl _) rfl rfl hcounts
    ((room_process_iff hsettling).mpr hroom)
  have hfewer : ((sys.process now scopeKey).waiting key).Sublist (sys.waiting key) := by
    rw [QueueSystem.waiting, QueueSystem.process, QueueSystem.answer, hwaiting]
    split_ifs with hkey
    · rw [hkey, QueueSystem.waiting, hqueue]
      exact List.sublist_append_right _ _
    · exact refl _
  exact hfewer.trans (hsettling.timed key)

variable {timer : QueueTimer} {timers : List QueueTimer}

theorem SettlingQueues.waiting_head (hsettling : SettlingQueues limits sys)
    (htimers : sys.timers = timer :: timers)
    (hwaits : timer.entry ∈ sys.waiting timer.scopeKey) :
    ∃ rest, sys.waiting timer.scopeKey = timer.entry :: rest ∧
      rest.Sublist (timedEntries timers timer.scopeKey) := by
  have htimed := hsettling.timed timer.scopeKey
  have hincreasing := hsettling.increasing
  rw [htimers] at htimed hincreasing
  rw [timedEntries, List.filter_cons_of_pos (by simp), List.map_cons] at htimed
  cases hwaiting : sys.waiting timer.scopeKey with
  | nil =>
    rw [hwaiting] at hwaits
    cases hwaits
  | cons entry rest =>
    rw [hwaiting] at hwaits htimed
    cases htimed with
    | cons _ hlater =>
      obtain ⟨other, hother, hsame⟩ := List.mem_map.mp (hlater.subset hwaits)
      have hless := List.rel_of_pairwise_cons hincreasing (List.mem_of_mem_filter hother)
      rw [hsame] at hless
      exact absurd hless (Nat.lt_irrefl _)
    | cons_cons _ hrest => exact ⟨rest, rfl, hrest⟩

theorem settlingQueues_fire (hsettling : SettlingQueues limits sys)
    (htimers : sys.timers = timer :: timers)
    (hwaits : timer.entry ∈ sys.waiting timer.scopeKey) :
    SettlingQueues limits { sys.fire timer with timers } := by
  obtain ⟨rest, hqueue, hrest⟩ := hsettling.waiting_head htimers hwaits
  have hwaiting : ∀ key, QueueSystem.waiting { sys.fire timer with timers } key =
      if key = timer.scopeKey then rest else sys.waiting key := by
    intro key
    refine (ScopeManager.queue_removeFromQueue _ _ _ _).trans ?_
    split_ifs with hkey
    · subst hkey
      change (sys.waiting timer.scopeKey).eraseP _ = rest
      rw [hqueue, List.eraseP_cons_of_pos (by simp)]
    · rfl
  have hfewer : timers.Sublist sys.timers := htimers ▸ List.sublist_cons_self _ _
  have hfront : sys.waiting timer.scopeKey = [timer.entry] ++ rest := hqueue
  have hpromises : [(sys.controller.queueTimeout timer).1].map promise =
      [timer.entry].map QueuedRequest.promise := rfl
  refine hsettling.answered hfront hpromises hsettling.config hwaiting (fun key => ?_) hfewer rfl rfl
    rfl fun key => ?_
  · rw [hwaiting]
    split_ifs with hkey
    · rw [hkey]
      exact hrest
    · have htimed := hsettling.timed key
      rwa [htimers, timedEntries, List.filter_cons_of_neg (by simpa using Ne.symm hkey)] at htimed
  · have hactive : QueueSystem.active { sys.fire timer with timers } key = sys.active key :=
      congrArg Finset.card (ScopeManager.activeAgents_removeFromQueue _ _ _ _)
    have hawaited : QueueSystem.awaited { sys.fire timer with timers } key = sys.awaited key := by
      refine (awaited_answer _ key).trans ?_
      split_ifs <;> rfl
    rw [hactive, hawaited]
    exact hsettling.room key

theorem SettlingQueues.answered_of_not_waiting (hsettling : SettlingQueues limits sys)
    (htimers : sys.timers = timer :: timers)
    (hwaits : timer.entry ∉ sys.waiting timer.scopeKey) :
    (sys.answers timer.entry.promise).length = 1 := by
  have hmem : timer ∈ sys.timers := htimers ▸ List.mem_cons_self
  have hbalance := hsettling.balanced _ _ (hsettling.arrived timer hmem)
  have hnone : (sys.waiting timer.scopeKey).countP (·.promise = timer.entry.promise) = 0 := by
    refine List.countP_eq_zero.mpr fun entry hentry hsame => hwaits ?_
    obtain ⟨other, hother, rfl⟩ := List.mem_map.mp ((hsettling.timed _).subset hentry)
    have hpromise := of_decide_eq_true hsame
    have hincreasing := hsettling.increasing
    have hother := List.mem_of_mem_filter hother
    rw [htimers] at hincreasing hother
    rcases List.mem_cons.mp hother with rfl | hlater
    · exact hentry
    · have hless := List.rel_of_pairwise_cons hincreasing hlater
      omega
  omega

end settling

section runs

variable {limits : AgentTreeLimits} {sys sys' : QueueSystem} {op : QueueOp}

theorem next_timeout_eq_some_iff {now : Timestamp} : sys.next (.timeout now) = some sys' ↔
    ∃ timer timers, sys.timers = timer :: timers ∧ timer.deadline ≤ now ∧
      sys' = { sys.fire timer with timers } := by
  simp only [QueueSystem.next]
  cases htimers : sys.timers with
  | nil => simp
  | cons timer timers =>
    simp only [Option.ite_none_right_eq_some, Option.some.injEq, List.cons.injEq]
    constructor
    · rintro ⟨hdue, rfl⟩
      exact ⟨timer, timers, ⟨rfl, rfl⟩, hdue, rfl⟩
    · rintro ⟨timer, timers, ⟨rfl, rfl⟩, hdue, rfl⟩
      exact ⟨hdue, rfl⟩

theorem settlingQueues_next (hsettling : SettlingQueues limits sys)
    (hsound : SoundQueueOp limits sys op)
    (hnext : sys.next op = some sys') : SettlingQueues limits sys' := by
  cases op with
  | wait now scopeKey request =>
    obtain rfl := Option.some.inj hnext
    exact settlingQueues_wait hsettling request
  | register now scope agentId jobId workerId =>
    simp only [QueueSystem.next, Option.ite_none_right_eq_some, Option.some.injEq] at hnext
    obtain ⟨hallowed, rfl⟩ := hnext
    exact settlingQueues_register hsettling hallowed
  | unregister now scope agentId jobId workerId =>
    obtain rfl := Option.some.inj hnext
    exact settlingQueues_process (settlingQueues_drop hsettling scope agentId jobId workerId) hsound
  | process now scopeKey =>
    obtain rfl := Option.some.inj hnext
    exact settlingQueues_process hsettling hsound
  | timeout now =>
    obtain ⟨timer, timers, htimers, _, rfl⟩ := next_timeout_eq_some_iff.mp hnext
    exact settlingQueues_fire hsettling htimers (hsound timer (by simp [htimers]))

theorem sound_of_laws (hsettling : SettlingQueues limits sys) (hnext : sys.next op = some sys')
    (hlaws : QueueLaws limits sys') : SoundQueueOp limits sys op := by
  cases op with
  | wait now scopeKey request => trivial
  | register now scope agentId jobId workerId => trivial
  | unregister now scope agentId jobId workerId =>
    obtain rfl := Option.some.inj hnext
    exact (room_process_iff (settlingQueues_drop hsettling scope agentId jobId workerId)).mp
      hlaws.withinLimit
  | process now scopeKey =>
    obtain rfl := Option.some.inj hnext
    exact (room_process_iff hsettling).mp hlaws.withinLimit
  | timeout now =>
    obtain ⟨timer, timers, htimers, _, rfl⟩ := next_timeout_eq_some_iff.mp hnext
    intro first hfirst
    obtain rfl : timer = first := by simpa [htimers] using hfirst
    by_contra hwaits
    have honce := hsettling.answered_of_not_waiting htimers hwaits
    have hmem : timer ∈ sys.timers := htimers ▸ List.mem_cons_self
    have hknown := (List.getElem?_eq_some_iff.mp (hsettling.arrived timer hmem)).1
    have htwice : (QueueSystem.answers { sys.fire timer with timers } timer.entry.promise).length =
        2 := by
      unfold QueueSystem.answers at honce ⊢
      change ((sys.resolved ++ [_]).filter _).length = 2
      rw [List.filter_append, List.length_append, honce, List.filter_cons_of_pos (by simp)]
      rfl
    rcases hlaws.settledOnce _ hknown with ⟨answer, hanswer, _⟩ | ⟨hanswer, _⟩
    · rw [hanswer] at htwice
      cases htwice
    · rw [hanswer] at htwice
      cases htwice

theorem settlingQueues_start (limits : AgentTreeLimits) : SettlingQueues limits (.start limits) := by
  have hnone : ∀ scopeKey, (QueueSystem.start limits).active scopeKey = 0 := fun _ => rfl
  refine ⟨rfl, fun _ => List.nil_sublist _, .nil, ?_, ?_, ?_, rfl, .nil, ?_, fun scopeKey => ?_⟩
  · intro timer htimer
    cases htimer
  · intro answer hanswer
    cases hanswer
  · intro promise scopeKey hkey
    cases hkey
  · intro answer hanswer
    cases hanswer
  · rw [hnone]
    exact Nat.zero_le _

theorem passLaw_of_laws (hlaws : QueueLaws limits sys') : PassLaw limits sys op sys' := by
  intro scopeKey _
  have hroom := hlaws.withinLimit scopeKey
  omega

/-- In every run every request is settled once, in order and within the limit, exactly when each
pass has room for all that it can allow and no timer fires for a request that was answered. -/
theorem queueLaws_iff {h : History QueueSystem QueueOp} (hrun : (queueRuns limits).Run h sys) :
    ((∀ s ∈ states h sys, QueueLaws limits s) ∧
      (queueRuns limits).EveryStep (fun _ s op s' => PassLaw limits s op s') h) ↔
    Machine.Steps (SoundQueueOp limits) h := by
  have hstates := hrun.forall_states_iff (P := QueueLaws limits) (C := SoundQueueOp limits)
    (I := SettlingQueues limits) (by rintro s rfl; exact settlingQueues_start limits)
    (fun s hs => hs.laws) (fun _ _ _ _ _ hs hsound hnext => settlingQueues_next hs hsound hnext)
    (fun _ _ _ _ _ hs hnext hlaws => sound_of_laws hs hnext hlaws)
  refine ⟨fun hlaws => hstates.mp hlaws.1, fun hsound => ⟨hstates.mpr hsound, ?_⟩⟩
  refine hrun.everyStep (fun h s op s' hr hsteps hop hnext => passLaw_of_laws ?_) hsound
  have hsettling := hr.stateInvariant (I := SettlingQueues limits)
    (by rintro s rfl; exact settlingQueues_start limits)
    (fun _ _ _ hs hsound hnext => settlingQueues_next hs hsound hnext) hsteps
  exact (settlingQueues_next hsettling hop hnext).laws

end runs

def oneAgent : AgentTreeLimits := { Domain.DEFAULT_AGENT_TREE_LIMITS with maxConcurrentAgents := 1 }

def queuedSpawn (now : Timestamp) (spawnRequestId : String) : QueueOp :=
  .wait now "job:job" ⟨spawnRequestId, "job", "root", .job, now, 1, 149, none⟩

theorem exists_queueRun {ops : List QueueOp} {test : History QueueSystem QueueOp × QueueSystem → Bool}
    (h : (replay QueueSystem.next (.start oneAgent) (ops.map fun op _ => some op)).any test = true) :
    ∃ h t, (queueRuns oneAgent).Run h t ∧ test (h, t) = true :=
  exists_run_of_replay rfl h

/-- One request gives up after a minute; the next is allowed, and its agent ends. -/
theorem queued_in_turn : ∃ h t, (queueRuns oneAgent).Run h t ∧ t.arrivals.length = 2 ∧
    (∀ s ∈ states h t, QueueLaws oneAgent s) ∧
    (queueRuns oneAgent).EveryStep (fun _ s op s' => PassLaw oneAgent s op s') h := by
  have hplayed : (replay QueueSystem.next (.start oneAgent)
      ([queuedSpawn 0 "first", .timeout 60000, queuedSpawn 60000 "second", .process 60001 "job:job",
        .register 60002 .job "a" (some "job") none,
        .unregister 60003 .job "a" (some "job") none].map fun op _ => some op)).any
      (fun p => p.1.all (fun q => decide (SoundQueueOp oneAgent q.1 q.2)) &&
        decide (p.2.arrivals.length = 2)) = true := by
    decide +kernel
  obtain ⟨h, t, hrun, htest⟩ := exists_queueRun hplayed
  obtain ⟨hsound, hlength⟩ := Bool.and_eq_true_iff.mp htest
  have hsteps : Machine.Steps (SoundQueueOp oneAgent) h := fun q hq =>
    of_decide_eq_true (List.all_eq_true.mp hsound q hq)
  exact ⟨h, t, hrun, of_decide_eq_true hlength, (queueLaws_iff hrun).mpr hsteps⟩

/-- Two requests are allowed by one pass where there is room for one, and the first is counted once
more when its timer fires. -/
theorem allowed_by_one_pass : (¬∀ limits h sys, (queueRuns limits).Run h sys → ∀ scopeKey,
      sys.active scopeKey + sys.awaited scopeKey ≤ limits.maxConcurrentAgents) ∧
    (¬∀ limits h sys, (queueRuns limits).Run h sys → ∀ promise < sys.arrivals.length,
      (sys.counts promise).length ≤ 1) := by
  have hplayed : (replay QueueSystem.next (.start oneAgent)
      ([queuedSpawn 0 "first", queuedSpawn 0 "second", .process 1 "job:job",
        .timeout 60000].map fun op _ => some op)).any
      (fun p => decide (p.2.active "job:job" + p.2.awaited "job:job" = 2 ∧
        p.2.arrivals.length = 2 ∧ (p.2.counts 0).length = 2)) = true := by
    decide +kernel
  obtain ⟨h, t, hrun, htest⟩ := exists_queueRun hplayed
  obtain ⟨hagents, harrivals, hcounts⟩ := of_decide_eq_true htest
  constructor
  · intro hall
    have hlimit := hall oneAgent h t hrun "job:job"
    rw [hagents] at hlimit
    exact absurd hlimit (by decide)
  · intro hall
    have honce := hall oneAgent h t hrun 0 (harrivals ▸ Nat.two_pos)
    rw [hcounts] at honce
    exact absurd honce (by decide)

end ShipyardCp.Properties
