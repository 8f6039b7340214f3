import Mathlib.Data.Fintype.EquivFin
import ShipyardCp.Domain.SpawnControl
import ShipyardCp.Lib.Transition

/-! Whether the agents registered in a scope stay within the limit, when each was allowed. -/

namespace ShipyardCp.Properties

open Types Domain Lib ScopeManager

/-- A controller, and the scopes of the agents that were allowed and are not registered yet. -/
structure SpawnSystem where
  controller : SpawnController
  allowed : List String

inductive SpawnOp where
  | evaluate (now : Timestamp) (call : SpawnCall)
  | register (now : Timestamp) (scope : SpawnControlScope) (agentId : String)
      (jobId workerId : Option String)
  | unregister (scope : SpawnControlScope) (agentId : String) (jobId workerId : Option String)

namespace SpawnSystem

def register (sys : SpawnSystem) (now : Timestamp) (scope : SpawnControlScope) (agentId : String)
    (jobId workerId : Option String) : SpawnSystem where
  controller := sys.controller.registerActiveAgent now scope agentId jobId workerId
  allowed := sys.allowed.erase (buildScopeKey scope jobId workerId)

/-- An agent is registered in a scope for which one was allowed. -/
def next (sys : SpawnSystem) (op : SpawnOp) : Option SpawnSystem :=
  match op with
  | .evaluate now call =>
    let (result, controller) := sys.controller.evaluateSpawn now call
    if result.decision = .allow then
      some ⟨controller, sys.controller.scopeKey call :: sys.allowed⟩
    else some ⟨controller, sys.allowed⟩
  | .register now scope agentId jobId workerId =>
    if buildScopeKey scope jobId workerId ∈ sys.allowed then
      some (sys.register now scope agentId jobId workerId)
    else none
  | .unregister scope agentId jobId workerId =>
    some ⟨sys.controller.unregisterAgent scope agentId jobId workerId, sys.allowed⟩

def active (sys : SpawnSystem) (scopeKey : String) : Nat :=
  sys.controller.scopeManager.getActiveCount scopeKey

def awaited (sys : SpawnSystem) (scopeKey : String) : Nat := sys.allowed.count scopeKey

end SpawnSystem

def spawnRuns (limits : AgentTreeLimits) : Machine SpawnSystem SpawnOp :=
  .ofNext (fun sys => sys = ⟨.new limits, []⟩) SpawnSystem.next

def WithinLimit (limits : AgentTreeLimits) (sys : SpawnSystem) : Prop :=
  ∀ scopeKey, sys.active scopeKey ≤ limits.maxConcurrentAgents

def SpawnOp.isRegistration : SpawnOp → Bool
  | .register .. => true
  | _ => false

def RegistersWithinLimit (limits : AgentTreeLimits) (sys : SpawnSystem) : Prop :=
  ∀ h t, (spawnRuns limits).Path sys h t → Machine.Steps (fun _ op => op.isRegistration) h →
    WithinLimit limits t

/-- A request that finds a token and fewer agents than the limit finds room for one more agent
beside those that were allowed and are not registered yet. -/
def HasRoom (limits : AgentTreeLimits) (sys : SpawnSystem) (op : SpawnOp) : Prop :=
  match op with
  | .evaluate now call =>
    sys.active (sys.controller.scopeKey call) < limits.maxConcurrentAgents →
    1 ≤ (sys.controller.scopeManager.getRemainingTokens now (sys.controller.scopeKey call)).1 →
    sys.active (sys.controller.scopeKey call) + sys.awaited (sys.controller.scopeKey call) <
      limits.maxConcurrentAgents
  | _ => True

instance (limits : AgentTreeLimits) (sys : SpawnSystem) (op : SpawnOp) :
    Decidable (HasRoom limits sys op) :=
  match op with
  | .evaluate _ _ => inferInstanceAs (Decidable (_ → _ → _))
  | .register .. => inferInstanceAs (Decidable True)
  | .unregister .. => inferInstanceAs (Decidable True)

/-- There is room for the agents that were allowed. -/
structure Reserved (limits : AgentTreeLimits) (sys : SpawnSystem) : Prop where
  config : sys.controller.config = limits
  room : ∀ scopeKey, sys.active scopeKey + sys.awaited scopeKey ≤ limits.maxConcurrentAgents

section step

variable {limits : AgentTreeLimits} {sys sys' : SpawnSystem} {op : SpawnOp}

variable {scope : SpawnControlScope}

variable {agentId : String}

variable {now : Timestamp}

theorem next_register_eq_some_iff {jobId workerId : Option String} :
    sys.next (.register now scope agentId jobId workerId) = some sys' ↔
      buildScopeKey scope jobId workerId ∈ sys.allowed ∧
      sys' = sys.register now scope agentId jobId workerId := by
  simp only [SpawnSystem.next]
  split_ifs with hallowed
  · exact ⟨fun h => ⟨hallowed, (Option.some.inj h).symm⟩, fun h => by rw [h.2]⟩
  · exact iff_of_false nofun fun h => hallowed h.1

theorem active_register {jobId workerId : Option String} (key : String) :
    (sys.register now scope agentId jobId workerId).active key =
      if key = buildScopeKey scope jobId workerId then
        (insert agentId (sys.controller.scopeManager.activeAgents key)).card
      else sys.active key := by
  unfold SpawnSystem.active getActiveCount SpawnSystem.register
    SpawnController.registerActiveAgent
  rw [activeAgents_registerAgent]
  split_ifs <;> rfl

theorem reserved_register (hreserved : Reserved limits sys) {jobId workerId : Option String}
    (hnext : sys.next (.register now scope agentId jobId workerId) = some sys') :
    Reserved limits sys' := by
  obtain ⟨hallowed, rfl⟩ := next_register_eq_some_iff.mp hnext
  refine ⟨hreserved.config, fun key => ?_⟩
  have hroom := hreserved.room key
  rw [active_register]
  unfold SpawnSystem.awaited at hroom ⊢
  unfold SpawnSystem.register
  dsimp only
  split_ifs with hkey
  · subst hkey
    have hinsert := Finset.card_insert_le agentId (sys.controller.scopeManager.activeAgents
      (buildScopeKey scope jobId workerId))
    have hpos := List.count_pos_iff.mpr hallowed
    rw [List.count_erase_self]
    unfold SpawnSystem.active getActiveCount at hroom
    omega
  · rw [List.count_erase_of_ne hkey]
    exact hroom

theorem next_unregister {jobId workerId : Option String}
    (hnext : sys.next (.unregister scope agentId jobId workerId) = some sys') :
    sys'.controller.config = sys.controller.config ∧ sys'.allowed = sys.allowed ∧
    ∀ key, sys'.active key ≤ sys.active key := by
  obtain rfl := Option.some.inj hnext
  refine ⟨rfl, rfl, fun key => ?_⟩
  unfold SpawnSystem.active getActiveCount SpawnController.unregisterAgent
  rw [activeAgents_unregisterAgent]
  split_ifs
  · exact Finset.card_erase_le
  · exact Nat.le_refl _

theorem next_evaluate (henabled : sys.controller.config.enabled = true)
    {call : SpawnCall} (hnext : sys.next (.evaluate now call) = some sys') :
    sys'.controller.config = sys.controller.config ∧
    (∀ key, sys'.active key = sys.active key) ∧
    sys'.allowed =
      if sys.active (sys.controller.scopeKey call) < sys.controller.config.maxConcurrentAgents ∧
        1 ≤ (sys.controller.scopeManager.getRemainingTokens now (sys.controller.scopeKey call)).1
      then sys.controller.scopeKey call :: sys.allowed else sys.allowed := by
  obtain ⟨hconfig, hactive⟩ := sys.controller.evaluateSpawn_frame now call
  have hallow := SpawnController.evaluateSpawn_allow_iff henabled now call
  have hcount : ∀ key, (sys.controller.evaluateSpawn now call).2.scopeManager.getActiveCount key =
      sys.active key := fun key => by
    unfold SpawnSystem.active getActiveCount
    rw [hactive key]
  simp only [SpawnSystem.next] at hnext
  split_ifs at hnext with hdecision
  · obtain rfl := Option.some.inj hnext
    exact ⟨hconfig, hcount, (if_pos (hallow.mp hdecision)).symm⟩
  · obtain rfl := Option.some.inj hnext
    exact ⟨hconfig, hcount, (if_neg fun h => hdecision (hallow.mpr h)).symm⟩

theorem reserved_next (henabled : limits.enabled = true) (hreserved : Reserved limits sys)
    (hroom : HasRoom limits sys op) (hnext : sys.next op = some sys') : Reserved limits sys' := by
  cases op with
  | evaluate now call =>
    have hconfig := hreserved.config
    rw [← hconfig] at henabled
    obtain ⟨hconfig', hactive, hallowed⟩ := next_evaluate henabled hnext
    refine ⟨hconfig'.trans hconfig, fun key => ?_⟩
    have hbefore := hreserved.room key
    unfold SpawnSystem.awaited at hbefore ⊢
    rw [hactive, hallowed]
    split_ifs with hallow
    · rw [hconfig] at hallow
      have hmore := hroom hallow.1 hallow.2
      unfold SpawnSystem.awaited at hmore
      rw [List.count_cons]
      split_ifs with hkey
      · rw [← eq_of_beq hkey]
        omega
      · omega
    · exact hbefore
  | register now scope agentId jobId workerId => exact reserved_register hreserved hnext
  | unregister scope agentId jobId workerId =>
    obtain ⟨hconfig, hallowed, hactive⟩ := next_unregister hnext
    refine ⟨hconfig.trans hreserved.config, fun key => ?_⟩
    have hbefore := hreserved.room key
    have hfewer := hactive key
    unfold SpawnSystem.awaited at hbefore ⊢
    rw [hallowed]
    omega

end step

section runs

variable {limits : AgentTreeLimits} {sys sys' : SpawnSystem} {op : SpawnOp}

theorem registersWithinLimit_of_reserved (hreserved : Reserved limits sys) :
    RegistersWithinLimit limits sys := by
  intro h t hpath hregisters key
  have hreserved' : Reserved limits t := by
    refine hpath.stable (C := fun _ op => op.isRegistration) ?_ hregisters hreserved
    intro s op s' hs hop hnext
    cases op with
    | evaluate now call => cases hop
    | register now scope agentId jobId workerId => exact reserved_register hs hnext
    | unregister scope agentId jobId workerId => cases hop
  exact (Nat.le_add_right _ _).trans (hreserved'.room key)

theorem exists_registrations (limits : AgentTreeLimits) (scope : SpawnControlScope)
    (jobId workerId : Option String) (n : Nat) :
    ∀ sys : SpawnSystem, sys.awaited (buildScopeKey scope jobId workerId) = n →
      ∃ h t, (spawnRuns limits).Path sys h t ∧ Machine.Steps (fun _ op => op.isRegistration) h ∧
        t.active (buildScopeKey scope jobId workerId) =
          sys.active (buildScopeKey scope jobId workerId) + n := by
  induction n with
  | zero => exact fun sys _ => ⟨[], sys, .nil, Machine.steps_nil _, rfl⟩
  | succ n ih =>
    intro sys hawaited
    have hallowed : buildScopeKey scope jobId workerId ∈ sys.allowed := by
      refine List.count_pos_iff.mp ?_
      unfold SpawnSystem.awaited at hawaited
      omega
    obtain ⟨agentId, hfresh⟩ := Infinite.exists_notMem_finset
      (sys.controller.scopeManager.activeAgents (buildScopeKey scope jobId workerId))
    have hnext : sys.next (.register 0 scope agentId jobId workerId) =
        some (sys.register 0 scope agentId jobId workerId) :=
      next_register_eq_some_iff.mpr ⟨hallowed, rfl⟩
    have hless : (sys.register 0 scope agentId jobId workerId).awaited
        (buildScopeKey scope jobId workerId) = n := by
      unfold SpawnSystem.awaited SpawnSystem.register at *
      dsimp only
      rw [List.count_erase_self, hawaited]
      rfl
    obtain ⟨h, t, hpath, hregisters, hactive⟩ := ih _ hless
    refine ⟨_ :: h, t, .cons hnext hpath, ?_, ?_⟩
    · rw [Machine.steps_cons]
      exact ⟨rfl, hregisters⟩
    · rw [hactive, active_register, if_pos rfl, Finset.card_insert_of_notMem hfresh]
      unfold SpawnSystem.active getActiveCount
      omega

theorem hasRoom_of_registersWithinLimit (henabled : limits.enabled = true)
    (hreserved : Reserved limits sys) (hnext : sys.next op = some sys')
    (hwithin : RegistersWithinLimit limits sys') : HasRoom limits sys op := by
  cases op with
  | evaluate now call =>
    intro hbelow htoken
    have hconfig := hreserved.config
    rw [← hconfig] at henabled hbelow
    obtain ⟨_, hactive, hallowed⟩ := next_evaluate henabled hnext
    rw [if_pos ⟨hbelow, htoken⟩] at hallowed
    have hawaited : sys'.awaited (sys.controller.scopeKey call) =
        sys.awaited (sys.controller.scopeKey call) + 1 := by
      unfold SpawnSystem.awaited
      rw [hallowed, List.count_cons_self]
    obtain ⟨h, t, hpath, hregisters, hcount⟩ := exists_registrations limits
      (call.scope.getD sys.controller.config.scope) (some call.parentJobId) call.workerId _ sys'
      hawaited
    have hlimit := hwithin h t hpath hregisters (sys.controller.scopeKey call)
    have hmore : t.active (sys.controller.scopeKey call) =
        sys'.active (sys.controller.scopeKey call) +
          (sys.awaited (sys.controller.scopeKey call) + 1) := hcount
    rw [hactive] at hmore
    omega
  | register now scope agentId jobId workerId => trivial
  | unregister scope agentId jobId workerId => trivial

/-- In every run under enabled limits, every scope stays within the limit, whichever of the allowed
agents are registered next, exactly when each request finds room beside those allowed before. -/
theorem registered_withinLimit_iff (henabled : limits.enabled = true)
    {h : History SpawnSystem SpawnOp} (hrun : (spawnRuns limits).Run h sys) :
    (∀ s ∈ Machine.states h sys, RegistersWithinLimit limits s) ↔
      Machine.Steps (HasRoom limits) h := by
  refine hrun.forall_states_iff (I := Reserved limits) ?_ ?_ ?_ ?_
  · rintro s rfl
    exact ⟨rfl, fun key => Nat.zero_le _⟩
  · exact fun s => registersWithinLimit_of_reserved
  · exact fun h s op s' _ hreserved hroom hnext =>
      reserved_next henabled hreserved hroom hnext
  · exact fun h s op s' _ hreserved hnext hwithin =>
      hasRoom_of_registersWithinLimit henabled hreserved hnext hwithin

end runs

def singleLimits : AgentTreeLimits := { DEFAULT_AGENT_TREE_LIMITS with maxConcurrentAgents := 1 }

def spawnCall (spawnRequestId : String) : SpawnOp :=
  .evaluate 0 ⟨spawnRequestId, "job", "root", none, none⟩

def registration (agentId : String) : SpawnOp := .register 0 .job agentId (some "job") none

theorem exists_spawnRun {ops : List SpawnOp} {test : History SpawnSystem SpawnOp × SpawnSystem → Bool}
    (h : (Machine.replay SpawnSystem.next ⟨.new singleLimits, []⟩
      (ops.map fun op _ => some op)).any test = true) :
    ∃ h t, (spawnRuns singleLimits).Run h t ∧ test (h, t) = true :=
  Machine.exists_run_of_replay rfl h

/-- An agent ends before the next is asked for. -/
theorem spawned_in_turn_withinLimit : ∃ h t, (spawnRuns singleLimits).Run h t ∧
    t.active "job:job" = 1 ∧
    ∀ s ∈ Machine.states h t, RegistersWithinLimit singleLimits s := by
  have hplayed : (Machine.replay SpawnSystem.next ⟨.new singleLimits, []⟩
      ([spawnCall "first", registration "a", .unregister .job "a" (some "job") none,
        spawnCall "second", registration "b"].map fun op _ => some op)).any
      (fun p => p.1.all (fun q => decide (HasRoom singleLimits q.1 q.2)) &&
        decide (p.2.active "job:job" = 1)) = true := by
    decide +kernel
  obtain ⟨h, t, hrun, htest⟩ := exists_spawnRun hplayed
  obtain ⟨hroom, hactive⟩ := Bool.and_eq_true_iff.mp htest
  have hsteps : Machine.Steps (HasRoom singleLimits) h := fun q hq =>
    of_decide_eq_true (List.all_eq_true.mp hroom q hq)
  have hwithin := (registered_withinLimit_iff rfl hrun).mpr hsteps
  exact ⟨h, t, hrun, of_decide_eq_true hactive, hwithin⟩

/-- Two agents are allowed before the first is registered. -/
theorem allowed_twice_exceeds : ¬∀ limits : AgentTreeLimits, limits.enabled = true → ∀ h t,
    (spawnRuns limits).Run h t → ∀ s ∈ Machine.states h t, WithinLimit limits s := by
  intro hall
  have hplayed : (Machine.replay SpawnSystem.next ⟨.new singleLimits, []⟩
      ([spawnCall "first", spawnCall "second", registration "a", registration "b"].map
        fun op _ => some op)).any (fun p => decide (p.2.active "job:job" = 2)) = true := by
    decide +kernel
  obtain ⟨h, t, hrun, hactive⟩ := exists_spawnRun hplayed
  have hlimit := hall singleLimits rfl h t hrun t (by simp [Machine.states]) "job:job"
  rw [of_decide_eq_true hactive] at hlimit
  exact absurd hlimit (by decide)

end ShipyardCp.Properties
