import ShipyardCp.Domain.SessionCalls

/-! The executor that runs jobs in sessions of a server. Its calls share the session registry, and each
of them is split at its awaits. -/

namespace ShipyardCp.Domain

open Types Lib

/-- What a call of `execute` awaits: the session that it creates, the files it writes for its job, its
run and the artifacts of it. -/
inductive ExecutePhase where
  | creating
  | writing
  | running
  | collecting (success : Bool) (error : Option String)
  | returned
  deriving DecidableEq

/-- A call of `execute`, with the id of its job and the search criteria built from it, and the session
that it has. -/
structure SessionExecution where
  jobId : String
  criteria : SessionSearchCriteria
  session : Option String
  phase : ExecutePhase
  deriving DecidableEq

structure SessionExecutor where
  registry : SessionRegistry
  executions : List SessionExecution
  clock : Timestamp

/-- What happens: a call begins or its await ends, a session is cancelled, or a timer of the registry
fires. -/
inductive SessionAction where
  | execute (jobId : String) (criteria : SessionSearchCriteria)
  | created (k : Nat) (sessionId : Option String)
  | written (k : Nat) (ok : Bool)
  | ran (k : Nat) (success : Bool) (error : Option String)
  | collected (k : Nat) (ok : Bool)
  | cancelled (sessionId : String) (error : String)
  | processOrphans
  | cleanup

structure SessionStep where
  now : Timestamp
  action : SessionAction

namespace SessionRegistry

def reuseSession (r : SessionRegistry) (now : Timestamp) (jobId : String)
    (criteria : SessionSearchCriteria) : Option String × SessionRegistry :=
  let (found, r) := r.findReusableSession now criteria
  match found with
  | none => (none, r)
  | some session =>
    let (leased, r) := r.leaseSession now session.sessionId jobId
    (if leased then some session.sessionId else none, r)

/-- A session of the server comes to the registry, leased to the job that it was created for. -/
def addSession (r : SessionRegistry) (now : Timestamp) (sessionId jobId : String)
    (criteria : SessionSearchCriteria) : SessionRegistry :=
  (((r.createSessionRecord now sessionId criteria).2.leaseSession now sessionId jobId).2).markSessionReady
    now sessionId

end SessionRegistry

namespace SessionExecutor

variable (s : SessionExecutor)

def setPhase (k : Nat) (phase : ExecutePhase) : List SessionExecution :=
  s.executions.modify k fun e => { e with phase }

def at? (k : Nat) (phase : ExecutePhase) : Option (SessionExecution × String) :=
  s.executions[k]?.bind fun e =>
    if e.phase = phase then e.session.map fun sessionId => (e, sessionId) else none

def execute (now : Timestamp) (jobId : String) (criteria : SessionSearchCriteria) : SessionExecutor :=
  let (session, registry) := s.registry.reuseSession now jobId criteria
  { s with
    registry
    executions := s.executions ++
      [⟨jobId, criteria, session, if session.isSome then .writing else .creating⟩] }

/-- The server has created a session, or `createSession` throws. -/
def created (now : Timestamp) (k : Nat) (sessionId : Option String) : Option SessionExecutor :=
  s.executions[k]?.bind fun e =>
    if e.phase = .creating then
      match sessionId with
      | some sessionId => some { s with
          registry := s.registry.addSession now sessionId e.jobId e.criteria
          executions := s.executions.modify k fun e =>
            { e with session := some sessionId, phase := .writing } }
      | none => some { s with executions := s.setPhase k .returned }
    else none

def written (k : Nat) (ok : Bool) : Option SessionExecutor := (s.at? k .writing).map fun _ =>
    { s with executions := s.setPhase k (if ok then .running else .returned) }

def ran (now : Timestamp) (k : Nat) (success : Bool) (error : Option String) :
    Option SessionExecutor :=
  (s.at? k .running).map fun (e, sessionId) => { s with
    registry := (s.registry.releaseSession now sessionId e.jobId).2
    executions := s.setPhase k (.collecting success error) }

/-- The artifacts are collected, or that throws. -/
def collected (now : Timestamp) (k : Nat) (ok : Bool) : Option SessionExecutor :=
  s.executions[k]?.bind fun e =>
    match e.phase, e.session with
    | .collecting success error, some sessionId => some { s with
        registry :=
          if ok && !success then
            s.registry.markSessionDead now sessionId error (some .taskFailed)
          else s.registry
        executions := s.setPhase k .returned }
    | _, _ => none

def perform (now : Timestamp) : SessionAction → Option SessionExecutor
  | .execute jobId criteria => some (s.execute now jobId criteria)
  | .created k sessionId => s.created now k sessionId
  | .written k ok => s.written k ok
  | .ran k success error => s.ran now k success error
  | .collected k ok => s.collected now k ok
  | .cancelled sessionId error => some { s with
      registry := s.registry.markSessionDead now sessionId (some error) (some .taskCancelled) }
  | .processOrphans => some { s with registry := s.registry.processOrphans now }
  | .cleanup => some { s with registry := s.registry.cleanup now }

def next (step : SessionStep) : Option SessionExecutor :=
  if s.clock ≤ step.now then
    (s.perform step.now step.action).map fun s' => { s' with clock := step.now }
  else none

variable {s} {s' : SessionExecutor} {now : Timestamp} {k : Nat} {ok : Bool}

theorem at?_eq_some {phase : ExecutePhase} {p : SessionExecution × String}
    (h : s.at? k phase = some p) :
    s.executions[k]? = some p.1 ∧ p.1.phase = phase ∧ p.1.session = some p.2 := by
  obtain ⟨e, hget, he⟩ := Option.bind_eq_some_iff.mp h
  split_ifs at he with hphase
  obtain ⟨sessionId, hsession, rfl⟩ := Option.map_eq_some_iff.mp he
  exact ⟨hget, hphase, hsession⟩

theorem created_eq_some {created? : Option String}
    (h : s.created now k created? = some s') : ∃ e, s.executions[k]? = some e ∧ e.phase = .creating ∧
      (created? = none ∧ s' = { s with executions := s.setPhase k .returned } ∨
        ∃ sessionId, created? = some sessionId ∧ s' = { s with
          registry := s.registry.addSession now sessionId e.jobId e.criteria
          executions := s.executions.modify k fun e =>
            { e with session := some sessionId, phase := .writing } }) := by
  obtain ⟨e, hget, he⟩ := Option.bind_eq_some_iff.mp h
  split_ifs at he with hphase
  refine ⟨e, hget, hphase, ?_⟩
  cases created? with
  | none => exact Or.inl ⟨rfl, (Option.some.inj he).symm⟩
  | some sessionId => exact Or.inr ⟨sessionId, rfl, (Option.some.inj he).symm⟩

theorem written_eq_some (h : s.written k ok = some s') :
    ∃ e sessionId, s.executions[k]? = some e ∧ e.phase = .writing ∧ e.session = some sessionId ∧
      s' = { s with executions := s.setPhase k (if ok then .running else .returned) } := by
  obtain ⟨p, hat, rfl⟩ := Option.map_eq_some_iff.mp h
  obtain ⟨hget, hphase, hsession⟩ := at?_eq_some hat
  exact ⟨p.1, p.2, hget, hphase, hsession, rfl⟩

theorem ran_eq_some {success : Bool} {error : Option String}
    (h : s.ran now k success error = some s') :
    ∃ e sessionId, s.executions[k]? = some e ∧ e.phase = .running ∧ e.session = some sessionId ∧
      s' = { s with
        registry := (s.registry.releaseSession now sessionId e.jobId).2
        executions := s.setPhase k (.collecting success error) } := by
  obtain ⟨p, hat, rfl⟩ := Option.map_eq_some_iff.mp h
  obtain ⟨hget, hphase, hsession⟩ := at?_eq_some hat
  exact ⟨p.1, p.2, hget, hphase, hsession, rfl⟩

theorem collected_eq_some (h : s.collected now k ok = some s') :
    ∃ e sessionId success error, s.executions[k]? = some e ∧
      e.phase = .collecting success error ∧ e.session = some sessionId ∧ s' = { s with
        registry :=
          if ok && !success then
            s.registry.markSessionDead now sessionId error (some .taskFailed)
          else s.registry
        executions := s.setPhase k .returned } := by
  obtain ⟨e, hget, he⟩ := Option.bind_eq_some_iff.mp h
  split at he
  · next success error sessionId hphase hsession =>
    exact ⟨e, sessionId, success, error, hget, hphase, hsession, (Option.some.inj he).symm⟩
  · cases he

theorem next_eq_some {step : SessionStep} (h : s.next step = some s') :
    ∃ performed, s.perform step.now step.action = some performed ∧
      s' = { performed with clock := step.now } := by
  unfold next at h
  split_ifs at h
  obtain ⟨performed, hperformed, rfl⟩ := Option.map_eq_some_iff.mp h
  exact ⟨performed, hperformed, rfl⟩

variable {f : SessionExecution → SessionExecution}

theorem modify_eq_some {m : Nat} {e' : SessionExecution}
    (h : (s.executions.modify k f)[m]? = some e') : ∃ e, s.executions[m]? = some e ∧
      (m ≠ k ∧ e' = e ∨ m = k ∧ e' = f e) := by
  rw [List.getElem?_modify] at h
  obtain ⟨e, hget, he⟩ := Option.map_eq_some_iff.mp h
  refine ⟨e, hget, ?_⟩
  split_ifs at he with hkey
  · exact Or.inr ⟨hkey.symm, he.symm⟩
  · exact Or.inl ⟨fun h => hkey h.symm, he.symm⟩

theorem modify_of_ne {m : Nat} {e : SessionExecution}
    (hne : m ≠ k) (hget : s.executions[m]? = some e) :
    (s.executions.modify k f)[m]? = some e := by
  rw [List.getElem?_modify_ne f s.executions fun h => hne h.symm, hget]

theorem modify_self {e : SessionExecution}
    (hget : s.executions[k]? = some e) : (s.executions.modify k f)[k]? = some (f e) := by
  rw [List.getElem?_modify_eq, hget]
  rfl

theorem executions_perform {action : SessionAction} (h : s.perform now action = some s') :
    (∃ l, s'.executions = s.executions ++ l) ∨ ∃ k e f, s.executions[k]? = some e ∧
      e.phase ≠ .returned ∧ (f e).jobId = e.jobId ∧ s'.executions = s.executions.modify k f := by
  have hkept : ∃ l, s.executions = s.executions ++ l := ⟨[], (List.append_nil _).symm⟩
  cases action with
  | execute jobId criteria =>
    obtain rfl := Option.some.inj h
    exact Or.inl ⟨_, rfl⟩
  | created k created? =>
    obtain ⟨e, hget, hphase, ⟨_, rfl⟩ | ⟨_, _, rfl⟩⟩ := created_eq_some h
    · exact Or.inr ⟨k, e, _, hget, by rw [hphase]; nofun, rfl, rfl⟩
    · exact Or.inr ⟨k, e, _, hget, by rw [hphase]; nofun, rfl, rfl⟩
  | written k ok =>
    obtain ⟨e, _, hget, hphase, _, rfl⟩ := written_eq_some h
    exact Or.inr ⟨k, e, _, hget, by rw [hphase]; nofun, rfl, rfl⟩
  | ran k success error =>
    obtain ⟨e, _, hget, hphase, _, rfl⟩ := ran_eq_some h
    exact Or.inr ⟨k, e, _, hget, by rw [hphase]; nofun, rfl, rfl⟩
  | collected k ok =>
    obtain ⟨e, _, _, _, hget, hphase, _, rfl⟩ := collected_eq_some h
    exact Or.inr ⟨k, e, _, hget, by rw [hphase]; nofun, rfl, rfl⟩
  | cancelled sessionId error =>
    obtain rfl := Option.some.inj h
    exact Or.inl hkept
  | processOrphans =>
    obtain rfl := Option.some.inj h
    exact Or.inl hkept
  | cleanup =>
    obtain rfl := Option.some.inj h
    exact Or.inl hkept

end SessionExecutor

def sessionExecutors : Machine SessionExecutor SessionStep :=
  .ofNext (fun s => ∃ config, s.registry = .new config ∧ s.executions = []) SessionExecutor.next

end ShipyardCp.Domain
