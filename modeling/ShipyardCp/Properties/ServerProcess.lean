import ShipyardCp.Domain.OpencodeServerManager

/-! When there is at most one serve process: every process that was spawned is the tracked one, has exited
or has been sent a signal, and the status tells of the tracked process alone. -/

namespace ShipyardCp.Properties

open Lib Domain ServerManager ServerStatus Machine

def ServeProcess.Settled (proc : ServeProcess) : Prop :=
  proc.pid.isSome → proc.exited = true ∨ proc.killed = true

def ServeProcess.Alive (proc : ServeProcess) : Prop := proc.pid.isSome ∧ proc.closed = false

def TrackedSettled (m : ServerManager) : Prop :=
  ∀ p proc, m.process = some p → m.processes[p]? = some proc → ServeProcess.Settled proc

def TrackedAlive (m : ServerManager) : Prop :=
  ∃ p proc, m.process = some p ∧ m.processes[p]? = some proc ∧ ServeProcess.Alive proc

/-- Every process but the tracked one is settled, and the status is healthy only while that is alive. -/
structure OneServer (m : ServerManager) : Prop where
  settled : ∀ p proc, m.processes[p]? = some proc → m.process = some p ∨ ServeProcess.Settled proc
  healthy : m.status.healthy = true → TrackedAlive m

/-- An error or close event of a process leaves the status while another process is tracked. -/
def EventKeepsStatus (s : ServerSystem) (a : ServerAction) (s' : ServerSystem) : Prop :=
  match a with
  | .error p _ => ∀ q, s.manager.process = some q → q ≠ p → s'.manager.status = s.manager.status
  | .close p => ∀ q, s.manager.process = some q → q ≠ p → s'.manager.status = s.manager.status
  | _ => True

def StopApart (m : ServerManager) : Prop :=
  ∀ p, m.process = some p → m.isKilled p = true → m.status.healthy = false

/-- What keeps the next step of a call apart: a stop that ends gives up a process that is settled, or that
its timer kills; a process is spawned over one that is settled, and if that fails the status is unhealthy;
and a health check succeeds while the tracked process is alive. -/
def CallApart (m : ServerManager) (a : ServerAnswers) : ServerCall → Prop
  | .healthChecking _ => a.health.ok = true → TrackedAlive m
  | .awaitingHealth _ => a.health.ok = true → TrackedAlive m
  | .stopping p closedBefore _ => ∀ q proc, m.process = some q → m.processes[q]? = some proc →
      ServeProcess.Settled proc ∨ ¬(m.isClosed p = true ∧ closedBefore = false) ∧ a.sigkill = .sent
  | .writingConfig => a.configWritten = true → ∀ pid, a.spawned = .process pid →
      TrackedSettled m ∧ (pid = none → m.status.healthy = false)
  | .waited ready => ready = false → StopApart m
  | _ => True

def CallsApart (s : ServerSystem) : ServerAction → Prop
  | .stop _ => StopApart s.manager
  | .resume i a => ∀ call, s.calls[i]? = some call → CallApart s.manager a call
  | _ => True

/-- An event of another process than the tracked one comes when the status already tells of it. -/
def EventsApart (s : ServerSystem) : ServerAction → Prop
  | .error p message => ∀ q, s.manager.process = some q → q ≠ p →
      s.manager.status.healthy = false ∧ s.manager.status.error = some message
  | .close p => ∀ q, s.manager.process = some q → q ≠ p →
      s.manager.status.healthy = false ∧ s.manager.status.pid = none
  | _ => True

def ServerApart (s : ServerSystem) (a : ServerAction) : Prop := CallsApart s a ∧ EventsApart s a

section manager

variable {m : ServerManager} {a : ServerAnswers} {p : Nat}

theorem OneServer.unhealthy {m' : ServerManager} (hone : OneServer m)
    (hprocess : m'.process = m.process) (hprocesses : m'.processes = m.processes)
    (hhealthy : m'.status.healthy = true → m.status.healthy = true) : OneServer m' where
  settled := by
    rw [hprocess, hprocesses]
    exact hone.settled
  healthy := by
    rw [TrackedAlive, hprocess, hprocesses]
    exact fun h => hone.healthy (hhealthy h)

theorem OneServer.onError (hone : OneServer m) (message : String) : OneServer (m.onError message) :=
  hone.unhealthy rfl rfl fun h => absurd h Bool.false_ne_true

theorem OneServer.update (hone : OneServer m) {f : ServeProcess → ServeProcess}
    (hsettled : ∀ proc, ServeProcess.Settled proc → ServeProcess.Settled (f proc))
    (halive : ∀ proc, ServeProcess.Alive proc → ServeProcess.Alive (f proc)) :
    OneServer (m.update p f) where
  settled := by
    intro q proc hq
    simp only [ServerManager.update, List.getElem?_modify] at hq
    obtain ⟨old, hold, rfl⟩ := Option.map_eq_some_iff.mp hq
    refine (hone.settled q old hold).imp_right fun h => ?_
    split
    · exact hsettled old h
    · exact h
  healthy := by
    intro hhealthy
    obtain ⟨q, proc, hq, hproc, hup⟩ := hone.healthy hhealthy
    refine ⟨q, if p = q then f proc else proc, hq, ?_, ?_⟩
    · simp only [ServerManager.update, List.getElem?_modify, hproc]
      split <;> rfl
    · split
      · exact halive proc hup
      · exact hup

theorem OneServer.kill (hone : OneServer m) (answer : KillAnswer) : OneServer (m.kill p answer).1 := by
  unfold ServerManager.kill
  split
  · exact hone
  · cases answer with
    | sent => exact hone.update (fun _ _ _ => .inr rfl) fun _ h => h
    | refused message => exact hone.onError message
    | _ => exact hone

theorem oneServer_stop_iff (hone : OneServer m) (after : AfterStop) :
    OneServer (m.stop a after).1 ↔ StopApart m := by
  have hsame : OneServer { m with healthCheckInterval := false } := hone.unhealthy rfl rfl fun h => h
  cases hprocess : m.process with
  | none =>
    simp only [ServerManager.stop, hprocess]
    refine iff_of_true ?_ fun p hp => ?_
    · exact hone.unhealthy hprocess.symm rfl fun h => h
    · rw [hprocess] at hp
      cases hp
  | some p =>
    cases hkilled : m.isKilled p with
    | true =>
      have hgone : (m.stop a after).1 = { m with healthCheckInterval := false, process := none } := by
        simp only [ServerManager.stop, hprocess]
        exact congrArg Prod.fst (if_pos hkilled)
      rw [hgone]
      constructor
      · intro h q hq _
        cases hhealthy : m.status.healthy with
        | false => rfl
        | true =>
          obtain ⟨_, _, hnone, _⟩ := h.healthy hhealthy
          cases hnone
      · intro hapart
        refine ⟨fun q proc hq => .inr ?_, fun h => ?_⟩
        · rcases hone.settled q proc hq with htracked | hsettled
          · obtain rfl : p = q := Option.some.inj (hprocess.symm.trans htracked)
            intro _
            simp only [ServerManager.isKilled] at hkilled
            obtain ⟨proc', hproc', hk⟩ := (Option.any_eq_true _ _).mp hkilled
            obtain rfl : proc' = proc := Option.some.inj (hproc'.symm.trans hq)
            exact .inr hk
          · exact hsettled
        · have hunhealthy := hapart p hprocess hkilled
          rw [show m.status.healthy = true from h] at hunhealthy
          cases hunhealthy
    | false =>
      have hwait : (m.stop a after).1 =
          if ({ m with healthCheckInterval := false }.kill p a.sigterm).2 then
            ({ m with healthCheckInterval := false }.kill p a.sigkill).1
          else ({ m with healthCheckInterval := false }.kill p a.sigterm).1 := by
        have hnot : ¬m.isKilled p = true := by
          rw [hkilled]
          exact Bool.false_ne_true
        simp only [ServerManager.stop, hprocess]
        exact congrArg Prod.fst (if_neg hnot)
      rw [hwait]
      refine iff_of_true ?_ fun q hq hk => ?_
      · split
        · exact hsame.kill _
        · exact hsame.kill _
      · obtain rfl : p = q := Option.some.inj (hprocess.symm.trans hq)
        rw [hkilled] at hk
        cases hk

def AllSettled (m : ServerManager) : Prop :=
  ∀ (p : Nat) (proc : ServeProcess), m.processes[p]? = some proc → ServeProcess.Settled proc

theorem allSettled_iff (hone : OneServer m) : AllSettled m ↔ TrackedSettled m := by
  constructor
  · exact fun hall p proc _ hproc => hall p proc hproc
  · exact fun htracked p proc hproc =>
      (hone.settled p proc hproc).elim (fun hp => htracked p proc hp hproc) fun h => h

theorem allSettled_kill_iff (hone : OneServer m) (hprocess : m.process = some p)
    (answer : KillAnswer) : AllSettled (m.kill p answer).1 ↔
      ∀ proc, m.processes[p]? = some proc → ServeProcess.Settled proc ∨ answer = .sent := by
  have htracked : AllSettled m ↔ ∀ proc, m.processes[p]? = some proc → ServeProcess.Settled proc := by
    rw [allSettled_iff hone]
    constructor
    · exact fun h proc hproc => h p proc hprocess hproc
    · intro h q proc hq hproc
      obtain rfl : p = q := Option.some.inj (hprocess.symm.trans hq)
      exact h proc hproc
  unfold ServerManager.kill
  split
  · next hexited =>
    have hsettled : ∀ proc, m.processes[p]? = some proc → ServeProcess.Settled proc := by
      intro proc hproc _
      rw [hproc] at hexited
      exact .inl hexited
    exact iff_of_true (htracked.mpr hsettled) fun proc hproc => .inl (hsettled proc hproc)
  · cases answer with
    | sent =>
      refine iff_of_true (fun q proc hproc => ?_) fun _ _ => .inr rfl
      simp only [ServerManager.update, List.getElem?_modify] at hproc
      obtain ⟨old, hold, rfl⟩ := Option.map_eq_some_iff.mp hproc
      split
      · exact fun _ => .inr rfl
      · next hne =>
        rcases hone.settled q old hold with hq | hsettled
        · exact absurd (Option.some.inj (hprocess.symm.trans hq)) hne
        · exact hsettled
    | notSent => simpa using htracked
    | refused message => simpa [AllSettled, ServerManager.onError] using htracked
    | threw => simpa using htracked

theorem oneServer_finishStop_iff (hone : OneServer m) (closedBefore : Bool) (after : AfterStop) :
    OneServer (m.finishStop p closedBefore a) ↔ CallApart m a (.stopping p closedBefore after) := by
  have hfinished : OneServer (m.finishStop p closedBefore a) ↔
      AllSettled (m.finishStop p closedBefore a) := by
    constructor
    · exact fun h q proc hproc => (h.settled q proc hproc).resolve_left fun hnone => by cases hnone
    · exact fun h => ⟨fun q proc hproc => .inr (h q proc hproc), fun hhealthy => by cases hhealthy⟩
  rw [hfinished]
  by_cases hwoken : m.isClosed p = true ∧ closedBefore = false
  · have hclosed : (m.isClosed p && !closedBefore) = true := by simp [hwoken]
    have hsame : AllSettled (m.finishStop p closedBefore a) ↔ AllSettled m := by
      simp only [finishStop, hclosed, ↓reduceIte]
      rfl
    rw [hsame, allSettled_iff hone]
    constructor
    · exact fun h q proc hq hproc => .inl (h q proc hq hproc)
    · exact fun h q proc hq hproc => (h q proc hq hproc).resolve_right fun hnot => hnot.1 hwoken
  · have hopen : (m.isClosed p && !closedBefore) = false := by
      cases hclosed : m.isClosed p with
      | false => rfl
      | true => cases closedBefore with
        | true => rfl
        | false => exact absurd ⟨hclosed, rfl⟩ hwoken
    cases hprocess : m.process with
    | none =>
      have hsame : AllSettled (m.finishStop p closedBefore a) ↔ AllSettled m := by
        simp only [finishStop, hopen, hprocess, Bool.false_eq_true, ↓reduceIte]
        rfl
      rw [hsame, allSettled_iff hone]
      simp [CallApart, TrackedSettled, hprocess]
    | some q =>
      cases hkilled : m.isKilled q with
      | true =>
        have hsame : AllSettled (m.finishStop p closedBefore a) ↔ AllSettled m := by
          simp only [finishStop, hopen, hprocess, hkilled, Bool.false_eq_true, ↓reduceIte]
          rfl
        have hsettled : ∀ proc, m.processes[q]? = some proc → ServeProcess.Settled proc := by
          intro proc hproc _
          rw [ServerManager.isKilled, hproc] at hkilled
          exact .inr hkilled
        rw [hsame, allSettled_iff hone]
        refine iff_of_true ?_ ?_
        · intro q' proc hq' hproc
          obtain rfl : q = q' := Option.some.inj (hprocess.symm.trans hq')
          exact hsettled proc hproc
        · intro q' proc hq' hproc
          obtain rfl : q = q' := Option.some.inj (hprocess.symm.trans hq')
          exact .inl (hsettled proc hproc)
      | false =>
        have hkill : AllSettled (m.finishStop p closedBefore a) ↔
            AllSettled (m.kill q a.sigkill).1 := by
          simp only [finishStop, hopen, hprocess, hkilled, Bool.false_eq_true, ↓reduceIte]
          rfl
        rw [hkill, allSettled_kill_iff hone hprocess]
        constructor
        · intro h q' proc hq' hproc
          obtain rfl : q = q' := Option.some.inj (hprocess.symm.trans hq')
          exact (h proc hproc).imp_right fun hsent => ⟨hwoken, hsent⟩
        · intro h proc hproc
          exact (h q proc hprocess hproc).imp_right And.right

theorem oneServer_spawn_iff (hone : OneServer m) : OneServer (m.spawn a).1 ↔
    ∀ pid, a.spawned = .process pid → TrackedSettled m ∧ (pid = none → m.status.healthy = false) := by
  cases hspawned : a.spawned with
  | threw =>
    have hsame : (m.spawn a).1 = m := by simp only [spawn, hspawned]
    rw [hsame]
    exact iff_of_true hone fun pid h => by cases h
  | process pid =>
    have hprocesses : (m.spawn a).1.processes = m.processes ++ [⟨pid, false, false, false⟩] := by
      simp only [spawn, hspawned]
    have hprocess : (m.spawn a).1.process = some m.processes.length := by
      simp only [spawn, hspawned]
    have hhealthy : (m.spawn a).1.status.healthy = m.status.healthy := by
      simp only [spawn, hspawned]
    have hnew : (m.spawn a).1.processes[m.processes.length]? = some ⟨pid, false, false, false⟩ := by
      rw [hprocesses]
      simp
    constructor
    · rintro h _ ⟨⟩
      refine ⟨fun q proc _ hproc => ?_, ?_⟩
      · have hlt := (List.getElem?_eq_some_iff.mp hproc).1
        have hold := h.settled q proc (by rwa [hprocesses, List.getElem?_append_left hlt])
        rw [hprocess] at hold
        exact hold.resolve_left fun hq => by
          rw [← Option.some.inj hq] at hlt
          exact Nat.lt_irrefl _ hlt
      · rintro rfl
        cases hup : m.status.healthy with
        | false => rfl
        | true =>
          obtain ⟨q, proc, hq, hproc, halive⟩ := h.healthy (hhealthy.trans hup)
          rw [hprocess] at hq
          obtain rfl := Option.some.inj hq
          obtain rfl := Option.some.inj (hnew.symm.trans hproc)
          cases halive.1
    · intro h
      obtain ⟨hsettled, hfailed⟩ := h pid rfl
      refine ⟨fun q proc hproc => ?_, fun hup => ?_⟩
      · rw [hprocesses] at hproc
        rw [hprocess]
        rcases Nat.lt_trichotomy q m.processes.length with hlt | rfl | hgt
        · rw [List.getElem?_append_left hlt] at hproc
          exact .inr ((allSettled_iff hone).mpr hsettled q proc hproc)
        · exact .inl rfl
        · rw [List.getElem?_eq_none (by simp; omega)] at hproc
          cases hproc
      · refine ⟨_, _, hprocess, hnew, ?_, rfl⟩
        cases pid with
        | none =>
          rw [hhealthy, hfailed rfl] at hup
          cases hup
        | some pid => rfl

theorem oneServer_healthy_iff (hone : OneServer m) {m' : ServerManager}
    (hprocess : m'.process = m.process) (hprocesses : m'.processes = m.processes)
    (hhealthy : m'.status.healthy = a.health.ok) :
    OneServer m' ↔ (a.health.ok = true → TrackedAlive m) := by
  have hsame : TrackedAlive m' ↔ TrackedAlive m := by
    rw [TrackedAlive, TrackedAlive, hprocess, hprocesses]
  constructor
  · exact fun h hok => hsame.mp (h.healthy (hhealthy.trans hok))
  · intro h
    refine ⟨?_, fun hup => hsame.mpr (h (hhealthy.symm.trans hup))⟩
    rw [hprocess, hprocesses]
    exact hone.settled

theorem stopApart_of_unhealthy (h : m.status.healthy = false) : StopApart m := fun _ _ _ => h

theorem oneServer_start (hone : OneServer m) : OneServer (m.start a).1 := by
  unfold ServerManager.start
  split
  · exact hone
  · next hready =>
    split
    · next hsome =>
      rw [hsome, Bool.true_and, Bool.not_eq_true] at hready
      exact (oneServer_stop_iff hone .restart).mpr (stopApart_of_unhealthy hready)
    · exact hone

theorem oneServer_healthCheck (hone : OneServer m) (ensure : Bool) :
    OneServer (m.healthCheck ensure).1 := by
  unfold ServerManager.healthCheck
  split
  · exact hone.onError _
  · exact hone

theorem oneServer_ensureServerReady (hone : OneServer m) : OneServer (m.ensureServerReady a).1 := by
  unfold ServerManager.ensureServerReady
  split
  · exact hone
  · split
    · exact oneServer_healthCheck hone true
    · exact oneServer_start hone

theorem oneServer_resume_iff (hone : OneServer m) {call : ServerCall}
    {after : ServerManager × ServerCall} (hresume : m.resume a call = some after) : OneServer after.1 ↔ CallApart m a call := by
  cases call with
  | healthChecking ensure =>
    cases hresume
    have hchecked : (m.healthChecked a).process = m.process ∧
        (m.healthChecked a).processes = m.processes ∧
        (m.healthChecked a).status.healthy = a.health.ok := by
      unfold ServerManager.healthChecked
      cases hhealth : a.health with
      | response status => exact ⟨rfl, rfl, rfl⟩
      | failed message => exact ⟨rfl, rfl, rfl⟩
    exact oneServer_healthy_iff hone hchecked.1 hchecked.2.1 hchecked.2.2
  | healthChecked healthy =>
    cases hresume
    refine iff_of_true ?_ trivial
    split
    · exact hone
    · exact oneServer_start hone
  | stopping p closedBefore after =>
    cases hresume
    exact oneServer_finishStop_iff hone closedBefore after
  | writingConfig =>
    cases hresume
    cases hwritten : a.configWritten with
    | true =>
      rw [if_pos rfl, oneServer_spawn_iff hone]
      simp [CallApart, hwritten]
    | false => exact iff_of_true hone fun h => by rw [hwritten] at h; cases h
  | awaitingHealth startedAt =>
    cases hresume
    unfold ServerManager.readyChecked
    cases hok : a.health.ok with
    | true =>
      have hiff : OneServer { m with status :=
          { m.status with healthy := true, lastHealthCheck := some a.now } } ↔ _ :=
        oneServer_healthy_iff hone rfl rfl hok.symm
      exact hiff
    | false => exact iff_of_true hone fun h => by rw [hok] at h; cases h
  | waiting startedAt =>
    cases hresume
    exact iff_of_true hone trivial
  | waited ready =>
    cases hresume
    cases ready with
    | true =>
      refine iff_of_true ?_ fun h => by cases h
      rw [if_pos rfl]
      unfold ServerManager.started
      split
      · exact hone
      · exact hone.unhealthy rfl rfl fun h => h
    | false => simpa [CallApart] using oneServer_stop_iff hone .giveUp
  | returned answer => cases hresume
  | rejected => cases hresume

end manager

section runs

variable {s s' : ServerSystem} {a : ServerAction} {h : History ServerSystem ServerAction}

theorem oneServer_new (config : ServerManagerConfig) : OneServer (.new config) where
  settled := fun _ _ hnone => by cases hnone
  healthy := fun h => by cases h

theorem eventKeepsStatus_iff (hnext : s.next a = some s') :
    EventKeepsStatus s a s' ↔ EventsApart s a := by
  cases a with
  | error p message =>
    obtain ⟨_, _, rfl⟩ := Option.map_eq_some_iff.mp hnext
    refine forall_congr' fun q => forall_congr' fun _ => forall_congr' fun _ => ?_
    constructor
    · intro hsame
      exact ⟨(congrArg healthy hsame).symm, (congrArg error hsame).symm⟩
    · rintro ⟨hhealthy, herror⟩
      simp only [ServerManager.onError]
      rw [← hhealthy, ← herror]
  | close p =>
    obtain ⟨_, _, hclose⟩ := Option.bind_eq_some_iff.mp hnext
    split at hclose
    · cases hclose
    · cases hclose
      refine forall_congr' fun q => forall_congr' fun _ => forall_congr' fun _ => ?_
      constructor
      · intro hsame
        exact ⟨(congrArg healthy hsame).symm, (congrArg pid hsame).symm⟩
      · rintro ⟨hhealthy, hpid⟩
        simp only [ServerManager.onClose, ServerManager.update]
        rw [← hhealthy, ← hpid]
  | _ => exact Iff.rfl

theorem oneServer_next_iff (hone : OneServer s.manager) (hnext : s.next a = some s') :
    OneServer s'.manager ↔ CallsApart s a := by
  cases a with
  | start a =>
    cases hnext
    exact iff_of_true (oneServer_start hone) trivial
  | stop a =>
    cases hnext
    exact oneServer_stop_iff hone .done
  | ensureServerReady a =>
    cases hnext
    exact iff_of_true (oneServer_ensureServerReady hone) trivial
  | healthCheck =>
    cases hnext
    exact iff_of_true (oneServer_healthCheck hone false) trivial
  | resume i a =>
    obtain ⟨call, hcall, hstep⟩ := Option.bind_eq_some_iff.mp hnext
    obtain ⟨after, hresume, rfl⟩ := Option.map_eq_some_iff.mp hstep
    refine (oneServer_resume_iff hone hresume).trans ⟨fun h call' hcall' => ?_, fun h => h call hcall⟩
    obtain rfl := Option.some.inj (hcall.symm.trans hcall')
    exact h
  | exit p =>
    obtain ⟨_, _, hexit⟩ := Option.bind_eq_some_iff.mp hnext
    split at hexit
    · cases hexit
    · cases hexit
      exact iff_of_true (hone.update (fun _ _ _ => .inl rfl) fun _ h => h) trivial
  | error p message =>
    obtain ⟨_, _, rfl⟩ := Option.map_eq_some_iff.mp hnext
    exact iff_of_true (hone.onError message) trivial
  | close p =>
    obtain ⟨_, _, hclose⟩ := Option.bind_eq_some_iff.mp hnext
    split at hclose
    · cases hclose
    · cases hclose
      refine iff_of_true ⟨fun q proc hproc => ?_, fun h => by cases h⟩ trivial
      simp only [ServerManager.onClose, ServerManager.update, List.getElem?_modify] at hproc
      obtain ⟨old, hold, rfl⟩ := Option.map_eq_some_iff.mp hproc
      refine (hone.settled q old hold).imp_right fun h => ?_
      split
      · exact h
      · exact h

/-- In a run there is one server in every state, and no event of an earlier process changes the status,
exactly when every step is kept apart. -/
theorem one_serve_process_iff (hrun : serverMachine.Run h s) :
    (∀ t ∈ states h s, OneServer t.manager) ∧ serverMachine.EveryStep (fun _ => EventKeepsStatus) h ↔
      Machine.Steps ServerApart h := by
  have hstates : (∀ t ∈ states h s, OneServer t.manager) ↔ Machine.Steps CallsApart h := by
    refine hrun.forall_states_iff (P := fun t => OneServer t.manager)
      (I := fun t => OneServer t.manager) ?_ (fun _ hone => hone) ?_ ?_
    · rintro _ ⟨config, rfl⟩
      exact oneServer_new config
    · intro _ t a t' _ hone hapart hstep
      exact (oneServer_next_iff hone hstep).mpr hapart
    · intro _ t a t' _ hone hstep hone'
      exact (oneServer_next_iff hone hstep).mp hone'
  have hevents : serverMachine.EveryStep (fun _ => EventKeepsStatus) h ↔
      Machine.Steps EventsApart h := by
    constructor
    · refine hrun.steps_of_everyStep fun _ t a t' _ hstep hkeeps => ?_
      exact (eventKeepsStatus_iff hstep).mp hkeeps
    · refine hrun.everyStep fun _ t a t' _ _ hapart hstep => ?_
      exact (eventKeepsStatus_iff hstep).mpr hapart
  rw [hstates, hevents]
  exact ⟨fun hboth p hp => ⟨hboth.1 p hp, hboth.2 p hp⟩,
    fun hboth => ⟨fun p hp => (hboth p hp).1, fun p hp => (hboth p hp).2⟩⟩

end runs

section samples

instance : DecidablePred ServeProcess.Settled := fun proc =>
  inferInstanceAs (Decidable (proc.pid.isSome = true → proc.exited = true ∨ proc.killed = true))

instance : DecidablePred ServeProcess.Alive := fun proc =>
  inferInstanceAs (Decidable (proc.pid.isSome = true ∧ proc.closed = false))

instance (m : ServerManager) (P : ServeProcess → Prop) [DecidablePred P] :
    Decidable (∀ p proc, m.process = some p → m.processes[p]? = some proc → P proc) :=
  decidable_of_iff (∀ p ∈ m.process, ∀ proc ∈ m.processes[p]?, P proc)
    ⟨fun h p proc hp hproc => h p hp proc hproc, fun h p hp proc hproc => h p proc hp hproc⟩

instance : DecidablePred TrackedSettled := fun m =>
  inferInstanceAs (Decidable (∀ p proc, m.process = some p → m.processes[p]? = some proc →
    ServeProcess.Settled proc))

instance : DecidablePred TrackedAlive := fun m =>
  decidable_of_iff (∃ p ∈ m.process, ∃ proc ∈ m.processes[p]?, ServeProcess.Alive proc)
    ⟨fun ⟨p, hp, proc, hproc, h⟩ => ⟨p, proc, hp, hproc, h⟩,
      fun ⟨p, proc, hp, hproc, h⟩ => ⟨p, hp, proc, hproc, h⟩⟩

instance : DecidablePred StopApart := fun m =>
  inferInstanceAs (Decidable (∀ p ∈ m.process, m.isKilled p = true → m.status.healthy = false))

instance (m : ServerManager) (a : ServerAnswers) : DecidablePred (CallApart m a)
  | .healthChecking _ => inferInstanceAs (Decidable (a.health.ok = true → TrackedAlive m))
  | .awaitingHealth _ => inferInstanceAs (Decidable (a.health.ok = true → TrackedAlive m))
  | .stopping p closedBefore _ => inferInstanceAs (Decidable (∀ q proc, m.process = some q →
      m.processes[q]? = some proc → ServeProcess.Settled proc ∨
        ¬(m.isClosed p = true ∧ closedBefore = false) ∧ a.sigkill = .sent))
  | .writingConfig => match hspawned : a.spawned with
    | .threw => .isTrue fun _ _ h => by rw [hspawned] at h; cases h
    | .process pid => decidable_of_iff (a.configWritten = true →
        TrackedSettled m ∧ (pid = none → m.status.healthy = false))
        ⟨fun h hwritten pid' hpid' => by
          rw [hspawned] at hpid'
          cases hpid'
          exact h hwritten, fun h hwritten => h hwritten pid hspawned⟩
  | .waited ready => inferInstanceAs (Decidable (ready = false → StopApart m))
  | .healthChecked _ => .isTrue trivial
  | .waiting _ => .isTrue trivial
  | .returned _ => .isTrue trivial
  | .rejected => .isTrue trivial

instance (s : ServerSystem) : DecidablePred (CallsApart s)
  | .stop _ => inferInstanceAs (Decidable (StopApart s.manager))
  | .resume i a => inferInstanceAs (Decidable (∀ call ∈ s.calls[i]?, CallApart s.manager a call))
  | .start _ => .isTrue trivial
  | .ensureServerReady _ => .isTrue trivial
  | .healthCheck => .isTrue trivial
  | .exit _ => .isTrue trivial
  | .error _ _ => .isTrue trivial
  | .close _ => .isTrue trivial

instance (s : ServerSystem) : DecidablePred (EventsApart s)
  | .error p message => inferInstanceAs (Decidable (∀ q ∈ s.manager.process, q ≠ p →
      s.manager.status.healthy = false ∧ s.manager.status.error = some message))
  | .close p => inferInstanceAs (Decidable (∀ q ∈ s.manager.process, q ≠ p →
      s.manager.status.healthy = false ∧ s.manager.status.pid = none))
  | .start _ => .isTrue trivial
  | .stop _ => .isTrue trivial
  | .ensureServerReady _ => .isTrue trivial
  | .healthCheck => .isTrue trivial
  | .resume _ _ => .isTrue trivial
  | .exit _ => .isTrue trivial

instance (s : ServerSystem) : DecidablePred (ServerApart s) := fun a =>
  inferInstanceAs (Decidable (CallsApart s a ∧ EventsApart s a))

theorem exists_servers_of_script (script : List ServerAction)
    (test : History ServerSystem ServerAction × ServerSystem → Bool)
    (h : (replay ServerSystem.next ⟨.new ⟨"http://localhost:3001", 30000⟩, []⟩
      (script.map fun a _ => some a)).any test = true) :
    ∃ h s, serverMachine.Run h s ∧ test (h, s) = true :=
  exists_run_of_replay ⟨_, rfl⟩ h

def startedAgain : List ServerAction :=
  [.ensureServerReady {}, .resume 0 {}, .resume 0 {}, .resume 0 {}, .stop {}, .exit 0, .close 0,
    .resume 1 {}, .start {}, .resume 2 {}, .resume 2 {}, .resume 2 {}]

theorem started_again_one_server : ∃ h s, serverMachine.Run h s ∧
    s.manager.processes.length = 2 ∧ s.manager.status.healthy = true ∧
    (∀ t ∈ states h s, OneServer t.manager) ∧
    serverMachine.EveryStep (fun _ => EventKeepsStatus) h := by
  obtain ⟨h, s, hrun, htest⟩ := exists_servers_of_script startedAgain
    (fun p => p.1.all (fun q => ServerApart q.1 q.2) &&
      decide (p.2.manager.processes.length = 2 ∧ p.2.manager.status.healthy = true))
    (by decide +kernel)
  rw [Bool.and_eq_true, List.all_eq_true, decide_eq_true_eq] at htest
  have hapart : Machine.Steps ServerApart h := fun p hp => of_decide_eq_true (htest.1 p hp)
  exact ⟨h, s, hrun, htest.2.1, htest.2.2, (one_serve_process_iff hrun).mpr hapart⟩

def startedTwice : List ServerAction := [.ensureServerReady {}, .ensureServerReady {}, .resume 0 {},
    .resume 1 { spawned := .process (some 1) }]

def closedLate : List ServerAction :=
  [.start {}, .resume 0 {}, .resume 0 {}, .resume 0 {}, .stop {}, .resume 1 {}, .start {},
    .resume 2 {}, .resume 2 {}, .resume 2 {}, .exit 0, .close 0]

def checkedLate : List ServerAction := [.start {}, .resume 0 {}, .exit 0, .close 0, .resume 0 {}]

/-- Two serve processes run at once, the close event of an earlier process marks the current one
unhealthy, and the status is healthy with no process alive. -/
theorem serve_processes_confused :
    (¬∀ h s, serverMachine.Run h s → ∀ p proc, s.manager.processes[p]? = some proc →
      s.manager.process = some p ∨ ServeProcess.Settled proc) ∧
    (¬∀ h s, serverMachine.Run h s → serverMachine.EveryStep (fun _ => EventKeepsStatus) h) ∧
    ¬∀ h s, serverMachine.Run h s → s.manager.status.healthy = true → TrackedAlive s.manager := by
  refine ⟨fun hall => ?_, fun hall => ?_, fun hall => ?_⟩
  · obtain ⟨h, s, hrun, htest⟩ := exists_servers_of_script startedTwice
      (fun p => decide (p.2.manager.process = some 1 ∧ p.2.manager.processes =
        [⟨some 0, false, false, false⟩, ⟨some 1, false, false, false⟩])) (by decide +kernel)
    obtain ⟨hprocess, hprocesses⟩ := of_decide_eq_true htest
    have hfirst := hall h s hrun 0 ⟨some 0, false, false, false⟩ (by rw [hprocesses]; rfl)
    rw [hprocess] at hfirst
    exact absurd hfirst (by decide)
  · obtain ⟨h, s, hrun, htest⟩ := exists_servers_of_script closedLate
      (fun p => p.1.any fun q => !decide (EventsApart q.1 q.2)) (by decide +kernel)
    obtain ⟨q, hq, hbad⟩ := List.any_eq_true.mp htest
    have hapart : Machine.Steps EventsApart h := by
      refine hrun.steps_of_everyStep (fun _ t a t' _ hstep hkept => ?_) (hall h s hrun)
      exact (eventKeepsStatus_iff hstep).mp hkept
    rw [decide_eq_true (hapart q hq)] at hbad
    cases hbad
  · obtain ⟨h, s, hrun, htest⟩ := exists_servers_of_script checkedLate
      (fun p => decide (p.2.manager.status.healthy = true ∧ ¬TrackedAlive p.2.manager))
      (by decide +kernel)
    obtain ⟨hhealthy, hdead⟩ := of_decide_eq_true htest
    exact hdead (hall h s hrun hhealthy)

end samples

end ShipyardCp.Properties
