import ShipyardCp.Domain.RuntimeSession

/-! Inputs of a running session: each is promoted once, in the order of admission, to one turn. -/

namespace ShipyardCp.Properties

open Types Domain Lib Lib.NodePath RuntimeSession Machine RuntimeTurn KeyedMap

def pending (s : RuntimeSession) : List RuntimeInput :=
  s.admittedInputs.values.filter fun input => input.state = .admitted

def newlyAdmitted (s s' : RuntimeSession) : List RuntimeInput :=
  s'.admittedInputs.values.filter fun input => (s.admittedInputs.get? input.inputId).isNone

def newlyPromoted (s s' : RuntimeSession) : List RuntimeInput := (pending s).filter fun input =>
    (s'.admittedInputs.get? input.inputId).any fun found => found.state = .promoted

def steeredRun (inputs : List RuntimeInput) : List RuntimeInput :=
  inputs.takeWhile (fun input => input.delivery = .steer) ++
    (inputs.dropWhile fun input => input.delivery = .steer).take 1

def userTurn (input : RuntimeInput) : TurnRequest := { role := .user, content := input.content }

def isInputCall (call : SessionCall) : Bool :=
  match call.op with
  | .admitInput _ => true
  | .promoteAdmittedInputs => true
  | _ => false

section session

variable {platform : Platform} {s : RuntimeSession} {now : Timestamp} {request : InputRequest}

theorem nextInputs_eq (inputs : List RuntimeInput) : nextInputs inputs =
    steeredRun (inputs.filter fun input => input.state = .admitted) := by
  induction inputs with
  | nil => rfl
  | cons input inputs ih =>
    cases hstate : input.state with
    | promoted => simp [nextInputs, hstate, ih]
    | admitted =>
      cases hdelivery : input.delivery with
      | queue => simp [nextInputs, hstate, hdelivery, steeredRun]
      | steer => simp [nextInputs, hstate, hdelivery, ih, steeredRun]

theorem steeredRun_isPrefix (inputs : List RuntimeInput) : steeredRun inputs <+: inputs := by
  refine ⟨(inputs.dropWhile fun input => input.delivery = .steer).drop 1, ?_⟩
  rw [steeredRun, List.append_assoc, List.take_append_drop, List.takeWhile_append_dropWhile]

theorem steeredRun_ne_nil {inputs : List RuntimeInput} (h : inputs ≠ []) :
    steeredRun inputs ≠ [] := by
  cases inputs with
  | nil => exact absurd rfl h
  | cons input inputs =>
    cases hdelivery : input.delivery with
    | queue => simp [steeredRun, hdelivery]
    | steer => simp [steeredRun, hdelivery]

theorem nodup_pending (s : RuntimeSession) : ((pending s).map RuntimeInput.inputId).Nodup :=
  s.admittedInputs.nodup_map_key_values.sublist (List.filter_sublist.map _)

theorem mem_pending {input : RuntimeInput} : input ∈ pending s ↔
    s.admittedInputs.get? input.inputId = some input ∧ input.state = .admitted := by
  rw [pending, List.mem_filter, mem_values_iff, decide_eq_true_iff]

@[simp] theorem newlyAdmitted_self (s : RuntimeSession) : newlyAdmitted s s = [] := by
  refine List.filter_eq_nil_iff.mpr fun input hinput => ?_
  rw [s.admittedInputs.mem_values_iff.mp hinput]
  simp

@[simp] theorem newlyPromoted_self (s : RuntimeSession) : newlyPromoted s s = [] := by
  refine List.filter_eq_nil_iff.mpr fun input hinput => ?_
  obtain ⟨hget, hstate⟩ := mem_pending.mp hinput
  simp [hget, hstate]

theorem admitInput_of_get? {existing : RuntimeInput} (hrunning : s.state = .running)
    (hget : s.admittedInputs.get? request.inputId = some existing) :
    s.admitInput now request =
      if existing.content ≠ request.content || existing.delivery ≠ request.delivery.getD .steer then
        .error s!"input_id reuse conflicts with admitted input: {request.inputId}"
      else
        .ok (⟨existing, true, request.resume ≠ some false⟩, s) := by
  unfold admitInput
  rw [assertRunning_eq_ok_iff.mpr hrunning]
  simp only [hget]
  rfl

/-- The input that a first request admits. -/
def freshInput (s : RuntimeSession) (now : Timestamp) (request : InputRequest) : RuntimeInput where
  inputId := request.inputId
  sessionId := s.sessionId
  content := request.content
  delivery := request.delivery.getD .steer
  state := .admitted
  createdAt := now

theorem admitInput_of_new (now : Timestamp) (hrunning : s.state = .running)
    (hget : s.admittedInputs.get? request.inputId = none) : ∃ receipt message metadata,
      s.admitInput now request = .ok (receipt, recordEvent
        { s with admittedInputs := s.admittedInputs.put (freshInput s now request) }
        now .inputAdmitted message metadata) := by
  unfold admitInput
  rw [assertRunning_eq_ok_iff.mpr hrunning]
  simp only [hget]
  exact ⟨_, _, _, rfl⟩

theorem perform_admitInput_of_get? {existing : RuntimeInput} (hrunning : s.state = .running)
    (hget : s.admittedInputs.get? request.inputId = some existing) :
    s.perform platform ⟨now, .admitInput request⟩ = s := by
  have hanswer : s.answer platform ⟨now, .admitInput request⟩ =
      (s.admitInput now request).map (·.2) := rfl
  rw [admitInput_of_get? hrunning hget] at hanswer
  split_ifs at hanswer
  · exact perform_of_error hanswer
  · exact perform_of_ok hanswer

theorem perform_admitInput_of_new (platform : Platform) (now : Timestamp)
    (hrunning : s.state = .running) (hget : s.admittedInputs.get? request.inputId = none) :
    ∃ message metadata, s.perform platform ⟨now, .admitInput request⟩ = recordEvent
      { s with admittedInputs := s.admittedInputs.put (freshInput s now request) }
      now .inputAdmitted message metadata := by
  obtain ⟨receipt, message, metadata, hreceipt⟩ := admitInput_of_new now hrunning hget
  have hanswer : s.answer platform ⟨now, .admitInput request⟩ =
      (s.admitInput now request).map (·.2) := rfl
  rw [hreceipt] at hanswer
  exact ⟨message, metadata, perform_of_ok hanswer⟩

theorem pending_putNew {input : RuntimeInput} {s' : RuntimeSession}
    (hget : s.admittedInputs.get? input.inputId = none) (hstate : input.state = .admitted)
    (hinputs : s'.admittedInputs = s.admittedInputs.put input) :
    pending s' = pending s ++ [input] ∧ newlyAdmitted s s' = [input] ∧ newlyPromoted s s' = [] := by
  have hvalues : s'.admittedInputs.values = s.admittedInputs.values ++ [input] := by
    rw [hinputs, values_put_of_none _ hget]
  have hknown : s.admittedInputs.values.filter
      (fun input => (s.admittedInputs.get? input.inputId).isNone) = [] := newlyAdmitted_self s
  refine ⟨?_, ?_, ?_⟩
  · rw [pending, hvalues, List.filter_append]
    simp [pending, hstate]
  · rw [newlyAdmitted, hvalues, List.filter_append, hknown]
    simp [hget]
  · refine List.filter_eq_nil_iff.mpr fun found hfound => ?_
    obtain ⟨hgetFound, hstateFound⟩ := mem_pending.mp hfound
    have hne : found.inputId ≠ input.inputId := by
      intro heq
      rw [heq, hget] at hgetFound
      cases hgetFound
    rw [hinputs, get?_put_of_ne _ hne, hgetFound]
    simp [hstateFound]

theorem pending_putAll {batch rest : List RuntimeInput} {s' : RuntimeSession}
    (hpending : pending s = batch ++ rest)
    (hinputs : s'.admittedInputs = s.admittedInputs.putAll (batch.map (promotedAt now))) :
    pending s' = rest ∧ newlyAdmitted s s' = [] ∧ newlyPromoted s s' = batch := by
  have hids := nodup_pending s
  rw [hpending, List.map_append, List.nodup_append] at hids
  obtain ⟨hbatchIds, _, hdisjoint⟩ := hids
  have hmem : ∀ input ∈ batch, input ∈ s.admittedInputs.values := by
    intro input hinput
    have hin : input ∈ pending s := by
      rw [hpending]
      exact List.mem_append_left _ hinput
    exact List.mem_of_mem_filter hin
  have hrest : ∀ input ∈ rest, input ∉ batch := by
    intro input hinRest hinBatch
    exact hdisjoint _ (List.mem_map_of_mem hinBatch) _ (List.mem_map_of_mem hinRest) rfl
  have hvalues : s'.admittedInputs.values = s.admittedInputs.values.map fun input =>
      if input ∈ batch then promotedAt now input else input := by
    rw [hinputs]
    have hkey : ∀ input, (promotedAt now input).inputId = input.inputId :=
      fun _ => rfl
    exact values_putAll_map hkey hbatchIds _ hmem
  have hget : ∀ input ∈ s.admittedInputs.values, s'.admittedInputs.get? input.inputId =
      some (if input ∈ batch then promotedAt now input else input) := by
    intro input hinput
    have hin : (if input ∈ batch then promotedAt now input else input) ∈
        s'.admittedInputs.values := by
      rw [hvalues]
      exact List.mem_map_of_mem hinput
    have hid : (if input ∈ batch then promotedAt now input else input).inputId = input.inputId := by
      split_ifs <;> rfl
    have hfound := s'.admittedInputs.mem_values_iff.mp hin
    rwa [hid] at hfound
  refine ⟨?_, ?_, ?_⟩
  · have hfilter : pending s' = (pending s).filter fun input => input ∉ batch := by
      have hkept : s.admittedInputs.values.filter ((fun input => decide (input.state = .admitted)) ∘
          fun input => if input ∈ batch then promotedAt now input else input) =
          (pending s).filter fun input => input ∉ batch := by
        rw [pending, List.filter_filter]
        refine List.filter_congr fun input _ => ?_
        by_cases hin : input ∈ batch <;> simp [hin, promotedAt]
      rw [pending, hvalues, List.filter_map, hkept]
      refine (List.map_congr_left fun input hinput => ?_).trans (List.map_id _)
      have hnot : input ∉ batch := of_decide_eq_true (List.mem_filter.mp hinput).2
      simp [hnot]
    have hnone : batch.filter (fun input => input ∉ batch) = [] :=
      List.filter_eq_nil_iff.mpr fun input hinput => by simp [hinput]
    rw [hfilter, hpending, List.filter_append, hnone, List.nil_append]
    exact List.filter_eq_self.mpr fun input hinput => decide_eq_true (hrest input hinput)
  · refine List.filter_eq_nil_iff.mpr fun input hinput => ?_
    rw [hvalues, List.mem_map] at hinput
    obtain ⟨found, hfound, rfl⟩ := hinput
    have hknown := s.admittedInputs.mem_values_iff.mp hfound
    split_ifs <;> simp [promotedAt, hknown]
  · have hfilter : newlyPromoted s s' = (pending s).filter fun input => input ∈ batch := by
      refine List.filter_congr fun input hinput => ?_
      rw [hget input (List.mem_of_mem_filter hinput)]
      have hadmitted := (mem_pending.mp hinput).2
      by_cases hin : input ∈ batch
      · simp [hin, promotedAt]
      · simp [hin, hadmitted]
    have hnone : rest.filter (fun input => input ∈ batch) = [] :=
      List.filter_eq_nil_iff.mpr fun input hinput => by simp [hrest input hinput]
    rw [hfilter, hpending, List.filter_append, hnone, List.append_nil]
    exact List.filter_eq_self.mpr fun input hinput => decide_eq_true hinput

end session

/-- What a call that admits or promotes inputs does to a running session. -/
structure InputStep (s s' : RuntimeSession) : Prop where
  running : s'.state = .running
  flow : pending s ++ newlyAdmitted s s' = newlyPromoted s s' ++ pending s'
  turns : s'.turns.map toTurnRequest = s.turns.map toTurnRequest ++ (newlyPromoted s s').map userTurn
  known : ∀ id, (s.admittedInputs.get? id).isSome → (s'.admittedInputs.get? id).isSome

theorem InputStep.refl {s : RuntimeSession} (hrunning : s.state = .running) : InputStep s s where
  running := hrunning
  flow := by simp
  turns := by simp
  known := fun _ h => h

section step

variable {platform : Platform} {s : RuntimeSession} {now : Timestamp} {request : InputRequest}

theorem inputStep_admitInput (hrunning : s.state = .running) (now : Timestamp)
    (request : InputRequest) : InputStep s (s.perform platform ⟨now, .admitInput request⟩) := by
  cases hget : s.admittedInputs.get? request.inputId with
  | some existing =>
    rw [perform_admitInput_of_get? hrunning hget]
    exact .refl hrunning
  | none =>
    obtain ⟨message, metadata, hperform⟩ := perform_admitInput_of_new platform now hrunning hget
    have hinputs : (s.perform platform ⟨now, .admitInput request⟩).admittedInputs =
        s.admittedInputs.put (freshInput s now request) := by
      rw [hperform]
      rfl
    obtain ⟨hpending, hadmitted, hpromoted⟩ := pending_putNew hget rfl hinputs
    refine ⟨?_, ?_, ?_, ?_⟩
    · rw [hperform]
      exact hrunning
    · rw [hpending, hadmitted, hpromoted, List.nil_append]
    · rw [hpromoted, List.map_nil, List.append_nil, hperform]
      rfl
    · intro id hid
      rw [hinputs]
      exact isSome_get?_put _ _ hid

theorem perform_promoteAdmittedInputs (platform : Platform) (hrunning : s.state = .running)
    (now : Timestamp) : s.perform platform ⟨now, .promoteAdmittedInputs⟩ =
      (steeredRun (pending s)).foldl (promoteInput now) s := by
  have hnext : nextInputs s.admittedInputs.values = steeredRun (pending s) := nextInputs_eq _
  rw [← hnext]
  exact perform_of_ok (promoteAdmittedInputs_eq_ok hrunning now)

theorem inputStep_promoteAdmittedInputs (platform : Platform) (hrunning : s.state = .running)
    (now : Timestamp) : InputStep s (s.perform platform ⟨now, .promoteAdmittedInputs⟩) ∧
      newlyAdmitted s (s.perform platform ⟨now, .promoteAdmittedInputs⟩) = [] ∧
      newlyPromoted s (s.perform platform ⟨now, .promoteAdmittedInputs⟩) =
        steeredRun (pending s) := by
  have hperform := perform_promoteAdmittedInputs platform hrunning now
  obtain ⟨hstate, _, _, hturns, hinputs⟩ := foldl_promoteInput now (steeredRun (pending s)) s
  obtain ⟨rest, hrest⟩ := steeredRun_isPrefix (pending s)
  rw [← hperform] at hstate hturns hinputs
  obtain ⟨hpending, hadmitted, hpromoted⟩ := pending_putAll hrest.symm hinputs
  refine ⟨⟨hstate.trans hrunning, ?_, ?_, ?_⟩, hadmitted, hpromoted⟩
  · rw [hpending, hadmitted, hpromoted, hrest, List.append_nil]
  · rw [hturns, hpromoted, List.map_append, List.map_map]
    rfl
  · intro id hid
    rw [hinputs]
    exact isSome_get?_putAll _ _ hid

theorem inputStep_perform {call : SessionCall} (hrunning : s.state = .running)
    (hcall : isInputCall call = true) : InputStep s (s.perform platform call) := by
  obtain ⟨now, op⟩ := call
  cases op with
  | admitInput request => exact inputStep_admitInput hrunning now request
  | promoteAdmittedInputs => exact (inputStep_promoteAdmittedInputs platform hrunning now).1
  | _ => cases hcall

end step

def inputRuns (platform : Platform) (s₀ : RuntimeSession) : Machine RuntimeSession SessionCall :=
  .ofNext (fun s => s = s₀) fun s call =>
    if isInputCall call then some (s.perform platform call) else none

def admits (platform : Platform) (s : RuntimeSession) (call : SessionCall) : List RuntimeInput :=
  newlyAdmitted s (s.perform platform call)

def promotes (platform : Platform) (s : RuntimeSession) (call : SessionCall) : List RuntimeInput :=
  newlyPromoted s (s.perform platform call)

def promoteAt (platform : Platform) (s : RuntimeSession) (times : List Timestamp) : RuntimeSession :=
  times.foldl (fun s now => s.perform platform ⟨now, .promoteAdmittedInputs⟩) s

/-- How a running session has treated its inputs, from one state to another. -/
structure DurableAdmission (platform : Platform) (s₀ : RuntimeSession)
    (h : History RuntimeSession SessionCall) (s : RuntimeSession) : Prop where
  nodup : ((pending s₀ ++ written (admits platform) h).map RuntimeInput.inputId).Nodup
  inOrder : written (promotes platform) h <+:
    pending s₀ ++ written (admits platform) h
  batches : ∀ p ∈ h, p.2.op = .promoteAdmittedInputs →
    promotes platform p.1 p.2 = steeredRun (pending p.1)
  retry : ∀ now request existing, s.admittedInputs.get? request.inputId = some existing →
    existing.content = request.content → existing.delivery = request.delivery.getD .steer →
    s.admitInput now request = .ok (⟨existing, true, request.resume ≠ some false⟩, s)
  conflict : ∀ now request existing, s.admittedInputs.get? request.inputId = some existing →
    existing.content ≠ request.content ∨ existing.delivery ≠ request.delivery.getD .steer →
    s.admitInput now request =
        .error s!"input_id reuse conflicts with admitted input: {request.inputId}" ∧
      s.perform platform ⟨now, .admitInput request⟩ = s
  drained : ∀ times : List Timestamp, (pending s).length ≤ times.length →
    pending (promoteAt platform s times) = [] ∧
    (promoteAt platform s times).turns.map toTurnRequest = s₀.turns.map toTurnRequest ++
        (pending s₀ ++ written (admits platform) h).map userTurn

/-- What holds of a session and of what was admitted to it and promoted in it so far. -/
structure AdmissionInvariant (platform : Platform) (s₀ : RuntimeSession)
    (h : History RuntimeSession SessionCall) (s : RuntimeSession) : Prop where
  running : s.state = .running
  flow : pending s₀ ++ written (admits platform) h = written (promotes platform) h ++ pending s
  turns : s.turns.map toTurnRequest = s₀.turns.map toTurnRequest ++
    (written (promotes platform) h).map userTurn
  nodup : ((pending s₀ ++ written (admits platform) h).map RuntimeInput.inputId).Nodup
  known : ∀ input ∈ pending s₀ ++ written (admits platform) h,
    (s.admittedInputs.get? input.inputId).isSome
  batches : ∀ p ∈ h, p.2.op = .promoteAdmittedInputs →
    promotes platform p.1 p.2 = steeredRun (pending p.1)

section runs

variable {platform : Platform} {s₀ s : RuntimeSession} {h : History RuntimeSession SessionCall}
  {call : SessionCall}

theorem admissionInvariant_nil (hrunning : s₀.state = .running) :
    AdmissionInvariant platform s₀ [] s₀ where
  running := hrunning
  flow := by simp [written]
  turns := by simp [written]
  nodup := by simpa [written] using nodup_pending s₀
  known := by
    intro input hinput
    rw [written, List.flatMap_nil, List.append_nil] at hinput
    rw [(mem_pending.mp hinput).1]
    rfl
  batches := by simp

theorem AdmissionInvariant.snoc (hinv : AdmissionInvariant platform s₀ h s)
    (hcall : isInputCall call = true) :
    AdmissionInvariant platform s₀ (h ++ [(s, call)]) (s.perform platform call) := by
  have hstep : InputStep s (s.perform platform call) := inputStep_perform hinv.running hcall
  have hadmits : written (admits platform) (h ++ [(s, call)]) =
      written (admits platform) h ++ newlyAdmitted s (s.perform platform call) :=
    written_snoc h s call
  have hpromotes : written (promotes platform) (h ++ [(s, call)]) =
      written (promotes platform) h ++ newlyPromoted s (s.perform platform call) :=
    written_snoc h s call
  refine ⟨hstep.running, ?_, ?_, ?_, ?_, ?_⟩
  · rw [hadmits, hpromotes, ← List.append_assoc, hinv.flow, List.append_assoc, hstep.flow,
      List.append_assoc]
  · rw [hpromotes, hstep.turns, hinv.turns, List.map_append, List.append_assoc]
  · rw [hadmits, ← List.append_assoc, List.map_append, List.nodup_append]
    have hfresh : ((newlyAdmitted s (s.perform platform call)).map RuntimeInput.inputId).Nodup :=
      (nodup_map_key_values _).sublist (List.filter_sublist.map _)
    refine ⟨hinv.nodup, hfresh, ?_⟩
    intro id hid id' hid' hsame
    obtain ⟨input, hinput, rfl⟩ := List.mem_map.mp hid
    obtain ⟨input', hinput', rfl⟩ := List.mem_map.mp hid'
    have hnew := (List.mem_filter.mp hinput').2
    have hold := hinv.known input hinput
    rw [hsame, Option.isSome_iff_ne_none] at hold
    exact hold (Option.isNone_iff_eq_none.mp hnew)
  · intro input hinput
    rw [hadmits, ← List.append_assoc] at hinput
    rcases List.mem_append.mp hinput with hold | hnew
    · exact hstep.known _ (hinv.known input hold)
    · rw [(mem_values_iff _).mp (List.mem_of_mem_filter hnew)]
      rfl
  · intro p hp hop
    rcases List.mem_append.mp hp with hp | hp
    · exact hinv.batches p hp hop
    · obtain rfl := List.mem_singleton.mp hp
      obtain ⟨now, op⟩ := call
      obtain rfl : op = .promoteAdmittedInputs := hop
      exact (inputStep_promoteAdmittedInputs platform hinv.running now).2.2

theorem admissionInvariant_of_run (hrunning : s₀.state = .running)
    (hrun : (inputRuns platform s₀).Run h s) : AdmissionInvariant platform s₀ h s := by
  refine hrun.invariant (C := fun _ _ => True) ?_ ?_ (by simp [Machine.Steps])
  · rintro s rfl
    exact admissionInvariant_nil hrunning
  · intro h s call s' _ _ hinv _ hstep
    have hnext : (if isInputCall call then some (s.perform platform call) else none) = some s' :=
      hstep
    split_ifs at hnext with hcall
    rw [← Option.some.inj hnext]
    exact hinv.snoc hcall

theorem pending_promoteAt (times : List Timestamp) :
    ∀ (h : History RuntimeSession SessionCall) (s : RuntimeSession),
      AdmissionInvariant platform s₀ h s → (pending s).length ≤ times.length →
      pending (promoteAt platform s times) = [] ∧
      (promoteAt platform s times).turns.map toTurnRequest = s₀.turns.map toTurnRequest ++
          (pending s₀ ++ written (admits platform) h).map userTurn := by
  induction times with
  | nil =>
    intro h s hinv hlength
    have hnone : pending s = [] := List.length_eq_zero_iff.mp (Nat.le_zero.mp hlength)
    refine ⟨hnone, ?_⟩
    have hflow := hinv.flow
    rw [hnone, List.append_nil] at hflow
    rw [hflow]
    exact hinv.turns
  | cons now times ih =>
    intro h s hinv hlength
    have hnext : AdmissionInvariant platform s₀ (h ++ [(s, ⟨now, .promoteAdmittedInputs⟩)])
        (s.perform platform ⟨now, .promoteAdmittedInputs⟩) := hinv.snoc rfl
    obtain ⟨hstep, hadmitted, hpromoted⟩ := inputStep_promoteAdmittedInputs platform hinv.running now
    have hflow := hstep.flow
    rw [hadmitted, List.append_nil, hpromoted] at hflow
    have hshorter : (pending (s.perform platform ⟨now, .promoteAdmittedInputs⟩)).length ≤
        times.length := by
      have hsum := congrArg List.length hflow
      rw [List.length_append] at hsum
      rw [List.length_cons] at hlength
      by_cases hempty : pending s = []
      · rw [hempty, List.length_nil] at hsum
        omega
      · have hsome := List.length_pos_of_ne_nil (steeredRun_ne_nil hempty)
        omega
    have hdrained := ih _ _ hnext hshorter
    rw [written_snoc] at hdrained
    have hnone : admits platform s ⟨now, .promoteAdmittedInputs⟩ = [] := hadmitted
    rw [hnone, List.append_nil] at hdrained
    exact hdrained

end runs

/-- A running session, without a job, that allows two turns and two tool calls. -/
def runningSession : RuntimeSession :=
  { new "session"
      { mode := .interactive, allowedPaths := none, maxTurns := 2, maxToolCalls := 2,
        restrictedTools := true, allowSubagents := false, restorePoints := .disabled } with
    state := .running }

end ShipyardCp.Properties
