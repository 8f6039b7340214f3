import ShipyardCp.Domain.BackgroundProcesses

/-! The lifecycle of background processes: whether an ended state stays, how often a process is
signalled, and what the tails of its output hold. -/

namespace ShipyardCp.Properties

open Domain Lib
open JsText (CodeUnits)
open Utf8 (Decoder)
open BackgroundProcessManager (MAX_TAIL_BYTES Processes appendTail onData onClose onError stopped
  spawned write stop stopAll)

/-- The output of a channel read as one text: a character may come in several pieces. -/
def received : List OutputPiece → Decoder × CodeUnits
  | pieces => pieces.foldl (fun (reader : Decoder × CodeUnits) piece =>
      match piece with
      | .buffer bytes => ((reader.1.run bytes).1, reader.2 ++ (reader.1.run bytes).2)
      | .text text => (.idle, reader.2 ++ reader.1.finish ++ text)) (.idle, [])

def receivedText (pieces : List OutputPiece) : CodeUnits :=
  (received pieces).2 ++ (received pieces).1.finish

def cutsCharacter (pieces : List OutputPiece) : OutputPiece → Bool
  | .buffer (b :: _) => (received pieces).1.takes b.toNat
  | _ => false

def tailOf (managed : ManagedProcess) : OutputChannel → CodeUnits
  | .stdout => managed.snapshot.stdoutTail
  | .stderr => managed.snapshot.stderrTail

/-- One signal at most is sent, none after the process has closed, and the tails are the ends of all
that came. -/
structure ProcessLaws (managed : ManagedProcess) : Prop where
  once : managed.handle.kills.length ≤ 1
  alive : ∀ kill ∈ managed.handle.kills, kill.closed = false
  tails : ∀ channel, tailOf managed channel =
    lastOf MAX_TAIL_BYTES (receivedText (managed.handle.output channel))

def KeepsEnds (before after : Processes) : Prop :=
  ∀ processId managed, before.get? processId = some managed → managed.snapshot.state ≠ .running →
    ∃ managed', after.get? processId = some managed' ∧
      managed'.snapshot.state = managed.snapshot.state

/-- A process that has failed does not close, one that has stopped or exited meets no error, and no
character of the output comes in two pieces. -/
def orderly (processes : Processes) : ProcessOp → Bool
  | .close processId _ _ _ =>
    (processes.get? processId).all fun managed => managed.snapshot.state ≠ .failed
  | .error processId _ _ => (processes.get? processId).all fun managed =>
    managed.snapshot.state = .running || managed.snapshot.state = .failed
  | .data processId channel piece => (processes.get? processId).all fun managed =>
    !cutsCharacter (managed.handle.output channel) piece
  | _ => true

section output

variable {pieces : List OutputPiece} {piece : OutputPiece}

theorem receivedText_append (hpiece : cutsCharacter pieces piece = false) :
    receivedText (pieces ++ [piece]) = receivedText pieces ++ piece.read := by
  unfold receivedText
  rw [received, List.foldl_append, ← received]
  generalize hreader : received pieces = reader
  cases piece with
  | text text =>
    have hidle : Decoder.idle.finish = [] := rfl
    simp only [List.foldl_cons, List.foldl_nil, hidle, List.append_nil]
    rfl
  | buffer bytes =>
    simp only [List.foldl_cons, List.foldl_nil]
    cases bytes with
    | nil =>
      change reader.2 ++ [] ++ reader.1.finish = reader.2 ++ reader.1.finish ++ []
      rw [List.append_nil, List.append_nil]
    | cons b bytes =>
      have hb : reader.1.takes b.toNat = false := by
        rw [← hreader]
        exact hpiece
      rw [Decoder.run_of_not_takes hb]
      simp only [OutputPiece.read, Utf8.decode, List.append_assoc]

theorem appendTail_eq (previous : CodeUnits) (piece : OutputPiece) :
    appendTail previous piece = lastOf MAX_TAIL_BYTES (previous ++ piece.read) := by
  unfold appendTail
  dsimp only
  split_ifs with h
  · rfl
  · rw [lastOf, Nat.sub_eq_zero_of_le (Nat.not_lt.mp h), List.drop_zero]

theorem appendTail_of_tail {tail : CodeUnits}
    (htail : tail = lastOf MAX_TAIL_BYTES (receivedText pieces))
    (hpiece : cutsCharacter pieces piece = false) :
    appendTail tail piece = lastOf MAX_TAIL_BYTES (receivedText (pieces ++ [piece])) := by
  rw [appendTail_eq, htail, lastOf_append, receivedText_append hpiece]

end output

/-- The laws, with what keeps them: a running process has got no signal and has not closed. -/
structure LivingProcess (managed : ManagedProcess) : Prop extends ProcessLaws managed where
  unsignalled : managed.snapshot.state = .running → managed.handle.kills = []
  unclosed : managed.snapshot.state = .running → managed.handle.closed = false

section processes

variable {managed : ManagedProcess}

theorem living_spawned (spec : BackgroundProcessSpec) (pid : Option Nat) (now : Types.Timestamp) :
    LivingProcess (spawned spec pid now) where
  once := Nat.zero_le _
  alive := fun _ h => absurd h List.not_mem_nil
  tails channel := by
    have hnil : lastOf MAX_TAIL_BYTES (receivedText []) = [] := List.drop_nil
    cases channel <;> exact hnil.symm
  unsignalled _ := rfl
  unclosed _ := rfl

theorem living_onData (hliving : LivingProcess managed) {channel : OutputChannel}
    {piece : OutputPiece} (hpiece : cutsCharacter (managed.handle.output channel) piece = false) :
    LivingProcess (onData channel piece managed) ∧
      (onData channel piece managed).snapshot.state = managed.snapshot.state := by
  have hstate : (onData channel piece managed).snapshot.state = managed.snapshot.state := by
    cases channel <;> rfl
  refine ⟨⟨⟨hliving.once, hliving.alive, ?_⟩, ?_, ?_⟩, hstate⟩
  · intro c
    by_cases hc : c = channel
    · subst hc
      have htail := appendTail_of_tail (hliving.tails c) hpiece
      have houtput : (onData c piece managed).handle.output c =
          managed.handle.output c ++ [piece] := if_pos rfl
      rw [houtput, ← htail]
      cases c <;> rfl
    · have houtput : (onData channel piece managed).handle.output c = managed.handle.output c :=
        if_neg hc
      rw [houtput, ← hliving.tails c]
      cases c <;> cases channel <;> first | rfl | exact absurd rfl hc
  · rw [hstate]
    exact hliving.unsignalled
  · rw [hstate]
    exact hliving.unclosed

theorem living_onClose (hliving : LivingProcess managed) (code : Option Int)
    (signal : Option String) (now : Types.Timestamp) :
    LivingProcess (onClose code signal now managed) := by
  have hstate : (onClose code signal now managed).snapshot.state ≠ .running := by
    unfold onClose
    dsimp only
    split_ifs <;> decide
  have htails : ∀ channel, tailOf (onClose code signal now managed) channel =
      lastOf MAX_TAIL_BYTES (receivedText (managed.handle.output channel)) := by
    intro channel
    rw [← hliving.tails channel]
    cases channel <;> rfl
  exact ⟨⟨hliving.once, hliving.alive, htails⟩, fun h => absurd h hstate, fun h => absurd h hstate⟩

theorem state_onClose (hfailed : managed.snapshot.state ≠ .failed)
    (hrunning : managed.snapshot.state ≠ .running) (code : Option Int) (signal : Option String)
    (now : Types.Timestamp) :
    (onClose code signal now managed).snapshot.state = managed.snapshot.state := by
  unfold onClose
  dsimp only
  cases hstate : managed.snapshot.state with
  | running => exact absurd hstate hrunning
  | failed => exact absurd hstate hfailed
  | exited => rfl
  | stopped => rfl

theorem living_onError (hliving : LivingProcess managed) (message : String)
    (now : Types.Timestamp) : LivingProcess (onError message now managed) where
  once := hliving.once
  alive := hliving.alive
  tails channel := by
    rw [show (onError message now managed).handle = managed.handle from rfl, ← hliving.tails]
    cases channel <;> rfl
  unsignalled := nofun
  unclosed := nofun

theorem living_stopped (hliving : LivingProcess managed) (signal : String) :
    LivingProcess (stopped signal managed) ∧ (managed.snapshot.state ≠ .running →
      (stopped signal managed).snapshot.state = managed.snapshot.state) := by
  unfold stopped
  split_ifs with hrunning
  · refine ⟨⟨⟨?_, ?_, hliving.tails⟩, nofun, nofun⟩, fun h => absurd hrunning h⟩
    · rw [hliving.unsignalled hrunning]
      exact le_refl 1
    · rw [hliving.unsignalled hrunning, hliving.unclosed hrunning]
      intro kill hkill
      rw [List.mem_singleton.mp hkill]
  · exact ⟨⟨⟨hliving.once, hliving.alive, hliving.tails⟩, hliving.unsignalled, hliving.unclosed⟩,
      fun _ => rfl⟩

end processes

section manager

variable {processes processes' : Processes} {processId : String}

def AllLiving (processes : Processes) : Prop :=
  ∀ processId managed, processes.get? processId = some managed → LivingProcess managed

theorem keepsEnds_refl (processes : Processes) : KeepsEnds processes processes :=
  fun _ managed hget _ => ⟨managed, hget, rfl⟩

theorem keepsEnds_trans (s₁ s₂ s₃ : Processes) (h₁₂ : KeepsEnds s₁ s₂) (h₂₃ : KeepsEnds s₂ s₃) :
    KeepsEnds s₁ s₃ := by
  intro processId managed hget hended
  obtain ⟨managed', hget', hstate'⟩ := h₁₂ processId managed hget hended
  obtain ⟨managed'', hget'', hstate''⟩ := h₂₃ processId managed' hget' (by rwa [hstate'])
  exact ⟨managed'', hget'', hstate''.trans hstate'⟩

theorem write_kept (hliving : AllLiving processes) {f : ManagedProcess → ManagedProcess}
    (hf : ∀ managed, processes.get? processId = some managed → LivingProcess managed →
      LivingProcess (f managed) ∧ (managed.snapshot.state ≠ .running →
        (f managed).snapshot.state = managed.snapshot.state)) :
    AllLiving (write processes processId f) ∧ KeepsEnds processes (write processes processId f) := by
  unfold write
  cases hget : processes.get? processId with
  | none => exact ⟨hliving, keepsEnds_refl processes⟩
  | some managed =>
    obtain ⟨hkept, hstate⟩ := hf managed hget (hliving processId managed hget)
    constructor
    · intro processId' managed' hget'
      rw [InsertionMap.get?_set] at hget'
      split_ifs at hget' with hsame
      · rw [← Option.some.inj hget']
        exact hkept
      · exact hliving processId' managed' hget'
    · intro processId' managed' hget' hended
      by_cases hsame : processId' = processId
      · subst hsame
        obtain rfl := Option.some.inj (hget.symm.trans hget')
        exact ⟨f managed, InsertionMap.get?_set_self _ _ _, hstate hended⟩
      · exact ⟨managed', by rw [InsertionMap.get?_set_of_ne _ _ hsame, hget'], rfl⟩

theorem stop_kept (hliving : AllLiving processes) (processId signal : String) :
    AllLiving (stop processes processId signal) ∧
      KeepsEnds processes (stop processes processId signal) :=
  write_kept hliving fun _ _ h => living_stopped h signal

theorem stopAll_kept (hliving : AllLiving processes) (signal : String) :
    AllLiving (stopAll processes signal) ∧ KeepsEnds processes (stopAll processes signal) := by
  unfold stopAll
  generalize processes.keys = processIds
  induction processIds generalizing processes with
  | nil => exact ⟨hliving, keepsEnds_refl processes⟩
  | cons processId processIds ih =>
    obtain ⟨hstop, hends⟩ := stop_kept hliving processId signal
    obtain ⟨hrest, hrestEnds⟩ := ih hstop
    exact ⟨hrest, keepsEnds_trans _ _ _ hends hrestEnds⟩

theorem start_kept (hliving : AllLiving processes) (spec : BackgroundProcessSpec) (pid : Option Nat)
    (now : Types.Timestamp) :
    AllLiving (BackgroundProcessManager.start processes spec pid now) ∧
      KeepsEnds processes (BackgroundProcessManager.start processes spec pid now) := by
  unfold BackgroundProcessManager.start
  split_ifs with hhas
  · exact ⟨hliving, keepsEnds_refl processes⟩
  · constructor
    · intro processId managed hget
      rw [InsertionMap.get?_set] at hget
      split_ifs at hget with hsame
      · rw [← Option.some.inj hget]
        exact living_spawned spec pid now
      · exact hliving processId managed hget
    · intro processId managed hget _
      refine ⟨managed, ?_, rfl⟩
      rw [InsertionMap.get?_set_of_ne _ _ (fun hsame => hhas ?_), hget]
      rw [← hsame]
      exact (InsertionMap.has_eq_true_iff processes).mpr ⟨managed, hget⟩

theorem next_kept (hliving : AllLiving processes) {op : ProcessOp}
    (horderly : orderly processes op = true)
    (hnext : ProcessSystem.next processes op = some processes') :
    AllLiving processes' ∧ KeepsEnds processes processes' := by
  cases op with
  | start spec pid now =>
    obtain rfl := Option.some.inj hnext
    exact start_kept hliving spec pid now
  | data processId channel piece =>
    obtain rfl := Option.some.inj hnext
    refine write_kept hliving fun managed hget h => ?_
    simp only [orderly, hget, Option.all_some, Bool.not_eq_true'] at horderly
    obtain ⟨hkept, hstate⟩ := living_onData h horderly
    exact ⟨hkept, fun _ => hstate⟩
  | close processId code signal now =>
    obtain rfl := Option.some.inj hnext
    refine write_kept hliving fun managed hget h =>
      ⟨living_onClose h code signal now, fun hended => ?_⟩
    simp only [orderly, hget, Option.all_some, decide_eq_true_eq] at horderly
    exact state_onClose horderly hended code signal now
  | error processId message now =>
    obtain rfl := Option.some.inj hnext
    refine write_kept hliving fun managed hget h => ⟨living_onError h message now, fun hended => ?_⟩
    simp only [orderly, hget, Option.all_some, Bool.or_eq_true, decide_eq_true_eq] at horderly
    rcases horderly with hrunning | hfailed
    · exact absurd hrunning hended
    · exact hfailed.symm
  | stop processId signal =>
    obtain rfl := Option.some.inj hnext
    exact stop_kept hliving processId signal
  | stopAll signal =>
    obtain rfl := Option.some.inj hnext
    exact stopAll_kept hliving signal
  | timeout processId =>
    simp only [ProcessSystem.next] at hnext
    split_ifs at hnext
    obtain rfl := Option.some.inj hnext
    exact stop_kept hliving processId "SIGTERM"

end manager

section runs

variable {h : History Processes ProcessOp} {processes : Processes}

/-- In orderly runs the states in which processes end stay, and every process is lawful all along. -/
theorem lifecycle_of_orderly (hrun : processMachine.Run h processes)
    (horderly : Machine.Steps (fun s op => orderly s op = true) h) :
    (Machine.states h processes).Pairwise KeepsEnds ∧
      ∀ s ∈ Machine.states h processes, ∀ processId managed,
        s.get? processId = some managed → ProcessLaws managed := by
  have hinit : ∀ s, processMachine.init s → AllLiving s := by
    rintro s rfl processId managed hget
    rw [InsertionMap.get?_empty] at hget
    cases hget
  obtain ⟨hends, hliving⟩ := hrun.invariantPairwise keepsEnds_trans hinit
    (fun s op s' hs hop hstep => next_kept hs hop hstep) horderly
  exact ⟨hends, fun s hs processId managed hget =>
    (hliving s hs processId managed hget).toProcessLaws⟩

theorem no_processes : processMachine.init .empty := rfl

def echoSpec : BackgroundProcessSpec := ⟨"p", "echo", ["é"], "/work", some 1000⟩

def stoppedScript : List ProcessOp :=
  [.start echoSpec (some 7) 0, .data "p" .stdout (.buffer [0xC3, 0xA9]), .stop "p" "SIGTERM",
    .close "p" none (some "SIGTERM") 5]

theorem stopped_process : ∃ h processes, processMachine.Run h processes ∧
    (processes.get? "p").any (fun managed => managed.snapshot.stdoutTail = [0xE9]) = true ∧
    (Machine.states h processes).Pairwise KeepsEnds ∧
      ∀ s ∈ Machine.states h processes, ∀ processId managed,
        s.get? processId = some managed → ProcessLaws managed := by
  have hplayed : (Machine.replay ProcessSystem.next .empty
      (stoppedScript.map fun op _ => some op)).any (fun p =>
        p.1.all (fun q => orderly q.1 q.2) &&
          (p.2.get? "p").any fun managed => managed.snapshot.stdoutTail = [0xE9]) = true := by
    decide +kernel
  obtain ⟨h, processes, hrun, htest⟩ := Machine.exists_run_of_replay no_processes hplayed
  rw [Bool.and_eq_true, List.all_eq_true] at htest
  exact ⟨h, processes, hrun, htest.2, lifecycle_of_orderly hrun htest.1⟩

def missingScript : List ProcessOp :=
  [.start echoSpec none 0, .error "p" "spawn echo ENOENT" 1, .close "p" (some (-2)) none 1]

def cutScript : List ProcessOp := [.start echoSpec (some 7) 0, .data "p" .stdout (.buffer [0xC3]),
    .data "p" .stdout (.buffer [0xA9])]

/-- A process that has failed exits, and a character that is cut reads as two others. -/
theorem failed_process_exits : (¬∀ h processes, processMachine.Run h processes →
      (Machine.states h processes).Pairwise KeepsEnds) ∧
    (¬∀ h processes, processMachine.Run h processes →
      ∀ s ∈ Machine.states h processes, ∀ processId managed,
        s.get? processId = some managed → ProcessLaws managed) := by
  constructor
  · intro hall
    have hplayed : (Machine.replay ProcessSystem.next .empty
        (missingScript.map fun op _ => some op)).any (fun p =>
          p.1.any (fun q => (q.1.get? "p").any fun managed => managed.snapshot.state = .failed) &&
            (p.2.get? "p").any fun managed => managed.snapshot.state = .exited) = true := by
      decide +kernel
    obtain ⟨h, processes, hrun, htest⟩ := Machine.exists_run_of_replay no_processes hplayed
    rw [Bool.and_eq_true, List.any_eq_true] at htest
    obtain ⟨⟨q, hq, hfailed⟩, hexited⟩ := htest
    obtain ⟨managed, hget, hstate⟩ := (Option.any_eq_true _ _).mp hfailed
    obtain ⟨managed', hget', hstate'⟩ := (Option.any_eq_true _ _).mp hexited
    have hends := Machine.rel_last_of_pairwise (hall h processes hrun) hq
    obtain ⟨last, hlast, hsame⟩ := hends "p" managed hget (by rw [of_decide_eq_true hstate]; decide)
    obtain rfl := Option.some.inj (hget'.symm.trans hlast)
    rw [of_decide_eq_true hstate, of_decide_eq_true hstate'] at hsame
    cases hsame
  · intro hall
    have hplayed : (Machine.replay ProcessSystem.next .empty
        (cutScript.map fun op _ => some op)).any (fun p => (p.2.get? "p").any fun managed =>
          tailOf managed .stdout ≠
            lastOf MAX_TAIL_BYTES (receivedText (managed.handle.output .stdout))) = true := by
      decide +kernel
    obtain ⟨h, processes, hrun, htest⟩ := Machine.exists_run_of_replay no_processes hplayed
    obtain ⟨managed, hget, htail⟩ := (Option.any_eq_true _ _).mp htest
    have hlaws := hall h processes hrun processes
      (List.mem_append_right _ (List.mem_singleton_self processes)) "p" managed hget
    exact of_decide_eq_true htail (hlaws.tails .stdout)

end runs

end ShipyardCp.Properties
