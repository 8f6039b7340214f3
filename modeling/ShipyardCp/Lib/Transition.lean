import Mathlib.Data.List.Chain

/-! Labelled transition systems, their runs with the history of steps taken, and the rules by which
an invariant, a step property or a stable predicate is carried along a run. -/

namespace ShipyardCp.Lib

/-- A labelled transition system. -/
structure Machine (σ α : Type*) where
  init : σ → Prop
  step : σ → α → σ → Prop

/-- The steps taken so far, oldest first; each with the state it was taken in. -/
abbrev History (σ α : Type*) := List (σ × α)

namespace Machine

variable {σ α : Type*} (M : Machine σ α)

/-- A run from an initial state, with its history. -/
inductive Run : History σ α → σ → Prop
  | start {s : σ} : M.init s → Run [] s
  | snoc {h : History σ α} {s : σ} {a : α} {s' : σ} : Run h s → M.step s a s' → Run (h ++ [(s, a)]) s'

/-- A finite sequence of steps between two given states. -/
inductive Path : σ → History σ α → σ → Prop
  | nil {s : σ} : Path s [] s
  | cons {s : σ} {a : α} {s₁ : σ} {h : History σ α} {s₂ : σ} :
      M.step s a s₁ → Path s₁ h s₂ → Path s ((s, a) :: h) s₂

/-- Every step of the history meets `C`. -/
def Steps (C : σ → α → Prop) (h : History σ α) : Prop := ∀ p ∈ h, C p.1 p.2

variable {M}

variable {C : σ → α → Prop}

@[simp] theorem steps_nil (C : σ → α → Prop) : Steps C ([] : History σ α) := by
  simp [Steps]

@[simp] theorem steps_append (C : σ → α → Prop) (h₁ h₂ : History σ α) :
    Steps C (h₁ ++ h₂) ↔ Steps C h₁ ∧ Steps C h₂ := by
  simp only [Steps, List.mem_append]
  exact ⟨fun h => ⟨fun p hp => h p (Or.inl hp), fun p hp => h p (Or.inr hp)⟩,
    fun h p hp => hp.elim (h.1 p) (h.2 p)⟩

@[simp] theorem steps_cons (C : σ → α → Prop) (s : σ) (a : α) (h : History σ α) :
    Steps C ((s, a) :: h) ↔ C s a ∧ Steps C h := by
  simp [Steps]

theorem Steps.mono {D : σ → α → Prop} {h : History σ α} (hC : Steps C h)
    (hCD : ∀ s a, C s a → D s a) : Steps D h :=
  fun p hp => hCD p.1 p.2 (hC p hp)

/-- Some step of the history meets `C`. -/
def Occurs (C : σ → α → Prop) (h : History σ α) : Prop := ∃ p ∈ h, C p.1 p.2

theorem Occurs.append {h₁ : History σ α} (hC : Occurs C h₁)
    (h₂ : History σ α) : Occurs C (h₁ ++ h₂) := by
  obtain ⟨p, hp, hCp⟩ := hC
  exact ⟨p, List.mem_append_left _ hp, hCp⟩

theorem occurs_snoc {h : History σ α} {s : σ} {a : α} (hC : C s a) : Occurs C (h ++ [(s, a)]) :=
  ⟨(s, a), by simp, hC⟩

variable {I : History σ α → σ → Prop}

/-- An invariant of history and state holds in every run whose steps all meet `C`. -/
theorem Run.invariant (hinit : ∀ s, M.init s → I [] s)
    (hstep : ∀ h s a s', M.Run h s → Steps C h → I h s → C s a → M.step s a s' → I (h ++ [(s, a)]) s')
    {h : History σ α} {s : σ} (hrun : M.Run h s) (hC : Steps C h) : I h s := by
  induction hrun with
  | start hi => exact hinit _ hi
  | snoc hr hst ih =>
    rw [steps_append, steps_cons] at hC
    exact hstep _ _ _ _ hr hC.1 (ih hC.1) hC.2.1 hst

theorem Run.stateInvariant {I : σ → Prop} (hinit : ∀ s, M.init s → I s)
    (hstep : ∀ s a s', I s → C s a → M.step s a s' → I s')
    {h : History σ α} {s : σ} (hrun : M.Run h s) (hC : Steps C h) : I s :=
  Run.invariant (I := fun _ s => I s) hinit
    (fun _ s a s' _ _ hI hCa hst => hstep s a s' hI hCa hst) hrun hC

theorem Path.snoc {s : σ} {h : History σ α} {t : σ} {a : α} {t' : σ} (hpath : M.Path s h t)
    (hst : M.step t a t') : M.Path s (h ++ [(t, a)]) t' := by
  induction hpath with
  | nil => exact .cons hst .nil
  | cons hst₀ _ ih => exact .cons hst₀ (ih hst)

variable {t : σ}

theorem Run.split {h₁ h₂ : History σ α} {s : σ} {a : α} (hrun : M.Run (h₁ ++ (s, a) :: h₂) t) :
    ∃ s₁, M.Run h₁ s ∧ M.step s a s₁ ∧ M.Path s₁ h₂ t := by
  induction h₂ using List.reverseRecOn generalizing t with
  | nil =>
    generalize hh : h₁ ++ [(s, a)] = h at hrun
    cases hrun with
    | start _ => simp at hh
    | snoc hr hst =>
      obtain ⟨rfl, hlast⟩ := List.append_inj' hh rfl
      obtain ⟨rfl, rfl⟩ : s = _ ∧ a = _ := by simpa using hlast
      exact ⟨t, hr, hst, .nil⟩
  | append_singleton h₂ p ih =>
    generalize hh : h₁ ++ (s, a) :: (h₂ ++ [p]) = h at hrun
    cases hrun with
    | start _ => simp at hh
    | snoc hr hst =>
      rw [← List.cons_append, ← List.append_assoc] at hh
      obtain ⟨rfl, hlast⟩ := List.append_inj' hh rfl
      obtain rfl : p = _ := by simpa using hlast
      obtain ⟨s₁, hrun₁, hst₁, hpath⟩ := ih hr
      exact ⟨s₁, hrun₁, hst₁, hpath.snoc hst⟩

theorem Run.append {h₁ h₂ : History σ α} {s : σ} (hrun : M.Run h₁ s) (hpath : M.Path s h₂ t) :
    M.Run (h₁ ++ h₂) t := by
  induction hpath generalizing h₁ with
  | nil => simpa using hrun
  | cons hst _ ih => simpa using ih (hrun.snoc hst)

/-- A predicate that every step meeting `C` keeps is kept along a path of such steps. -/
theorem Path.stable {P : σ → Prop} (hstep : ∀ s a s', P s → C s a → M.step s a s' → P s')
    {s : σ} {h : History σ α} (hpath : M.Path s h t) (hC : Steps C h) (hP : P s) : P t := by
  induction hpath with
  | nil => exact hP
  | cons hst _ ih =>
    rw [steps_cons] at hC
    exact ih hC.2 (hstep _ _ _ hP hC.1 hst)

variable (M) in
/-- Every step of the history, with the steps before it, meets `R`. -/
def EveryStep (R : History σ α → σ → α → σ → Prop) (h : History σ α) : Prop :=
  ∀ h₁ s a h₂ s', h = h₁ ++ (s, a) :: h₂ → M.step s a s' → R h₁ s a s'

/-- A property of steps holds of every step of a run when it holds of every step a run can take. -/
theorem Run.everyStep {R : History σ α → σ → α → σ → Prop}
    (hstep : ∀ h s a s', M.Run h s → Steps C h → C s a → M.step s a s' → R h s a s')
    {h : History σ α} (hrun : M.Run h t) (hC : Steps C h) : M.EveryStep R h := by
  rintro h₁ s a h₂ s' rfl hst
  obtain ⟨_, hrun₁, _, _⟩ := hrun.split
  rw [steps_append, steps_cons] at hC
  exact hstep _ _ _ _ hrun₁ hC.1 hC.2.1 hst

/-- What every step with the property meets, every step of a run with the property meets. -/
theorem Run.steps_of_everyStep {R : History σ α → σ → α → σ → Prop}
    (hstep : ∀ h s a s', M.Run h s → M.step s a s' → R h s a s' → C s a)
    {h : History σ α} (hrun : M.Run h t) (hR : M.EveryStep R h) : Steps C h := by
  intro p hp
  obtain ⟨h₁, h₂, rfl⟩ := List.append_of_mem hp
  obtain ⟨s', hrun₁, hst, _⟩ := hrun.split
  exact hstep _ _ _ _ hrun₁ hst (hR _ _ _ _ s' rfl hst)

section guarded

/-- Every step of the history meets `C`, which may look at the steps before it. -/
def Guarded (C : History σ α → σ → α → Prop) (h : History σ α) : Prop :=
  ∀ h₁ s a h₂, h = h₁ ++ (s, a) :: h₂ → C h₁ s a

theorem guarded_nil (C : History σ α → σ → α → Prop) : Guarded C [] := by
  intro h₁ s a h₂ hnil
  simp at hnil

theorem guarded_snoc {C : History σ α → σ → α → Prop} {h : History σ α} {s : σ} {a : α} :
    Guarded C (h ++ [(s, a)]) ↔ Guarded C h ∧ C h s a := by
  constructor
  · intro hC
    refine ⟨fun h₁ s₁ a₁ h₂ heq => hC h₁ s₁ a₁ (h₂ ++ [(s, a)]) (by simp [heq]), hC h s a [] rfl⟩
  · rintro ⟨hC, hlast⟩ h₁ s₁ a₁ h₂ heq
    rcases List.eq_nil_or_concat h₂ with rfl | ⟨h₂, p, rfl⟩
    · obtain ⟨rfl, hp⟩ := List.append_inj' heq rfl
      obtain ⟨rfl, rfl⟩ : s = s₁ ∧ a = a₁ := by simpa using hp
      exact hlast
    · rw [List.concat_eq_append, ← List.cons_append, ← List.append_assoc] at heq
      obtain ⟨rfl, _⟩ := List.append_inj' heq rfl
      exact hC h₁ s₁ a₁ h₂ rfl

/-- An invariant of history and state holds in every run whose steps all meet `C`, which may look at
the steps before. -/
theorem Run.guardedInvariant {C : History σ α → σ → α → Prop} (hinit : ∀ s, M.init s → I [] s)
    (hstep : ∀ h s a s', M.Run h s → Guarded C h → I h s → C h s a → M.step s a s' →
      I (h ++ [(s, a)]) s')
    {h : History σ α} {s : σ} (hrun : M.Run h s) (hC : Guarded C h) : I h s := by
  induction hrun with
  | start hi => exact hinit _ hi
  | snoc hr hst ih =>
    rw [guarded_snoc] at hC
    exact hstep _ _ _ _ hr hC.1 (ih hC.1) hC.2 hst

/-- Two guards that agree wherever an invariant of the second holds guard the same runs. -/
theorem Run.guarded_iff {P C : History σ α → σ → α → Prop} (hinit : ∀ s, M.init s → I [] s)
    (hstep : ∀ h s a s', M.Run h s → I h s → C h s a → M.step s a s' → I (h ++ [(s, a)]) s')
    (hiff : ∀ h s a s', M.Run h s → I h s → M.step s a s' → (P h s a ↔ C h s a))
    {h : History σ α} (hrun : M.Run h t) : Guarded P h ↔ Guarded C h := by
  have hboth : (Guarded P h ↔ Guarded C h) ∧ (Guarded C h → I h t) := by
    induction hrun with
    | start hi => exact ⟨iff_of_true (guarded_nil P) (guarded_nil C), fun _ => hinit _ hi⟩
    | @snoc h s a s' hr hst ih =>
      have hkeeps : Guarded C (h ++ [(s, a)]) → I (h ++ [(s, a)]) s' := by
        intro hC
        rw [guarded_snoc] at hC
        exact hstep _ _ _ _ hr (ih.2 hC.1) hC.2 hst
      refine ⟨?_, hkeeps⟩
      rw [guarded_snoc, guarded_snoc, ih.1]
      constructor
      · rintro ⟨hC, hP⟩
        exact ⟨hC, (hiff _ _ _ _ hr (ih.2 hC) hst).mp hP⟩
      · rintro ⟨hC, hCa⟩
        exact ⟨hC, (hiff _ _ _ _ hr (ih.2 hC) hst).mpr hCa⟩
  exact hboth.1

/-- Checks a history step by step, after the steps of another. -/
def guardedAfter (C : History σ α → σ → α → Bool) : History σ α → History σ α → Bool
  | _, [] => true
  | before, (s, a) :: h => C before s a && guardedAfter C (before ++ [(s, a)]) h

theorem guarded_of_guardedAfter {C : History σ α → σ → α → Bool} {h : History σ α} :
    ∀ {before : History σ α}, guardedAfter C before h = true →
      Guarded (fun h s a => C h s a = true) before →
      Guarded (fun h s a => C h s a = true) (before ++ h) := by
  induction h with
  | nil => exact fun _ hbefore => by simpa using hbefore
  | cons p h ih =>
    intro before hcheck hbefore
    rw [guardedAfter, Bool.and_eq_true] at hcheck
    have hmore := ih hcheck.2 (guarded_snoc.mpr ⟨hbefore, hcheck.1⟩)
    simpa using hmore

theorem guarded_of_check {C : History σ α → σ → α → Bool} {h : History σ α}
    (hcheck : guardedAfter C [] h = true) : Guarded (fun h s a => C h s a = true) h :=
  guarded_of_guardedAfter hcheck (guarded_nil _)

end guarded

section since

variable {S E : σ → α → Prop} {h : History σ α} {s : σ} {a : α}

/-- A step meets `S`, and no step after it meets `E`. -/
def Since (S E : σ → α → Prop) (h : History σ α) : Prop :=
  ∃ h₁ p h₂, h = h₁ ++ p :: h₂ ∧ S p.1 p.2 ∧ ∀ q ∈ h₂, ¬E q.1 q.2

theorem not_since_nil : ¬Since S E ([] : History σ α) := by
  rintro ⟨h₁, p, h₂, hnil, _⟩
  simp at hnil

theorem since_snoc : Since S E (h ++ [(s, a)]) ↔ S s a ∨ Since S E h ∧ ¬E s a := by
  constructor
  · rintro ⟨h₁, p, h₂, heq, hS, hE⟩
    rcases List.eq_nil_or_concat h₂ with rfl | ⟨h₂, q, rfl⟩
    · obtain ⟨_, hlast⟩ := List.append_inj' heq rfl
      obtain rfl : (s, a) = p := by simpa using hlast
      exact Or.inl hS
    · rw [List.concat_eq_append, ← List.cons_append, ← List.append_assoc] at heq
      obtain ⟨rfl, hlast⟩ := List.append_inj' heq rfl
      obtain rfl : (s, a) = q := by simpa using hlast
      rw [List.concat_eq_append] at hE
      refine Or.inr ⟨⟨h₁, p, h₂, rfl, hS, fun q hq => hE q (List.mem_append_left _ hq)⟩, ?_⟩
      exact hE (s, a) (List.mem_append_right _ List.mem_cons_self)
  · rintro (hS | ⟨⟨h₁, p, h₂, rfl, hS, hE⟩, hnot⟩)
    · exact ⟨h, (s, a), [], rfl, hS, by simp⟩
    · refine ⟨h₁, p, h₂ ++ [(s, a)], by simp, hS, fun q hq => ?_⟩
      rcases List.mem_append.mp hq with hq | hq
      · exact hE q hq
      · rw [List.mem_singleton.mp hq]
        exact hnot

/-- Decides it from the history. -/
def sinceBool (S E : σ → α → Bool) (h : History σ α) : Bool :=
  h.foldl (fun since p => S p.1 p.2 || since && !E p.1 p.2) false

theorem sinceBool_iff {S E : σ → α → Bool} {h : History σ α} : sinceBool S E h = true ↔
    Since (fun s a => S s a = true) (fun s a => E s a = true) h := by
  induction h using List.reverseRecOn with
  | nil => exact iff_of_false (by simp [sinceBool]) not_since_nil
  | append_singleton h p ih =>
    rw [since_snoc, ← ih]
    simp [sinceBool]

end since

section states

/-- The states of a run, first to last. -/
def states (h : History σ α) (t : σ) : List σ := h.map Prod.fst ++ [t]

theorem states_snoc (h : History σ α) (s : σ) (a : α) (t : σ) :
    states (h ++ [(s, a)]) t = states h s ++ [t] := by
  simp [states]

theorem Path.mem_states {s : σ} {h : History σ α} (hpath : M.Path s h t) : s ∈ states h t := by
  cases hpath <;> simp [states]

/-- What relates each state to every later one relates each to the last. -/
theorem rel_last_of_pairwise {R : σ → σ → Prop} {h : History σ α}
    (hpairs : (states h t).Pairwise R) {p : σ × α} (hp : p ∈ h) : R p.1 t := by
  rw [states, List.pairwise_append] at hpairs
  exact hpairs.2.2 p.1 (List.mem_map_of_mem hp) t List.mem_cons_self

/-- A predicate holds in every state of a run exactly when its steps meet `C`, when `C` carries an
invariant that implies the predicate, and a step that leads to a state with it meets `C`. -/
theorem Run.forall_states_iff {P I : σ → Prop} (hinit : ∀ s, M.init s → I s) (hpred : ∀ s, I s → P s)
    (hstep : ∀ h s a s', M.Run h s → I s → C s a → M.step s a s' → I s')
    (honly : ∀ h s a s', M.Run h s → I s → M.step s a s' → P s' → C s a)
    {h : History σ α} (hrun : M.Run h t) : (∀ s ∈ states h t, P s) ↔ Steps C h := by
  have hboth : ((∀ s ∈ states h t, P s) ↔ Steps C h) ∧ (Steps C h → I t) := by
    induction hrun with
    | @start s hi => exact ⟨iff_of_true (by simpa [states] using hpred _ (hinit _ hi)) (by simp),
        fun _ => hinit _ hi⟩
    | @snoc h s a s' hr hst ih =>
      have hkeeps : Steps C (h ++ [(s, a)]) → I s' := by
        intro hC
        rw [steps_append, steps_cons] at hC
        exact hstep _ _ _ _ hr (ih.2 hC.1) hC.2.1 hst
      refine ⟨⟨fun hP => ?_, fun hC u hu => ?_⟩, hkeeps⟩
      · simp only [states_snoc, List.mem_append, List.mem_singleton] at hP
        have hbefore := ih.1.mp fun u hu => hP u (Or.inl hu)
        rw [steps_append, steps_cons]
        exact ⟨hbefore, honly _ _ _ _ hr (ih.2 hbefore) hst (hP _ (Or.inr rfl)), steps_nil _⟩
      · rw [states_snoc, List.mem_append, List.mem_singleton] at hu
        rcases hu with hu | rfl
        · rw [steps_append] at hC
          exact ih.1.mpr hC.1 u hu
        · exact hpred _ (hkeeps hC)
  exact hboth.1

/-- Each state of a run is related to every later one exactly when its steps are guarded, when the
guard carries an invariant under which it says that the step relates all states before to the next. -/
theorem Run.pairwise_iff {C : History σ α → σ → α → Prop} {R : σ → σ → Prop} (hinit : ∀ s, M.init s → I [] s)
    (hstep : ∀ h s a s', M.Run h s → I h s → C h s a → M.step s a s' → I (h ++ [(s, a)]) s')
    (hiff : ∀ h s a s', M.Run h s → I h s → M.step s a s' → ((∀ u ∈ states h s, R u s') ↔ C h s a))
    {h : History σ α} (hrun : M.Run h t) : (states h t).Pairwise R ↔ Guarded C h := by
  have hboth : ((states h t).Pairwise R ↔ Guarded C h) ∧ (Guarded C h → I h t) := by
    induction hrun with
    | start hi =>
      exact ⟨iff_of_true (List.pairwise_singleton _ _) (guarded_nil C), fun _ => hinit _ hi⟩
    | @snoc h s a s' hr hst ih =>
      have hkeeps : Guarded C (h ++ [(s, a)]) → I (h ++ [(s, a)]) s' := by
        intro hC
        rw [guarded_snoc] at hC
        exact hstep _ _ _ _ hr (ih.2 hC.1) hC.2 hst
      refine ⟨?_, hkeeps⟩
      have hlast : (∀ u ∈ states h s, ∀ v ∈ [s'], R u v) ↔ ∀ u ∈ states h s, R u s' := by
        simp
      rw [states_snoc, List.pairwise_append, guarded_snoc, hlast, ih.1]
      constructor
      · rintro ⟨hC, _, hR⟩
        exact ⟨hC, (hiff _ _ _ _ hr (ih.2 hC) hst).mp hR⟩
      · rintro ⟨hC, hCa⟩
        exact ⟨hC, List.pairwise_singleton _ _, (hiff _ _ _ _ hr (ih.2 hC) hst).mpr hCa⟩
  exact hboth.1

/-- A transitive relation that every step keeps relates each state of a run to every later one. -/
theorem Run.pairwise {R : σ → σ → Prop} (htrans : ∀ s₁ s₂ s₃, R s₁ s₂ → R s₂ s₃ → R s₁ s₃)
    (hstep : ∀ h s a s', M.Run h s → C s a → M.step s a s' → R s s')
    {h : History σ α} (hrun : M.Run h t) (hC : Steps C h) : (states h t).Pairwise R := by
  induction hrun with
  | start _ => simp [states]
  | snoc hr hst ih =>
    rw [steps_append, steps_cons] at hC
    have hpairs := ih hC.1
    have hlast := hstep _ _ _ _ hr hC.2.1 hst
    rw [states_snoc, List.pairwise_append]
    refine ⟨hpairs, List.pairwise_singleton _ _, fun u hu v hv => ?_⟩
    obtain rfl := List.mem_singleton.mp hv
    rw [states, List.mem_append, List.mem_singleton] at hu
    rcases hu with hu | rfl
    · obtain ⟨p, hp, rfl⟩ := List.mem_map.mp hu
      exact htrans _ _ _ (rel_last_of_pairwise hpairs hp) hlast
    · exact hlast

/-- A transitive relation that every step keeps under an invariant, together with the invariant. -/
theorem Run.invariantPairwise {I : σ → Prop} {R : σ → σ → Prop}
    (htrans : ∀ s₁ s₂ s₃, R s₁ s₂ → R s₂ s₃ → R s₁ s₃) (hinit : ∀ s, M.init s → I s)
    (hstep : ∀ s a s', I s → C s a → M.step s a s' → I s' ∧ R s s')
    {h : History σ α} (hrun : M.Run h t) (hC : Steps C h) :
    (states h t).Pairwise R ∧ ∀ s ∈ states h t, I s := by
  have hkept : (states h t).Pairwise fun s s' => I s → I s' ∧ R s s' := by
    refine hrun.pairwise (fun s₁ s₂ s₃ h₁ h₂ hI => ?_) (fun h s a s' _ hCa hst hI => ?_) hC
    · obtain ⟨hI₂, hR₁⟩ := h₁ hI
      obtain ⟨hI₃, hR₂⟩ := h₂ hI₂
      exact ⟨hI₃, htrans _ _ _ hR₁ hR₂⟩
    · exact hstep s a s' hI hCa hst
  have hall : ∀ s ∈ states h t, I s := by
    clear hC
    induction hrun with
    | start hi =>
      intro s hs
      rw [List.mem_singleton.mp hs]
      exact hinit _ hi
    | @snoc h s a s' hr hst ih =>
      rw [states_snoc, List.pairwise_append] at hkept
      have hbefore := ih hkept.1
      intro u hu
      rw [states_snoc, List.mem_append, List.mem_singleton] at hu
      rcases hu with hu | rfl
      · exact hbefore u hu
      · have hlast : s ∈ states h s := List.mem_append_right _ (List.mem_singleton_self s)
        exact (hkept.2.2 s hlast u (List.mem_singleton_self u) (hbefore s hlast)).1
  exact ⟨hkept.imp_of_mem fun hs _ hR => (hR (hall _ hs)).2, hall⟩

/-- A step that breaks the relation of a run to its later states does not occur in it. -/
theorem Run.steps_of_pairwise {R : σ → σ → Prop}
    (hstep : ∀ h s a s', M.Run h s → M.step s a s' → R s s' → C s a)
    {h : History σ α} (hrun : M.Run h t) (hpairs : (states h t).Pairwise R) :
    Steps C h := by
  induction hrun with
  | start _ => simp
  | snoc hr hst ih =>
    have hlast := rel_last_of_pairwise hpairs (List.mem_append_right _ List.mem_cons_self)
    rw [states_snoc, List.pairwise_append] at hpairs
    rw [steps_append, steps_cons]
    exact ⟨ih hpairs.1, hstep _ _ _ _ hr hst hlast, steps_nil _⟩

end states

section written

variable {κ : Type*} {writes : σ → α → List κ} {content : σ → Option κ} {R : κ → κ → Prop}

/-- What the steps of a history write to a register, first to last. -/
def written (writes : σ → α → List κ) (h : History σ α) : List κ := h.flatMap fun p => writes p.1 p.2

theorem written_snoc (h : History σ α) (s : σ) (a : α) :
    written writes (h ++ [(s, a)]) = written writes h ++ writes s a := by
  simp [written]

/-- A register that is empty at first, and of which the steps of a run leave the last they wrote, holds
what was written last. -/
theorem Run.getLast?_written_of_steps {I : σ → Prop} (hinit : ∀ s, M.init s → I s ∧ content s = none)
    (hstep : ∀ s a s', I s → C s a → M.step s a s' →
      I s' ∧ ((content s).toList ++ writes s a).getLast? = content s')
    {h : History σ α} (hrun : M.Run h t) (hC : Steps C h) :
    (written writes h).getLast? = content t := by
  refine (hrun.invariant (C := C) (I := fun h s => I s ∧ (written writes h).getLast? = content s)
    (fun s hs => ⟨(hinit s hs).1, (hinit s hs).2.symm⟩) ?_ hC).2
  rintro h s a s' _ _ ⟨hI, hlast⟩ hCs hst
  obtain ⟨hI', hnext⟩ := hstep s a s' hI hCs hst
  refine ⟨hI', ?_⟩
  rw [← hnext, written_snoc, List.getLast?_append, List.getLast?_append, hlast]
  congr 1
  cases content s <;> rfl

/-- A register that is empty at first, and of which every step leaves the last it wrote, holds what
was written last. -/
theorem Run.getLast?_written (hinit : ∀ s, M.init s → content s = none)
    (hwrites : ∀ s a s', M.step s a s' → ((content s).toList ++ writes s a).getLast? = content s')
    {h : History σ α} (hrun : M.Run h t) : (written writes h).getLast? = content t :=
  hrun.getLast?_written_of_steps (C := fun _ _ => True) (I := fun _ => True)
    (fun s hs => ⟨trivial, hinit s hs⟩) (fun s a s' _ _ hst => ⟨trivial, hwrites s a s' hst⟩)
    fun _ _ => trivial

/-- What such a register is written is a chain when each step goes on from the content it finds. -/
theorem Run.isChain_written_iff (content : σ → Option κ) (hinit : ∀ s, M.init s → content s = none)
    (hwrites : ∀ s a s', M.step s a s' → ((content s).toList ++ writes s a).getLast? = content s')
    {h : History σ α} (hrun : M.Run h t) :
    (written writes h).IsChain R ↔
      Steps (fun s a => ((content s).toList ++ writes s a).IsChain R) h := by
  induction hrun with
  | start _ => simp [written]
  | snoc hr _ ih =>
    rw [written_snoc, steps_append, steps_cons, List.isChain_append, List.isChain_append, ih,
      hr.getLast?_written hinit hwrites]
    simp only [steps_nil, and_true]
    cases content _ <;> simp

end written

section replay

/-- The machine of an executable step. -/
def ofNext (init : σ → Prop) (next : σ → α → Option σ) : Machine σ α where
  init := init
  step s a s' := next s a = some s'

/-- Plays a script, each line of which chooses its label from the state reached. -/
def replay (next : σ → α → Option σ) : σ → List (σ → Option α) → Option (History σ α × σ)
  | s, [] => some ([], s)
  | s, line :: script =>
    match line s with
    | none => none
    | some a =>
      match next s a with
      | none => none
      | some s' => (replay next s' script).map fun p => ((s, a) :: p.1, p.2)

variable {init : σ → Prop} {next : σ → α → Option σ}

variable {script : List (σ → Option α)}

theorem path_of_replay {s : σ} {p : History σ α × σ}
    (h : replay next s script = some p) : (ofNext init next).Path s p.1 p.2 := by
  induction script generalizing s p with
  | nil =>
    obtain rfl : ([], s) = p := Option.some.inj h
    exact .nil
  | cons line script ih =>
    unfold replay at h
    cases hline : line s with
    | none => simp [hline] at h
    | some a =>
      cases hnext : next s a with
      | none => simp [hline, hnext] at h
      | some s' =>
        simp only [hline, hnext] at h
        obtain ⟨q, hq, rfl⟩ := Option.map_eq_some_iff.mp h
        exact .cons hnext (ih hq)

/-- What a script played from an initial state ends in is reached by a run. -/
theorem run_of_replay {s : σ} {p : History σ α × σ} (hinit : init s)
    (h : replay next s script = some p) : (ofNext init next).Run p.1 p.2 := by
  have hrun : (ofNext init next).Run ([] ++ p.1) p.2 := Run.append (.start hinit) (path_of_replay h)
  exact hrun

theorem exists_run_of_replay {s : σ} {test : History σ α × σ → Bool}
    (hinit : init s) (h : (replay next s script).any test = true) :
    ∃ h t, (ofNext init next).Run h t ∧ test (h, t) = true := by
  cases hreplay : replay next s script with
  | none => simp [hreplay] at h
  | some p =>
    rw [hreplay] at h
    exact ⟨p.1, p.2, run_of_replay hinit hreplay, h⟩

end replay

end Machine

end ShipyardCp.Lib

/-! Deadlines that the steps of a run tell: the one told last is in force until another is told. -/

namespace ShipyardCp.Lib.Machine

variable {σ α : Type*} {tells : σ → α → List ℕ} {instant : α → ℕ}

/-- The deadline in force after a history: the one told last. -/
def deadline (tells : σ → α → List ℕ) (h : History σ α) : Option ℕ := (written tells h).getLast?

/-- The instant is no later than the deadline, if there is one. -/
def InTime (deadline : Option ℕ) (t : ℕ) : Prop := ∀ due, deadline = some due → t ≤ due

instance (deadline : Option ℕ) (t : ℕ) : Decidable (InTime deadline t) :=
  match deadline with
  | none => .isTrue fun _ hdue => by cases hdue
  | some due => decidable_of_iff (t ≤ due)
    ⟨fun h _ hdue => Option.some.inj hdue ▸ h, fun h => h due rfl⟩

theorem deadline_snoc (h : History σ α) (s : σ) (a : α) :
    deadline tells (h ++ [(s, a)]) = (tells s a).getLast?.or (deadline tells h) := by
  rw [deadline, written_snoc, List.getLast?_append, deadline]

theorem deadline_snoc_of_nil {h : History σ α} {s : σ} {a : α} (hnil : tells s a = []) :
    deadline tells (h ++ [(s, a)]) = deadline tells h := by
  simp [deadline_snoc, hnil]

theorem InTime.mono {deadline : Option ℕ} {t u : ℕ} (h : InTime deadline u) (htu : t ≤ u) :
    InTime deadline t :=
  fun due hdue => htu.trans (h due hdue)

/-- Where the clock never goes back, and every deadline but the last is met by the step that tells
the next one, no step comes after the deadline in force, up to any instant within the last one. -/
theorem guarded_inTime {h : History σ α} (hclock : (h.map fun p => instant p.2).Pairwise (· ≤ ·))
    (hpunctual : Guarded (fun before s a => tells s a ≠ [] →
      InTime (deadline tells before) (instant a)) h) {t : ℕ} (ht : ∀ p ∈ h, instant p.2 ≤ t)
    (hlast : InTime (deadline tells h) t) :
    Guarded (fun before _ a => InTime (deadline tells before) (instant a)) h := by
  induction h using List.reverseRecOn generalizing t with
  | nil => exact guarded_nil _
  | append_singleton h p ih =>
    obtain ⟨s, a⟩ := p
    rw [guarded_snoc] at hpunctual ⊢
    rw [List.map_append, List.pairwise_append] at hclock
    have hbefore : ∀ p ∈ h, instant p.2 ≤ instant a := fun p hp =>
      hclock.2.2 _ (List.mem_map_of_mem hp) _ (by simp)
    have hnow : InTime (deadline tells h) (instant a) := by
      by_cases htells : tells s a = []
      · rw [deadline_snoc_of_nil htells] at hlast
        exact hlast.mono (ht (s, a) (by simp))
      · exact hpunctual.2 htells
    exact ⟨ih hclock.1 hpunctual.1 hbefore hnow, hnow⟩

end ShipyardCp.Lib.Machine
