import Mathlib.Data.List.Basic

/-! Weakest preconditions of programs that thread a state and may throw. What was written before a
throw stays written, so a postcondition speaks of the final state in both cases. -/

namespace ShipyardCp.Lib

variable {ε σ α β : Type}

/-- The program ends in a result that meets `Q` when it is run from `s`. -/
def wp (p : EStateM ε σ α) (Q : EStateM.Result ε σ α → Prop) (s : σ) : Prop := Q (p.run s)

/-- The state a run ends in, thrown or not. -/
def finalState (p : EStateM ε σ α) (s : σ) : σ :=
  match p.run s with
  | .ok _ s' => s'
  | .error _ s' => s'

/-- The run returned a value. -/
def returned? (p : EStateM ε σ α) (s : σ) : Option α :=
  match p.run s with
  | .ok a _ => some a
  | .error _ _ => none

/-- The error a run threw. -/
def thrown? (p : EStateM ε σ α) (s : σ) : Option ε :=
  match p.run s with
  | .ok _ _ => none
  | .error e _ => some e

/-- A postcondition on the final state alone. -/
def onState (P : σ → Prop) : EStateM.Result ε σ α → Prop
  | .ok _ s => P s
  | .error _ s => P s

variable {p : EStateM ε σ α}

variable {s : σ}

@[simp] theorem onState_ok (P : σ → Prop) (a : α) (s : σ) :
    onState (ε := ε) P (.ok a s) ↔ P s := Iff.rfl

@[simp] theorem onState_error (P : σ → Prop) (e : ε) (s : σ) :
    onState (α := α) P (.error e s) ↔ P s := Iff.rfl

theorem wp_onState_iff {P : σ → Prop} : wp p (onState P) s ↔ P (finalState p s) := by
  unfold wp finalState
  cases p.run s <;> simp

@[elab_as_elim] theorem finalState_rec {motive : σ → Prop} (p : EStateM ε σ α) (s : σ)
    (h : wp p (onState motive) s) : motive (finalState p s) :=
  wp_onState_iff.mp h

theorem returned?_eq_some_iff {a : α} :
    returned? p s = some a ↔ wp p (fun r => ∃ s', r = .ok a s') s := by
  unfold returned? wp
  cases p.run s <;> simp

theorem thrown?_eq_none_iff : thrown? p s = none ↔ (returned? p s).isSome = true := by
  unfold thrown? returned?
  cases p.run s <;> simp

/-- A postcondition that holds of every returned value and of no throw. -/
def succeeds : EStateM.Result ε σ α → Prop
  | .ok _ _ => True
  | .error _ _ => False

@[simp] theorem succeeds_ok (a : α) (s : σ) : succeeds (ε := ε) (.ok a s) ↔ True := Iff.rfl

@[simp] theorem succeeds_error (e : ε) (s : σ) : succeeds (α := α) (.error e s) ↔ False := Iff.rfl

theorem wp_succeeds_iff : wp p succeeds s ↔ (returned? p s).isSome = true := by
  unfold wp returned?
  cases p.run s <;> simp

variable {Q : EStateM.Result ε σ α → Prop}

theorem wp_mono {R : EStateM.Result ε σ α → Prop} (h : wp p Q s) (hQR : ∀ r, Q r → R r) : wp p R s :=
  hQR _ h

/-- A postcondition on the state a value is returned in; nothing is thrown. -/
def returns (P : σ → Prop) : EStateM.Result ε σ α → Prop
  | .ok _ s => P s
  | .error _ _ => False

@[simp] theorem returns_ok (P : σ → Prop) (a : α) (s : σ) :
    returns (ε := ε) P (.ok a s) ↔ P s := Iff.rfl

@[simp] theorem returns_error (P : σ → Prop) (e : ε) (s : σ) :
    returns (α := α) P (.error e s) ↔ False := Iff.rfl

theorem onState_of_returns {P : σ → Prop} {r : EStateM.Result ε σ α} (h : returns P r) :
    onState P r := by
  cases r with
  | ok a s => exact h
  | error e s => exact h.elim

theorem returns_mono {P R : σ → Prop} (hPR : ∀ s, P s → R s) {r : EStateM.Result ε σ α}
    (h : returns P r) : returns R r := by
  cases r with
  | ok a s => exact hPR s h
  | error e s => exact h.elim

/-- A postcondition on the state an error is thrown in. -/
def onThrow (P : σ → Prop) : EStateM.Result ε σ α → Prop
  | .ok _ _ => True
  | .error _ s => P s

@[simp] theorem onThrow_ok (P : σ → Prop) (a : α) (s : σ) :
    onThrow (ε := ε) P (.ok a s) ↔ True := Iff.rfl

@[simp] theorem onThrow_error (P : σ → Prop) (e : ε) (s : σ) :
    onThrow (α := α) P (.error e s) ↔ P s := Iff.rfl

theorem wp_onThrow_iff {P : σ → Prop} :
    wp p (onThrow P) s ↔ (thrown? p s ≠ none → P (finalState p s)) := by
  unfold wp thrown? finalState
  cases p.run s <;> simp

/-- A postcondition on a returned value and the state it is returned in. -/
def returnsWith (R : α → σ → Prop) : EStateM.Result ε σ α → Prop
  | .ok a s => R a s
  | .error _ _ => True

@[simp] theorem returnsWith_ok (R : α → σ → Prop) (a : α) (s : σ) :
    returnsWith (ε := ε) R (.ok a s) ↔ R a s := Iff.rfl

@[simp] theorem returnsWith_error (R : α → σ → Prop) (e : ε) (s : σ) :
    returnsWith (ε := ε) R (.error e s) ↔ True := Iff.rfl

/-- A postcondition on a returned value and its state, and one on the state an error is thrown in. -/
def returnsOrThrows (R : α → σ → Prop) (P : σ → Prop) : EStateM.Result ε σ α → Prop
  | .ok a s => R a s
  | .error _ s => P s

theorem of_wp_returnsWith {R : α → σ → Prop} {a : α}
    (h : wp p (returnsWith R) s) (hreturned : returned? p s = some a) : R a (finalState p s) := by
  unfold wp at h
  unfold returned? at hreturned
  unfold finalState
  cases hrun : p.run s with
  | ok b s' =>
    rw [hrun] at h hreturned
    obtain rfl := Option.some.inj hreturned
    exact h
  | error e s' =>
    rw [hrun] at hreturned
    cases hreturned

theorem run_get_bind {f : σ → EStateM ε σ α} :
    ((get : EStateM ε σ σ) >>= f).run s = (f s).run s := rfl

/-- What holds of the result of the first program when the second is run after it. -/
def andThen (f : α → EStateM ε σ β) (Q : EStateM.Result ε σ β → Prop) : EStateM.Result ε σ α → Prop
  | .ok a s => wp (f a) Q s
  | .error e s => Q (.error e s)

@[simp] theorem andThen_ok (f : α → EStateM ε σ β) (Q : EStateM.Result ε σ β → Prop) (a : α)
    (s : σ) : andThen f Q (.ok a s) ↔ wp (f a) Q s := Iff.rfl

@[simp] theorem andThen_error (f : α → EStateM ε σ β) (Q : EStateM.Result ε σ β → Prop) (e : ε)
    (s : σ) : andThen f Q (.error e s) ↔ Q (.error e s) := Iff.rfl

@[simp] theorem wp_pure {a : α} : wp (pure a : EStateM ε σ α) Q s ↔ Q (.ok a s) := Iff.rfl

@[simp] theorem wp_bind {f : α → EStateM ε σ β} {Q : EStateM.Result ε σ β → Prop} :
    wp (p >>= f) Q s ↔ wp p (andThen f Q) s := by
  simp only [wp, bind, EStateM.bind, EStateM.run]
  cases p s <;> rfl

/-- Returning a value after a program does not change the state it ends in. -/
@[simp] theorem andThen_pure_onState (g : α → β) (P : σ → Prop) :
    andThen (fun a => (pure (g a) : EStateM ε σ β)) (onState P) = onState P := by
  funext r
  cases r <;> rfl

@[simp] theorem andThen_pure_returns (g : α → β) (P : σ → Prop) :
    andThen (fun a => (pure (g a) : EStateM ε σ β)) (returns P) = returns P := by
  funext r
  cases r <;> rfl

@[simp] theorem wp_map {f : α → β} {Q : EStateM.Result ε σ β → Prop} :
    wp (f <$> p) Q s ↔ wp p (andThen (fun a => pure (f a)) Q) s := by
  simp only [wp, Functor.map, EStateM.map, EStateM.run]
  cases p s <;> rfl

@[simp] theorem wp_throw {e : ε} : wp (throw e : EStateM ε σ α) Q s ↔ Q (.error e s) := Iff.rfl

@[simp] theorem wp_get {Q : EStateM.Result ε σ σ → Prop} :
    wp (get : EStateM ε σ σ) Q s ↔ Q (.ok s s) := Iff.rfl

@[simp] theorem wp_modify {Q : EStateM.Result ε σ PUnit → Prop} {f : σ → σ} :
    wp (modify f : EStateM ε σ PUnit) Q s ↔ Q (.ok ⟨⟩ (f s)) := Iff.rfl

@[simp] theorem wp_set {Q : EStateM.Result ε σ PUnit → Prop} {s' : σ} :
    wp (set s' : EStateM ε σ PUnit) Q s ↔ Q (.ok ⟨⟩ s') := Iff.rfl

@[simp] theorem wp_ite {c : Prop} [Decidable c] {q : EStateM ε σ α} :
    wp (if c then p else q) Q s ↔ if c then wp p Q s else wp q Q s := by
  split <;> rfl

/-- What holds of the result of a program whose errors are caught: what it wrote before an error is
kept. -/
def orCatch (handler : ε → EStateM ε σ α) (Q : EStateM.Result ε σ α → Prop) :
    EStateM.Result ε σ α → Prop
  | .ok a s => Q (.ok a s)
  | .error e s => wp (handler e) Q s

@[simp] theorem orCatch_ok (handler : ε → EStateM ε σ α) (Q : EStateM.Result ε σ α → Prop) (a : α)
    (s : σ) : orCatch handler Q (.ok a s) ↔ Q (.ok a s) := Iff.rfl

@[simp] theorem orCatch_error (handler : ε → EStateM ε σ α) (Q : EStateM.Result ε σ α → Prop)
    (e : ε) (s : σ) : orCatch handler Q (.error e s) ↔ wp (handler e) Q s := Iff.rfl

@[simp] theorem wp_tryCatch {handler : ε → EStateM ε σ α} :
    wp (tryCatch p handler) Q s ↔ wp p (orCatch handler Q) s := by
  simp only [wp, tryCatch, tryCatchThe, MonadExceptOf.tryCatch, EStateM.tryCatch, EStateM.run]
  cases p s <;> rfl

end ShipyardCp.Lib
