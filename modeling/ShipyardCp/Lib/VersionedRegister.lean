import Mathlib.Data.List.Chain

/-! Registers whose contents carry a version: a write is taken when the register is empty, holds the
very content, or holds the predecessor of its version. -/

namespace ShipyardCp.Lib.VersionedRegister

variable {κ : Type*} (version : κ → Nat)

/-- The content a write may replace. -/
def Accepts (stored : Option κ) (next : κ) : Prop :=
  stored = none ∨ stored = some next ∨ ∃ current, stored = some current ∧
    version next = version current + 1

theorem accepts_none (next : κ) : Accepts version none next := Or.inl rfl

@[simp] theorem accepts_some_iff {current next : κ} : Accepts version (some current) next ↔
    current = next ∨ version next = version current + 1 := by
  simp [Accepts]

/-- Contents stay, or are replaced by contents of a later version. -/
def Advances (stored stored' : Option κ) : Prop :=
  ∀ current, stored = some current → ∃ current', stored' = some current' ∧
    (current' = current ∨ version current < version current')

theorem advances_trans {s₁ s₂ s₃ : Option κ} (h₁ : Advances version s₁ s₂)
    (h₂ : Advances version s₂ s₃) : Advances version s₁ s₃ := by
  intro c₁ hc₁
  obtain ⟨c₂, hc₂, hle₁⟩ := h₁ c₁ hc₁
  obtain ⟨c₃, hc₃, hle₂⟩ := h₂ c₂ hc₂
  refine ⟨c₃, hc₃, ?_⟩
  rcases hle₁ with rfl | hlt₁
  · exact hle₂
  · rcases hle₂ with rfl | hlt₂
    · exact Or.inr hlt₁
    · exact Or.inr (Nat.lt_trans hlt₁ hlt₂)

variable {version} in
theorem Advances.eq_of_version {c c' : κ} (h : Advances version (some c) (some c'))
    (hversion : version c = version c') : c = c' := by
  obtain ⟨c'', hc'', hle⟩ := h c rfl
  obtain rfl := Option.some.inj hc''
  rcases hle with rfl | hlt
  · rfl
  · exact absurd hversion (Nat.ne_of_lt hlt)

/-- Two contents of one version are the same content. -/
def Agree (stored stored' : Option κ) : Prop :=
  ∀ c c', stored = some c → stored' = some c' → version c = version c' → c = c'

instance : Std.Symm (Agree version) :=
  ⟨fun _ _ h c c' hc hc' hversion => (h c' c hc' hc hversion.symm).symm⟩

variable {version} in
theorem eq_of_isChain {history : List (Option κ)} (h : history.IsChain (Advances version))
    {c c' : κ} (hc : some c ∈ history) (hc' : some c' ∈ history)
    (hversion : version c = version c') : c = c' := by
  have htrans : IsTrans (Option κ) (Advances version) := ⟨fun _ _ _ => advances_trans version⟩
  have hagree : history.Pairwise (Agree version) :=
    (List.isChain_iff_pairwise.mp h).imp fun hadvances c c' hc hc' hversion => by
      subst hc hc'
      exact hadvances.eq_of_version hversion
  have hself : ∀ stored ∈ history, Agree version stored stored := by
    rintro _ _ c c' rfl hsame _
    exact Option.some.inj hsame
  exact hagree.forall_of_forall hself hc hc' c c' rfl rfl hversion

section write

variable [DecidableEq κ]

instance (stored : Option κ) (next : κ) : Decidable (Accepts version stored next) :=
  match stored with
  | none => isTrue (accepts_none version next)
  | some _ => decidable_of_iff _ (accepts_some_iff version).symm

/-- A refused write leaves the register as it is. -/
def write (stored : Option κ) (next : κ) : Option κ :=
  if Accepts version stored next then some next else stored

theorem advances_write (stored : Option κ) (next : κ) :
    Advances version stored (write version stored next) := by
  rintro current rfl
  unfold write
  split_ifs with haccepts
  · refine ⟨next, rfl, ?_⟩
    rcases (accepts_some_iff version).mp haccepts with rfl | hversion
    · exact Or.inl rfl
    · exact Or.inr (by omega)
  · exact ⟨current, rfl, Or.inl rfl⟩

/-- A write leaves the content, fills the empty register, or takes the next version. -/
theorem write_cases (stored : Option κ) (next : κ) :
    write version stored next = stored ∨ write version stored next = some next ∧
      (stored = none ∨ ∃ current, stored = some current ∧ version next = version current + 1) := by
  unfold write
  split_ifs with haccepts
  · rcases haccepts with hnone | hsame | hnext
    · exact Or.inr ⟨rfl, Or.inl hnone⟩
    · exact Or.inl hsame.symm
    · exact Or.inr ⟨rfl, Or.inr hnext⟩
  · exact Or.inl rfl

end write

end ShipyardCp.Lib.VersionedRegister

/-! Histories of versioned contents in which the version counts the changes: it grows whenever the
content changes, so that one version never stands for two contents. -/

namespace ShipyardCp.Lib.ChangeCounter

variable {κ β : Type*} (version : κ → Nat) (content : κ → β)

/-- The version grows when the content changes. -/
def Increases (a b : κ) : Prop := content a ≠ content b → version a < version b

/-- The version is a faithful change counter of a history. -/
structure Counts (history : List κ) : Prop where
  increases : history.IsChain (Increases version content)
  agree : ∀ a ∈ history, ∀ b ∈ history, version a = version b → content a = content b

/-- The version grows, or nothing changes. -/
def Grows (a b : κ) : Prop := version a < version b ∨ (version a = version b ∧ content a = content b)

theorem grows_refl (a : κ) : Grows version content a a := Or.inr ⟨rfl, rfl⟩

variable {version content}

theorem Grows.trans {a b c : κ} (hab : Grows version content a b) (hbc : Grows version content b c) :
    Grows version content a c := by
  rcases hab with hlt | ⟨hversion, hcontent⟩
  · rcases hbc with hlt' | ⟨hversion', _⟩
    · exact Or.inl (Nat.lt_trans hlt hlt')
    · exact Or.inl (hversion' ▸ hlt)
  · rcases hbc with hlt' | ⟨hversion', hcontent'⟩
    · exact Or.inl (hversion ▸ hlt')
    · exact Or.inr ⟨hversion.trans hversion', hcontent.trans hcontent'⟩

theorem Grows.increases {a b : κ} (h : Grows version content a b) : Increases version content a b :=
  fun hne => h.resolve_right fun hsame => hne hsame.2

theorem Grows.eq_of_version {a b : κ} (h : Grows version content a b)
    (hversion : version a = version b) : content a = content b := by
  rcases h with hlt | hsame
  · exact absurd hversion (Nat.ne_of_lt hlt)
  · exact hsame.2

theorem counts_of_isChain {history : List κ} (h : history.IsChain (Grows version content)) :
    Counts version content history := by
  have htrans : IsTrans κ (Grows version content) := ⟨fun _ _ _ => Grows.trans⟩
  refine ⟨h.imp fun _ _ => Grows.increases, ?_⟩
  have hagree : history.Pairwise fun a b => version a = version b → content a = content b :=
    (List.isChain_iff_pairwise.mp h).imp fun hgrows => hgrows.eq_of_version
  have hsymm : Std.Symm fun a b : κ => version a = version b → content a = content b :=
    ⟨fun _ _ hab hversion => (hab hversion.symm).symm⟩
  exact fun a ha b hb => hagree.forall_of_forall (fun _ _ _ => rfl) ha hb

end ShipyardCp.Lib.ChangeCounter
