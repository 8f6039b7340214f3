import Mathlib.Data.List.Basic

/-! Ids that end in a number after a dash. -/

namespace ShipyardCp.Lib

theorem append_cons_inj_last {α : Type*} {a b d e : List α} {c : α} (hd : c ∉ d) (he : c ∉ e)
    (h : a ++ c :: d = b ++ c :: e) : a = b ∧ d = e := by
  rcases List.append_eq_append_iff.mp h with ⟨l, rfl, hrest⟩ | ⟨l, rfl, hrest⟩
  · cases l with
    | nil => exact ⟨(List.append_nil a).symm, (List.cons.inj hrest).2⟩
    | cons x l =>
      obtain ⟨rfl, rfl⟩ := List.cons.inj hrest
      exact absurd (List.mem_append_right l List.mem_cons_self) hd
  · cases l with
    | nil => exact ⟨List.append_nil b, (List.cons.inj hrest).2.symm⟩
    | cons x l =>
      obtain ⟨rfl, rfl⟩ := List.cons.inj hrest
      exact absurd (List.mem_append_right l List.mem_cons_self) he

theorem toString_nat_inj {n n' : Nat} (h : toString n = toString n') : n = n' := by
  have hdigits := congrArg String.toList h
  rw [Nat.toString_eq_repr, Nat.toString_eq_repr, Nat.toList_repr, Nat.toList_repr] at hdigits
  rw [← Nat.ofDigitChars_ten_toDigits (n := n), hdigits, Nat.ofDigitChars_ten_toDigits]

theorem dash_notMem_digits (n : Nat) : '-' ∉ (toString n).toList := by
  intro hmem
  rw [Nat.toString_eq_repr, Nat.toList_repr] at hmem
  have hdigit := Nat.isDigit_of_mem_toDigits (by decide) (by decide) hmem
  exact absurd hdigit (by decide)

theorem numberedId_inj {name name' : String} {n n' : Nat}
    (h : name ++ "-" ++ toString n = name' ++ "-" ++ toString n') : name = name' ∧ n = n' := by
  have hlists := congrArg String.toList h
  simp only [String.toList_append, List.append_assoc] at hlists
  obtain ⟨hname, hnumber⟩ :=
    append_cons_inj_last (dash_notMem_digits n) (dash_notMem_digits n') hlists
  exact ⟨String.toList_inj.mp hname, toString_nat_inj (String.toList_inj.mp hnumber)⟩

end ShipyardCp.Lib
