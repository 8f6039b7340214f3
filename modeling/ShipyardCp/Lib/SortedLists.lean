import Mathlib.Data.List.Pairwise
import Mathlib.Data.List.Sort

/-! Lists that are sorted when they are read, as elements come in. -/

namespace ShipyardCp.Lib

/-! Lists that are sorted anew for every page read from them: elements added to a list leave the order of
the others as it was, and the place after one of them is still a place of the longer list. -/

section sort

variable {α : Type*} {r : α → α → Prop} [DecidableRel r]

theorem filter_orderedInsert_of_pairwise (htrans : ∀ a b c, r a b → r b c → r a c) (p : α → Bool)
    (a : α) {l : List α} (hsorted : l.Pairwise r) :
    (l.orderedInsert r a).filter p =
      if p a then (l.filter p).orderedInsert r a else l.filter p := by
  induction l with
  | nil => simp [List.filter_cons]
  | cons b l ih =>
    rw [List.pairwise_cons] at hsorted
    have hrest := ih hsorted.2
    by_cases hab : r a b
    · have hfirst : ∀ c ∈ (b :: l).filter p, r a c := by
        intro c hc
        rcases List.mem_cons.mp (List.mem_of_mem_filter hc) with rfl | hc
        · exact hab
        · exact htrans a b c hab (hsorted.1 c hc)
      rw [List.orderedInsert_cons_of_le _ _ hab, List.filter_cons]
      split_ifs
      · cases hfilter : (b :: l).filter p with
        | nil => rfl
        | cons c more =>
          rw [List.orderedInsert_cons_of_le _ _ (hfirst c (by rw [hfilter]; simp))]
      · rfl
    · rw [List.orderedInsert_of_not_le _ _ hab, List.filter_cons, hrest, List.filter_cons]
      split_ifs
      · rw [List.orderedInsert_of_not_le _ _ hab]
      · rfl
      · rfl
      · rfl

theorem filter_insertionSort (htotal : ∀ a b, r a b ∨ r b a)
    (htrans : ∀ a b c, r a b → r b c → r a c) (p : α → Bool) (l : List α) :
    (l.insertionSort r).filter p = (l.filter p).insertionSort r := by
  have : Std.Total r := ⟨htotal⟩
  have : IsTrans α r := ⟨htrans⟩
  induction l with
  | nil => rfl
  | cons a l ih =>
    rw [List.insertionSort_cons,
      filter_orderedInsert_of_pairwise htrans p a (List.pairwise_insertionSort r l), ih,
      List.filter_cons]
    split_ifs
    · rfl
    · rfl

end sort

section places

variable {α : Type*} {p : α → Bool} {l a b : List α} {x : α}

theorem exists_place_of_filter (hfilter : l.filter p = a ++ x :: b) :
    ∃ a' b', l = a' ++ x :: b' ∧ a'.filter p = a ∧ b'.filter p = b := by
  obtain ⟨l₁, l₂, rfl, hbefore, hafter⟩ := List.filter_eq_append_iff.mp hfilter
  obtain ⟨m₁, m₂, rfl, hskip, -, hrest⟩ := List.filter_eq_cons_iff.mp hafter
  refine ⟨l₁ ++ m₁, m₂, (List.append_assoc ..).symm, ?_, hrest⟩
  rw [List.filter_append, hbefore, List.filter_eq_nil_iff.mpr hskip, List.append_nil]

variable {κ : Type*} {key : α → κ}

/-- Elements with keys of their own between two parts of a list are told apart from them. -/
theorem filter_mem_of_nodup_keys [DecidableEq α] {c : List α}
    (hnodup : ((a ++ b ++ c).map key).Nodup) :
    (a ++ b ++ c).filter (fun y => decide (y ∈ a ++ c)) = a ++ c := by
  have hdistinct := List.Nodup.of_map _ hnodup
  have hb : ∀ y ∈ b, y ∉ a ++ c := by
    intro y hy
    rw [List.nodup_append, List.nodup_append] at hdistinct
    obtain ⟨⟨-, -, hab⟩, -, hc⟩ := hdistinct
    intro hmem
    rcases List.mem_append.mp hmem with ha | hyc
    · exact hab y ha y hy rfl
    · exact hc y (List.mem_append_right _ hy) y hyc rfl
  rw [List.filter_append, List.filter_append, List.filter_eq_self.mpr, List.filter_eq_nil_iff.mpr,
    List.filter_eq_self.mpr, List.append_nil]
  · intro y hy
    simp [hy]
  · intro y hy
    simpa using hb y hy
  · intro y hy
    simp [hy]

/-- Where keys are distinct, an element is found by its key at its place. -/
theorem findIdx?_key [DecidableEq κ] (hnodup : ((a ++ x :: b).map key).Nodup) :
    (a ++ x :: b).findIdx? (fun y => key y = key x) = some a.length := by
  induction a with
  | nil => simp [List.findIdx?_cons]
  | cons y a ih =>
    rw [List.cons_append, List.map_cons, List.nodup_cons] at hnodup
    have hne : key y ≠ key x := fun heq => hnodup.1 (by rw [heq]; simp)
    rw [List.cons_append, List.findIdx?_cons, ih hnodup.2]
    simp [hne]

end places

/-! Lists of the most recent elements: kept up as elements come in, or sorted out when they are asked
for. -/

variable {E : Type*} {n : Nat} {p : E → Bool}

/-- Puts an element in front, and cuts the list off at a length. -/
def pushRecent (n : Nat) (e : E) (list : List E) : List E := (e :: list).take n

theorem pushRecent_take (e : E) (all : List E) : pushRecent n e (all.take n) = (e :: all).take n := by
  cases n with
  | zero => rfl
  | succ n => rw [pushRecent, List.take_succ_cons, List.take_succ_cons, List.take_take,
      Nat.min_eq_left (Nat.le_succ n)]

theorem take_filter_of_take {l : List E} (h : ∀ x ∈ l.take n, p x = true) :
    (l.filter p).take n = l.take n := by
  induction l generalizing n with
  | nil => simp
  | cons a l ih =>
    cases n with
    | zero => rfl
    | succ n =>
      rw [List.take_succ_cons, List.forall_mem_cons] at h
      rw [List.filter_cons_of_pos h.1, List.take_succ_cons, List.take_succ_cons, ih h.2]

section sorting

variable {le : E → E → Prop} [DecidableRel le] {found all : List E}

theorem insertionSort_eq_of_strict (htotal : ∀ a b, le a b ∨ le b a)
    (htrans : ∀ a b c, le a b → le b c → le a c) (hperm : all.Perm found)
    (hstrict : all.Pairwise fun a b => ¬le b a) : found.insertionSort le = all := by
  have : Std.Total le := ⟨htotal⟩
  have : IsTrans E le := ⟨htrans⟩
  have hsame := ((List.perm_insertionSort le found).trans hperm.symm)
  refine hsame.eq_of_pairwise ?_ (List.pairwise_insertionSort le found)
    (hstrict.imp fun {a b} hnot => (htotal a b).resolve_right hnot)
  intro a b ha hb hab hba
  by_contra hne
  have : Std.Symm fun a b => ¬(le a b ∧ le b a) := ⟨fun a b h hba => h hba.symm⟩
  have hdiffer := (hstrict.imp fun {a b} hnot (hboth : le a b ∧ le b a) => hnot hboth.2).forall
  exact hdiffer (hsame.mem_iff.mp ha) hb hne ⟨hab, hba⟩

/-- When enough wanted elements come before each unwanted one, the first elements are the first wanted. -/
theorem take_insertionSort_of_outnumbered (htotal : ∀ a b, le a b ∨ le b a)
    (htrans : ∀ a b c, le a b → le b c → le a c) (hperm : all.Perm (found.filter p))
    (hstrict : all.Pairwise fun a b => ¬le b a)
    (hfew : ∀ x ∈ found, p x = false → n ≤ (all.filter fun a => ¬le x a).length) :
    (found.insertionSort le).take n = all.take n := by
  have : Std.Total le := ⟨htotal⟩
  have : IsTrans E le := ⟨htrans⟩
  have hwanted : ∀ x ∈ (found.insertionSort le).take n, p x = true := by
    intro x hx
    by_contra hunwanted
    rw [Bool.not_eq_true] at hunwanted
    obtain ⟨before, after, htake⟩ := List.append_of_mem hx
    have hsplit : found.insertionSort le = before ++ x :: (after ++ (found.insertionSort le).drop n) := by
      rw [← List.cons_append, ← List.append_assoc, ← htake, List.take_append_drop]
    have hsorted := List.pairwise_insertionSort le found
    have hlate : (x :: (after ++ (found.insertionSort le).drop n)).filter (fun a => ¬le x a) = [] := by
      rw [hsplit, List.pairwise_append, List.pairwise_cons] at hsorted
      refine List.filter_eq_nil_iff.mpr fun y hy => ?_
      rcases List.mem_cons.mp hy with rfl | hy
      · simpa using (htotal y y).elim id id
      · simpa using hsorted.2.1.1 y hy
    have hcount : (all.filter fun a => ¬le x a).length ≤ before.length := by
      calc (all.filter fun a => ¬le x a).length
          = ((found.filter p).filter fun a => ¬le x a).length := (hperm.filter _).length_eq
        _ ≤ (found.filter fun a => ¬le x a).length := (List.filter_sublist.filter _).length_le
        _ = ((found.insertionSort le).filter fun a => ¬le x a).length :=
          ((List.perm_insertionSort le found).filter _).length_eq.symm
        _ = (before.filter fun a => ¬le x a).length := by
          rw [hsplit, List.filter_append, hlate, List.append_nil]
        _ ≤ before.length := List.length_filter_le _ _
    have hbefore : before.length < n := by
      have hlength := congrArg List.length htake
      rw [List.length_take, List.length_append, List.length_cons] at hlength
      omega
    have hmem : x ∈ found := (List.mem_insertionSort le).mp (List.mem_of_mem_take hx)
    exact absurd (hfew x hmem hunwanted) (by omega)
  rw [← take_filter_of_take hwanted, filter_insertionSort htotal htrans,
    insertionSort_eq_of_strict htotal htrans hperm hstrict]

end sorting

end ShipyardCp.Lib
