import ShipyardCp.Lib.RegExp

/-! Regular expressions that are made of a text by writing `.*` for its stars: what they match when no
other character of the text has a meaning in a regular expression. -/

namespace ShipyardCp.Lib.RegExp

open JsText UnitSet Place

/-- A text that a pattern with stars stands for; each star stands for a text of allowed characters. -/
inductive Wildcard {α : Type*} (star : α) (allowed : α → Prop) : List α → List α → Prop
  | nil : Wildcard star allowed [] []
  | same {c : α} {pattern text : List α} : c ≠ star → Wildcard star allowed pattern text →
      Wildcard star allowed (c :: pattern) (c :: text)
  | many {pattern filled text : List α} : (∀ c ∈ filled, allowed c) →
      Wildcard star allowed pattern text → Wildcard star allowed (star :: pattern) (filled ++ text)

theorem Wildcard.mono {α : Type*} {star : α} {allowed allowed' : α → Prop} {pattern text : List α}
    (h : Wildcard star allowed pattern text) (hallowed : ∀ c, allowed c → allowed' c) :
    Wildcard star allowed' pattern text := by
  induction h with
  | nil => exact .nil
  | same hc _ ih => exact .same hc ih
  | many hfilled _ ih => exact .many (fun c hc => hallowed c (hfilled c hc)) ih

theorem wildcard_star_iff {α : Type*} {star : α} {allowed : α → Prop} {pattern text : List α} :
    Wildcard star allowed (star :: pattern) text ↔ ∃ filled rest, text = filled ++ rest ∧
      (∀ c ∈ filled, allowed c) ∧ Wildcard star allowed pattern rest := by
  constructor
  · intro h
    cases h with
    | same hc => exact absurd rfl hc
    | @many _ filled rest hfilled hrest => exact ⟨filled, rest, rfl, hfilled, hrest⟩
  · rintro ⟨filled, rest, rfl, hfilled, hrest⟩
    exact .many hfilled hrest

theorem wildcard_cons_iff {α : Type*} {star c : α} {allowed : α → Prop} {pattern text : List α}
    (hc : c ≠ star) : Wildcard star allowed (c :: pattern) text ↔
      ∃ rest, text = c :: rest ∧ Wildcard star allowed pattern rest := by
  constructor
  · intro h
    cases h with
    | same _ hrest => exact ⟨_, rfl, hrest⟩
    | many => exact absurd rfl hc
  · rintro ⟨rest, rfl, hrest⟩
    exact .same hc hrest

theorem wildcard_iff_eq {α : Type*} {star : α} {allowed : α → Prop} {pattern text : List α}
    (hstar : star ∉ pattern) : Wildcard star allowed pattern text ↔ text = pattern := by
  constructor
  · intro h
    induction h with
    | nil => rfl
    | same _ _ ih => rw [ih fun hmem => hstar (List.mem_cons_of_mem _ hmem)]
    | many => exact absurd List.mem_cons_self hstar
  · rintro rfl
    induction text with
    | nil => exact .nil
    | cons c text ih =>
      rw [List.mem_cons, not_or] at hstar
      exact .same (Ne.symm hstar.1) (ih hstar.2)

/-- `pattern.replace(/\*/g, '.*')` -/
def dotted (pattern : CodeUnits) : CodeUnits :=
  pattern.flatMap fun u => if u = 0x2A then [0x2E, 0x2A] else [u]

/-- The characters with a meaning in a regular expression, but for the star and braces. -/
def syntaxUnits : List Nat := [0x5E, 0x24, 0x5C, 0x2E, 0x2B, 0x3F, 0x28, 0x29, 0x5B, 0x7C]

/-- No character but the star has a meaning: a brace has none when it begins no quantifier. -/
def plain : CodeUnits → Bool
  | [] => true
  | u :: pattern => u ∉ syntaxUnits && (bracedQuantifier? (u :: pattern)).isNone && plain pattern

/-- What a dotted pattern is read as. -/
def wildcardNode : CodeUnits → Node
  | [] => .seq .finish .empty
  | u :: pattern =>
    if u = 0x2A then .seq (.repeated (.unit dot) 0 none true 0 0) (wildcardNode pattern)
    else .seq (.unit (.single u)) (wildcardNode pattern)

section reading

variable {pattern : CodeUnits}

theorem dotted_cons (u : Nat) (pattern : CodeUnits) :
    dotted (u :: pattern) = (if u = 0x2A then [0x2E, 0x2A] else [u]) ++ dotted pattern := rfl

theorem takeWhile_digits_dotted (pattern : CodeUnits) :
    (dotted pattern ++ [0x24]).takeWhile isDigit = pattern.takeWhile isDigit := by
  induction pattern with
  | nil => rfl
  | cons u pattern ih =>
    rw [dotted_cons]
    by_cases hstar : u = 0x2A
    · subst hstar
      rfl
    · rw [if_neg hstar, List.singleton_append, List.cons_append, List.takeWhile_cons,
        List.takeWhile_cons, ih]

theorem dropWhile_digits_dotted (pattern : CodeUnits) :
    (dotted pattern ++ [0x24]).dropWhile isDigit = dotted (pattern.dropWhile isDigit) ++ [0x24] := by
  induction pattern with
  | nil => rfl
  | cons u pattern ih =>
    rw [dotted_cons]
    by_cases hstar : u = 0x2A
    · subst hstar
      rfl
    · rw [if_neg hstar, List.singleton_append, List.cons_append, List.dropWhile_cons,
        List.dropWhile_cons, ih]
      split_ifs
      · rfl
      · rw [dotted_cons, if_neg hstar]
        rfl

theorem head?_dotted {v : Nat} (hstar : v ≠ 0x2A) (hdot : v ≠ 0x2E) (hdollar : v ≠ 0x24)
    (pattern : CodeUnits) :
    (dotted pattern ++ [0x24]).head? = some v ↔ pattern.head? = some v := by
  cases pattern with
  | nil => simpa [dotted] using hdollar.symm
  | cons u pattern =>
    rw [dotted_cons]
    by_cases hu : u = 0x2A
    · subst hu
      simp [hstar.symm, hdot.symm]
    · simp [hu]

theorem tail_dotted {v : Nat} (hstar : v ≠ 0x2A) (h : pattern.head? = some v) :
    (dotted pattern ++ [0x24]).tail = dotted pattern.tail ++ [0x24] := by
  cases pattern with
  | nil => cases h
  | cons u pattern =>
    obtain rfl : u = v := Option.some.inj h
    rw [dotted_cons, if_neg hstar]
    rfl

theorem bracedQuantifier?_eq_none_iff {source : CodeUnits} : bracedQuantifier? source = none ↔
    (source.head? = some 0x7B → source.tail.takeWhile isDigit ≠ [] →
      (source.tail.dropWhile isDigit).head? ≠ some 0x7D ∧
        ((source.tail.dropWhile isDigit).head? = some 0x2C →
          ((source.tail.dropWhile isDigit).tail.dropWhile isDigit).head? ≠ some 0x7D)) := by
  unfold bracedQuantifier?
  dsimp only
  split_ifs with hopen hend hmore
  · simp only [Bool.and_eq_true, decide_eq_true_eq] at hopen
    simp [hopen.1, hopen.2, hend]
  · simp only [Bool.and_eq_true, decide_eq_true_eq] at hopen hmore
    simp [hopen.1, hopen.2, hmore.1, hmore.2]
  · simp only [Bool.and_eq_true, decide_eq_true_eq, not_and] at hmore
    exact iff_of_true rfl fun _ _ => ⟨hend, hmore⟩
  · simp only [Bool.and_eq_true, decide_eq_true_eq, not_and] at hopen
    exact iff_of_true rfl fun hhead hdigits => absurd hdigits (hopen hhead)

theorem bracedQuantifier?_dotted (h : bracedQuantifier? pattern = none) :
    bracedQuantifier? (dotted pattern ++ [0x24]) = none := by
  rw [bracedQuantifier?_eq_none_iff] at h ⊢
  intro hhead hdigits
  have hopen := (head?_dotted (by decide) (by decide) (by decide) pattern).mp hhead
  rw [tail_dotted (by decide) hopen, takeWhile_digits_dotted] at hdigits
  rw [tail_dotted (by decide) hopen, dropWhile_digits_dotted]
  obtain ⟨hend, hmore⟩ := h hopen hdigits
  refine ⟨fun hrest => ?_, fun hcomma hrest => ?_⟩
  · exact hend ((head?_dotted (by decide) (by decide) (by decide) _).mp hrest)
  · have hcomma' := (head?_dotted (by decide) (by decide) (by decide) _).mp hcomma
    rw [tail_dotted (by decide) hcomma', dropWhile_digits_dotted] at hrest
    exact hmore hcomma' ((head?_dotted (by decide) (by decide) (by decide) _).mp hrest)

theorem plain_cons {u : Nat} : plain (u :: pattern) = true ↔
    u ∉ syntaxUnits ∧ bracedQuantifier? (u :: pattern) = none ∧ plain pattern = true := by
  simp [plain, and_assoc]

theorem plain_brace (hplain : plain pattern = true) : bracedQuantifier? pattern = none := by
  cases pattern with
  | nil => rfl
  | cons u pattern => exact (plain_cons.mp hplain).2.1

theorem quantifier?_of_head {u : Nat} (hstar : u ≠ 0x2A) (hplus : u ≠ 0x2B) (hmark : u ≠ 0x3F)
    (source : CodeUnits) : quantifier? (u :: source) = bracedQuantifier? (u :: source) := by
  unfold quantifier?
  split
  · next heq => exact absurd (List.cons.inj heq).1 hstar
  · next heq => exact absurd (List.cons.inj heq).1 hplus
  · next heq => exact absurd (List.cons.inj heq).1 hmark
  · rfl

/-- Nothing in a dotted source but a star after its dot is a quantifier. -/
theorem quantifier?_dotted (hplain : plain pattern = true) :
    quantifier? (dotted pattern ++ [0x24]) = none := by
  have hbrace := bracedQuantifier?_dotted (plain_brace hplain)
  cases pattern with
  | nil => rfl
  | cons u pattern =>
    obtain ⟨hmeaning, _, _⟩ := plain_cons.mp hplain
    rw [dotted_cons] at hbrace ⊢
    by_cases hstar : u = 0x2A
    · rw [if_pos hstar] at hbrace ⊢
      exact (quantifier?_of_head (by decide) (by decide) (by decide) _).trans hbrace
    · rw [if_neg hstar] at hbrace ⊢
      refine (quantifier?_of_head hstar ?_ ?_ _).trans hbrace
      · rintro rfl
        exact hmeaning (by decide)
      · rintro rfl
        exact hmeaning (by decide)

variable (names : List (Option (List Nat)))

theorem simpleAtom_literal {u : Nat} (hstar : u ≠ 0x2A) (hmeaning : u ∉ syntaxUnits)
    {source : CodeUnits} (hbrace : bracedQuantifier? (u :: source) = none) :
    simpleAtom names (u :: source) = some (.unit (.single u), source) := by
  simp only [syntaxUnits, List.mem_cons, List.not_mem_nil, or_false, not_or] at hmeaning
  simp [simpleAtom, hmeaning, hstar, hbrace]

theorem term_simple {u : Nat} (hcaret : u ≠ 0x5E) (hdollar : u ≠ 0x24) (hslash : u ≠ 0x5C)
    (hopen : u ≠ 0x28) (fuel opened : Nat) (source : CodeUnits) :
    term names (fuel + 1) opened (u :: source) = (do
      let (atom, source) ← simpleAtom names (u :: source)
      let (node, source) ← quantified atom opened opened source
      pure (node, opened, source)) := by
  unfold term
  split
  all_goals first
    | rfl
    | next heq => first
      | exact absurd (List.cons.inj heq).1 hcaret
      | exact absurd (List.cons.inj heq).1 hdollar
      | exact absurd (List.cons.inj heq).1 hslash
      | exact absurd (List.cons.inj heq).1 hopen

theorem quantified_none {source : CodeUnits} (h : quantifier? source = none) (atom : Node)
    (first last : Nat) : quantified atom first last source = some (atom, source) := by
  rw [quantified, h]

theorem quantified_star {source : CodeUnits} (h : source.head? ≠ some 0x3F) (atom : Node)
    (first last : Nat) : quantified atom first last (0x2A :: source) =
      some (.repeated atom 0 none true first last, source) := by
  unfold quantified quantifier?
  simp only [Option.any_none, Bool.false_eq_true, if_false]
  split
  · exact absurd rfl h
  · rfl

theorem alternative_cons {u : Nat} (hbar : u ≠ 0x7C) (hclose : u ≠ 0x29) (fuel opened : Nat)
    (source : CodeUnits) : alternative names (fuel + 1) opened (u :: source) = (do
      let (first, opened, source) ← term names fuel opened (u :: source)
      let (rest, opened, source) ← alternative names fuel opened source
      pure (.seq first rest, opened, source)) := by
  rw [alternative, if_neg (by simp [hbar, hclose])]

theorem alternative_dotted : ∀ {pattern : CodeUnits} (fuel : Nat), plain pattern = true →
    alternative names (pattern.length + 3 + fuel) 0 (dotted pattern ++ [0x24]) =
      some (wildcardNode pattern, 0, []) := by
  intro pattern
  induction pattern with
  | nil =>
    intro fuel _
    rw [List.length_nil, Nat.add_right_comm]
    rfl
  | cons u pattern ih =>
    intro fuel hplain
    obtain ⟨hmeaning, hbrace, hrest⟩ := plain_cons.mp hplain
    have htail := ih fuel hrest
    have hfuel : (u :: pattern).length + 3 + fuel = (pattern.length + 2 + fuel) + 1 + 1 := by
      simp only [List.length_cons]
      omega
    have hfuel' : pattern.length + 3 + fuel = pattern.length + 2 + fuel + 1 := by omega
    rw [hfuel'] at htail
    rw [hfuel, wildcardNode]
    by_cases hstar : u = 0x2A
    · subst hstar
      have hmark : (dotted pattern ++ [0x24]).head? ≠ some 0x3F := by
        rw [ne_eq, head?_dotted (by decide) (by decide) (by decide)]
        intro hhead
        cases pattern with
        | nil => cases hhead
        | cons v pattern =>
          obtain rfl : v = 0x3F := Option.some.inj hhead
          exact (plain_cons.mp hrest).1 (by decide)
      rw [if_pos rfl, show dotted (0x2A :: pattern) ++ [0x24] =
        0x2E :: 0x2A :: (dotted pattern ++ [0x24]) from rfl, alternative_cons names (by decide)
        (by decide), term_simple names (by decide) (by decide) (by decide) (by decide)]
      simp [simpleAtom, quantified_star hmark, htail]
    · have hbraced := bracedQuantifier?_dotted hbrace
      rw [dotted_cons, if_neg hstar, List.singleton_append, List.cons_append] at hbraced ⊢
      have hatom := simpleAtom_literal names hstar hmeaning hbraced
      simp only [syntaxUnits, List.mem_cons, List.not_mem_nil, or_false, not_or] at hmeaning
      rw [if_neg hstar, alternative_cons names hmeaning.2.2.2.2.2.2.2.2.2 hmeaning.2.2.2.2.2.2.2.1,
        term_simple names hmeaning.1 hmeaning.2.1 hmeaning.2.2.1 hmeaning.2.2.2.2.2.2.1]
      simp [hatom, quantified_none (quantifier?_dotted hrest), htail]

theorem groupNames_of_not_mem {source : CodeUnits} (h : 0x28 ∉ source) (inClass : Bool) :
    groupNames inClass source = [] := by
  fun_induction groupNames inClass source
  all_goals simp_all

theorem length_le_length_dotted (pattern : CodeUnits) : pattern.length ≤ (dotted pattern).length := by
  induction pattern with
  | nil => exact Nat.le_refl _
  | cons u pattern ih =>
    rw [dotted_cons, List.length_append, List.length_cons]
    split_ifs <;> simp only [List.length_cons, List.length_nil] <;> omega

theorem mem_of_mem_dotted {u : Nat} (h : u ∈ dotted pattern) : u ∈ pattern ∨ u = 0x2E := by
  obtain ⟨v, hv, hu⟩ := List.mem_flatMap.mp h
  split_ifs at hu with hstar
  · rcases List.mem_cons.mp hu with rfl | hu
    · exact Or.inr rfl
    · rw [List.mem_singleton.mp hu, ← hstar]
      exact Or.inl hv
  · rw [List.mem_singleton.mp hu]
    exact Or.inl hv

theorem not_mem_of_plain (hplain : plain pattern = true) {u : Nat} (hu : u ∈ syntaxUnits) :
    u ∉ pattern := by
  induction pattern with
  | nil => exact List.not_mem_nil
  | cons v pattern ih =>
    obtain ⟨hmeaning, _, hrest⟩ := plain_cons.mp hplain
    rw [List.mem_cons, not_or]
    exact ⟨fun heq => hmeaning (heq ▸ hu), ih hrest⟩

/-- `new RegExp('^' + pattern.replace(/\*/g, '.*') + '$')` is what the plain pattern says. -/
theorem compile_wildcard (hplain : plain pattern = true) :
    compile (0x5E :: (dotted pattern ++ [0x24])) = some (.seq .start (wildcardNode pattern)) := by
  have hgroup : 0x28 ∉ 0x5E :: (dotted pattern ++ [0x24]) := by
    simp only [List.mem_cons, List.mem_append, List.not_mem_nil, or_false, not_or]
    refine ⟨by decide, fun hmem => ?_, by decide⟩
    rcases mem_of_mem_dotted hmem with hmem | hdot
    · exact not_mem_of_plain hplain (by decide) hmem
    · exact absurd hdot (by decide)
  have hlength := length_le_length_dotted pattern
  have hfuel : 4 * (0x5E :: (dotted pattern ++ [0x24])).length + 4 =
      pattern.length + 3 + (4 * (dotted pattern).length + 7 - pattern.length) + 1 + 1 := by
    simp only [List.length_cons, List.length_append, List.length_nil]
    omega
  have hread := alternative_dotted [] (4 * (dotted pattern).length + 7 - pattern.length) hplain
  have hterm : ∀ fuel, term [] (fuel + 1) 0 (0x5E :: (dotted pattern ++ [0x24])) =
      some (.start, 0, dotted pattern ++ [0x24]) := fun _ => rfl
  have hfuel' : pattern.length + 3 + (4 * (dotted pattern).length + 7 - pattern.length) =
      pattern.length + 2 + (4 * (dotted pattern).length + 7 - pattern.length) + 1 := by omega
  have hdisjunction : disjunction [] (4 * (0x5E :: (dotted pattern ++ [0x24])).length + 4) 0
      (0x5E :: (dotted pattern ++ [0x24])) = some (.seq .start (wildcardNode pattern), 0, []) := by
    rw [hfuel]
    unfold disjunction
    rw [alternative_cons [] (by decide) (by decide), hfuel', hterm]
    rw [hfuel'] at hread
    simp [hread]
  unfold compile
  dsimp only
  rw [groupNames_of_not_mem hgroup, hdisjunction]
  rfl

end reading

section matching

theorem rounds_any (round : Place → List Place) (fuel : Nat) (place : Place) :
    rounds round true (fuel + 1) 0 none place = ((round place).flatMap fun next =>
        if next.after.length = place.after.length then [] else rounds round true fuel 0 none next) ++
        [place] := by
  simp [rounds]

theorem ends_dot_cons (before after : CodeUnits) (u : Nat) (captured : List (Nat × CodeUnits)) :
    ends true (.unit dot) ⟨before, u :: after, captured⟩ =
      if dot.has u then [⟨u :: before, after, captured⟩] else [] := by
  simp [ends, advance]

theorem exists_filled_cons_iff {α : Type*} {allowed : α → Prop} {P : List α → Prop} {c : α}
    {l : List α} :
    (∃ filled text, c :: l = filled ++ text ∧ (∀ d ∈ filled, allowed d) ∧ P text) ↔
      (allowed c ∧ ∃ filled text, l = filled ++ text ∧ (∀ d ∈ filled, allowed d) ∧ P text) ∨
        P (c :: l) := by
  constructor
  · rintro ⟨filled, text, hsplit, hfilled, htext⟩
    cases filled with
    | nil => exact Or.inr (hsplit ▸ htext)
    | cons d filled =>
      obtain ⟨rfl, hrest⟩ := List.cons.inj hsplit
      obtain ⟨hd, hfilled⟩ := List.forall_mem_cons.mp hfilled
      exact Or.inl ⟨hd, filled, text, hrest, hfilled, htext⟩
  · rintro (⟨hc, filled, text, rfl, hfilled, htext⟩ | htext)
    · exact ⟨c :: filled, text, rfl, List.forall_mem_cons.mpr ⟨hc, hfilled⟩, htext⟩
    · exact ⟨[], c :: l, rfl, nofun, htext⟩

/-- What any number of dots leaves of a text is what is left of it without a part of its line. -/
theorem exists_rounds_dot_iff (P : CodeUnits → Prop) :
    ∀ (fuel : Nat) (place : Place), place.after.length < fuel →
      ((∃ next ∈ rounds (fun place => ends true (.unit dot) (place.forget 0 0)) true fuel 0 none place,
        P next.after) ↔
        ∃ filled text, place.after = filled ++ text ∧ (∀ u ∈ filled, dot.has u = true) ∧ P text) := by
  intro fuel
  induction fuel with
  | zero => exact fun place h => absurd h (Nat.not_lt_zero _)
  | succ fuel ih =>
    rintro ⟨before, after, captured⟩ hfuel
    rw [rounds_any]
    cases after with
    | nil => simp [ends, advance, forget]
    | cons u after =>
      have hnext := fun captured => ih ⟨u :: before, after, captured⟩ (Nat.lt_of_succ_lt_succ hfuel)
      rw [forget, ends_dot_cons, exists_filled_cons_iff]
      simp only [List.mem_append, List.mem_singleton, or_and_right, exists_or, exists_eq_left]
      by_cases hdot : dot.has u = true
      · simp only [hdot, if_true, List.flatMap_singleton, List.length_cons, Nat.left_eq_add,
          Nat.one_ne_zero, if_false, true_and, hnext]
      · simp [hdot]

theorem ends_seq_ne_nil_iff {first rest : Node} {place : Place} :
    ends true (.seq first rest) place ≠ [] ↔
      ∃ next ∈ ends true first place, ends true rest next ≠ [] := by
  simp [ends]

theorem UnitSet.has_single (u v : Nat) : (single u).has v = decide (v = u) := by
  simp only [has, single, List.any_cons, List.any_nil, Bool.or_false, Bool.false_bne]
  rw [← Bool.decide_and, decide_eq_decide]
  omega

/-- A dotted pattern matches the rest of a text exactly when the text is one it stands for. -/
theorem ends_wildcardNode_ne_nil_iff {pattern : CodeUnits} : ∀ place : Place,
    ends true (wildcardNode pattern) place ≠ [] ↔
      Wildcard 0x2A (fun u => dot.has u = true) pattern place.after := by
  induction pattern with
  | nil =>
    rintro ⟨before, after, captured⟩
    cases after with
    | nil => exact iff_of_true (by simp [wildcardNode, ends]) .nil
    | cons u after => exact iff_of_false (by simp [wildcardNode, ends]) nofun
  | cons u pattern ih =>
    rintro ⟨before, after, captured⟩
    rw [wildcardNode]
    by_cases hstar : u = 0x2A
    · subst hstar
      rw [if_pos rfl]
      have hrounds := exists_rounds_dot_iff (Wildcard 0x2A (fun u => dot.has u = true) pattern)
        (0 + before.length + after.length + 1) ⟨before, after, captured⟩ (by simp only; omega)
      rw [ends_seq_ne_nil_iff, wildcard_star_iff, ← hrounds]
      exact exists_congr fun next => and_congr_right fun _ => ih next
    · rw [if_neg hstar, ends_seq_ne_nil_iff, wildcard_cons_iff hstar]
      cases after with
      | nil => simp [ends, advance]
      | cons v after =>
        simp only [ends, advance, if_true, has_single]
        by_cases hv : v = u
        · simp [hv, ih]
        · simp [hv]

/-- `new RegExp('^' + pattern.replace(/\*/g, '.*') + '$').test(text)` for a plain pattern. -/
theorem occursFrom_wildcard_iff {pattern : CodeUnits} (text : CodeUnits) :
    occursFrom (.seq .start (wildcardNode pattern)) [] text = true ↔
      Wildcard 0x2A (fun u => dot.has u = true) pattern text := by
  have hinside : ∀ (before after : CodeUnits), before ≠ [] →
      occursFrom (.seq .start (wildcardNode pattern)) before after = false := by
    intro before after hbefore
    induction after generalizing before with
    | nil => simp [occursFrom, ends, hbefore]
    | cons u after ih =>
      rw [occursFrom, ih (u :: before) (List.cons_ne_nil u before)]
      simp [ends, hbefore]
  have hstart : occursFrom (.seq .start (wildcardNode pattern)) [] text =
      !(ends true (.seq .start (wildcardNode pattern)) ⟨[], text, []⟩).isEmpty := by
    cases text with
    | nil => rfl
    | cons u text => rw [occursFrom, hinside [u] text (List.cons_ne_nil u []), Bool.or_false]
  rw [hstart, Bool.not_eq_true', List.isEmpty_eq_false_iff, ends_seq_ne_nil_iff]
  simp [ends, ends_wildcardNode_ne_nil_iff]

end matching

end ShipyardCp.Lib.RegExp
