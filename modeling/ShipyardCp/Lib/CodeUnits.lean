import Mathlib.Data.List.DropRight
import ShipyardCp.Lib.JsText

/-! Texts as lines: splitting and joining, and the lines that are not blank. -/

namespace ShipyardCp.Lib

section splitting

variable {α : Type*} [DecidableEq α] {sep c : α} {text segment : List α}

theorem notMem_of_mem_splitOn (h : segment ∈ text.splitOn sep) : sep ∉ segment := by
  induction text generalizing segment with
  | nil => simp_all
  | cons c text ih =>
    rw [List.splitOn_cons_eq_if_modifyHead] at h
    split_ifs at h with hc
    · rcases List.mem_cons.mp h with rfl | h
      · exact List.not_mem_nil
      · exact ih h
    · cases hsplit : text.splitOn sep with
      | nil => exact absurd hsplit (List.splitOn_ne_nil _ _)
      | cons head tail =>
        rw [hsplit, List.modifyHead_cons] at h
        rcases List.mem_cons.mp h with rfl | h
        · rintro (_ | ⟨_, hmem⟩)
          · exact hc (beq_self_eq_true _)
          · exact ih (hsplit ▸ List.mem_cons_self) hmem
        · exact ih (hsplit ▸ List.mem_cons_of_mem _ h)

theorem exists_splitOn_append (sep : α) (text : List α) : ∃ segments last,
    text.splitOn sep = segments ++ [last] ∧
      ∀ more, (text ++ more).splitOn sep = segments ++ (last ++ more).splitOn sep := by
  induction text with
  | nil => exact ⟨[], [], rfl, fun more => rfl⟩
  | cons a text ih =>
    obtain ⟨segments, last, htext, happend⟩ := ih
    simp only [List.cons_append, List.splitOn_cons_eq_if_modifyHead, htext, happend]
    by_cases ha : (a == sep) = true
    · simp only [if_pos ha]
      exact ⟨[] :: segments, last, rfl, fun more => rfl⟩
    · simp only [if_neg ha]
      cases segments with
      | nil =>
        refine ⟨[], a :: last, rfl, fun more => ?_⟩
        rw [List.cons_append, List.splitOn_cons_eq_if_modifyHead, if_neg ha]
        rfl
      | cons first segments => exact ⟨(a :: first) :: segments, last, rfl, fun more => rfl⟩

/-- Where another element than the separator comes last, it is at the end of the last segment. -/
theorem exists_splitOn_concat (hc : c ≠ sep) (text : List α) : ∃ segments last,
    text.splitOn sep = segments ++ [last] ∧
      (text ++ [c]).splitOn sep = segments ++ [last ++ [c]] := by
  obtain ⟨segments, last, htext, happend⟩ := exists_splitOn_append sep text
  have hlast : sep ∉ last := notMem_of_mem_splitOn (htext ▸ List.mem_append_right _ List.mem_cons_self)
  refine ⟨segments, last, htext, ?_⟩
  rw [happend, List.splitOn_eq_singleton (by simp [hlast, hc.symm])]

end splitting

section joining

variable {α : Type*} {sep : List α} {lines more : List (List α)}

theorem intercalate_append (hne : lines ≠ []) (hmore : more ≠ []) :
    sep.intercalate (lines ++ more) = sep.intercalate lines ++ sep ++ sep.intercalate more := by
  induction lines with
  | nil => exact absurd rfl hne
  | cons line lines ih =>
    rcases eq_or_ne lines [] with rfl | hlines
    · rw [List.intercalate_singleton, List.singleton_append, List.intercalate_cons_of_ne_nil hmore,
        List.append_assoc]
    · rw [List.cons_append, List.intercalate_cons_of_ne_nil (by simp [hlines]), ih hlines,
        List.intercalate_cons_of_ne_nil hlines]
      simp only [List.append_assoc]

theorem intercalate_flatten {groups : List (List (List α))} (hne : ∀ group ∈ groups, group ≠ []) :
    sep.intercalate (groups.map sep.intercalate) = sep.intercalate groups.flatten := by
  induction groups with
  | nil => rfl
  | cons group groups ih =>
    rw [List.forall_mem_cons] at hne
    rcases eq_or_ne groups [] with rfl | hgroups
    · simp
    · have hflat : groups.flatten ≠ [] := by
        obtain ⟨other, hother⟩ := List.exists_mem_of_ne_nil groups hgroups
        rw [List.flatten_ne_nil_iff]
        exact ⟨other, hother, hne.2 other hother⟩
      rw [List.map_cons, List.intercalate_cons_of_ne_nil (by simpa using hgroups), ih hne.2,
        List.flatten_cons, intercalate_append hne.1 hflat, List.append_assoc]

theorem splitOn_intercalate_flatMap {α : Type*} [DecidableEq α] {sep : α} {texts : List (List α)}
    (hne : texts ≠ []) :
    ([sep].intercalate texts).splitOn sep = texts.flatMap (List.splitOn sep) := by
  have htexts : (texts.map (List.splitOn sep)).map [sep].intercalate = texts := by
    rw [List.map_map]
    exact (List.map_congr_left fun text _ => List.intercalate_splitOn sep).trans (List.map_id texts)
  have hgroups : ∀ group ∈ texts.map (List.splitOn sep), group ≠ [] := by
    simp [List.splitOn_ne_nil]
  have hjoined : [sep].intercalate texts = [sep].intercalate (texts.flatMap (List.splitOn sep)) := by
    rw [List.flatMap_def, ← intercalate_flatten hgroups, htexts]
  rw [hjoined, List.splitOn_intercalate]
  · intro line hline
    obtain ⟨text, -, htext⟩ := List.mem_flatMap.mp hline
    exact notMem_of_mem_splitOn htext
  · obtain ⟨text, texts, rfl⟩ := List.exists_cons_of_ne_nil hne
    simp [List.splitOn_ne_nil]

end joining

section beginnings

variable {α : Type*} {a : α} {l l' r r' : List α}

/-- Two texts fall into the same two parts if no part of the first ones opens the second ones. -/
theorem append_inj_of_opens (Opens : List α → Prop)
    (hl : ∀ c, c ≠ [] → c <:+ l → ¬Opens (c ++ r)) (hl' : ∀ c, c ≠ [] → c <:+ l' → ¬Opens (c ++ r')) (hr : Opens r) (hr' : Opens r')
    (h : l ++ r = l' ++ r') : l = l' ∧ r = r' := by
  rcases List.append_eq_append_iff.mp h with ⟨c, rfl, rfl⟩ | ⟨c, rfl, rfl⟩
  · by_cases hc : c = []
    · simp [hc]
    · exact absurd hr (hl' c hc (List.suffix_append _ _))
  · by_cases hc : c = []
    · simp [hc]
    · exact absurd hr' (hl c hc (List.suffix_append _ _))

theorem append_cons_inj (hl : a ∉ l) (hl' : a ∉ l') (h : l ++ a :: r = l' ++ a :: r') :
    l = l' ∧ r = r' := by
  have hfree : ∀ {l : List α} (r : List α), a ∉ l → ∀ c, c ≠ [] → c <:+ l →
      (c ++ a :: r).head? ≠ some a := by
    intro l r hl c hc hsuffix hhead
    obtain ⟨b, c, rfl⟩ := List.exists_cons_of_ne_nil hc
    obtain rfl := Option.some.inj hhead
    exact hl (hsuffix.subset List.mem_cons_self)
  obtain ⟨hsame, hrest⟩ :=
    append_inj_of_opens (·.head? = some a) (hfree r hl) (hfree r' hl') rfl rfl h
  exact ⟨hsame, (List.cons.inj hrest).2⟩

end beginnings

namespace JsText

variable {c : Char} {text : List Char} {lines : List (List Char)}

theorem trim_cons_of_space (hc : isSpace c = true) (text : List Char) :
    trim (c :: text) = trim text := by
  rw [trim, List.dropWhile_cons_of_pos hc, trim]

theorem trim_concat_of_space (hc : isSpace c = true) (text : List Char) :
    trim (text ++ [c]) = trim text := by
  unfold trim
  rw [List.dropWhile_append]
  split_ifs with hempty
  · rw [List.isEmpty_iff.mp hempty, List.dropWhile_cons_of_pos hc, List.dropWhile_nil]
  · rw [List.reverse_concat, List.dropWhile_cons_of_pos hc]

/-- The lines that are not blank, without the white space around them. -/
def inked (lines : List (List Char)) : List (List Char) := (lines.map trim).filter (· ≠ [])

theorem inked_append (lines more : List (List Char)) :
    inked (lines ++ more) = inked lines ++ inked more := by
  simp [inked]

theorem inked_flatMap {A : Type*} (l : List A) (f : A → List (List Char)) :
    inked (l.flatMap f) = l.flatMap fun a => inked (f a) := by
  induction l with
  | nil => rfl
  | cons a l ih => rw [List.flatMap_cons, List.flatMap_cons, inked_append, ih]

theorem inked_cons (line : List Char) (lines : List (List Char)) :
    inked (line :: lines) = inked [line] ++ inked lines := inked_append [line] lines

theorem inked_singleton_congr {line line' : List Char} (h : trim line = trim line') :
    inked [line] = inked [line'] := by
  rw [inked, inked, List.map_singleton, List.map_singleton, h]

/-- The lines of a text that are not blank. -/
def inkedLines (text : List Char) : List (List Char) := inked (text.splitOn '\n')

theorem inkedLines_cons_of_space (hc : isSpace c = true) (text : List Char) :
    inkedLines (c :: text) = inkedLines text := by
  unfold inkedLines
  rw [List.splitOn_cons_eq_if_modifyHead]
  split_ifs
  · rfl
  · cases hsplit : text.splitOn '\n' with
    | nil => exact absurd hsplit (List.splitOn_ne_nil _ _)
    | cons line lines =>
      rw [List.modifyHead_cons, inked_cons, inked_cons line,
        inked_singleton_congr (trim_cons_of_space hc line)]

theorem inkedLines_concat_of_space (hc : isSpace c = true) (text : List Char) :
    inkedLines (text ++ [c]) = inkedLines text := by
  unfold inkedLines
  by_cases hline : c = '\n'
  · have hsplit : (text ++ [c]).splitOn '\n' = text.splitOn '\n' ++ [[]] := by
      rw [hline, List.splitOn_append_cons_self, List.splitOn_nil]
    rw [hsplit, inked_append]
    exact List.append_nil _
  · obtain ⟨lines, last, htext, hconcat⟩ := exists_splitOn_concat hline text
    rw [htext, hconcat, inked_append, inked_append,
      inked_singleton_congr (trim_concat_of_space hc last)]

theorem inkedLines_trim (text : List Char) : inkedLines (trim text) = inkedLines text := by
  have hfront : ∀ text : List Char, inkedLines (text.dropWhile isSpace) = inkedLines text := by
    intro text
    induction text with
    | nil => rfl
    | cons c text ih =>
      rw [List.dropWhile_cons]
      split_ifs with hc
      · rw [ih, inkedLines_cons_of_space hc]
      · rfl
  have hback : ∀ text : List Char, inkedLines (text.rdropWhile isSpace) = inkedLines text := by
    intro text
    induction text using List.reverseRecOn with
    | nil => rfl
    | append_singleton text c ih =>
      rw [List.rdropWhile_concat]
      split_ifs with hc
      · rw [ih, inkedLines_concat_of_space hc]
      · rfl
  exact (hback _).trans (hfront text)

end JsText

end ShipyardCp.Lib

/-! Texts as `length` and `slice` take them, by their code units: white space folded, and lines joined
and cut off at a length. -/

namespace ShipyardCp.Lib.JsText

/-- A text as its code units. -/
abbrev CodeUnits := List Nat

def units (text : String) : CodeUnits := charCodes text.toList

section folding

variable {α : Type*} {blank : α → Bool} {space : α} {after : Bool} {text : List α}

/-- Folds each run of blanks to one space; `after` says that a blank came before. -/
def foldRuns (blank : α → Bool) (space : α) : Bool → List α → List α
  | _, [] => []
  | after, c :: text =>
    if blank c then
      if after then foldRuns blank space true text else space :: foldRuns blank space true text
    else c :: foldRuns blank space false text

theorem mem_foldRuns {c : α} (hc : c ∈ foldRuns blank space after text) :
    c = space ∨ blank c = false := by
  induction text generalizing after with
  | nil => cases hc
  | cons d text ih =>
    unfold foldRuns at hc
    split_ifs at hc with hblank hafter
    · exact ih hc
    · rcases List.mem_cons.mp hc with rfl | hc
      · exact Or.inl rfl
      · exact ih hc
    · rcases List.mem_cons.mp hc with rfl | hc
      · exact Or.inr (by simpa using hblank)
      · exact ih hc

theorem length_foldRuns_le (text : List α) (after : Bool) :
    (foldRuns blank space after text).length ≤ text.length := by
  induction text generalizing after with
  | nil => exact Nat.le_refl _
  | cons c text ih =>
    have hblank := ih true
    have hother := ih false
    unfold foldRuns
    split_ifs
    · exact hblank.trans (Nat.le_succ _)
    · exact Nat.succ_le_succ hblank
    · exact Nat.succ_le_succ hother

end folding

/-- `text.replace(/\s+/g, ' ')` -/
def foldSpaces (text : List Char) : List Char := foldRuns isSpace ' ' false text

/-- White space among the code units. -/
def isSpaceUnit (u : Nat) : Bool :=
  u ∈ [0x09, 0x0A, 0x0B, 0x0C, 0x0D, 0x20, 0xA0, 0x1680, 0x2028, 0x2029, 0x202F, 0x205F, 0x3000,
    0xFEFF] || (0x2000 ≤ u && u ≤ 0x200A)

def trimUnits (text : CodeUnits) : CodeUnits :=
  ((text.dropWhile isSpaceUnit).reverse.dropWhile isSpaceUnit).reverse

/-- `text.replace(/\s+/g, ' ').trim()` -/
def foldedUnits (text : CodeUnits) : CodeUnits := trimUnits (foldRuns isSpaceUnit 0x20 false text)

theorem length_trimUnits_le (text : CodeUnits) : (trimUnits text).length ≤ text.length := by
  unfold trimUnits
  rw [List.length_reverse]
  refine (List.dropWhile_suffix _).length_le.trans ?_
  rw [List.length_reverse]
  exact (List.dropWhile_suffix _).length_le

theorem length_foldedUnits_le (text : CodeUnits) : (foldedUnits text).length ≤ text.length :=
  (length_trimUnits_le _).trans (length_foldRuns_le _ _)

/-- The code unit of a line feed. -/
def lineFeed : Nat := 10

theorem mem_codeUnits_iff {c d : Char} (hd : d.toNat < 0xD800) : d.toNat ∈ codeUnits c ↔ c = d := by
  unfold codeUnits
  split_ifs with hplane
  · rw [List.mem_singleton, Char.toNat_inj, eq_comm]
  · simp only [List.mem_cons, List.not_mem_nil, or_false]
    constructor
    · omega
    · rintro rfl
      omega

theorem mem_charCodes_iff {d : Char} (hd : d.toNat < 0xD800) (text : List Char) :
    d.toNat ∈ charCodes text ↔ d ∈ text := by
  simp [charCodes, List.mem_flatMap, mem_codeUnits_iff hd]

theorem lineFeed_mem_charCodes {text : List Char} (h : lineFeed ∈ charCodes text) : '\n' ∈ text :=
  (mem_charCodes_iff (by decide) text).mp h

theorem lineFeed_notMem_foldSpaces (text : List Char) : '\n' ∉ foldSpaces text := by
  intro h
  rcases mem_foldRuns h with heq | hspace
  · exact absurd heq (by decide)
  · exact absurd hspace (by decide)

section lines

variable {lines more : List CodeUnits}

/-- `lines.join('\n')` -/
def joinLines (lines : List CodeUnits) : CodeUnits := [lineFeed].intercalate lines

/-- `text.split('\n')` -/
def splitLines (text : CodeUnits) : List CodeUnits := text.splitOn lineFeed

theorem splitLines_joinLines (hlines : ∀ line ∈ lines, lineFeed ∉ line) (hne : lines ≠ []) :
    splitLines (joinLines lines) = lines :=
  List.splitOn_intercalate lineFeed hlines hne

theorem joinLines_cons_ne_nil {line : CodeUnits} (hline : line ≠ []) :
    joinLines (line :: lines) ≠ [] := by
  unfold joinLines
  rcases eq_or_ne lines [] with rfl | hlines
  · rwa [List.intercalate_singleton]
  · rw [List.intercalate_cons_of_ne_nil hlines]
    simp

theorem joinLines_append (hne : lines ≠ []) (hmore : more ≠ []) :
    joinLines (lines ++ more) = joinLines lines ++ lineFeed :: joinLines more := by
  rw [joinLines, intercalate_append hne hmore, List.append_assoc, List.singleton_append]
  rfl

/-- A text cut off before more lines are added to it is cut off again where it would have been. -/
theorem take_joinLines_take (n : Nat) (hne : lines ≠ []) (more : List CodeUnits) :
    (joinLines ((joinLines lines).take n :: more)).take n = (joinLines (lines ++ more)).take n := by
  rcases eq_or_ne more [] with rfl | hmore
  · unfold joinLines
    rw [List.intercalate_singleton, List.append_nil, List.take_take, Nat.min_self]
  · rw [joinLines_append hne hmore]
    unfold joinLines
    rw [List.intercalate_cons_of_ne_nil hmore, List.append_assoc, List.singleton_append,
      List.take_append, List.take_append, List.take_take, Nat.min_self, List.length_take]
    rcases Nat.le_total n ([lineFeed].intercalate lines).length with hlong | hshort
    · rw [Nat.min_eq_left hlong, Nat.sub_self, Nat.sub_eq_zero_of_le hlong]
    · rw [Nat.min_eq_right hshort]

/-- Every line takes its length in the text, and all but one a line feed. -/
theorem length_joinLines (hne : lines ≠ []) :
    (joinLines lines).length + 1 = (lines.map fun line => line.length + 1).sum := by
  induction lines with
  | nil => exact absurd rfl hne
  | cons line lines ih =>
    unfold joinLines at ih ⊢
    rcases eq_or_ne lines [] with rfl | hlines
    · simp
    · have hrest := ih hlines
      rw [List.intercalate_cons_of_ne_nil hlines, List.map_cons, List.sum_cons, ← hrest]
      simp only [List.length_append, List.length_singleton]
      omega

end lines

end ShipyardCp.Lib.JsText

/-! UTF-8 as it is read leniently: bytes that form no character read as the replacement character, one
for each longest beginning of a character; and the end of a text of code units. -/

namespace ShipyardCp.Lib.Utf8

open JsText (CodeUnits codeUnits)

/-- A character begun: how many bytes are missing, its code point so far and the bounds of the next
byte. None are missing between characters. -/
structure Decoder where
  needed : Nat
  point : Nat
  lower : Nat
  upper : Nat

def Decoder.idle : Decoder := ⟨0, 0, 0x80, 0xBF⟩

def replacement : Nat := 0xFFFD

/-- A byte between characters. -/
def lead (b : Nat) : Decoder × CodeUnits :=
  if b < 0x80 then (.idle, [b])
  else if b < 0xC2 then (.idle, [replacement])
  else if b < 0xE0 then (⟨1, b - 0xC0, 0x80, 0xBF⟩, [])
  else if b < 0xF0 then
    (⟨2, b - 0xE0, if b = 0xE0 then 0xA0 else 0x80, if b = 0xED then 0x9F else 0xBF⟩, [])
  else if b < 0xF5 then
    (⟨3, b - 0xF0, if b = 0xF0 then 0x90 else 0x80, if b = 0xF4 then 0x8F else 0xBF⟩, [])
  else (.idle, [replacement])

/-- The byte goes on with the character begun. -/
def Decoder.takes (d : Decoder) (b : Nat) : Bool := d.needed ≠ 0 && d.lower ≤ b && b ≤ d.upper

/-- What a character begun reads as when it does not go on. -/
def Decoder.finish (d : Decoder) : CodeUnits := if d.needed = 0 then [] else [replacement]

def Decoder.feed (d : Decoder) (b : Nat) : Decoder × CodeUnits :=
  if d.takes b then
    let point := d.point * 0x40 + (b - 0x80)
    if d.needed = 1 then (.idle, codeUnits (Char.ofNat point))
    else (⟨d.needed - 1, point, 0x80, 0xBF⟩, [])
  else ((lead b).1, d.finish ++ (lead b).2)

def Decoder.run (d : Decoder) : List UInt8 → Decoder × CodeUnits
  | [] => (d, [])
  | b :: bytes =>
    let next := (d.feed b.toNat).1.run bytes
    (next.1, (d.feed b.toNat).2 ++ next.2)

def decode (bytes : List UInt8) : CodeUnits :=
  (Decoder.idle.run bytes).2 ++ (Decoder.idle.run bytes).1.finish

/-- Bytes that do not go on with the character begun are read as on their own, after it. -/
theorem Decoder.run_of_not_takes {d : Decoder} {b : UInt8} (hb : d.takes b.toNat = false)
    (bytes : List UInt8) :
    d.run (b :: bytes) = ((idle.run (b :: bytes)).1, d.finish ++ (idle.run (b :: bytes)).2) := by
  have hidle : idle.takes b.toNat = false := rfl
  have hfeed : d.feed b.toNat = ((lead b.toNat).1, d.finish ++ (lead b.toNat).2) :=
    if_neg (by rw [hb]; decide)
  have hlead : idle.feed b.toNat = lead b.toNat := if_neg (by rw [hidle]; decide)
  rw [run, run, hfeed, hlead, List.append_assoc]

end ShipyardCp.Lib.Utf8

namespace ShipyardCp.Lib

variable {α : Type*}

/-- The last elements of a list, `n` at most. -/
def lastOf (n : Nat) (text : List α) : List α := text.drop (text.length - n)

theorem lastOf_append (n : Nat) (text more : List α) :
    lastOf n (lastOf n text ++ more) = lastOf n (text ++ more) := by
  unfold lastOf
  rw [List.drop_append, List.drop_append, List.drop_drop]
  simp only [List.length_append, List.length_drop]
  congr 2 <;> omega

end ShipyardCp.Lib
