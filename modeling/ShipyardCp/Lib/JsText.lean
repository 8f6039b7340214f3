import Mathlib.Algebra.Order.Ring.Int
import Mathlib.Data.List.Infix

/-! JavaScript string operations on lists of characters: UTF-16 code units, white space, lower case,
substring search and a matcher for patterns of words and white space. -/

namespace ShipyardCp.Lib.JsText

-- Walks the text; the library decides a statement over characters by trying every character.
instance decidableChars (P : Char → Prop) [DecidablePred P] (text : List Char) :
    Decidable (∀ c ∈ text, P c) :=
  text.decidableBAll P

/-- The UTF-16 code units of one character. -/
def codeUnits (c : Char) : List Nat :=
  if c.toNat < 0x10000 then [c.toNat]
  else [0xD800 + (c.toNat - 0x10000) / 0x400, 0xDC00 + (c.toNat - 0x10000) % 0x400]

/-- The code units `charCodeAt` reads, in order. -/
def charCodes (text : List Char) : List Nat := text.flatMap codeUnits

private theorem not_surrogate (c : Char) : c.toNat < 0xD800 ∨ 0xDFFF < c.toNat := by
  rcases c.valid with h | ⟨h, _⟩
  · exact Or.inl h
  · exact Or.inr h

private theorem codeUnits_append_inj {c d : Char} {xs ys : List Nat}
    (h : codeUnits c ++ xs = codeUnits d ++ ys) : c = d ∧ xs = ys := by
  have hc := not_surrogate c
  have hd := not_surrogate d
  have hcMax : c.toNat < 0x110000 := by
    rcases c.valid with h | ⟨_, h⟩
    · exact lt_trans h (by decide)
    · exact h
  have hdMax : d.toNat < 0x110000 := by
    rcases d.valid with h | ⟨_, h⟩
    · exact lt_trans h (by decide)
    · exact h
  unfold codeUnits at h
  split_ifs at h with h₁ h₂ h₂ <;> simp only [List.cons_append, List.nil_append, List.cons.injEq] at h
  · exact ⟨Char.toNat_inj.mp h.1, h.2⟩
  · omega
  · omega
  · refine ⟨Char.toNat_inj.mp ?_, h.2.2⟩
    omega

private theorem codeUnits_ne_nil (c : Char) : codeUnits c ≠ [] := by
  unfold codeUnits
  split_ifs <;> simp

theorem charCodes_injective : Function.Injective charCodes := by
  intro s
  induction s with
  | nil =>
    intro t h
    cases t with
    | nil => rfl
    | cons d t => simp [charCodes, codeUnits_ne_nil] at h
  | cons c s ih =>
    intro t h
    cases t with
    | nil => simp [charCodes, codeUnits_ne_nil] at h
    | cons d t =>
      simp only [charCodes, List.flatMap_cons] at h
      obtain ⟨rfl, hrest⟩ := codeUnits_append_inj h
      rw [ih hrest]

/-- White space and line terminators, as `\s` and `trim` take them. -/
def isSpace (c : Char) : Bool :=
  c.toNat ∈ [0x09, 0x0A, 0x0B, 0x0C, 0x0D, 0x20, 0xA0, 0x1680, 0x2028, 0x2029, 0x202F, 0x205F,
    0x3000, 0xFEFF] || (0x2000 ≤ c.toNat && c.toNat ≤ 0x200A)

def isLineTerminator (c : Char) : Bool := c.toNat ∈ [0x0A, 0x0D, 0x2028, 0x2029]

def trim (text : List Char) : List Char :=
  ((text.dropWhile isSpace).reverse.dropWhile isSpace).reverse

theorem trim_isInfix (text : List Char) : trim text <:+: text := by
  have hback : ((text.dropWhile isSpace).reverse.dropWhile isSpace).reverse <+:
      text.dropWhile isSpace := by
    rw [← List.reverse_suffix, List.reverse_reverse]
    exact List.dropWhile_suffix _
  exact hback.isInfix.trans (List.dropWhile_suffix _).isInfix

/-- Word characters of `\b`. -/
def isWord (c : Char) : Bool := c.isAlphanum || c = '_'

/-- Lower case where it can produce an ASCII letter: the ASCII letters, the Kelvin sign and the
capital I with dot. Other characters have no ASCII lower case and are left alone. -/
def toLowerCase (text : List Char) : List Char := text.flatMap fun c =>
    if c.toNat = 0x212A then ['k'] else if c.toNat = 0x130 then ['i', Char.ofNat 0x307]
    else [c.toLower]

/-- `text.includes(pattern)`. -/
def includes : List Char → List Char → Bool
  | [], pattern => pattern.isEmpty
  | c :: text, pattern => pattern.isPrefixOf (c :: text) || includes text pattern

/-- Elements of a pattern: a word boundary, a letter or sign matched without regard to case, and
one-or-more or any number of white-space characters. -/
inductive Atom where
  | boundary
  | sign (c : Char)
  | spaces
  | optionalSpaces

/-- Match a pattern at one place of a text, `prev` being the character before it. White space is
taken greedily, which is exact for patterns whose next element is not white space. -/
def matchHere : List Atom → Option Char → List Char → Bool
  | [], _, _ => true
  | .boundary :: atoms, prev, text =>
    (prev.any isWord != text.head?.any isWord) && matchHere atoms prev text
  | .sign _ :: _, _, [] => false
  | .sign p :: atoms, _, c :: text => (p.toLower = c.toLower) && matchHere atoms (some c) text
  | .spaces :: atoms, _, text =>
    text.head?.any isSpace && matchHere atoms (some ' ') (text.dropWhile isSpace)
  | .optionalSpaces :: atoms, prev, text =>
    matchHere atoms (if text.head?.any isSpace then some ' ' else prev) (text.dropWhile isSpace)

/-- `pattern.test(text)`: the pattern matches at some place. -/
def test (pattern : List Atom) (prev : Option Char) : List Char → Bool
  | [] => matchHere pattern prev []
  | c :: text => matchHere pattern prev (c :: text) || test pattern (some c) text

def word (w : String) : List Atom := w.toList.map .sign

end ShipyardCp.Lib.JsText

/-! Patterns of JavaScript that regard case, made of word boundaries, letters and white space; and the
plain patterns that do not regard it. -/

namespace ShipyardCp.Lib.JsPattern

open JsText

inductive Element where
  | boundary
  | letter (c : Char)
  | spaces

/-- Matches at one place of a text, with the character before it. White space is taken greedily, which
is exact where a letter or a boundary follows that is no white space. -/
def matchHere : List Element → Option Char → List Char → Bool
  | [], _, _ => true
  | .boundary :: elements, prev, text =>
    (prev.any isWord != text.head?.any isWord) && matchHere elements prev text
  | .letter _ :: _, _, [] => false
  | .letter p :: elements, _, c :: text => p = c && matchHere elements (some c) text
  | .spaces :: elements, _, text =>
    text.head?.any isSpace && matchHere elements (some ' ') (text.dropWhile isSpace)

/-- `pattern.test(text)` -/
def test (pattern : List Element) (prev : Option Char) : List Char → Bool
  | [] => matchHere pattern prev []
  | c :: text => matchHere pattern prev (c :: text) || test pattern (some c) text

/-- The words of a phrase, with white space between them, as whole words. -/
def phrase (words : List String) : List Element :=
  [.boundary] ++ [Element.spaces].intercalate (words.map fun w => w.toList.map .letter) ++ [.boundary]

/-- The text with its ASCII letters in lower case. -/
def folded (text : List Char) : List Char := text.map Char.toLower

/-- `/pattern/i.test(text)`, for a pattern of plain letters in lower case. -/
def occursFolded (text : List Char) (pattern : String) : Bool := includes (folded text) pattern.toList

end ShipyardCp.Lib.JsPattern
