import Mathlib.Data.List.Infix
import ShipyardCp.Lib.InsertionMap

/-! Glob patterns over bytes, as the `KEYS` command takes them. -/

namespace ShipyardCp.Lib.Glob

inductive Token where
  | lit (b : UInt8)
  | one
  | many
  | oneOf (negated : Bool) (ranges : List (UInt8 × UInt8))

/-- The UTF-8 bytes of a text. -/
def bytes (text : String) : List UInt8 := text.toList.flatMap String.utf8EncodeChar

theorem bytes_append (s t : String) : bytes (s ++ t) = bytes s ++ bytes t := by
  simp [bytes]

/-- The ranges of a class up to its closing bracket, and what follows. A class that is not closed ends
with the pattern. -/
def ranges : Nat → List UInt8 → List (UInt8 × UInt8) × List UInt8
  | 0, pattern => ([], pattern)
  | fuel + 1, pattern =>
    match pattern with
    | [] => ([], [])
    | b :: rest =>
      if b = 0x5C then
        match rest with
        | c :: rest => let (rs, after) := ranges fuel rest; ((c, c) :: rs, after)
        | [] => ([(b, b)], [])
      else if b = 0x5D then ([], rest)
      else match rest with
        | 0x2D :: c :: rest =>
          let (rs, after) := ranges fuel rest
          ((min b c, max b c) :: rs, after)
        | rest => let (rs, after) := ranges fuel rest; ((b, b) :: rs, after)

/-- `*`, `?`, classes in brackets, and the bytes that stand for themselves, if need be after a
backslash. -/
def tokens : Nat → List UInt8 → List Token
  | 0, _ => []
  | fuel + 1, pattern =>
    match pattern with
    | [] => []
    | b :: rest =>
      if b = 0x2A then .many :: tokens fuel rest
      else if b = 0x3F then .one :: tokens fuel rest
      else if b = 0x5B then
        let (negated, rest) := match rest with
          | 0x5E :: rest => (true, rest)
          | rest => (false, rest)
        let (rs, after) := ranges rest.length rest
        .oneOf negated rs :: tokens fuel after
      else if b = 0x5C then
        match rest with
        | c :: rest => .lit c :: tokens fuel rest
        | [] => [.lit b]
      else .lit b :: tokens fuel rest

def Token.accepts : Token → UInt8 → Bool
  | .lit c, b => c = b
  | .oneOf negated rs, b => (rs.any fun r => r.1 ≤ b && b ≤ r.2) != negated
  | _, _ => true

/-- Whether the tokens match all of the text. -/
def matchTokens : List Token → List UInt8 → Bool
  | [], text => text.isEmpty
  | .many :: ts, text => (text.tails).any (matchTokens ts)
  | t :: ts, text => match text with
    | [] => false
    | b :: text => t.accepts b && matchTokens ts text

/-- Whether a key matches a pattern. -/
def matchesKey (pattern key : String) : Bool :=
  matchTokens (tokens (bytes pattern).length (bytes pattern)) (bytes key)

theorem matchTokens_many (text : List UInt8) : matchTokens [.many] text = true := by
  simp only [matchTokens, List.any_eq_true]
  exact ⟨[], by simp, rfl⟩

/-- A byte without a meaning of its own in a pattern. -/
def Plain (b : UInt8) : Prop := b ≠ 0x2A ∧ b ≠ 0x3F ∧ b ≠ 0x5B ∧ b ≠ 0x5C

instance (b : UInt8) : Decidable (Plain b) := inferInstanceAs (Decidable (_ ∧ _))

theorem tokens_literal {bs : List UInt8} (hplain : ∀ b ∈ bs, Plain b) (pattern : List UInt8) :
    tokens (bs ++ pattern).length (bs ++ pattern) = bs.map .lit ++ tokens pattern.length pattern := by
  induction bs with
  | nil => rfl
  | cons b bs ih =>
    obtain ⟨⟨hstar, hmark, hopen, hslash⟩, hrest⟩ := List.forall_mem_cons.mp hplain
    simp only [List.cons_append, List.length_cons, tokens, if_neg hstar, if_neg hmark, if_neg hopen,
      if_neg hslash, ih hrest, List.map_cons]

theorem matchTokens_literal {bs text : List UInt8} {ts : List Token} :
    matchTokens (bs.map .lit ++ ts) text = true ↔
      ∃ rest, text = bs ++ rest ∧ matchTokens ts rest = true := by
  induction bs generalizing text with
  | nil => simp
  | cons b bs ih =>
    cases text with
    | nil => simp [matchTokens]
    | cons c text =>
      simp only [List.map_cons, List.cons_append, matchTokens, Token.accepts, Bool.and_eq_true,
        decide_eq_true_eq, ih, List.cons.injEq]
      constructor
      · rintro ⟨hb, rest, htext, hrest⟩
        exact ⟨rest, ⟨hb.symm, htext⟩, hrest⟩
      · rintro ⟨rest, ⟨hc, htext⟩, hrest⟩
        exact ⟨hc.symm, rest, htext, hrest⟩

theorem matchesKey_append {s : String} (hplain : ∀ b ∈ bytes s, Plain b) (pattern key : String) :
    matchesKey (s ++ pattern) key = true ↔ ∃ rest, bytes key = bytes s ++ rest ∧
      matchTokens (tokens (bytes pattern).length (bytes pattern)) rest = true := by
  rw [matchesKey, bytes_append, tokens_literal hplain, matchTokens_literal]

end ShipyardCp.Lib.Glob

/-! A server's keys: values under texts, listed by glob patterns in an order of the server's own. -/

namespace ShipyardCp.Lib

/-- The order in which a server answers keys. -/
structure KeyOrder where
  arrange : List String → List String
  perm : ∀ keys, (arrange keys).Perm keys

namespace KeyOrder

def stored : KeyOrder := ⟨id, fun _ => .refl _⟩

def reversed : KeyOrder := ⟨List.reverse, List.reverse_perm⟩

end KeyOrder

namespace Keyspace

variable {V : Type*}

/-- `KEYS pattern`. -/
def scan (order : KeyOrder) (m : InsertionMap String V) (pattern : String) : List String :=
  order.arrange (m.keys.filter (Glob.matchesKey pattern))

variable {order : KeyOrder} {m : InsertionMap String V} {pattern key : String}

theorem mem_scan : key ∈ scan order m pattern ↔
    Glob.matchesKey pattern key = true ∧ ∃ v, m.get? key = some v := by
  rw [scan, (order.perm _).mem_iff, List.mem_filter, m.mem_keys_iff, and_comm]

theorem nodup_scan : (scan order m pattern).Nodup :=
  (order.perm _).nodup_iff.mpr (m.nodupKeys.filter _)

/-- Keys that stand for the ids of a map's values with a property read just these values. -/
theorem filterMap_read_perm {A κ : Type*} [DecidableEq κ] (t : InsertionMap κ A) {p : A → Bool}
    {name : κ → String} (hname : Function.Injective name) {read : String → Option A}
    (hread : ∀ id, read (name id) = t.get? id) {ks : List String} (hnodup : ks.Nodup)
    (hmem : ∀ k, k ∈ ks ↔ ∃ id a, name id = k ∧ t.get? id = some a ∧ p a = true) :
    (ks.filterMap read).Perm (t.values.filter p) := by
  let ids := (t.entries.filter fun e => p e.2).map Prod.fst
  have hids : ids.Nodup := t.nodupKeys.sublist (List.filter_sublist.map Prod.fst)
  have hin : ∀ id, id ∈ ids ↔ ∃ a, t.get? id = some a ∧ p a = true := by
    intro id
    simp [ids, InsertionMap.mem_entries_iff, and_comm]
  have hkeys : ks.Perm (ids.map name) := by
    refine (List.perm_ext_iff_of_nodup hnodup (hids.map hname)).mpr fun k => ?_
    rw [hmem, List.mem_map]
    constructor
    · rintro ⟨id, a, hid, hget, hp⟩
      exact ⟨id, (hin id).mpr ⟨a, hget, hp⟩, hid⟩
    · rintro ⟨id, hid, hk⟩
      obtain ⟨a, hget, hp⟩ := (hin id).mp hid
      exact ⟨id, a, hk, hget, hp⟩
  have hfetch : (ids.map name).filterMap read = ids.filterMap t.get? := by
    rw [List.filterMap_map]
    exact List.filterMap_congr fun id _ => hread id
  exact (hkeys.filterMap read).trans (hfetch ▸ t.filterMap_get?_perm hids hin)

theorem nodup_values {κ A : Type*} [DecidableEq κ] {t : InsertionMap κ A} {key : A → κ}
    (hkey : ∀ k a, t.get? k = some a → key a = k) : t.values.Nodup := by
  have hkeys : t.values.map key = t.keys := by
    rw [InsertionMap.values, InsertionMap.keys, List.map_map]
    exact List.map_congr_left fun e he => hkey e.1 e.2 (t.mem_entries_iff.mp he)
  exact List.Nodup.of_map key (hkeys ▸ t.nodupKeys)

/-- Two selections of a list agree up to order exactly when they select the same. -/
theorem filter_perm_filter_iff {A : Type*} {xs : List A} {p q : A → Bool} :
    (xs.filter p).Perm (xs.filter q) ↔ ∀ x ∈ xs, p x = q x := by
  constructor
  · intro hperm x hx
    have hmem := hperm.mem_iff (a := x)
    simp only [List.mem_filter, hx, true_and] at hmem
    exact Bool.eq_iff_iff.mpr hmem
  · intro hsame
    rw [List.filter_congr hsame]

end Keyspace

end ShipyardCp.Lib
