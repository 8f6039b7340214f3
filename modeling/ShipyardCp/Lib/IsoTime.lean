import Mathlib.Data.List.Lex
import Mathlib.Tactic.IntervalCases

/-! Times of the proleptic Gregorian calendar, the milliseconds they stand for, the texts they are written
as, and the order of the texts. -/

namespace ShipyardCp.Lib

/-- The decimal digits of a number, padded to a width. -/
def digits {α : Type*} (digit : Nat → α) : Nat → Nat → List α
  | 0, _ => []
  | width + 1, n => digits digit width (n / 10) ++ [digit (n % 10)]

@[simp] theorem length_digits {α : Type*} (digit : Nat → α) (width n : Nat) :
    (digits digit width n).length = width := by
  induction width generalizing n with
  | zero => rfl
  | succ width ih => rw [digits, List.length_append, ih, List.length_singleton]

@[simp] theorem map_digits {α β : Type*} (f : α → β) (digit : Nat → α) (width n : Nat) :
    (digits digit width n).map f = digits (f ∘ digit) width n := by
  induction width generalizing n with
  | zero => rfl
  | succ width ih => rw [digits, digits, List.map_append, ih, List.map_singleton, Function.comp_apply]

theorem append_lt_append_iff {a b c d : List Nat} (h : a.length = c.length) :
    a ++ b < c ++ d ↔ a < c ∨ a = c ∧ b < d := by
  induction a generalizing c with
  | nil =>
    obtain rfl := List.length_eq_zero_iff.mp h.symm
    simp
  | cons x a ih =>
    cases c with
    | nil => cases h
    | cons y c =>
      have hrest := ih (Nat.succ.inj h)
      simp only [List.cons_append, List.cons_lt_cons_iff, hrest, List.cons.injEq]
      grind

section order

variable {digit : Nat → Nat} (hdigit : ∀ a < 10, ∀ b < 10, (digit a < digit b ↔ a < b))

include hdigit

theorem digits_injective {width n m : Nat} (hn : n < 10 ^ width) (hm : m < 10 ^ width)
    (h : digits digit width n = digits digit width m) : n = m := by
  induction width generalizing n m with
  | zero => omega
  | succ width ih =>
    rw [pow_succ] at hn hm
    obtain ⟨hfront, hlast⟩ := List.append_inj h (by simp)
    have hquotients := ih (by omega) (by omega) hfront
    have hle := hdigit (n % 10) (by omega) (m % 10) (by omega)
    have hge := hdigit (m % 10) (by omega) (n % 10) (by omega)
    have hremainders := (List.cons.inj hlast).1
    omega

theorem digits_lt_iff {width n m : Nat} (hn : n < 10 ^ width) (hm : m < 10 ^ width) :
    digits digit width n < digits digit width m ↔ n < m := by
  induction width generalizing n m with
  | zero =>
    have hzero : ¬ n < m := by omega
    simp [digits, hzero]
  | succ width ih =>
    rw [pow_succ] at hn hm
    have hquotients : digits digit width (n / 10) = digits digit width (m / 10) ↔ n / 10 = m / 10 :=
      ⟨digits_injective hdigit (by omega) (by omega), fun h => by rw [h]⟩
    rw [digits, digits, append_lt_append_iff (by simp), ih (by omega) (by omega), hquotients,
      List.cons_lt_cons_iff, hdigit _ (by omega) _ (by omega)]
    simp only [List.not_lt_nil, and_false, or_false]
    omega

end order

/-- The fields of a time. -/
structure CivilTime where
  year : ℤ
  month : Nat
  day : Nat
  hour : Nat
  minute : Nat
  second : Nat
  ms : Nat

namespace CivilTime

def isLeap (year : ℤ) : Bool := year % 4 = 0 ∧ (year % 100 ≠ 0 ∨ year % 400 = 0)

/-- The days from the epoch to the first of January. -/
def dayFromYear (year : ℤ) : ℤ :=
  365 * (year - 1970) + (year - 1969) / 4 - (year - 1901) / 100 + (year - 1601) / 400

/-- The days of a year before one of its months. -/
def daysBefore (leap : Bool) : Nat → Nat
  | 0 | 1 => 0
  | 2 => 31
  | month => leap.toNat + [59, 90, 120, 151, 181, 212, 243, 273, 304, 334, 365].getD (month - 3) 365

/-- The days of a year before a day of it. -/
def dayInYear (t : CivilTime) : Nat := daysBefore (isLeap t.year) t.month + t.day

def getTime (t : CivilTime) : ℤ :=
  ((((dayFromYear t.year + t.dayInYear - 1) * 24 + t.hour) * 60 + t.minute) * 60 + t.second) * 1000 +
    t.ms

/-- The fields within their bounds, and 8,640,000,000,000,000 ms to each side of the epoch. -/
structure Valid (t : CivilTime) : Prop where
  month : 1 ≤ t.month ∧ t.month ≤ 12
  day : 1 ≤ t.day ∧ t.dayInYear ≤ daysBefore (isLeap t.year) (t.month + 1)
  hour : t.hour < 24
  minute : t.minute < 60
  second : t.second < 60
  ms : t.ms < 1000
  range : -8640000000000000 ≤ t.getTime ∧ t.getTime ≤ 8640000000000000

theorem daysBefore_succ_le (leap : Bool) {m n : Nat} (hlt : m < n) (hn : n ≤ 13) :
    daysBefore leap (m + 1) ≤ daysBefore leap n := by
  have htable : ∀ leap, ∀ n < 14, ∀ m < n, daysBefore leap (m + 1) ≤ daysBefore leap n := by decide
  exact htable leap n (by omega) m hlt

theorem Valid.dayInYear_le {t : CivilTime} (h : t.Valid) :
    1 ≤ t.dayInYear ∧ t.dayInYear ≤ 365 + (isLeap t.year).toNat := by
  have hday := h.day
  have hend := daysBefore_succ_le (isLeap t.year) (m := t.month) (n := 13) (by have := h.month; omega) le_rfl
  have hlast : ∀ leap, daysBefore leap 13 = 365 + leap.toNat := by decide
  rw [hlast] at hend
  have hstart : t.dayInYear = daysBefore (isLeap t.year) t.month + t.day := rfl
  omega

theorem Valid.day_lt {t : CivilTime} (h : t.Valid) : t.day < 10 ^ 2 := by
  have htable : ∀ leap, ∀ n < 13, daysBefore leap (n + 1) ≤ daysBefore leap n + 31 := by decide
  have hmonth := htable (isLeap t.year) t.month (by have := h.month; omega)
  have hday := h.day
  have hstart : t.dayInYear = daysBefore (isLeap t.year) t.month + t.day := rfl
  omega

theorem dayFromYear_succ (year : ℤ) :
    dayFromYear (year + 1) = dayFromYear year + 365 + (isLeap year).toNat := by
  unfold dayFromYear isLeap
  by_cases hleap : year % 4 = 0 ∧ (year % 100 ≠ 0 ∨ year % 400 = 0)
  · rw [decide_eq_true hleap, Bool.toNat_true]
    omega
  · rw [decide_eq_false hleap, Bool.toNat_false]
    omega

theorem dayFromYear_mono {a b : ℤ} (h : a ≤ b) : dayFromYear a ≤ dayFromYear b := by
  unfold dayFromYear
  omega

theorem getTime_lt_of_year_lt {a b : CivilTime} (ha : a.Valid) (hb : b.Valid) (h : a.year < b.year) :
    a.getTime < b.getTime := by
  have hyears := dayFromYear_mono (Int.add_one_le_iff.mpr h)
  rw [dayFromYear_succ] at hyears
  have hafter := ha.dayInYear_le
  have hbefore := hb.dayInYear_le
  have hday : dayFromYear a.year + a.dayInYear < dayFromYear b.year + b.dayInYear := by omega
  have hhour := ha.hour
  have hminute := ha.minute
  have hsecond := ha.second
  have hms := ha.ms
  unfold getTime
  omega

/-- The fields after the year, from the longest on. -/
def fieldsInYear (t : CivilTime) : List Nat := [t.month, t.day, t.hour, t.minute, t.second, t.ms]

theorem dayInYear_lt_iff {a b : CivilTime} (ha : a.Valid) (hb : b.Valid) (h : a.year = b.year) :
    a.dayInYear < b.dayInYear ↔ a.month < b.month ∨ a.month = b.month ∧ a.day < b.day := by
  have hstart : ∀ t : CivilTime, t.dayInYear = daysBefore (isLeap t.year) t.month + t.day := fun _ => rfl
  have hdaya := ha.day
  have hdayb := hb.day
  have hmontha := ha.month
  have hmonthb := hb.month
  have hspana := hstart a
  have hspanb := hstart b
  rw [h] at hspana hdaya
  rcases lt_trichotomy a.month b.month with hlt | heq | hgt
  · have hmonths := daysBefore_succ_le (isLeap b.year) hlt (by omega)
    omega
  · rw [heq] at hspana
    omega
  · have hmonths := daysBefore_succ_le (isLeap b.year) hgt (by omega)
    omega

theorem getTime_lt_iff_of_year_eq {a b : CivilTime} (ha : a.Valid) (hb : b.Valid) (h : a.year = b.year) :
    a.getTime < b.getTime ↔ a.fieldsInYear < b.fieldsInYear := by
  have hdays := dayInYear_lt_iff ha hb h
  have hdays' := dayInYear_lt_iff hb ha h.symm
  have hhours := And.intro ha.hour hb.hour
  have hminutes := And.intro ha.minute hb.minute
  have hseconds := And.intro ha.second hb.second
  have hms := And.intro ha.ms hb.ms
  simp only [fieldsInYear, List.cons_lt_cons_iff, List.not_lt_nil, and_false, or_false]
  unfold getTime
  rw [h]
  omega

end CivilTime

/-- A time that a `Date` can hold. -/
structure IsoTime extends CivilTime where
  valid : toCivilTime.Valid

namespace IsoTime

open CivilTime

/-- A year is written with four digits, or with a sign and six. -/
def yearText (year : ℤ) : List Char :=
  if 0 ≤ year ∧ year ≤ 9999 then digits Nat.digitChar 4 year.natAbs
  else (if year < 0 then '-' else '+') :: digits Nat.digitChar 6 year.natAbs

def toISOString (t : IsoTime) : List Char :=
  yearText t.year ++ ('-' :: (digits Nat.digitChar 2 t.month ++ ('-' :: (digits Nat.digitChar 2 t.day ++
    ('T' :: (digits Nat.digitChar 2 t.hour ++ (':' :: (digits Nat.digitChar 2 t.minute ++
      (':' :: (digits Nat.digitChar 2 t.second ++ ('.' :: (digits Nat.digitChar 3 t.ms ++ ['Z']))))))))))))

/-- The places in the root collation of the characters that times are written with: punctuation, the
plus sign, digits, letters. -/
def collationRank (c : Char) : Nat :=
  if c = '-' then 0 else if c = ':' then 1 else if c = '.' then 2 else if c = '+' then 3
  else if c = 'T' then 14 else if c = 'Z' then 15 else c.toNat - 44

def collationKey (t : IsoTime) : List Nat := t.toISOString.map collationRank

/-- The first of two years whose texts come in this order. -/
def YearBefore (a b : ℤ) : Prop :=
  a < 0 ∧ (0 ≤ b ∨ b < a) ∨ 10000 ≤ a ∧ (0 ≤ b ∧ b ≤ 9999 ∨ a < b) ∨ 0 ≤ a ∧ a < b ∧ b ≤ 9999

theorem year_bounds (t : IsoTime) : t.year.natAbs < 10 ^ 6 := by
  have hrange := t.valid.range
  have hday := t.valid.dayInYear_le
  have hhour := t.valid.hour
  have hminute := t.valid.minute
  have hsecond := t.valid.second
  have hms := t.valid.ms
  have hleap := Bool.toNat_le (isLeap t.year)
  unfold getTime dayFromYear at hrange
  omega

theorem rank_digits : ∀ a < 10, ∀ b < 10,
    ((collationRank ∘ Nat.digitChar) a < (collationRank ∘ Nat.digitChar) b ↔ a < b) := by
  decide

theorem collationKey_lt_of_yearBefore {a b : IsoTime} (h : YearBefore a.year b.year) :
    a.collationKey < b.collationKey := by
  have ha := a.year_bounds
  have hb := b.year_bounds
  have hdigit : ∀ n rest, ∃ first more, digits (collationRank ∘ Nat.digitChar) 4 n ++ rest = first :: more ∧
      3 < first := by
    intro n rest
    have hranks : ∀ d < 10, 3 < collationRank (Nat.digitChar d) := by decide
    exact ⟨_, _, rfl, hranks _ (Nat.mod_lt _ (by decide))⟩
  simp only [collationKey, toISOString, yearText, List.map_append]
  unfold YearBefore at h
  split_ifs <;> simp only [List.map_cons, map_digits, List.cons_append]
  · rw [append_lt_append_iff (by simp)]
    exact .inl ((digits_lt_iff rank_digits (by omega) (by omega)).mpr (by omega))
  · omega
  · omega
  · obtain ⟨first, more, htext, hfirst⟩ := hdigit b.year.natAbs _
    rw [htext, List.cons_lt_cons_iff]
    exact .inl (Nat.lt_trans (by decide : collationRank '-' < 3) hfirst)
  · rw [List.cons_lt_cons_iff, append_lt_append_iff (by simp)]
    exact .inr ⟨rfl, .inl ((digits_lt_iff rank_digits ha hb).mpr (by omega))⟩
  · exact List.cons_lt_cons_iff.mpr (.inl (by decide))
  · obtain ⟨first, more, htext, hfirst⟩ := hdigit b.year.natAbs _
    rw [htext, List.cons_lt_cons_iff]
    exact .inl hfirst
  · omega
  · rw [List.cons_lt_cons_iff, append_lt_append_iff (by simp)]
    exact .inr ⟨rfl, .inl ((digits_lt_iff rank_digits ha hb).mpr (by omega))⟩

theorem collationKey_lt_iff_of_year_eq {a b : IsoTime} (h : a.year = b.year) :
    a.collationKey < b.collationKey ↔ a.getTime < b.getTime := by
  have ha := a.valid
  have hb := b.valid
  have hmonth := And.intro ha.month hb.month
  have hhour := And.intro ha.hour hb.hour
  have hminute := And.intro ha.minute hb.minute
  have hsecond := And.intro ha.second hb.second
  have hfield : ∀ {width n m x : Nat} {l l' : List Nat}, n < 10 ^ width → m < 10 ^ width →
      (digits (collationRank ∘ Nat.digitChar) width n ++ x :: l <
        digits (collationRank ∘ Nat.digitChar) width m ++ x :: l' ↔ n < m ∨ n = m ∧ l < l') := by
    intro width n m x l l' hn hm
    have hsame : digits (collationRank ∘ Nat.digitChar) width n =
        digits (collationRank ∘ Nat.digitChar) width m ↔ n = m :=
      ⟨digits_injective rank_digits hn hm, fun heq => by rw [heq]⟩
    rw [append_lt_append_iff (by simp), digits_lt_iff rank_digits hn hm, hsame, List.cons_lt_cons_iff]
    simp
  rw [getTime_lt_iff_of_year_eq ha hb h]
  simp only [collationKey, toISOString, h, List.map_append, List.map_cons, map_digits]
  rw [append_lt_append_iff rfl, List.cons_lt_cons_iff, hfield (by omega) (by omega),
    hfield ha.day_lt hb.day_lt, hfield (by omega) (by omega), hfield (by omega) (by omega),
    hfield (by omega) (by omega), hfield ha.ms hb.ms]
  simp [fieldsInYear, List.cons_lt_cons_iff]

theorem collationKey_lt_or_lt {a b : IsoTime} (h : a.getTime < b.getTime) :
    a.collationKey < b.collationKey ∨ b.collationKey < a.collationKey := by
  have hyears : YearBefore a.year b.year ∨ a.year = b.year ∨ YearBefore b.year a.year := by
    unfold YearBefore
    omega
  rcases hyears with hbefore | hsame | hafter
  · exact .inl (collationKey_lt_of_yearBefore hbefore)
  · exact .inl ((collationKey_lt_iff_of_year_eq hsame).mpr h)
  · exact .inr (collationKey_lt_of_yearBefore hafter)

end IsoTime

end ShipyardCp.Lib
