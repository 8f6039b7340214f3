import Mathlib.Data.List.Pairwise
import Mathlib.Data.List.Sort
import ShipyardCp.Lib.InsertionMap
import ShipyardCp.Lib.IsoTime
import ShipyardCp.Types.Base

/-! The durations of a retrospective: what the metrics of a task make of its state transitions. -/

namespace ShipyardCp.Domain
open Lib Types

/-- A state transition as it is recorded, with the text of its time. -/
structure RecordedTransition where
  fromState : TaskState
  toState : TaskState
  occurredAt : IsoTime

namespace RecordedTransition

def time (event : RecordedTransition) : ℤ := event.occurredAt.getTime

/-- The comparison of the sort is `localeCompare` of the texts. -/
def textLE (a b : RecordedTransition) : Prop := a.occurredAt.collationKey ≤ b.occurredAt.collationKey

instance : DecidableRel textLE := fun _ _ => inferInstanceAs (Decidable (_ ≤ _))

instance : Std.Total textLE := ⟨fun _ _ => le_total _ _⟩

instance : IsTrans RecordedTransition textLE := ⟨fun _ _ _ => le_trans⟩

theorem textLE.not_yearBefore {a b : RecordedTransition} (h : textLE a b) :
    ¬ IsoTime.YearBefore b.occurredAt.year a.occurredAt.year :=
  fun hbefore => not_lt.mpr h (IsoTime.collationKey_lt_of_yearBefore hbefore)

theorem year_le_of_time_le {a b : RecordedTransition} (h : a.time ≤ b.time) :
    a.occurredAt.year ≤ b.occurredAt.year :=
  not_lt.mp fun hlt =>
    not_lt.mpr h (CivilTime.getTime_lt_of_year_lt b.occurredAt.valid a.occurredAt.valid hlt)

end RecordedTransition

structure StageDurationLoop where
  stageDurations : InsertionMap TaskState ℤ
  lastTransition : Option RecordedTransition

def StageDurationLoop.next (loop : StageDurationLoop) (event : RecordedTransition) :
    StageDurationLoop where
  stageDurations := match loop.lastTransition with
    | none => loop.stageDurations
    | some last => loop.stageDurations.set last.toState
        ((loop.stageDurations.get? last.toState).getD 0 + (event.time - last.time))
  lastTransition := some event

def calculateStageDurations (events : List RecordedTransition) : InsertionMap TaskState ℤ :=
  ((events.insertionSort RecordedTransition.textLE).foldl StageDurationLoop.next
    ⟨.empty, none⟩).stageDurations

def totalDurationMs (events : List RecordedTransition) : ℤ :=
  (calculateStageDurations events).values.sum

def visits (chain : List RecordedTransition) (state : TaskState) :
    List (RecordedTransition × RecordedTransition) :=
  (chain.zip chain.tail).filter fun visit => visit.1.toState = state ∧ visit.2.fromState = state

def timeIn (chain : List RecordedTransition) (state : TaskState) : ℤ :=
  ((visits chain state).map fun visit => visit.2.time - visit.1.time).sum

def elapsed : List RecordedTransition → ℤ
  | [] => 0
  | first :: rest => (rest.getLastD first).time - first.time

/-- Transitions in the order of their times, each out of the state that the one before led to. -/
structure Chain (chain : List RecordedTransition) : Prop where
  ordered : chain.Pairwise fun a b => a.time < b.time
  linked : chain.IsChain fun a b => b.fromState = a.toState

structure DurationsConserved (chain events : List RecordedTransition) : Prop where
  stages : ∀ state, ((calculateStageDurations events).get? state).getD 0 = timeIn chain state
  total : totalDurationMs events = elapsed chain
  same : calculateStageDurations events = calculateStageDurations chain

/-- No time of a year beyond 9999 is beside one of the years 0 to 9999, and times before the year 0 are of
one year. -/
def YearsAsText (chain : List RecordedTransition) : Prop := ∀ a ∈ chain, ∀ b ∈ chain,
    (0 ≤ a.occurredAt.year → a.occurredAt.year ≤ 9999 → b.occurredAt.year < 10000) ∧
      (a.occurredAt.year < 0 → b.occurredAt.year < 0 → a.occurredAt.year = b.occurredAt.year)

section durations

variable {first : RecordedTransition} {rest : List RecordedTransition}

theorem timeIn_cons {a b : RecordedTransition} (hlink : b.fromState = a.toState) (state : TaskState) :
    timeIn (a :: b :: rest) state =
      (if a.toState = state then b.time - a.time else 0) + timeIn (b :: rest) state := by
  unfold timeIn visits
  rw [List.tail_cons, List.zip_cons_cons, List.filter_cons]
  by_cases hstate : a.toState = state
  · rw [if_pos (by simp [hstate, hlink]), if_pos hstate, List.map_cons, List.sum_cons, List.tail_cons]
  · rw [if_neg (by simp [hstate]), if_neg hstate, Int.zero_add, List.tail_cons]

theorem elapsed_cons_cons {a b : RecordedTransition} :
    elapsed (a :: b :: rest) = (b.time - a.time) + elapsed (b :: rest) := by
  simp only [elapsed, List.getLastD_cons]
  omega

theorem durations_foldl (m : InsertionMap TaskState ℤ) :
    let loop := rest.foldl StageDurationLoop.next ⟨m, some first⟩
    (loop.stageDurations.values.sum = m.values.sum + elapsed (first :: rest)) ∧
      ((first :: rest).IsChain (fun a b => b.fromState = a.toState) → ∀ state,
        (loop.stageDurations.get? state).getD 0 = (m.get? state).getD 0 + timeIn (first :: rest) state) := by
  induction rest generalizing first m with
  | nil => simp [elapsed, timeIn, visits]
  | cons event rest ih =>
    obtain ⟨hsum, hstages⟩ := @ih event
      (m.set first.toState ((m.get? first.toState).getD 0 + (event.time - first.time)))
    refine ⟨?_, fun hlinked state => ?_⟩
    · rw [InsertionMap.sum_values_set] at hsum
      rw [elapsed_cons_cons, List.foldl_cons]
      exact hsum.trans (Int.add_assoc ..)
    · obtain ⟨hlink, hrest⟩ := List.isChain_cons_cons.mp hlinked
      have hstate := hstages hrest state
      rw [InsertionMap.get?_set] at hstate
      rw [timeIn_cons hlink, List.foldl_cons]
      by_cases hsame : first.toState = state
      · subst hsame
        simp only [if_pos] at hstate ⊢
        exact hstate.trans (by rw [Option.getD_some, Int.add_assoc])
      · rw [if_neg fun h => hsame h.symm] at hstate
        rw [if_neg hsame, Int.zero_add]
        exact hstate

end durations

section order

open RecordedTransition

/-- The ends of a sorted list are its least and its greatest element. -/
theorem ends_of_pairwise {α : Type*} {r : α → α → Prop} (hrefl : ∀ a, r a a) {first : α} {rest : List α}
    (h : (first :: rest).Pairwise r) : ∀ x ∈ first :: rest, r first x ∧ r x (rest.getLastD first) := by
  have hlast : ∀ {first : α} {rest : List α}, (first :: rest).Pairwise r →
      ∀ x ∈ first :: rest, r x (rest.getLastD first) := by
    intro first rest
    induction rest generalizing first with
    | nil =>
      intro _ x hx
      obtain rfl := List.mem_singleton.mp hx
      exact hrefl x
    | cons second rest ih =>
      intro hsorted x hx
      obtain ⟨hfirst, hrest⟩ := List.pairwise_cons.mp hsorted
      rw [List.getLastD_cons]
      rcases List.mem_cons.mp hx with rfl | hx
      · exact hfirst _ List.getLastD_mem_cons
      · exact ih hrest x hx
  intro x hx
  refine ⟨?_, hlast h x hx⟩
  rcases List.mem_cons.mp hx with rfl | hx
  · exact hrefl x
  · exact (List.pairwise_cons.mp h).1 x hx

theorem Chain.sorted_eq {chain events : List RecordedTransition} (hchain : Chain chain)
    (hperm : events.Perm chain) : events.insertionSort textLE = chain.insertionSort textLE := by
  refine List.Perm.eq_of_pairwise ?_ (List.pairwise_insertionSort textLE events)
    (List.pairwise_insertionSort textLE chain)
    (((List.perm_insertionSort ..).trans hperm).trans (List.perm_insertionSort ..).symm)
  intro a b ha hb hab hba
  have ha := hperm.mem_iff.mp ((List.mem_insertionSort _).mp ha)
  have hb := (List.mem_insertionSort _).mp hb
  have : Std.Symm fun x y => ¬ (textLE x y ∧ textLE y x) := ⟨fun _ _ h hs => h hs.symm⟩
  have hapart : chain.Pairwise fun x y => ¬ (textLE x y ∧ textLE y x) :=
    hchain.ordered.imp fun {x y} htime (hsame : textLE x y ∧ textLE y x) => (IsoTime.collationKey_lt_or_lt htime).elim
      (not_lt.mpr hsame.2) (not_lt.mpr hsame.1)
  by_contra hne
  exact hapart.forall ha hb hne ⟨hab, hba⟩

theorem totalDurationMs_eq (events : List RecordedTransition) :
    totalDurationMs events = elapsed (events.insertionSort textLE) := by
  unfold totalDurationMs calculateStageDurations
  cases events.insertionSort textLE with
  | nil => rfl
  | cons first rest => exact (durations_foldl .empty).1.trans (Int.zero_add _)

theorem Chain.sorted_eq_self {chain : List RecordedTransition} (hchain : Chain chain)
    (hyears : YearsAsText chain) : chain.insertionSort textLE = chain := by
  refine List.Pairwise.insertionSort_eq (hchain.ordered.imp_of_mem fun {a b} ha hb htime => ?_)
  have hkinds := hyears a ha b hb
  have hkinds' := hyears b hb a ha
  rcases (year_le_of_time_le htime.le).lt_or_eq with hlt | heq
  · refine le_of_lt (IsoTime.collationKey_lt_of_yearBefore ?_)
    unfold IsoTime.YearBefore
    omega
  · exact le_of_lt ((IsoTime.collationKey_lt_iff_of_year_eq heq).mpr htime)

/-- The total is the whole time only where the first and the last text are the first and the last time. -/
theorem Chain.yearsAsText_of_total {chain : List RecordedTransition} (hchain : Chain chain)
    (htotal : totalDurationMs chain = elapsed chain) : YearsAsText chain := by
  rw [totalDurationMs_eq] at htotal
  have hmem := fun a => List.mem_insertionSort textLE (l := chain) (x := a)
  have htexts := List.pairwise_insertionSort textLE chain
  cases hsort : chain.insertionSort textLE with
  | nil =>
    intro a ha
    rw [← hmem, hsort] at ha
    cases ha
  | cons textFirst textRest =>
    cases chain with
    | nil => cases hsort
    | cons first rest =>
      rw [hsort] at hmem htexts htotal
      have htextEnds := ends_of_pairwise (fun x => le_refl x.occurredAt.collationKey) htexts
      have htimeEnds := ends_of_pairwise (fun x : RecordedTransition => le_refl x.time)
        (hchain.ordered.imp le_of_lt)
      have hends := htimeEnds textFirst ((hmem _).mp List.mem_cons_self)
      have hends' := htimeEnds _ ((hmem _).mp List.getLastD_mem_cons)
      simp only [elapsed] at htotal
      have hleast : ∀ x ∈ first :: rest, textFirst.time ≤ x.time := by
        intro x hx
        have hx := htimeEnds x hx
        omega
      have hgreatest : ∀ x ∈ first :: rest, x.time ≤ (textRest.getLastD textFirst).time := by
        intro x hx
        have hx := htimeEnds x hx
        omega
      intro a ha b hb
      have hyears := year_le_of_time_le (hgreatest b hb)
      have hyears' := year_le_of_time_le (hleast a ha)
      have hyears'' := year_le_of_time_le (hleast b hb)
      have htext := (htextEnds a ((hmem a).mpr ha)).2.not_yearBefore
      have htext' := (htextEnds a ((hmem a).mpr ha)).1.not_yearBefore
      have htext'' := (htextEnds b ((hmem b).mpr hb)).1.not_yearBefore
      unfold IsoTime.YearBefore at htext htext' htext''
      omega

def spring : IsoTime where
  year := 2026
  month := 3
  day := 1
  hour := 9
  minute := 30
  second := 0
  ms := 0
  valid := by constructor <;> decide

def lastOf9999 : IsoTime where
  year := 9999
  month := 12
  day := 31
  hour := 23
  minute := 59
  second := 59
  ms := 999
  valid := by constructor <;> decide

def firstOf10000 : IsoTime where
  year := 10000
  month := 1
  day := 1
  hour := 0
  minute := 0
  second := 0
  ms := 0
  valid := by constructor <;> decide

def unblocking : List RecordedTransition :=
  [⟨.developing, .blocked, spring⟩, ⟨.blocked, .developing, lastOf9999⟩]

end order

end ShipyardCp.Domain
