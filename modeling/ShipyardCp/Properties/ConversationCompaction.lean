import Mathlib.Algebra.Order.BigOperators.Group.List
import Mathlib.Algebra.Order.Ring.Nat
import ShipyardCp.Domain.RuntimeSession

/-! What compactions keep of a conversation: its last turns, and a summary of all the others. -/

namespace ShipyardCp.Properties

open Types Domain Lib Lib.JsText Machine ConversationStore

inductive ConversationOp where
  | upsert (input : ConversationInput)
  | appendTurn (sessionId : String) (turn : RuntimeTurn)
  | compact (sessionId : String) (retainLastTurns : ℚ)

structure ConversationCall where
  now : Timestamp
  op : ConversationOp

/-- The store after a call; one that throws leaves it as it is. -/
def performConversation (s : ConversationStore) (call : ConversationCall) : ConversationStore :=
  match call.op with
  | .upsert input => (s.upsert call.now input).2
  | .appendTurn sessionId turn =>
    match s.appendTurn call.now sessionId turn with
    | .ok answer => answer.2
    | .error _ => s
  | .compact sessionId retainLastTurns =>
    match s.compact call.now sessionId retainLastTurns with
    | .ok answer => answer.2
    | .error _ => s

def conversationRuns : Machine ConversationStore ConversationCall where
  init s := s = .new
  step s call s' := s' = performConversation s call

/-- The turn that a call appends to a conversation. -/
def turnAppended (sessionId : String) (s : ConversationStore) (call : ConversationCall) :
    List RuntimeTurn :=
  match call.op with
  | .appendTurn id turn => if id = sessionId ∧ (s.get id).isSome then [turn] else []
  | _ => []

/-- How many turns a call leaves in a conversation of `kept` turns: all of them, with one more when it
appends a turn, or no more than are to be retained when it compacts it. -/
def keptBy (sessionId : String) (kept : Nat) (s : ConversationStore) (call : ConversationCall) : Nat :=
  match call.op with
  | .appendTurn id _ => if id = sessionId ∧ (s.get id).isSome then kept + 1 else kept
  | .compact id retainLastTurns =>
    if id = sessionId ∧ (s.get id).isSome ∧ retainLastTurns.den = 1 ∧ 1 ≤ retainLastTurns then
      min kept retainLastTurns.num.toNat
    else kept
  | .upsert _ => kept

def keptTurns (sessionId : String) (h : History ConversationStore ConversationCall) : Nat :=
  h.foldl (fun kept p => keptBy sessionId kept p.1 p.2) 0

def appendedTurns (sessionId : String) (h : History ConversationStore ConversationCall) :
    List RuntimeTurn :=
  written (turnAppended sessionId) h

/-- A conversation holds the last of its turns, and as many as the calls left; its summary is the lines
of all the others in their order, cut off at the limit. -/
structure Compacted (turns : List RuntimeTurn) (kept : Nat) (record : ConversationRecord) : Prop where
  kept_le : kept ≤ turns.length
  retained : record.turns = turns.rtake kept
  summary : record.compactedSummary =
    if turns.rdrop kept = [] then none
    else some ((joinLines ((turns.rdrop kept).map renderTurnLine)).take summaryLimit)

section lines

theorem units_role_ne_nil (role : TurnRole) : units s!"- {role.text}: " ≠ [] := by
  cases role <;> decide

theorem lineFeed_notMem_role (role : TurnRole) : lineFeed ∉ units s!"- {role.text}: " := by
  cases role <;> decide

theorem lineFeed_notMem_toolCalls (n : Nat) : lineFeed ∉ units s!" ({n} tool call(s))" := by
  intro h
  have hdigits : ∀ c ∈ (toString n).toList, c.isDigit = true := by
    intro c hc
    change c ∈ n.repr.toList at hc
    rw [Nat.repr, String.toList_ofList] at hc
    exact Nat.isDigit_of_mem_toDigits (by decide) (by decide) hc
  have hmem := lineFeed_mem_charCodes h
  rw [String.toList_append, String.toList_append, List.mem_append, List.mem_append] at hmem
  rcases hmem with (hopen | hcount) | hclose
  · exact absurd hopen (by decide)
  · exact absurd (hdigits _ hcount) (by decide)
  · exact absurd hclose (by decide)

theorem renderTurnLine_ne_nil (turn : RuntimeTurn) : renderTurnLine turn ≠ [] := by
  unfold renderTurnLine
  simp [units_role_ne_nil]

theorem lineFeed_notMem_renderTurnLine (turn : RuntimeTurn) : lineFeed ∉ renderTurnLine turn := by
  have hcontent : lineFeed ∉ (charCodes (trim (foldSpaces turn.content.toList))).take 160 := by
    intro h
    have hmem := lineFeed_mem_charCodes (List.mem_of_mem_take h)
    exact lineFeed_notMem_foldSpaces _ ((trim_isInfix _).subset hmem)
  unfold renderTurnLine
  simp only [List.mem_append, not_or]
  refine ⟨⟨lineFeed_notMem_role _, hcontent⟩, ?_⟩
  split_ifs
  · exact lineFeed_notMem_toolCalls _
  · exact List.not_mem_nil

end lines

section record

theorem rtake_rtake {α : Type} {l : List α} {n k : Nat} (hn : n ≤ k) (hk : k ≤ l.length) :
    (l.rtake k).rtake n = l.rtake n := by
  unfold List.rtake
  rw [List.length_drop, List.drop_drop]
  congr 1
  omega

theorem rdrop_append_rdrop_rtake {α : Type} {l : List α} {n k : Nat} (hn : n ≤ k)
    (hk : k ≤ l.length) : l.rdrop k ++ (l.rtake k).rdrop n = l.rdrop n := by
  have hmore : (l.rtake k).length - n = k - n := by
    rw [List.rtake, List.length_drop]
    omega
  have hsum : l.length - n = (l.length - k) + (k - n) := by omega
  rw [List.rdrop, List.rdrop, List.rdrop, hmore, hsum, List.take_add]
  rfl

variable {turns : List RuntimeTurn} {kept : Nat} {record : ConversationRecord}

theorem Compacted.length_turns (hcompacted : Compacted turns kept record) :
    record.turns.length = kept := by
  have hle := hcompacted.kept_le
  rw [hcompacted.retained, List.rtake, List.length_drop]
  omega

theorem Compacted.append (hcompacted : Compacted turns kept record) (now : Timestamp)
    (turn : RuntimeTurn) :
    Compacted (turns ++ [turn]) (kept + 1)
      { record with turns := record.turns ++ [turn], updatedAt := now } := by
  constructor
  · simpa using hcompacted.kept_le
  · rw [List.rtake_concat_succ, hcompacted.retained]
  · rw [List.rdrop_concat_succ]
    exact hcompacted.summary

theorem renderCompactionSummary_append (before more : List RuntimeTurn) : renderCompactionSummary
      (if before = [] then none
        else some ((joinLines (before.map renderTurnLine)).take summaryLimit)) more =
      (joinLines ((before ++ more).map renderTurnLine)).take summaryLimit := by
  have hnonempty : ∀ line ∈ more.map renderTurnLine, (!line.isEmpty) = true := by
    intro line hline
    obtain ⟨turn, _, rfl⟩ := List.mem_map.mp hline
    simpa using renderTurnLine_ne_nil turn
  unfold renderCompactionSummary
  dsimp only
  rw [List.filter_append, List.filter_eq_self.mpr hnonempty, List.map_append]
  rcases eq_or_ne before [] with rfl | hbefore
  · rfl
  · have hlines : before.map renderTurnLine ≠ [] := by simpa using hbefore
    have hprevious : (joinLines (before.map renderTurnLine)).take summaryLimit ≠ [] := by
      cases before with
      | nil => exact absurd rfl hbefore
      | cons turn before =>
        have hjoined : joinLines ((turn :: before).map renderTurnLine) ≠ [] :=
          joinLines_cons_ne_nil (renderTurnLine_ne_nil turn)
        exact fun hnil => (List.take_eq_nil_iff.mp hnil).elim (by decide) hjoined
    rw [if_neg hbefore, Option.toList_some, List.filter_eq_self.mpr (by simpa using hprevious),
      List.singleton_append]
    exact take_joinLines_take summaryLimit hlines _

theorem Compacted.compact (hcompacted : Compacted turns kept record) (now : Timestamp) {n : Nat}
    (hn : n < record.turns.length) :
    Compacted turns n (compactRecord record now n) := by
  rw [hcompacted.length_turns] at hn
  have hmore : (turns.rtake kept).rdrop n ≠ [] := by
    have hlength := hcompacted.length_turns
    rw [hcompacted.retained] at hlength
    refine List.ne_nil_of_length_pos ?_
    rw [List.rdrop, List.length_take, hlength]
    omega
  have hsplit := rdrop_append_rdrop_rtake hn.le hcompacted.kept_le
  unfold compactRecord
  constructor
  · exact hn.le.trans hcompacted.kept_le
  · rw [hcompacted.retained, rtake_rtake hn.le hcompacted.kept_le]
  · rw [hcompacted.summary, hcompacted.retained, renderCompactionSummary_append, hsplit,
      if_neg (by rw [← hsplit]; simp [hmore])]

end record

section run

/-- What a call does to one conversation, with the turns that it appends and those that it keeps. -/
inductive ConversationMove (now : Timestamp) : Option ConversationRecord →
    Option ConversationRecord → List RuntimeTurn → (Nat → Nat) → Prop
  | same (before : Option ConversationRecord) : ConversationMove now before before [] fun kept => kept
  | upserted (before : Option ConversationRecord) {record : ConversationRecord} :
      record.turns = (before.map ConversationRecord.turns).getD [] →
      record.compactedSummary = before.bind ConversationRecord.compactedSummary →
      ConversationMove now before (some record) [] fun kept => kept
  | appended (record : ConversationRecord) (turn : RuntimeTurn) : ConversationMove now (some record)
        (some { record with turns := record.turns ++ [turn], updatedAt := now }) [turn] (· + 1)
  | retained (record : ConversationRecord) {n : Nat} : record.turns.length ≤ n →
      ConversationMove now (some record) (some record) [] (min · n)
  | compacted (record : ConversationRecord) {n : Nat} : n < record.turns.length →
      ConversationMove now (some record) (some (compactRecord record now n)) [] (min · n)

variable {s : ConversationStore} {call : ConversationCall} {sessionId : String}
  {h : History ConversationStore ConversationCall}

theorem get_put (id : String) (record : ConversationRecord) :
    (s.put id record).get sessionId = if sessionId = id then some record else s.get sessionId :=
  InsertionMap.get?_set _ _ _ _

theorem conversationMove_upsert (now : Timestamp) (input : ConversationInput) :
    ConversationMove now (s.get sessionId) ((s.upsert now input).2.get sessionId) []
      fun kept => kept := by
  unfold upsert
  cases hrecord : s.get input.sessionId with
  | none =>
    dsimp only
    rw [get_put]
    split_ifs with hid
    · subst hid
      rw [hrecord]
      exact .upserted none rfl rfl
    · exact .same _
  | some existing =>
    dsimp only
    rw [get_put]
    split_ifs with hid
    · subst hid
      rw [hrecord]
      exact .upserted (some existing) rfl rfl
    · exact .same _

theorem appendTurn_of_get {record : ConversationRecord} (now : Timestamp) (turn : RuntimeTurn)
    (hrecord : s.get sessionId = some record) :
    ∃ answer, s.appendTurn now sessionId turn = .ok (answer,
      s.put sessionId { record with turns := record.turns ++ [turn], updatedAt := now }) := by
  unfold appendTurn requireRecord
  rw [hrecord]
  exact ⟨_, rfl⟩

theorem performConversation_appendTurn_of_none {id : String} {now : Timestamp} {turn : RuntimeTurn}
    (hnone : s.get id = none) : performConversation s ⟨now, .appendTurn id turn⟩ = s := by
  unfold performConversation appendTurn requireRecord
  dsimp only
  rw [hnone]
  rfl

theorem performConversation_compact (id : String) (now : Timestamp) (retainLastTurns : ℚ) :
    performConversation s ⟨now, .compact id retainLastTurns⟩ =
      match s.get id with
      | none => s
      | some record =>
        if retainLastTurns.den = 1 ∧ 1 ≤ retainLastTurns ∧
            retainLastTurns.num.toNat < record.turns.length then
          s.put id (compactRecord record now retainLastTurns.num.toNat)
        else s := by
  unfold performConversation compact requireRecord
  dsimp only
  by_cases hinvalid : retainLastTurns.den ≠ 1 ∨ retainLastTurns < 1
  · rw [if_pos hinvalid]
    cases s.get id with
    | none => rfl
    | some record =>
      have hnot : ¬(retainLastTurns.den = 1 ∧ 1 ≤ retainLastTurns ∧
          retainLastTurns.num.toNat < record.turns.length) := by
        rintro ⟨hden, hone, _⟩
        exact hinvalid.elim (fun h => h hden) fun h => absurd hone (not_le.mpr h)
      exact (if_neg hnot).symm
  · rw [if_neg hinvalid]
    rw [not_or, not_not, not_lt] at hinvalid
    cases s.get id with
    | none => rfl
    | some record =>
      by_cases hfew : record.turns.length ≤ retainLastTurns.num.toNat
      · have hnot : ¬(retainLastTurns.den = 1 ∧ 1 ≤ retainLastTurns ∧
            retainLastTurns.num.toNat < record.turns.length) :=
          fun h => absurd hfew (Nat.not_le.mpr h.2.2)
        change _ = ite _ _ _
        rw [if_neg hnot]
        simp only [bind, Except.bind, if_pos hfew]
        rfl
      · change _ = ite _ _ _
        rw [if_pos ⟨hinvalid.1, hinvalid.2, Nat.lt_of_not_le hfew⟩]
        simp only [bind, Except.bind, if_neg hfew]
        rfl

theorem conversationMove_appendTurn (id : String) (now : Timestamp) (turn : RuntimeTurn) :
    ConversationMove now (s.get sessionId)
      ((performConversation s ⟨now, .appendTurn id turn⟩).get sessionId)
      (turnAppended sessionId s ⟨now, .appendTurn id turn⟩)
      (keptBy sessionId · s ⟨now, .appendTurn id turn⟩) := by
  cases hrecord : s.get id with
  | none =>
    have hnot : ¬(id = sessionId ∧ (s.get id).isSome) := by simp [hrecord]
    have hkept : (keptBy sessionId · s ⟨now, .appendTurn id turn⟩) = (fun kept => kept) :=
      funext fun kept => if_neg hnot
    have hturns : turnAppended sessionId s ⟨now, .appendTurn id turn⟩ = [] := if_neg hnot
    rw [performConversation_appendTurn_of_none hrecord, hkept, hturns]
    exact .same _
  | some record =>
    obtain ⟨answer, hanswer⟩ := appendTurn_of_get now turn hrecord
    have hperform : performConversation s ⟨now, .appendTurn id turn⟩ =
        s.put id { record with turns := record.turns ++ [turn], updatedAt := now } := by
      unfold performConversation
      dsimp only
      rw [hanswer]
    rw [hperform, get_put]
    by_cases hid : sessionId = id
    · have happends : id = sessionId ∧ (s.get id).isSome := ⟨hid.symm, by simp [hrecord]⟩
      have hkept : (keptBy sessionId · s ⟨now, .appendTurn id turn⟩) = (· + 1) :=
        funext fun kept => if_pos happends
      have hturns : turnAppended sessionId s ⟨now, .appendTurn id turn⟩ = [turn] := if_pos happends
      rw [if_pos hid, hkept, hturns, hid, hrecord]
      exact .appended record turn
    · have hnot : ¬(id = sessionId ∧ (s.get id).isSome) := fun h => hid h.1.symm
      have hkept : (keptBy sessionId · s ⟨now, .appendTurn id turn⟩) = (fun kept => kept) :=
        funext fun kept => if_neg hnot
      have hturns : turnAppended sessionId s ⟨now, .appendTurn id turn⟩ = [] := if_neg hnot
      rw [if_neg hid, hkept, hturns]
      exact .same _

theorem conversationMove_compact (id : String) (now : Timestamp) (retainLastTurns : ℚ) :
    ConversationMove now (s.get sessionId)
      ((performConversation s ⟨now, .compact id retainLastTurns⟩).get sessionId) []
      (keptBy sessionId · s ⟨now, .compact id retainLastTurns⟩) := by
  rw [performConversation_compact]
  by_cases hcompacts : id = sessionId ∧ (s.get id).isSome ∧ retainLastTurns.den = 1 ∧
      1 ≤ retainLastTurns
  · have hkept : (keptBy sessionId · s ⟨now, .compact id retainLastTurns⟩) =
        (min · retainLastTurns.num.toNat) := funext fun kept => if_pos hcompacts
    obtain ⟨rfl, hsome, hden, hone⟩ := hcompacts
    obtain ⟨record, hrecord⟩ := Option.isSome_iff_exists.mp hsome
    rw [hkept, hrecord]
    dsimp only
    rcases Nat.lt_or_ge retainLastTurns.num.toNat record.turns.length with hmore | hfew
    · rw [if_pos ⟨hden, hone, hmore⟩, get_put, if_pos rfl]
      exact .compacted record hmore
    · rw [if_neg fun h => absurd hfew (Nat.not_le.mpr h.2.2), hrecord]
      exact .retained record hfew
  · have hkept : (keptBy sessionId · s ⟨now, .compact id retainLastTurns⟩) = (fun kept => kept) :=
      funext fun kept => if_neg hcompacts
    rw [hkept]
    cases hrecord : s.get id with
    | none => exact .same _
    | some record =>
      dsimp only
      split_ifs with hcompacted
      · rw [get_put, if_neg fun hid =>
          hcompacts ⟨hid.symm, by simp [hrecord], hcompacted.1, hcompacted.2.1⟩]
        exact .same _
      · exact .same _

theorem conversationMove_perform (s : ConversationStore) (call : ConversationCall)
    (sessionId : String) :
    ConversationMove call.now (s.get sessionId) ((performConversation s call).get sessionId)
      (turnAppended sessionId s call) (keptBy sessionId · s call) := by
  obtain ⟨now, op⟩ := call
  cases op with
  | upsert input => exact conversationMove_upsert now input
  | appendTurn id turn => exact conversationMove_appendTurn id now turn
  | compact id retainLastTurns => exact conversationMove_compact id now retainLastTurns

/-- The conversations of a run, and those that are not there. -/
structure Conversations (h : History ConversationStore ConversationCall) (s : ConversationStore)
    (sessionId : String) : Prop where
  absent : s.get sessionId = none → appendedTurns sessionId h = [] ∧ keptTurns sessionId h = 0
  present : ∀ record, s.get sessionId = some record →
    Compacted (appendedTurns sessionId h) (keptTurns sessionId h) record

theorem Conversations.move {before after : Option ConversationRecord} {turns turns' : List RuntimeTurn}
    {kept : Nat} {keeps : Nat → Nat} {now : Timestamp}
    (habsent : before = none → turns = [] ∧ kept = 0)
    (hpresent : ∀ record, before = some record → Compacted turns kept record)
    (hmove : ConversationMove now before after turns' keeps) :
    (after = none → turns ++ turns' = [] ∧ keeps kept = 0) ∧
    ∀ record, after = some record → Compacted (turns ++ turns') (keeps kept) record := by
  cases hmove with
  | same _ => exact ⟨by simpa using habsent, by simpa using hpresent⟩
  | @upserted _ record hturns hsummary =>
    refine ⟨nofun, ?_⟩
    rintro _ ⟨⟩
    rw [List.append_nil]
    cases before with
    | none =>
      obtain ⟨rfl, rfl⟩ := habsent rfl
      exact ⟨Nat.le_refl _, hturns, hsummary⟩
    | some existing =>
      have hcompacted := hpresent existing rfl
      exact ⟨hcompacted.kept_le, hturns.trans hcompacted.retained, hsummary.trans hcompacted.summary⟩
  | appended record turn =>
    refine ⟨nofun, ?_⟩
    rintro _ ⟨⟩
    exact (hpresent record rfl).append now turn
  | @retained record n hfew =>
    refine ⟨nofun, ?_⟩
    rintro _ ⟨⟩
    have hcompacted := hpresent record rfl
    rw [hcompacted.length_turns] at hfew
    have hall : min kept n = kept := Nat.min_eq_left hfew
    dsimp only
    rw [List.append_nil, hall]
    exact hcompacted
  | @compacted record n hmore =>
    refine ⟨nofun, ?_⟩
    rintro _ ⟨⟩
    have hcompacted := hpresent record rfl
    have hless := hcompacted.length_turns ▸ hmore
    have hfewer : min kept n = n := Nat.min_eq_right hless.le
    dsimp only
    rw [List.append_nil, hfewer]
    exact hcompacted.compact now hmore

theorem conversations_of_run (hrun : conversationRuns.Run h s) (sessionId : String) :
    Conversations h s sessionId := by
  induction hrun with
  | start hinit =>
    rw [hinit]
    exact ⟨fun _ => ⟨rfl, rfl⟩, nofun⟩
  | @snoc h s call s' _ hst ih =>
    obtain ⟨habsent, hpresent⟩ :=
      Conversations.move ih.absent ih.present (conversationMove_perform s call sessionId)
    have happended : appendedTurns sessionId (h ++ [(s, call)]) =
        appendedTurns sessionId h ++ turnAppended sessionId s call := written_snoc _ _ _
    have hkept : keptTurns sessionId (h ++ [(s, call)]) =
        keptBy sessionId (keptTurns sessionId h) s call := by
      simp [keptTurns]
    rw [hst]
    constructor
    · rw [happended, hkept]
      exact habsent
    · rw [happended, hkept]
      exact hpresent

end run

section laws

variable {h : History ConversationStore ConversationCall} {s : ConversationStore}

def HaveOwnLines (turns : List RuntimeTurn) (summary : Option CodeUnits) : Prop :=
  (turns.map renderTurnLine).Sublist (splitLines (summary.getD []))

/-- A conversation retains its most recent turns, as many as the compactions leave. All the turns before
these are in the summary, each by its line, in their order, as far as the first characters of the
summary reach; while they all fit in it, they each have a line of their own. -/
structure KeepsTurns (turns : List RuntimeTurn) (kept : Nat) (record : ConversationRecord) : Prop where
  retained : record.turns = turns.drop (turns.length - kept) ∧ record.turns.length = kept
  summary : turns.take (turns.length - kept) ≠ [] → record.compactedSummary =
    some ((joinLines ((turns.take (turns.length - kept)).map renderTurnLine)).take 8000)
  unsummarized : turns.take (turns.length - kept) = [] → record.compactedSummary = none
  ownLines : (joinLines ((turns.take (turns.length - kept)).map renderTurnLine)).length ≤ 8000 →
    HaveOwnLines (turns.take (turns.length - kept)) record.compactedSummary
  oneLine : ∀ turn ∈ turns, lineFeed ∉ renderTurnLine turn

theorem Compacted.keepsTurns {turns : List RuntimeTurn} {kept : Nat} {record : ConversationRecord}
    (hcompacted : Compacted turns kept record) : KeepsTurns turns kept record := by
  refine ⟨⟨hcompacted.retained, hcompacted.length_turns⟩,
    fun hsome => hcompacted.summary.trans (if_neg hsome),
    fun hnone => hcompacted.summary.trans (if_pos hnone), fun hfits => ?_,
    fun turn _ => lineFeed_notMem_renderTurnLine turn⟩
  have hsummary := hcompacted.summary
  unfold HaveOwnLines
  rcases eq_or_ne (turns.rdrop kept) [] with hnone | hsome
  · have htake : turns.take (turns.length - kept) = [] := hnone
    rw [htake]
    exact List.nil_sublist _
  · rw [if_neg hsome] at hsummary
    have hlines : ∀ line ∈ (turns.rdrop kept).map renderTurnLine, lineFeed ∉ line := by
      intro line hline
      obtain ⟨turn, _, rfl⟩ := List.mem_map.mp hline
      exact lineFeed_notMem_renderTurnLine turn
    have hwhole : ((joinLines ((turns.rdrop kept).map renderTurnLine)).take summaryLimit) =
        joinLines ((turns.rdrop kept).map renderTurnLine) := List.take_of_length_le hfits
    rw [hsummary, Option.getD_some, hwhole, splitLines_joinLines hlines (by simpa using hsome)]
    exact List.Sublist.refl _

/-- In every run, whatever the compactions and the turns between them, every conversation keeps the
turns appended to it, as lines of its summary where they do not stay. -/
theorem compaction_keeps_turns (hrun : conversationRuns.Run h s) (sessionId : String)
    (record : ConversationRecord) (hrecord : s.get sessionId = some record) :
    KeepsTurns (appendedTurns sessionId h) (keptTurns sessionId h) record :=
  ((conversations_of_run hrun sessionId).present record hrecord).keepsTurns

theorem HaveOwnLines.length_le {turns : List RuntimeTurn} {summary : CodeUnits}
    (hlines : HaveOwnLines turns (some summary)) :
    (turns.map fun turn => (renderTurnLine turn).length + 1).sum ≤ summary.length + 1 := by
  have hne : splitLines summary ≠ [] := List.splitOn_ne_nil _ _
  have hsum := (hlines.map fun line => line.length + 1).sum_le_sum (by simp)
  rw [Option.getD_some, List.map_map] at hsum
  have hlength := length_joinLines hne
  have hjoined : joinLines (splitLines summary) = summary := List.intercalate_splitOn lineFeed
  rw [hjoined] at hlength
  rw [hlength]
  exact hsum

theorem exists_conversation (sessionId : String) (turns : List RuntimeTurn) :
    ∃ h s record, conversationRuns.Run h s ∧ s.get sessionId = some record ∧
      appendedTurns sessionId h = turns ∧ keptTurns sessionId h = turns.length := by
  induction turns using List.reverseRecOn with
  | nil =>
    have hrun : conversationRuns.Run [] .new := .start rfl
    have hnext : performConversation .new ⟨0, .upsert ⟨sessionId, "job", none⟩⟩ =
        new.put sessionId ⟨sessionId, "job", [], none, [], 0⟩ := rfl
    exact ⟨_, _, _, hrun.snoc (a := ⟨0, .upsert ⟨sessionId, "job", none⟩⟩) rfl,
      by rw [hnext, get_put, if_pos rfl], rfl, rfl⟩
  | append_singleton turns turn ih =>
    obtain ⟨h, s, record, hrun, hrecord, happended, hkept⟩ := ih
    have happends : sessionId = sessionId ∧ (s.get sessionId).isSome := ⟨rfl, by simp [hrecord]⟩
    obtain ⟨answer, hanswer⟩ := appendTurn_of_get 0 turn hrecord
    have hnext : performConversation s ⟨0, .appendTurn sessionId turn⟩ =
        s.put sessionId { record with turns := record.turns ++ [turn], updatedAt := 0 } := by
      unfold performConversation
      dsimp only
      rw [hanswer]
    refine ⟨_, _, _, hrun.snoc (a := ⟨0, .appendTurn sessionId turn⟩) rfl,
      by rw [hnext, get_put, if_pos rfl], ?_, ?_⟩
    · unfold appendedTurns at happended ⊢
      rw [written_snoc, happended]
      exact congrArg (turns ++ ·) (if_pos happends)
    · have hlast : keptTurns sessionId (h ++ [(s, ⟨0, .appendTurn sessionId turn⟩)]) =
          keptBy sessionId (keptTurns sessionId h) s ⟨0, .appendTurn sessionId turn⟩ := by
        simp [keptTurns]
      rw [hlast, hkept, List.length_append]
      exact if_pos happends

theorem exists_compacted (sessionId : String) (turns : List RuntimeTurn) (hmany : 1 < turns.length) :
    ∃ h s record, conversationRuns.Run h s ∧ s.get sessionId = some record ∧
      appendedTurns sessionId h = turns ∧ keptTurns sessionId h = 1 := by
  obtain ⟨h, s, record, hrun, hrecord, happended, hkept⟩ := exists_conversation sessionId turns
  have hlength := ((conversations_of_run hrun sessionId).present record hrecord).length_turns
  rw [hkept] at hlength
  have hnext : performConversation s ⟨0, .compact sessionId 1⟩ =
      s.put sessionId (compactRecord record 0 1) := by
    rw [performConversation_compact, hrecord]
    exact if_pos ⟨rfl, le_rfl, by rw [hlength]; exact hmany⟩
  refine ⟨_, _, _, hrun.snoc (a := ⟨0, .compact sessionId 1⟩) rfl,
    by rw [hnext, get_put, if_pos rfl], ?_, ?_⟩
  · unfold appendedTurns at happended ⊢
    rw [written_snoc, happended]
    exact List.append_nil _
  · have hlast : keptTurns sessionId (h ++ [(s, ⟨0, .compact sessionId 1⟩)]) =
        keptBy sessionId (keptTurns sessionId h) s ⟨0, .compact sessionId 1⟩ := by
      simp [keptTurns]
    have hcompacts : keptBy sessionId turns.length s ⟨0, .compact sessionId 1⟩ =
        min turns.length 1 := if_pos ⟨rfl, by simp [hrecord], rfl, le_rfl⟩
    rw [hlast, hkept, hcompacts, Nat.min_eq_right hmany.le]

def longTurn : RuntimeTurn where
  role := .user
  content := String.ofList (List.replicate 160 'x')
  createdAt := 0

/-- Of 49 long turns compacted at once the last does not fit in the summary. -/
theorem long_turns_lose_lines :
    ¬∀ h s, conversationRuns.Run h s → ∀ sessionId record, s.get sessionId = some record →
      HaveOwnLines ((appendedTurns sessionId h).take
        ((appendedTurns sessionId h).length - keptTurns sessionId h)) record.compactedSummary := by
  intro hown
  obtain ⟨h, s, record, hrun, hrecord, happended, hkept⟩ :=
    exists_compacted "session" (List.replicate 50 longTurn) (by decide)
  have hsummary := ((conversations_of_run hrun "session").present record hrecord).summary
  have hlines := hown _ _ hrun "session" _ hrecord
  rw [happended, hkept] at hsummary hlines
  have hcompacted : (List.replicate 50 longTurn).rdrop 1 = List.replicate 49 longTurn := rfl
  have htaken : (List.replicate 50 longTurn).take ((List.replicate 50 longTurn).length - 1) =
      List.replicate 49 longTurn := rfl
  have hsome : List.replicate 49 longTurn ≠ [] := by simp
  rw [hcompacted, if_neg hsome] at hsummary
  rw [hsummary, htaken] at hlines
  have hline : (renderTurnLine longTurn).length = 168 := by decide +kernel
  have hfits := hlines.length_le
  have hlimit : summaryLimit = 8000 := rfl
  rw [List.map_replicate, List.sum_replicate_nat, hline, List.length_take, hlimit] at hfits
  omega

/-- A short conversation of which two turns are compacted. -/
theorem short_turns_keep_lines : ∃ h s record, conversationRuns.Run h s ∧
    s.get "session" = some record ∧
    KeepsTurns (appendedTurns "session" h) (keptTurns "session" h) record := by
  obtain ⟨h, s, record, hrun, hrecord, _, _⟩ := exists_compacted "session"
    [⟨⟨.user, "first request", none⟩, 0⟩, ⟨⟨.worker, "first answer", none⟩, 0⟩,
      ⟨⟨.user, "second request", none⟩, 0⟩] (by decide)
  exact ⟨h, s, record, hrun, hrecord, compaction_keeps_turns hrun "session" record hrecord⟩

end laws

end ShipyardCp.Properties
