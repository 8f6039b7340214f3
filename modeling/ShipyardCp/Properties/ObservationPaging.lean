import ShipyardCp.Domain.ImprovementObservations
import ShipyardCp.Lib.Transition

/-! Reading the improvement observations page by page, following the cursors, while audit events are
added: what was selected at the start is read once and in order, and so is all that was still to come
when a page was asked for. -/

namespace ShipyardCp.Properties

open Domain Lib Machine Retrospective AuditEvent Std.TransCmp

/-- A window and a limit that the export accepts, with the values that it reads in them. -/
structure ObservationWindow (host : ImprovementHost) where
  since : Option String
  untilAt : Option String
  limit : Option ℚ
  sinceTime : Option Int
  untilTime : Option Int
  pageLimit : Nat
  since_parsed : parseTimestamp host since "since" = .ok sinceTime
  until_parsed : parseTimestamp host untilAt "until" = .ok untilTime
  in_order : ∀ a ∈ sinceTime, ∀ b ∈ untilTime, a ≤ b
  limit_normalized : normalizeLimit limit = .ok pageLimit

namespace ObservationWindow

variable {host : ImprovementHost} (w : ObservationWindow host)

/-- The query that asks for the page of a cursor. -/
def query (cursor : Option String) : ImprovementObservationQuery where
  since := w.since
  untilAt := w.untilAt
  cursor := cursor
  limit := w.limit

def selection (retrospectives : List Retrospective) (auditEvents : List AuditEvent) :
    List ExportItem :=
  selectItems host (exportItems auditEvents retrospectives) w.sinceTime w.untilTime

end ObservationWindow

/-- The audit events, and how far a reader has come. -/
structure ObservationReading where
  auditEvents : List AuditEvent
  cursor : Option String
  bundles : List ImprovementObservationBundle
  finished : Bool

/-- Asking for the next page, at a time and with a number of tasks, or adding events before it. -/
inductive ReadingOp where
  | request (now : String) (taskCount : Nat)
  | append (auditEvents : List AuditEvent)

def ReadingOp.isRequest : ReadingOp → Bool
  | .request _ _ => true
  | .append _ => false

section runs

variable {host : ImprovementHost} (w : ObservationWindow host) (retrospectives : List Retrospective)

/-- A request that throws has no next state; a bundle without a cursor is the last. -/
def readNext (s : ObservationReading) : ReadingOp → Option ObservationReading
  | .request now taskCount =>
    if s.finished then none
    else
      match exportObservations host now s.auditEvents retrospectives (w.query s.cursor) taskCount with
      | .error _ => none
      | .ok bundle => some { s with
          cursor := bundle.nextCursor
          bundles := s.bundles ++ [bundle]
          finished := bundle.nextCursor.isNone }
  | .append auditEvents =>
    if s.finished = true ∨ ¬((s.auditEvents ++ auditEvents).map eventId).Nodup then none
    else some { s with auditEvents := s.auditEvents ++ auditEvents }

def readingRuns (auditEvents : List AuditEvent) : Machine ObservationReading ReadingOp :=
  .ofNext (fun s => s = ⟨auditEvents, none, [], false⟩) (readNext w retrospectives)

/-- The items that the cursor of a reading has not come to. -/
def unread (s : ObservationReading) : List ExportItem :=
  let selected := w.selection retrospectives s.auditEvents
  match resolveCursor selected s.cursor with
  | .ok start => selected.drop start
  | .error _ => []

end runs

/-- A bundle holds the observations of a page. -/
structure ShowsPage (page : List ExportItem) (bundle : ImprovementObservationBundle) : Prop where
  gates : bundle.gateObservations = page.filterMap ExportItem.gate?
  evidence : bundle.evidenceConsumptionObservations = page.filterMap ExportItem.evidence?
  reflections : bundle.reflectionSummaries = page.filterMap ExportItem.reflection?

section ids

variable {event : AuditEvent} {item : ExportItem}

theorem mem_toExportItems (hmem : item ∈ toExportItems event) :
    item.id = "gate:" ++ event.eventId ∨ item.id = "evidence:" ++ event.eventId := by
  unfold toExportItems at hmem
  split_ifs at hmem
  · rw [List.mem_singleton] at hmem
    subst hmem
    exact Or.inl rfl
  · cases hobservation : toEvidenceObservation event with
    | none => simp [hobservation] at hmem
    | some observation =>
      rw [hobservation, List.mem_singleton] at hmem
      subst hmem
      unfold toEvidenceObservation at hobservation
      simp only [Option.bind_eq_bind, Option.bind_eq_some_iff, Option.pure_def,
        Option.some.injEq] at hobservation
      obtain ⟨_, _, _, _, rfl⟩ := hobservation
      exact Or.inr rfl
  · simp at hmem

theorem nodup_toExportItems (event : AuditEvent) : ((toExportItems event).map (·.id)).Nodup := by
  unfold toExportItems
  split_ifs
  · exact List.nodup_singleton _
  · cases toEvidenceObservation event with
    | none => exact List.nodup_nil
    | some _ => exact List.nodup_singleton _
  · exact List.nodup_nil

theorem ne_of_head? {a b : String} (hhead : a.toList.head? ≠ b.toList.head?) : a ≠ b :=
  fun heq => hhead (by rw [heq])

theorem gate_ne_evidence (a b : String) : "gate:" ++ a ≠ "evidence:" ++ b := ne_of_head? (by simp)

theorem reflectionItem_id (retrospective : Retrospective) :
    (reflectionItem retrospective).id = "reflection:" ++ retrospective.retrospectiveId :=
  rfl

theorem reflection_ne_of_mem {retrospective : Retrospective} (hmem : item ∈ toExportItems event) :
    item.id ≠ (reflectionItem retrospective).id := by
  rcases mem_toExportItems hmem with hid | hid
  · rw [hid, reflectionItem_id]
    exact ne_of_head? (by simp)
  · rw [hid, reflectionItem_id]
    exact ne_of_head? (by simp)

theorem eventId_inj {other : AuditEvent} (hmem : item ∈ toExportItems event) {item' : ExportItem}
    (hother : item' ∈ toExportItems other) (hid : item.id = item'.id) :
    event.eventId = other.eventId := by
  rcases mem_toExportItems hmem with h | h
  · rcases mem_toExportItems hother with h' | h'
    · rw [h, h'] at hid
      exact (String.append_right_inj _).mp hid
    · rw [h, h'] at hid
      exact absurd hid (gate_ne_evidence _ _)
  · rcases mem_toExportItems hother with h' | h'
    · rw [h, h'] at hid
      exact absurd hid.symm (gate_ne_evidence _ _)
    · rw [h, h'] at hid
      exact (String.append_right_inj _).mp hid

variable {auditEvents : List AuditEvent} {retrospectives : List Retrospective}

theorem nodup_exportItems (hevents : (auditEvents.map eventId).Nodup)
    (hretrospectives : (retrospectives.map retrospectiveId).Nodup) :
    ((exportItems auditEvents retrospectives).map (·.id)).Nodup := by
  unfold exportItems
  rw [List.map_append, List.nodup_append]
  refine ⟨?_, ?_, ?_⟩
  · rw [List.map_flatMap, List.nodup_flatMap]
    refine ⟨fun event _ => nodup_toExportItems event, ?_⟩
    have hpairs : auditEvents.Pairwise fun a b => a.eventId ≠ b.eventId := List.pairwise_map.mp hevents
    refine hpairs.imp fun {a b} hne => ?_
    rw [Function.onFun_apply, List.disjoint_left]
    intro id ha hb
    obtain ⟨item, hitem, rfl⟩ := List.mem_map.mp ha
    obtain ⟨item', hitem', hid⟩ := List.mem_map.mp hb
    exact hne (eventId_inj hitem hitem' hid.symm)
  · rw [List.map_map]
    refine List.pairwise_map.mpr ((List.pairwise_map.mp hretrospectives).imp fun {a b} hne heq => ?_)
    exact hne ((String.append_right_inj "reflection:").mp heq)
  · intro a ha b hb heq
    obtain ⟨item, hitem, rfl⟩ := List.mem_map.mp ha
    obtain ⟨event, _, hevent⟩ := List.mem_flatMap.mp hitem
    obtain ⟨reflection, hreflection, rfl⟩ := List.mem_map.mp hb
    obtain ⟨retrospective, _, rfl⟩ := List.mem_map.mp hreflection
    exact reflection_ne_of_mem hevent heq

theorem id_ne_empty (hmem : item ∈ exportItems auditEvents retrospectives) : item.id ≠ "" := by
  rcases List.mem_append.mp hmem with h | h
  · obtain ⟨event, _, hevent⟩ := List.mem_flatMap.mp h
    rcases mem_toExportItems hevent with hid | hid
    · rw [hid]
      exact ne_of_head? (by simp)
    · rw [hid]
      exact ne_of_head? (by simp)
  · obtain ⟨retrospective, _, rfl⟩ := List.mem_map.mp h
    rw [reflectionItem_id]
    exact ne_of_head? (by simp)

end ids

section selection

variable {host : ImprovementHost}

theorem isLE_then {a b : Ordering} : (a.then b).isLE = true ↔ a = .lt ∨ a = .eq ∧ b.isLE = true := by
  cases a <;> simp

theorem compareExportItems_total (a b : ExportItem) :
    (compareExportItems host a b).isLE = true ∨ (compareExportItems host b a).isLE = true := by
  have := host.transCmp
  unfold compareExportItems
  rw [@Std.OrientedCmp.eq_swap _ host.localeCompare _ a.occurredAt,
    @Std.OrientedCmp.eq_swap _ host.localeCompare _ a.id]
  cases host.localeCompare b.occurredAt a.occurredAt <;> cases host.localeCompare b.id a.id <;> simp

theorem compareExportItems_trans (a b c : ExportItem) (hab : (compareExportItems host a b).isLE = true)
    (hbc : (compareExportItems host b c).isLE = true) : (compareExportItems host a c).isLE = true := by
  have := host.transCmp
  unfold compareExportItems at *
  rw [isLE_then] at *
  rcases hab with hab | ⟨hab, hab'⟩
  · rcases hbc with hbc | ⟨hbc, -⟩
    · exact Or.inl (lt_trans hab hbc)
    · exact Or.inl (lt_of_lt_of_eq hab hbc)
  · rcases hbc with hbc | ⟨hbc, hbc'⟩
    · exact Or.inl (lt_of_eq_of_lt hab hbc)
    · exact Or.inr ⟨eq_trans hab hbc, isLE_trans hab' hbc'⟩

variable (w : ObservationWindow host) {auditEvents more : List AuditEvent}
  {retrospectives : List Retrospective}

theorem selection_sublist_perm (retrospectives : List Retrospective) (auditEvents : List AuditEvent) :
    ∃ l, l.Sublist (exportItems auditEvents retrospectives) ∧
      (w.selection retrospectives auditEvents).Perm l :=
  ⟨_, List.filter_sublist, List.perm_insertionSort _ _⟩

theorem nodup_selection (hevents : (auditEvents.map eventId).Nodup)
    (hretrospectives : (retrospectives.map retrospectiveId).Nodup) :
    ((w.selection retrospectives auditEvents).map (·.id)).Nodup := by
  obtain ⟨l, hsub, hperm⟩ := selection_sublist_perm w retrospectives auditEvents
  exact (hperm.map _).nodup_iff.mpr ((nodup_exportItems hevents hretrospectives).sublist (hsub.map _))

theorem mem_exportItems_of_mem_selection {item : ExportItem}
    (hmem : item ∈ w.selection retrospectives auditEvents) :
    item ∈ exportItems auditEvents retrospectives := by
  obtain ⟨l, hsub, hperm⟩ := selection_sublist_perm w retrospectives auditEvents
  exact hsub.subset (hperm.mem_iff.mp hmem)

theorem selection_append (hevents : ((auditEvents ++ more).map eventId).Nodup)
    (hretrospectives : (retrospectives.map retrospectiveId).Nodup) :
    (w.selection retrospectives (auditEvents ++ more)).filter
        (fun item => decide (item ∈ w.selection retrospectives auditEvents)) =
      w.selection retrospectives auditEvents := by
  let inWindow (item : ExportItem) := isWithinWindow host item.occurredAt w.sinceTime w.untilTime
  have hids := (nodup_exportItems hevents hretrospectives).sublist
    (List.Sublist.map _ (List.filter_sublist (p := inWindow)))
  have hmem (item : ExportItem) : item ∈ w.selection retrospectives auditEvents ↔
      item ∈ (auditEvents.flatMap toExportItems).filter inWindow ++
        (retrospectives.map reflectionItem).filter inWindow := by
    rw [← List.filter_append]
    exact (List.perm_insertionSort _ _).mem_iff
  have hitems : (exportItems (auditEvents ++ more) retrospectives).filter inWindow =
      (auditEvents.flatMap toExportItems).filter inWindow ++
        (more.flatMap toExportItems).filter inWindow ++
        (retrospectives.map reflectionItem).filter inWindow := by
    unfold exportItems
    rw [List.flatMap_append, List.filter_append, List.filter_append]
  simp only [hmem]
  unfold ObservationWindow.selection selectItems
  rw [filter_insertionSort compareExportItems_total compareExportItems_trans, hitems]
  rw [hitems] at hids
  rw [filter_mem_of_nodup_keys hids]
  unfold exportItems
  rw [List.filter_append]

end selection

section request

variable {host : ImprovementHost} {w : ObservationWindow host} {retrospectives : List Retrospective}
  {s : ObservationReading} {done rest : List ExportItem}

/-- A reading whose cursor is at a place of the selection: after the items that are done. -/
structure At (w : ObservationWindow host) (retrospectives : List Retrospective)
    (s : ObservationReading) (done rest : List ExportItem) : Prop where
  distinct : (s.auditEvents.map eventId).Nodup
  place : w.selection retrospectives s.auditEvents = done ++ rest
  cursor : s.finished = false → s.cursor = done.getLast?.map (·.id)

theorem resolveCursor_at (hretrospectives : (retrospectives.map retrospectiveId).Nodup)
    (hat : At w retrospectives s done rest) (hopen : s.finished = false) :
    resolveCursor (done ++ rest) s.cursor = .ok done.length := by
  rw [hat.cursor hopen]
  unfold resolveCursor
  rcases List.eq_nil_or_concat done with rfl | ⟨before, item, rfl⟩
  · rfl
  · have hmem : item ∈ w.selection retrospectives s.auditEvents := by
      rw [hat.place]
      simp
    have hne := id_ne_empty (mem_exportItems_of_mem_selection w hmem)
    have hsplit : before.concat item ++ rest = before ++ item :: rest := by simp
    have hids := nodup_selection w hat.distinct hretrospectives
    rw [hat.place, hsplit] at hids
    rw [hsplit, List.concat_eq_append, List.getLast?_append]
    simp only [List.getLast?_singleton, Option.some_or, Option.map_some, Option.filter_some, hne, ne_eq,
      not_false_eq_true, decide_true, if_true, findIdx?_key hids]
    rw [List.length_append, List.length_singleton]

theorem unread_at (hretrospectives : (retrospectives.map retrospectiveId).Nodup)
    (hat : At w retrospectives s done rest) (hopen : s.finished = false) :
    unread w retrospectives s = rest := by
  unfold unread
  simp only [hat.place, resolveCursor_at hretrospectives hat hopen]
  exact List.drop_left

theorem pageLimit_pos (w : ObservationWindow host) : 0 < w.pageLimit := by
  have hlimit := w.limit_normalized
  unfold normalizeLimit at hlimit
  cases hw : w.limit with
  | none =>
    rw [hw] at hlimit
    have hvalue : 100 = w.pageLimit := Except.ok.inj hlimit
    omega
  | some limit =>
    rw [hw] at hlimit
    simp only at hlimit
    split_ifs at hlimit with hbad
    have hvalue : limit.num.toNat = w.pageLimit := Except.ok.inj hlimit
    simp only [not_or, not_lt] at hbad
    have hpos : 0 < limit.num := Rat.num_pos.mpr (lt_of_lt_of_le zero_lt_one hbad.2.1)
    omega

theorem exportObservations_at (hretrospectives : (retrospectives.map retrospectiveId).Nodup)
    (hat : At w retrospectives s done rest) (hopen : s.finished = false) (now : String)
    (taskCount : Nat) :
    ∃ bundle, exportObservations host now s.auditEvents retrospectives (w.query s.cursor) taskCount =
        .ok bundle ∧ ShowsPage (rest.take w.pageLimit) bundle ∧
      bundle.nextCursor = if w.pageLimit < rest.length then
        (rest.take w.pageLimit).getLast?.map (·.id) else none := by
  have horder : (w.sinceTime.any fun a => w.untilTime.any fun b => decide (b < a)) = false := by
    rw [Option.any_eq_false]
    intro a ha
    rw [Option.any_eq_false]
    intro b hb
    simpa using w.in_order a ha b hb
  have hselected : selectItems host (exportItems s.auditEvents retrospectives) w.sinceTime w.untilTime =
      done ++ rest := hat.place
  unfold exportObservations ObservationWindow.query
  simp only [w.since_parsed, w.until_parsed, w.limit_normalized, horder, hselected,
    resolveCursor_at hretrospectives hat hopen, List.drop_left, bind, Except.bind, pure, Except.pure]
  refine ⟨_, rfl, ⟨rfl, rfl, rfl⟩, ?_⟩
  have hmore : done.length + (rest.take w.pageLimit).length < (done ++ rest).length ↔
      w.pageLimit < rest.length := by
    rw [List.length_append, List.length_take]
    omega
  simp only [hmore]
  split_ifs
  · cases hlast : (rest.take w.pageLimit).getLast? with
    | none => rfl
    | some item =>
      have hmem : item ∈ w.selection retrospectives s.auditEvents := by
        rw [hat.place]
        exact List.mem_append_right _ (List.mem_of_mem_take (List.mem_of_getLast? hlast))
      simp [id_ne_empty (mem_exportItems_of_mem_selection w hmem)]
  · rfl

theorem readNext_request (hretrospectives : (retrospectives.map retrospectiveId).Nodup)
    (hat : At w retrospectives s done rest) (hopen : s.finished = false) (now : String)
    (taskCount : Nat) :
    ∃ bundle s', readNext w retrospectives s (.request now taskCount) = some s' ∧
      ShowsPage (rest.take w.pageLimit) bundle ∧ s'.bundles = s.bundles ++ [bundle] ∧
      s'.auditEvents = s.auditEvents ∧
      At w retrospectives s' (done ++ rest.take w.pageLimit) (rest.drop w.pageLimit) ∧
      (s'.finished = true ↔ rest.drop w.pageLimit = []) := by
  obtain ⟨bundle, hexport, hshows, hnext⟩ := exportObservations_at hretrospectives hat hopen now taskCount
  refine ⟨bundle, { s with
    cursor := bundle.nextCursor
    bundles := s.bundles ++ [bundle]
    finished := bundle.nextCursor.isNone }, ?_, hshows, rfl, rfl, ?_⟩
  · unfold readNext
    simp only [hopen, hexport, Bool.false_eq_true, if_false]
  have hpos := pageLimit_pos w
  by_cases hmore : w.pageLimit < rest.length
  · rw [if_pos hmore] at hnext
    have hpage : rest.take w.pageLimit ≠ [] := by
      rw [ne_eq, List.take_eq_nil_iff, not_or]
      exact ⟨by omega, List.ne_nil_of_length_pos (by omega)⟩
    obtain ⟨item, hlast⟩ := Option.isSome_iff_exists.mp (List.getLast?_isSome.mpr hpage)
    rw [hlast, Option.map_some] at hnext
    refine ⟨⟨hat.distinct, ?_, fun _ => ?_⟩, ?_⟩
    · rw [List.append_assoc, List.take_append_drop]
      exact hat.place
    · rw [hnext, List.getLast?_append, hlast]
      rfl
    · rw [hnext, List.drop_eq_nil_iff]
      simp only [Option.isNone_some, Bool.false_eq_true, false_iff]
      omega
  · rw [if_neg hmore] at hnext
    refine ⟨⟨hat.distinct, ?_, fun hopen' => ?_⟩, ?_⟩
    · rw [List.append_assoc, List.take_append_drop]
      exact hat.place
    · rw [hnext] at hopen'
      simp at hopen'
    · rw [hnext, List.drop_eq_nil_iff]
      simp only [Option.isNone_none, true_iff]
      omega

theorem readNext_append (hretrospectives : (retrospectives.map retrospectiveId).Nodup)
    {auditEvents : List AuditEvent} {s' : ObservationReading}
    (hat : At w retrospectives s done rest)
    (hnext : readNext w retrospectives s (.append auditEvents) = some s') :
    s.finished = false ∧ s'.finished = false ∧ s'.bundles = s.bundles ∧
      (w.selection retrospectives s'.auditEvents).filter
        (fun item => decide (item ∈ w.selection retrospectives s.auditEvents)) =
          w.selection retrospectives s.auditEvents ∧
      ∃ done' rest', At w retrospectives s' done' rest' ∧
        done'.filter (fun item => decide (item ∈ w.selection retrospectives s.auditEvents)) = done ∧
        rest'.filter (fun item => decide (item ∈ w.selection retrospectives s.auditEvents)) = rest := by
  unfold readNext at hnext
  obtain ⟨hallowed, hs'⟩ := Option.ite_none_left_eq_some.mp hnext
  obtain rfl := Option.some.inj hs'
  simp only [not_or, not_not, Bool.not_eq_true] at hallowed
  obtain ⟨hopen, hids⟩ := hallowed
  have hselection := selection_append w hids hretrospectives
  refine ⟨hopen, hopen, rfl, hselection, ?_⟩
  have hsplit := hselection.trans hat.place
  rcases List.eq_nil_or_concat done with rfl | ⟨before, item, rfl⟩
  · refine ⟨[], _, ⟨hids, rfl, fun _ => hat.cursor hopen⟩, rfl, ?_⟩
    exact hsplit
  · rw [List.concat_eq_append, List.append_assoc, List.singleton_append] at hsplit
    obtain ⟨before', rest', hplace, hbefore, hrest⟩ := exists_place_of_filter hsplit
    have hitem : item ∈ w.selection retrospectives s.auditEvents := by
      rw [hat.place]
      simp
    refine ⟨before' ++ [item], rest', ⟨hids, ?_, fun _ => ?_⟩, ?_, hrest⟩
    · rw [List.append_assoc]
      exact hplace
    · rw [List.getLast?_append]
      have hcursor := hat.cursor hopen
      rw [List.concat_eq_append, List.getLast?_append] at hcursor
      exact hcursor
    · rw [List.filter_append, hbefore, List.concat_eq_append, List.filter_cons]
      simp [hitem]

end request

section reading

variable {host : ImprovementHost} (w : ObservationWindow host) (retrospectives : List Retrospective)
  (auditEvents : List AuditEvent)

/-- The pages read so far, and where the reading is: nothing that was selected at the start, or was
unread in a state before, is neither read nor still to come. -/
structure ReadThrough (h : History ObservationReading ReadingOp) (s : ObservationReading)
    (pages : List (List ExportItem)) (done rest : List ExportItem) : Prop where
  at_place : At w retrospectives s done rest
  ended : s.finished = true → rest = []
  shown : List.Forall₂ ShowsPage pages s.bundles
  bounded : ∀ page ∈ pages, page.length ≤ w.pageLimit
  read : pages.flatten.Sublist done
  kept : ∀ item ∈ w.selection retrospectives auditEvents,
    item ∈ w.selection retrospectives s.auditEvents
  initial : (pages.flatten ++ rest).filter
      (fun item => decide (item ∈ w.selection retrospectives auditEvents)) =
    w.selection retrospectives auditEvents
  found : ∀ u ∈ states h s, u.finished = false → ∀ item ∈ unread w retrospectives u,
    item ∈ pages.flatten ++ rest

variable {w retrospectives auditEvents} {h : History ObservationReading ReadingOp}
  {s s' : ObservationReading} {pages : List (List ExportItem)} {done rest : List ExportItem}

theorem readThrough_start (hretrospectives : (retrospectives.map retrospectiveId).Nodup)
    (hevents : (auditEvents.map eventId).Nodup) :
    ReadThrough w retrospectives auditEvents [] ⟨auditEvents, none, [], false⟩ [] []
      (w.selection retrospectives auditEvents) := by
  have hat : At w retrospectives ⟨auditEvents, none, [], false⟩ []
      (w.selection retrospectives auditEvents) := ⟨hevents, rfl, fun _ => rfl⟩
  refine ⟨hat, fun hfinished => by simp at hfinished, .nil, by simp, .slnil, fun _ hmem => hmem, ?_, ?_⟩
  · exact List.filter_eq_self.mpr fun item hitem => decide_eq_true hitem
  · intro u hu hopen item hitem
    obtain rfl : u = ⟨auditEvents, none, [], false⟩ := by simpa [states] using hu
    rw [unread_at hretrospectives hat hopen] at hitem
    exact hitem

theorem readThrough_request
    (hretrospectives : (retrospectives.map retrospectiveId).Nodup) {now : String}
    {taskCount : Nat} (hread : ReadThrough w retrospectives auditEvents h s pages done rest)
    (hnext : readNext w retrospectives s (.request now taskCount) = some s') :
    ReadThrough w retrospectives auditEvents (h ++ [(s, .request now taskCount)]) s'
      (pages ++ [rest.take w.pageLimit]) (done ++ rest.take w.pageLimit) (rest.drop w.pageLimit) := by
  have hopen : s.finished = false := by
    cases hfinished : s.finished with
    | false => rfl
    | true => simp [readNext, hfinished] at hnext
  obtain ⟨bundle, t, hrequest, hshows, hbundles, hsame, hat, hended⟩ :=
    readNext_request hretrospectives hread.at_place hopen now taskCount
  obtain rfl : t = s' := Option.some.inj (hrequest.symm.trans hnext)
  have hflat : (pages ++ [rest.take w.pageLimit]).flatten ++ rest.drop w.pageLimit =
      pages.flatten ++ rest := by
    rw [List.flatten_append, List.flatten_singleton, List.append_assoc, List.take_append_drop]
  refine ⟨hat, hended.mp, ?_, ?_, ?_, ?_, ?_, ?_⟩
  · rw [hbundles]
    exact List.rel_append hread.shown (.cons hshows .nil)
  · intro page hpage
    rcases List.mem_append.mp hpage with hpage | hpage
    · exact hread.bounded page hpage
    · rw [List.mem_singleton.mp hpage]
      exact List.length_take_le _ _
  · rw [List.flatten_append, List.flatten_singleton]
    exact hread.read.append (.refl _)
  · rw [hsame]
    exact hread.kept
  · rw [hflat]
    exact hread.initial
  · intro u hu hunfinished item hitem
    rw [hflat]
    rw [states_snoc, List.mem_append, List.mem_singleton] at hu
    rcases hu with hu | rfl
    · exact hread.found u hu hunfinished item hitem
    · rw [unread_at hretrospectives hat hunfinished] at hitem
      exact List.mem_append_right _ (List.mem_of_mem_drop hitem)

theorem readThrough_append (hretrospectives : (retrospectives.map retrospectiveId).Nodup)
    {more : List AuditEvent} (hread : ReadThrough w retrospectives auditEvents h s pages done rest)
    (hnext : readNext w retrospectives s (.append more) = some s') :
    ∃ done' rest', ReadThrough w retrospectives auditEvents (h ++ [(s, .append more)]) s' pages
      done' rest' := by
  obtain ⟨hopen, hopen', hbundles, hselection, done', rest', hat, hdone, hrest⟩ :=
    readNext_append hretrospectives hread.at_place hnext
  have hrestSub : rest.Sublist rest' := by
    rw [← hrest]
    exact List.filter_sublist
  refine ⟨done', rest', hat, ?_, ?_, hread.bounded, ?_, ?_, ?_, ?_⟩
  · intro hfinished
    rw [hopen'] at hfinished
    simp at hfinished
  · rw [hbundles]
    exact hread.shown
  · have hdoneSub : done.Sublist done' := by
      rw [← hdone]
      exact List.filter_sublist
    exact hread.read.trans hdoneSub
  · intro item hitem
    have hbefore := hread.kept item hitem
    rw [← hselection] at hbefore
    exact List.mem_of_mem_filter hbefore
  · have hinitial := hread.initial
    rw [← hrest, List.filter_append, List.filter_filter] at hinitial
    refine Eq.trans ?_ hinitial
    rw [List.filter_append]
    congr 1
    refine List.filter_congr fun item _ => ?_
    rw [← Bool.decide_and, decide_eq_decide]
    exact ⟨fun hmem => ⟨hmem, hread.kept item hmem⟩, And.left⟩
  · intro u hu hunfinished item hitem
    rw [states_snoc, List.mem_append, List.mem_singleton] at hu
    rcases hu with hu | rfl
    · rcases List.mem_append.mp (hread.found u hu hunfinished item hitem) with hmem | hmem
      · exact List.mem_append_left _ hmem
      · exact List.mem_append_right _ (hrestSub.subset hmem)
    · rw [unread_at hretrospectives hat hunfinished] at hitem
      exact List.mem_append_right _ hitem

theorem readThrough_of_run (hretrospectives : (retrospectives.map retrospectiveId).Nodup)
    (hevents : (auditEvents.map eventId).Nodup)
    (hrun : (readingRuns w retrospectives auditEvents).Run h s) :
    ∃ pages done rest, ReadThrough w retrospectives auditEvents h s pages done rest := by
  induction hrun with
  | @start s hinit =>
    obtain rfl : s = _ := hinit
    exact ⟨_, _, _, readThrough_start hretrospectives hevents⟩
  | @snoc h s op s' _ hstep ih =>
    obtain ⟨pages, done, rest, hread⟩ := ih
    cases op with
    | request now taskCount =>
      exact ⟨_, _, _, readThrough_request hretrospectives hread hstep⟩
    | append more =>
      obtain ⟨done', rest', hread'⟩ := readThrough_append hretrospectives hread hstep
      exact ⟨_, _, _, hread'⟩

theorem exists_requests (hretrospectives : (retrospectives.map retrospectiveId).Nodup)
    (hat : At w retrospectives s done rest) (hopen : s.finished = false) :
    ∃ more t, (readingRuns w retrospectives auditEvents).Path s more t ∧
      Steps (fun _ op => op.isRequest = true) more ∧ t.finished = true := by
  induction hn : rest.length using Nat.strong_induction_on generalizing s done rest with
  | _ n ih =>
    obtain ⟨bundle, s', hnext, -, -, -, hat', hended⟩ :=
      readNext_request hretrospectives hat hopen "" 0
    have hstep : (readingRuns w retrospectives auditEvents).step s (.request "" 0) s' := hnext
    cases hopen' : s'.finished with
    | true => exact ⟨[(s, .request "" 0)], s', .cons hstep .nil, by simp [ReadingOp.isRequest], hopen'⟩
    | false =>
      have hmore : rest.drop w.pageLimit ≠ [] := by
        intro hnil
        rw [hended.mpr hnil] at hopen'
        simp at hopen'
      rw [ne_eq, List.drop_eq_nil_iff, not_le] at hmore
      have hshorter : (rest.drop w.pageLimit).length < n := by
        rw [List.length_drop]
        have hpos := pageLimit_pos w
        omega
      obtain ⟨more, t, hpath, hrequests, hfinished⟩ := ih _ hshorter hat' hopen' rfl
      exact ⟨(s, .request "" 0) :: more, t, .cons hstep hpath,
        (steps_cons _ _ _ _).mpr ⟨rfl, hrequests⟩, hfinished⟩

/-- Whatever events are added between the requests, the requests never throw and come to the last page;
then the pages, which the bundles show, are no longer than the limit and together hold different items
in the order of the selection: all those selected at the start in their order, and all that were unread
in some state before. -/
theorem pages_complete (hretrospectives : (retrospectives.map retrospectiveId).Nodup)
    (hevents : (auditEvents.map eventId).Nodup)
    (hrun : (readingRuns w retrospectives auditEvents).Run h s) :
    (s.finished = false →
      (∀ now taskCount, (readNext w retrospectives s (.request now taskCount)).isSome = true) ∧
      ∃ more t, (readingRuns w retrospectives auditEvents).Path s more t ∧
        Steps (fun _ op => op.isRequest = true) more ∧ t.finished = true) ∧
    (s.finished = true → ∃ pages : List (List ExportItem),
      List.Forall₂ ShowsPage pages s.bundles ∧ (∀ page ∈ pages, page.length ≤ w.pageLimit) ∧
      (pages.flatten.map (·.id)).Nodup ∧
      pages.flatten.Sublist (w.selection retrospectives s.auditEvents) ∧
      pages.flatten.filter (fun item => decide (item ∈ w.selection retrospectives auditEvents)) =
        w.selection retrospectives auditEvents ∧
      (s.auditEvents = auditEvents → pages.flatten = w.selection retrospectives auditEvents) ∧
      ∀ u ∈ states h s, u.finished = false → ∀ item ∈ unread w retrospectives u,
        item ∈ pages.flatten) := by
  obtain ⟨pages, done, rest, hread⟩ := readThrough_of_run hretrospectives hevents hrun
  constructor
  · intro hopen
    refine ⟨fun now taskCount => ?_, exists_requests hretrospectives hread.at_place hopen⟩
    obtain ⟨_, s', hnext, _⟩ := readNext_request hretrospectives hread.at_place hopen now taskCount
    rw [hnext]
    rfl
  intro hfinished
  obtain rfl := hread.ended hfinished
  have hplace := hread.at_place.place
  rw [List.append_nil] at hplace
  have hsub : pages.flatten.Sublist (w.selection retrospectives s.auditEvents) := by
    rw [hplace]
    exact hread.read
  have hinitial := hread.initial
  rw [List.append_nil] at hinitial
  have hnodup := nodup_selection w hread.at_place.distinct hretrospectives
  refine ⟨pages, hread.shown, hread.bounded, hnodup.sublist (hsub.map _), hsub, hinitial, ?_, ?_⟩
  · intro hsame
    rw [hsame] at hsub
    rw [← hinitial]
    exact (List.filter_eq_self.mpr fun item hitem => decide_eq_true (hsub.subset hitem)).symm
  · intro u hu hopen item hitem
    have hmem := hread.found u hu hopen item hitem
    rw [List.append_nil] at hmem
    exact hmem

end reading

section example_run

def oneDateHost : ImprovementHost where
  parseDate text := if text = "2026-01-01T00:00:00.000Z" then some 1767225600000 else none
  localeCompare := compare
  transCmp := inferInstance

/-- Everything, one observation a page. -/
def singleItemPages : ObservationWindow oneDateHost where
  since := none
  untilAt := none
  limit := some 1
  sinceTime := none
  untilTime := none
  pageLimit := 1
  since_parsed := rfl
  until_parsed := rfl
  in_order := by simp
  limit_normalized := by decide +kernel

def gateEvent (eventId : String) : AuditEvent where
  eventId := eventId
  eventType := "run.systemGateEvaluated"
  taskId := "task"
  runId := none
  payload := .obj []
  occurredAt := "2026-01-01T00:00:00.000Z"

def gateEvents : List AuditEvent := ["b", "d", "f"].map gateEvent

def lateEventScript : List (ObservationReading → Option ReadingOp) :=
  [.request "now" 1, .request "now" 1, .append [gateEvent "c"], .request "now" 1].map
    fun op _ => some op

theorem exists_readingRun {script : List (ObservationReading → Option ReadingOp)}
    {test : History ObservationReading ReadingOp × ObservationReading → Bool}
    (h : (Machine.replay (readNext singleItemPages []) ⟨gateEvents, none, [], false⟩ script).any test =
      true) :
    ∃ h s, (readingRuns singleItemPages [] gateEvents).Run h s ∧ test (h, s) = true :=
  Machine.exists_run_of_replay rfl h

theorem pages_complete_run : ∃ h s, (readingRuns singleItemPages [] gateEvents).Run h s ∧
    s.bundles.length = 3 ∧ ∃ pages : List (List ExportItem), List.Forall₂ ShowsPage pages s.bundles ∧
      pages.flatten.filter (fun item => decide (item ∈ singleItemPages.selection [] gateEvents)) =
        singleItemPages.selection [] gateEvents := by
  have hplayed : (Machine.replay (readNext singleItemPages []) ⟨gateEvents, none, [], false⟩
      lateEventScript).any (fun p => p.2.finished && p.2.bundles.length == 3) = true := by
    decide +kernel
  obtain ⟨h, s, hrun, htest⟩ := exists_readingRun hplayed
  rw [Bool.and_eq_true, beq_iff_eq] at htest
  have hcomplete := pages_complete (by decide) (by decide) hrun
  obtain ⟨pages, hshown, _, _, _, hinitial, _⟩ := hcomplete.2 htest.1
  exact ⟨h, s, hrun, htest.2, pages, hshown, hinitial⟩

/-- An event that is added with the time of all the others and sorts after the first page is read in no
page, because the page after it was already read. -/
theorem lateEvent_missed : ∃ h s, (readingRuns singleItemPages [] gateEvents).Run h s ∧
    s.finished = true ∧ s.auditEvents.map eventId = ["b", "d", "f", "c"] ∧
    (∀ event ∈ s.auditEvents, event.occurredAt = "2026-01-01T00:00:00.000Z") ∧
    ∃ u ∈ states h s, u.bundles.length = 1 ∧
      ∃ item ∈ unread singleItemPages [] { u with auditEvents := s.auditEvents },
        ∀ bundle ∈ s.bundles, ∀ observation ∈ bundle.gateObservations,
          observation.observationId ≠ item.id := by
  have hplayed : (Machine.replay (readNext singleItemPages []) ⟨gateEvents, none, [], false⟩
      lateEventScript).any (fun p => decide (p.2.finished = true ∧
        p.2.auditEvents.map eventId = ["b", "d", "f", "c"] ∧
        (∀ event ∈ p.2.auditEvents, event.occurredAt = "2026-01-01T00:00:00.000Z") ∧
        ∃ u ∈ states p.1 p.2, u.bundles.length = 1 ∧
          ∃ item ∈ unread singleItemPages [] { u with auditEvents := p.2.auditEvents },
            ∀ bundle ∈ p.2.bundles, ∀ observation ∈ bundle.gateObservations,
              observation.observationId ≠ item.id)) = true := by
    decide +kernel
  obtain ⟨h, s, hrun, htest⟩ := exists_readingRun hplayed
  exact ⟨h, s, hrun, of_decide_eq_true htest⟩

end example_run

end ShipyardCp.Properties
