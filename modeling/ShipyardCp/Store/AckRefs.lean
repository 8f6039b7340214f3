import ShipyardCp.Store.DocsService

/-! How acknowledgements are stored in the references of a task, and what a stale check reads of
them. -/

namespace ShipyardCp.Store

open Types Domain Lib

section split

variable {sep : Char} {text before after : List Char}

theorem splitFirst_eq_some_iff : splitFirst sep text = some (before, after) ↔
    text = before ++ sep :: after ∧ sep ∉ before := by
  unfold splitFirst
  constructor
  · intro h
    split at h
    · cases h
    · next found rest hdrop =>
      obtain ⟨rfl, rfl⟩ := Prod.mk.inj (Option.some.inj h)
      have hfound : found = sep := by
        have hhead := List.head?_dropWhile_not (fun c => decide (c ≠ sep)) text
        rw [hdrop] at hhead
        simpa using hhead
      have hkept := List.all_eq_true.mp (List.all_takeWhile (p := fun c => decide (c ≠ sep)) (l := text))
      refine ⟨?_, fun hmem => of_decide_eq_true (hkept sep hmem) rfl⟩
      rw [hfound] at hdrop
      rw [← hdrop, List.takeWhile_append_dropWhile]
  · rintro ⟨rfl, hfree⟩
    have hne : ∀ c ∈ before, decide (c ≠ sep) = true := by
      intro c hc
      rw [decide_eq_true_eq]
      rintro rfl
      exact hfree hc
    rw [List.dropWhile_append_of_pos hne, List.takeWhile_append_of_pos hne]
    simp

theorem splitLast_eq_some_iff : splitLast sep text = some (before, after) ↔
    text = before ++ sep :: after ∧ sep ∉ after := by
  unfold splitLast
  rw [Option.map_eq_some_iff]
  constructor
  · rintro ⟨⟨last, first⟩, hsplit, hparts⟩
    obtain ⟨rfl, rfl⟩ := Prod.mk.inj hparts
    obtain ⟨htext, hfree⟩ := splitFirst_eq_some_iff.mp hsplit
    refine ⟨?_, fun hmem => hfree (List.mem_reverse.mp hmem)⟩
    rw [← List.reverse_reverse text, htext]
    simp
  · rintro ⟨rfl, hfree⟩
    refine ⟨(after.reverse, before.reverse), splitFirst_eq_some_iff.mpr ⟨by simp, ?_⟩, by simp⟩
    exact fun hmem => hfree (List.mem_reverse.mp hmem)

end split

/-- The text is that of an acknowledgement of the document at the version, by its first colon after
the mark and its last. -/
def ReadsAs (ackRef docId version : String) : Prop :=
  ∃ head : String, ':' ∉ head.toList ∧ ':' ∉ version.toList ∧ ackRef = buildAckRef head docId version

theorem toList_buildAckRef (taskId docId version : String) :
    (buildAckRef taskId docId version).toList = 'a' :: 'c' :: 'k' :: ':' ::
      (taskId.toList ++ ':' :: (docId.toList ++ ':' :: version.toList)) := by
  unfold buildAckRef
  simp

theorem parseAckRef_eq_some_iff {ackRef docId version : String} :
    parseAckRef ackRef = some (docId, version) ↔ ReadsAs ackRef docId version := by
  unfold parseAckRef
  constructor
  · intro h
    split at h
    · next rest hrest =>
      obtain ⟨⟨head, afterTaskId⟩, hfirst, h⟩ := Option.bind_eq_some_iff.mp h
      obtain ⟨⟨doc, last⟩, hlast, h⟩ := Option.bind_eq_some_iff.mp h
      obtain ⟨rfl, rfl⟩ := Prod.mk.inj (Option.some.inj h)
      obtain ⟨rfl, hhead⟩ := splitFirst_eq_some_iff.mp hfirst
      obtain ⟨rfl, hversion⟩ := splitLast_eq_some_iff.mp hlast
      refine ⟨String.ofList head, by simpa using hhead, by simpa using hversion, ?_⟩
      rw [← String.toList_inj, hrest, toList_buildAckRef]
      simp
    · cases h
  · rintro ⟨head, hhead, hversion, rfl⟩
    rw [toList_buildAckRef]
    change ((splitFirst ':' _).bind fun p => (splitLast ':' p.2).bind fun q =>
      some (String.ofList q.1, String.ofList q.2)) = _
    rw [splitFirst_eq_some_iff.mpr ⟨rfl, hhead⟩, Option.bind_some,
      splitLast_eq_some_iff.mpr ⟨rfl, hversion⟩, Option.bind_some]
    simp

theorem ReadsAs.eq {ackRef docId version docId' version' : String} (h : ReadsAs ackRef docId version)
    (h' : ReadsAs ackRef docId' version') : docId = docId' ∧ version = version' := by
  have hsame := (parseAckRef_eq_some_iff.mpr h).symm.trans (parseAckRef_eq_some_iff.mpr h')
  exact Prod.mk.inj (Option.some.inj hsame)

theorem parseAckRefs_append (ackRefs : List String) (ackRef : String) :
    parseAckRefs (ackRefs ++ [ackRef]) = match parseAckRef ackRef with
      | some entry => (parseAckRefs ackRefs).set entry.1 entry.2
      | none => parseAckRefs ackRefs := by
  unfold parseAckRefs
  rw [List.filterMap_append]
  cases h : parseAckRef ackRef with
  | none => simp [h]
  | some entry => simp [h]

section acknowledge

variable {taskId docId version : String}

def ackRefOf (taskId : String) (request : AckDocsRequest) : String :=
  buildAckRef taskId request.docId request.version

/-- The references that acknowledgements leave, each where it was made for the first time. -/
def ackRefsOf (taskId : String) (requests : List AckDocsRequest) : List String :=
  requests.foldl (fun ackRefs request =>
    if ackRefOf taskId request ∈ ackRefs then ackRefs
    else ackRefs ++ [ackRefOf taskId request]) []

theorem ackRefsOf_append (requests : List AckDocsRequest) (request : AckDocsRequest) :
    ackRefsOf taskId (requests ++ [request]) =
      if ackRefOf taskId request ∈ ackRefsOf taskId requests then ackRefsOf taskId requests
      else ackRefsOf taskId requests ++ [ackRefOf taskId request] := by
  unfold ackRefsOf
  rw [List.foldl_append]
  rfl

theorem mem_ackRefsOf {requests : List AckDocsRequest} {ackRef : String} :
    ackRef ∈ ackRefsOf taskId requests ↔ ∃ request ∈ requests, ackRefOf taskId request = ackRef := by
  induction requests using List.reverseRecOn with
  | nil => simp [ackRefsOf]
  | append_singleton requests request ih =>
    rw [ackRefsOf_append]
    split_ifs with hmem
    · rw [ih]
      constructor
      · rintro ⟨r, hr, href⟩
        exact ⟨r, List.mem_append_left _ hr, href⟩
      · rintro ⟨r, hr, rfl⟩
        rcases List.mem_append.mp hr with hold | hnew
        · exact ⟨r, hold, rfl⟩
        · obtain rfl := List.mem_singleton.mp hnew
          exact ih.mp hmem
    · simp only [List.mem_append, ih, List.mem_singleton]
      grind

/-- Of the acknowledgements that read as the document, the one that was made for the first time last
reads as it at the version. -/
def LatestRead (taskId : String) (requests : List AckDocsRequest) (docId version : String) : Prop :=
  ∃ before request after, requests = before ++ request :: after ∧
    ReadsAs (ackRefOf taskId request) docId version ∧
    (∀ r ∈ before, ackRefOf taskId r ≠ ackRefOf taskId request) ∧
    ∀ later ∈ after, ∀ other, other ≠ version → ReadsAs (ackRefOf taskId later) docId other →
      ∃ r ∈ before, ackRefOf taskId r = ackRefOf taskId later

variable {requests : List AckDocsRequest} {request : AckDocsRequest}

theorem latestRead_of_append (h : LatestRead taskId (requests ++ [request]) docId version) :
    (ReadsAs (ackRefOf taskId request) docId version ∧
      ∀ r ∈ requests, ackRefOf taskId r ≠ ackRefOf taskId request) ∨
    LatestRead taskId requests docId version ∧ ∀ other, other ≠ version →
      ReadsAs (ackRefOf taskId request) docId other →
        ∃ r ∈ requests, ackRefOf taskId r = ackRefOf taskId request := by
  obtain ⟨before, first, after, hsplit, hreads, hfresh, hlater⟩ := h
  rcases List.eq_nil_or_concat after with rfl | ⟨after, last, rfl⟩
  · obtain ⟨rfl, hlast⟩ := List.append_inj' hsplit rfl
    obtain rfl : request = first := by simpa using hlast
    exact Or.inl ⟨hreads, hfresh⟩
  · rw [List.concat_eq_append, ← List.cons_append, ← List.append_assoc] at hsplit
    obtain ⟨rfl, hlast⟩ := List.append_inj' hsplit rfl
    obtain rfl : request = last := by simpa using hlast
    refine Or.inr ⟨⟨before, first, after, rfl, hreads, hfresh, fun later hmem => ?_⟩, ?_⟩
    · exact hlater later (by simp [hmem])
    · intro other hne hother
      obtain ⟨r, hr, hsame⟩ := hlater request (by simp) other hne hother
      exact ⟨r, by simp [hr], hsame⟩

theorem latestRead_append_of_mem (hmem : ackRefOf taskId request ∈ ackRefsOf taskId requests) :
    LatestRead taskId (requests ++ [request]) docId version ↔
      LatestRead taskId requests docId version := by
  obtain ⟨known, hknown, href⟩ := mem_ackRefsOf.mp hmem
  constructor
  · intro h
    rcases latestRead_of_append h with ⟨_, hfresh⟩ | ⟨hlatest, _⟩
    · exact absurd href (hfresh known hknown)
    · exact hlatest
  · rintro ⟨before, first, after, rfl, hreads, hfresh, hlater⟩
    refine ⟨before, first, after ++ [request], by simp, hreads, hfresh, ?_⟩
    intro later hmem other hother hreadsOther
    rcases List.mem_append.mp hmem with hold | hnew
    · exact hlater later hold other hother hreadsOther
    · obtain rfl := List.mem_singleton.mp hnew
      -- The reference was made in `before`, as `first`, or later and then again in `before`.
      rcases List.mem_append.mp hknown with hbefore | hafter
      · exact ⟨known, hbefore, href⟩
      · rcases List.mem_cons.mp hafter with rfl | hafter
        · rw [← href] at hreadsOther
          exact absurd (hreadsOther.eq hreads).2 hother
        · rw [← href] at hreadsOther
          obtain ⟨r, hr, hsame⟩ := hlater known hafter other hother hreadsOther
          exact ⟨r, hr, hsame.trans href⟩

theorem latestRead_append_of_reads {read : String}
    (hnew : ackRefOf taskId request ∉ ackRefsOf taskId requests)
    (hreads : ReadsAs (ackRefOf taskId request) docId read) :
    LatestRead taskId (requests ++ [request]) docId version ↔ read = version := by
  constructor
  · intro h
    rcases latestRead_of_append h with ⟨hreads', _⟩ | ⟨_, hlater⟩
    · exact (hreads.eq hreads').2
    · by_contra hne
      exact hnew (mem_ackRefsOf.mpr (hlater read hne hreads))
  · rintro rfl
    refine ⟨requests, request, [], rfl, hreads, fun r hr hsame => ?_, fun later hmem => ?_⟩
    · exact hnew (mem_ackRefsOf.mpr ⟨r, hr, hsame⟩)
    · cases hmem

theorem latestRead_append_of_not_reads
    (hother : ∀ read, ¬ReadsAs (ackRefOf taskId request) docId read) :
    LatestRead taskId (requests ++ [request]) docId version ↔
      LatestRead taskId requests docId version := by
  constructor
  · intro h
    rcases latestRead_of_append h with ⟨hreads, _⟩ | ⟨hlatest, _⟩
    · exact absurd hreads (hother version)
    · exact hlatest
  · rintro ⟨before, first, after, rfl, hreads, hfresh, hlater⟩
    refine ⟨before, first, after ++ [request], by simp, hreads, hfresh, ?_⟩
    intro later hmem other hne hreadsOther
    rcases List.mem_append.mp hmem with hold | hnew
    · exact hlater later hold other hne hreadsOther
    · obtain rfl := List.mem_singleton.mp hnew
      exact absurd hreadsOther (hother other)

theorem get?_parseAckRefs_ackRefsOf (requests : List AckDocsRequest) :
    (parseAckRefs (ackRefsOf taskId requests)).get? docId = some version ↔
      LatestRead taskId requests docId version := by
  induction requests using List.reverseRecOn with
  | nil =>
    refine iff_of_false (fun h => by cases h) ?_
    rintro ⟨before, first, after, hnil, _⟩
    simp at hnil
  | append_singleton requests request ih =>
    rw [ackRefsOf_append]
    split_ifs with hmem
    · rw [latestRead_append_of_mem hmem]
      exact ih
    · rw [parseAckRefs_append]
      cases hparse : parseAckRef (ackRefOf taskId request) with
      | none =>
        rw [latestRead_append_of_not_reads]
        · exact ih
        · intro read hreads
          rw [parseAckRef_eq_some_iff.mpr hreads] at hparse
          cases hparse
      | some entry =>
        obtain ⟨doc, read⟩ := entry
        dsimp only
        have hreads := parseAckRef_eq_some_iff.mp hparse
        rw [InsertionMap.get?_set]
        split_ifs with hdoc
        · rw [hdoc] at *
          rw [latestRead_append_of_reads hmem hreads, Option.some.injEq]
        · rw [latestRead_append_of_not_reads]
          · exact ih
          · intro other hreadsOther
            exact hdoc (hreadsOther.eq hreads).1

end acknowledge

end ShipyardCp.Store
