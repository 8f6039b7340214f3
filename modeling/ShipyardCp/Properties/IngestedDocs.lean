import ShipyardCp.MemxResolver.DocsService

/-! Which titles get the same document id, and when interleaved ingests leave each document with its own
chunks. -/

namespace ShipyardCp.Properties

open Lib MemxResolver InMemoryBackend IngestState

/-- The longest runs of slug characters; `current` is the run being read. -/
def wordsFrom (current : List Char) : List Char → List (List Char)
  | [] => if current = [] then [] else [current]
  | c :: cs =>
    if isSlugChar c then wordsFrom (current ++ [c]) cs
    else (if current = [] then [] else [current]) ++ wordsFrom [] cs

def titleWords (title : String) : List (List Char) := wordsFrom [] (JsText.toLowerCase title.toList)

section slug

theorem wordsFrom_ne_nil {current : List Char} (hcurrent : current ≠ []) (cs : List Char) :
    wordsFrom current cs ≠ [] := by
  induction cs generalizing current with
  | nil => simp [wordsFrom, hcurrent]
  | cons c cs ih =>
    rw [wordsFrom]
    split
    · exact ih (by simp)
    · simp

theorem of_mem_wordsFrom {current cs word : List Char} (hcurrent : ∀ c ∈ current, isSlugChar c = true)
    (hword : word ∈ wordsFrom current cs) : word ≠ [] ∧ ∀ c ∈ word, isSlugChar c = true := by
  induction cs generalizing current with
  | nil =>
    rw [wordsFrom] at hword
    split at hword
    · simp at hword
    · next hne =>
      obtain rfl := List.mem_singleton.mp hword
      exact ⟨hne, hcurrent⟩
  | cons c cs ih =>
    rw [wordsFrom] at hword
    split at hword
    · next hc =>
      refine ih (fun d hd => ?_) hword
      rcases List.mem_append.mp hd with hd | hd
      · exact hcurrent d hd
      · rw [List.mem_singleton.mp hd, hc]
    · rcases List.mem_append.mp hword with hword | hword
      · split at hword
        · simp at hword
        · next hne =>
          obtain rfl := List.mem_singleton.mp hword
          exact ⟨hne, hcurrent⟩
      · exact ih (by simp) hword

theorem dash_not_slugChar : isSlugChar '-' = false := by decide

theorem stripEnd_append {text : List Char} (htext : text ≠ []) (before : List Char) :
    stripEnd (before ++ text) = before ++ stripEnd text := by
  rw [stripEnd, stripEnd, List.getLast?_append_of_ne_nil _ htext]
  split
  · rw [List.dropLast_append_of_ne_nil htext]
  · rfl

theorem stripEnd_of_slugChars {word : List Char} (hword : ∀ c ∈ word, isSlugChar c = true) :
    stripEnd word = word := by
  rw [stripEnd, if_neg]
  intro hlast
  have hslug := hword '-' (List.mem_of_getLast? hlast)
  rw [dash_not_slugChar] at hslug
  cases hslug

theorem stripEnd_collapse (cs : List Char) :
    (∀ current, current ≠ [] → (∀ c ∈ current, isSlugChar c = true) →
      stripEnd (current ++ collapse false cs) = List.intercalate ['-'] (wordsFrom current cs)) ∧
    stripEnd ('-' :: collapse true cs) =
      if wordsFrom [] cs = [] then [] else '-' :: List.intercalate ['-'] (wordsFrom [] cs) := by
  induction cs with
  | nil =>
    constructor
    · intro current hne hslug
      simp [collapse, wordsFrom, hne, stripEnd_of_slugChars hslug]
    · simp [collapse, wordsFrom, stripEnd]
  | cons c cs ih =>
    by_cases hc : isSlugChar c = true
    · constructor
      · intro current hne hslug
        have hmore := ih.1 (current ++ [c]) (by simp) fun d hd => by
          rcases List.mem_append.mp hd with hd | hd
          · exact hslug d hd
          · rw [List.mem_singleton.mp hd, hc]
        rw [collapse, if_pos hc, wordsFrom, if_pos hc, ← hmore]
        simp
      · have hword := ih.1 [c] (by simp) (by simpa using hc)
        have hwords : wordsFrom [] (c :: cs) = wordsFrom [c] cs := by
          rw [wordsFrom, if_pos hc, List.nil_append]
        rw [hwords, if_neg (wordsFrom_ne_nil (by simp) cs), ← hword, collapse, if_pos hc]
        exact stripEnd_append (by simp) ['-']
    · have hwords : wordsFrom [] (c :: cs) = wordsFrom [] cs := by
        rw [wordsFrom, if_neg hc]
        simp
      constructor
      · intro current hne hslug
        rw [collapse, if_neg hc, if_neg (by simp), stripEnd_append (by simp), ih.2, wordsFrom,
          if_neg hc, if_neg hne]
        split
        · next hnil => simp [hnil]
        · next hsome =>
          rw [List.singleton_append, List.intercalate_cons_of_ne_nil hsome]
          simp
      · rw [hwords, ← ih.2, collapse, if_neg hc, if_pos rfl]

theorem slug_eq (title : String) : slug title = List.intercalate ['-'] (titleWords title) := by
  rw [slug, titleWords]
  cases JsText.toLowerCase title.toList with
  | nil => rfl
  | cons c cs =>
    obtain ⟨hword, hdash⟩ := stripEnd_collapse cs
    by_cases hc : isSlugChar c = true
    · have hne : c ≠ '-' := by
        rintro rfl
        rw [dash_not_slugChar] at hc
        cases hc
      rw [collapse, if_pos hc, wordsFrom, if_pos hc, List.nil_append,
        ← hword [c] (by simp) (by simpa using hc)]
      simp [stripDashes, hne]
    · rw [collapse, if_neg hc, if_neg (by simp), wordsFrom, if_neg hc, stripDashes]
      simp only [if_true, List.nil_append]
      by_cases hrest : collapse true cs = []
      · rw [hrest] at hdash ⊢
        split at hdash
        · next hnil => simp [hnil, stripEnd]
        · simp [stripEnd] at hdash
      · have hcons := stripEnd_append hrest ['-']
        rw [List.singleton_append, hdash] at hcons
        split at hcons
        · simp at hcons
        · exact ((List.cons.inj hcons).2).symm

theorem dash_not_mem_word {title : String} {word : List Char} (hword : word ∈ titleWords title) :
    '-' ∉ word := by
  intro hdash
  have hslug := (of_mem_wordsFrom (by simp) hword).2 '-' hdash
  rw [dash_not_slugChar] at hslug
  cases hslug

theorem slug_eq_iff {title other : String} :
    slug title = slug other ↔ titleWords title = titleWords other := by
  constructor
  · intro hslug
    rw [slug_eq, slug_eq] at hslug
    have hnil : ∀ {t u : String}, titleWords t = [] →
        List.intercalate ['-'] (titleWords t) = List.intercalate ['-'] (titleWords u) →
        titleWords u = [] := by
      intro t u ht heq
      by_contra hu
      have hsplit := List.splitOn_intercalate '-' (fun _ => dash_not_mem_word) hu
      rw [← heq, ht] at hsplit
      have hempty : [] ∈ titleWords u := by
        rw [← hsplit]
        simp
      exact (of_mem_wordsFrom (by simp) hempty).1 rfl
    by_cases htitle : titleWords title = []
    · rw [htitle, hnil htitle hslug]
    · have hother : titleWords other ≠ [] := fun h => htitle (hnil h hslug.symm)
      rw [← List.splitOn_intercalate '-' (fun _ => dash_not_mem_word) htitle, hslug,
        List.splitOn_intercalate '-' (fun _ => dash_not_mem_word) hother]
  · intro hwords
    rw [slug_eq, slug_eq, hwords]

theorem colon_not_mem_slug (title : String) : ':' ∉ slug title := by
  have hcollapse : ∀ (cs : List Char) (dashed : Bool), ':' ∉ collapse dashed cs := by
    intro cs
    induction cs with
    | nil => simp [collapse]
    | cons c cs ih =>
      intro dashed hmem
      rw [collapse] at hmem
      split at hmem
      · next hc =>
        rcases List.mem_cons.mp hmem with rfl | hmem
        · exact absurd hc (by decide)
        · exact ih false hmem
      · split at hmem
        · exact ih true hmem
        · rcases List.mem_cons.mp hmem with hmem | hmem
          · exact absurd hmem (by decide)
          · exact ih true hmem
  have hstrip : ∀ text : List Char, ':' ∉ text → ':' ∉ stripEnd text := by
    intro text htext hmem
    rw [stripEnd] at hmem
    split at hmem
    · exact htext (List.mem_of_mem_dropLast hmem)
    · exact htext hmem
  rw [slug]
  have hcs := hcollapse (JsText.toLowerCase title.toList) false
  generalize collapse false (JsText.toLowerCase title.toList) = text at hcs
  unfold stripDashes
  split
  · next rest => exact hstrip rest fun hmem => hcs (List.mem_cons_of_mem _ hmem)
  · exact hstrip text hcs

theorem append_colon_inj {a b s t : List Char} (hs : ':' ∉ s) (ht : ':' ∉ t)
    (h : a ++ ':' :: s = b ++ ':' :: t) : a = b ∧ s = t := by
  rcases List.append_eq_append_iff.mp h with ⟨mid, hb, hrest⟩ | ⟨mid, ha, hrest⟩
  · cases mid with
    | nil =>
      rw [List.nil_append] at hrest
      exact ⟨by simpa using hb.symm, (List.cons.inj hrest).2⟩
    | cons c mid =>
      rw [List.cons_append] at hrest
      exact absurd ((List.cons.inj hrest).2 ▸ by simp) hs
  · cases mid with
    | nil =>
      rw [List.nil_append] at hrest
      exact ⟨by simpa using ha, (List.cons.inj hrest).2.symm⟩
    | cons c mid =>
      rw [List.cons_append] at hrest
      exact absurd ((List.cons.inj hrest).2 ▸ by simp) ht

theorem generateDocId_eq_iff {docType title docType' title' : String} :
    generateDocId docType title = generateDocId docType' title' ↔
      docType = docType' ∧ titleWords title = titleWords title' := by
  rw [← slug_eq_iff]
  constructor
  · intro h
    have hchars : docType.toList ++ ':' :: slug title = docType'.toList ++ ':' :: slug title' := by
      simpa [generateDocId, toString] using congrArg String.toList h
    obtain ⟨htype, hslug⟩ :=
      append_colon_inj (colon_not_mem_slug title) (colon_not_mem_slug title') hchars
    exact ⟨String.toList_injective htype, hslug⟩
  · rintro ⟨rfl, hslug⟩
    rw [generateDocId, generateDocId, hslug]

end slug

section runs

variable {store : DocumentStore}

def SameDocument (call other : IngestCall) : Prop :=
  call.request.docType = other.request.docType ∧ call.request.title = other.request.title

/-- Ingests of different types or titles have different ids; and once all have returned, each finds its
document with the version and the chunks of one ingest of the same type and title. -/
structure IngestsKept (s : IngestState store) : Prop where
  ids : ∀ call ∈ s.calls, ∀ other ∈ s.calls, ¬SameDocument call other → call.docId ≠ other.docId
  retrievable : (∀ call ∈ s.calls, call.phase = .returned) → ∀ call ∈ s.calls,
    ∃ other ∈ s.calls, SameDocument other call ∧
      store.getDocument s.stored call.docId = some other.doc ∧
      s.getVersions [call.docId] = [(call.docId, other.request.version, true)] ∧
      store.getChunksByDocId s.stored call.docId = other.chunks

/-- A call is made for a title whose words are those of no other title of its type; and a call stores its
chunks while the document stored is that of a call with the same chunks, or of another one that has its
own still to store. -/
def KeptApart (s : IngestState store) : IngestAction → Prop
  | .ingest request _ => ∀ other ∈ s.calls, other.request.docType = request.docType →
      titleWords other.request.title = titleWords request.title → other.request.title = request.title
  | .resume i => ∀ call, s.calls[i]? = some call → call.phase = .chunksDue →
      ∃ (j : Nat) (other : IngestCall), s.calls[j]? = some other ∧
        store.getDocument s.stored call.docId = some other.doc ∧
        (other.chunks = call.chunks ∨ j ≠ i ∧ other.phase = .chunksDue)

/-- Every stored document is that of a call whose chunks are stored with it or still to be stored. -/
structure IngestInvariant (s : IngestState store) : Prop where
  ids : ∀ call ∈ s.calls, ∀ other ∈ s.calls, call.docId = other.docId → SameDocument call other
  current : ∀ id doc, store.getDocument s.stored id = some doc →
    ∃ (j : Nat) (other : IngestCall), s.calls[j]? = some other ∧ other.docId = id ∧ other.doc = doc ∧
      (other.phase = .chunksDue ∨ store.getChunksByDocId s.stored id = other.chunks)
  stored : ∀ call ∈ s.calls, call.phase ≠ .documentDue →
    ∃ doc, store.getDocument s.stored call.docId = some doc

theorem IngestInvariant.kept {s : IngestState store} (hinv : IngestInvariant s) : IngestsKept s where
  ids call hcall other hother hdiffer hid := hdiffer (hinv.ids call hcall other hother hid)
  retrievable hreturned call hcall := by
    obtain ⟨doc, hdoc⟩ := hinv.stored call hcall (by rw [hreturned call hcall]; nofun)
    obtain ⟨j, other, hj, hid, rfl, hchunks⟩ := hinv.current _ _ hdoc
    have hother := List.mem_of_getElem? hj
    have hphase := hreturned other hother
    have hown : store.getChunksByDocId s.stored call.docId = other.chunks :=
      hchunks.resolve_left (by rw [hphase]; nofun)
    refine ⟨other, hother, hinv.ids other hother call hcall hid, hdoc, ?_, hown⟩
    simp [getVersions, hdoc, IngestCall.doc]

variable {s s' : IngestState store} {call : IngestCall} {i : Nat} {phase : IngestPhase}

theorem ids_setPhase (hinv : IngestInvariant s) (hcall : s.calls[i]? = some call) :
    ∀ c ∈ s.setPhase i call phase, ∀ other ∈ s.setPhase i call phase,
      c.docId = other.docId → SameDocument c other := by
  have hold : ∀ c ∈ s.setPhase i call phase, ∃ c' ∈ s.calls, c'.request = c.request := by
    intro c hc
    rcases List.mem_or_eq_of_mem_set hc with hc | rfl
    · exact ⟨c, hc, rfl⟩
    · exact ⟨call, List.mem_of_getElem? hcall, rfl⟩
  intro c hc other hother hid
  obtain ⟨c', hc', hreq⟩ := hold c hc
  obtain ⟨other', hother', hreq'⟩ := hold other hother
  have hids : c'.docId = other'.docId := by
    rw [IngestCall.docId, IngestCall.docId, hreq, hreq']
    exact hid
  have hsame := hinv.ids c' hc' other' hother' hids
  rwa [SameDocument, hreq, hreq'] at hsame

theorem getElem?_setPhase_self (hcall : s.calls[i]? = some call) :
    (s.setPhase i call phase)[i]? = some { call with phase := phase } := by
  rw [setPhase, List.getElem?_set_self (List.getElem?_eq_some_iff.mp hcall).1]

theorem getElem?_setPhase_of_ne {j : Nat} (hne : j ≠ i) :
    (s.setPhase i call phase)[j]? = s.calls[j]? := by
  rw [setPhase, List.getElem?_set_ne hne.symm]

theorem invariant_ingest (hinv : IngestInvariant s) {request : IngestRequest} {now : String}
    (hguard : KeptApart s (.ingest request now)) {status : IngestStatus} :
    IngestInvariant ({ s with calls := s.calls ++
      [{ request := request, now := now, phase := .documentDue, status := status }] } :
        IngestState store) where
  ids c hc other hother hid := by
    obtain ⟨htype, hwords⟩ := generateDocId_eq_iff.mp hid
    rcases List.mem_append.mp hc with hc | hc <;> rcases List.mem_append.mp hother with hother | hother
    · exact hinv.ids c hc other hother hid
    · obtain rfl := List.mem_singleton.mp hother
      exact ⟨htype, hguard c hc htype hwords⟩
    · obtain rfl := List.mem_singleton.mp hc
      exact ⟨htype, (hguard other hother htype.symm hwords.symm).symm⟩
    · obtain rfl := List.mem_singleton.mp hc
      obtain rfl := List.mem_singleton.mp hother
      exact ⟨rfl, rfl⟩
  current id doc hdoc := by
    obtain ⟨j, other, hj, hrest⟩ := hinv.current id doc hdoc
    exact ⟨j, other, (List.getElem?_append_left (List.getElem?_eq_some_iff.mp hj).1).trans hj, hrest⟩
  stored c hc hphase := by
    rcases List.mem_append.mp hc with hc | hc
    · exact hinv.stored c hc hphase
    · obtain rfl := List.mem_singleton.mp hc
      exact absurd rfl hphase

theorem invariant_setDocument (hinv : IngestInvariant s) (hcall : s.calls[i]? = some call) :
    IngestInvariant ({ stored := store.setDocument s.stored call.doc
                       calls := s.setPhase i call .chunksDue } : IngestState store) where
  ids := ids_setPhase hinv hcall
  current id doc hdoc := by
    rw [store.getDocument_setDocument] at hdoc
    split at hdoc
    · next hid =>
      exact ⟨i, _, getElem?_setPhase_self hcall, hid.symm, Option.some.inj hdoc, .inl rfl⟩
    · next hid =>
      obtain ⟨j, other, hj, hother, hrest⟩ := hinv.current id doc hdoc
      have hne : j ≠ i := by
        rintro rfl
        obtain rfl := Option.some.inj (hcall.symm.trans hj)
        exact hid hother.symm
      refine ⟨j, other, (getElem?_setPhase_of_ne hne).trans hj, hother, ?_⟩
      rwa [store.getChunks_setDocument]
  stored c hc hphase := by
    rw [store.getDocument_setDocument]
    split
    · exact ⟨_, rfl⟩
    · next hid =>
      rcases List.mem_or_eq_of_mem_set hc with hc | rfl
      · exact hinv.stored c hc hphase
      · exact absurd rfl hid

theorem invariant_setChunks (hinv : IngestInvariant s) (hcall : s.calls[i]? = some call)
    (hdue : call.phase = .chunksDue) (hguard : KeptApart s (.resume i)) :
    IngestInvariant ({ stored := store.setChunks s.stored call.docId call.chunks
                       calls := s.setPhase i call .returned } : IngestState store) where
  ids := ids_setPhase hinv hcall
  current id doc hdoc := by
    rw [store.getDocument_setChunks] at hdoc
    obtain ⟨j, other, hj, hother, hdoc', hrest⟩ := hinv.current id doc hdoc
    by_cases hid : id = call.docId
    · subst hid
      obtain ⟨k, owner, hk, howner, hchunks⟩ := hguard call hcall hdue
      have hsame : owner.doc = doc := Option.some.inj (howner.symm.trans hdoc)
      have hownerId : owner.docId = call.docId := by
        have hids : owner.doc.docId = other.doc.docId := by rw [hsame, hdoc']
        exact hids.trans hother
      simp only [store.getChunks_setChunks, if_true]
      by_cases hki : k = i
      · subst hki
        obtain rfl := Option.some.inj (hcall.symm.trans hk)
        exact ⟨k, _, getElem?_setPhase_self hcall, rfl, hsame, .inr rfl⟩
      · refine ⟨k, owner, (getElem?_setPhase_of_ne hki).trans hk, hownerId, hsame, ?_⟩
        rcases hchunks with hchunks | ⟨-, hphase⟩
        · exact .inr hchunks.symm
        · exact .inl hphase
    · have hne : j ≠ i := by
        rintro rfl
        obtain rfl := Option.some.inj (hcall.symm.trans hj)
        exact hid hother.symm
      refine ⟨j, other, (getElem?_setPhase_of_ne hne).trans hj, hother, hdoc', ?_⟩
      rwa [store.getChunks_setChunks, if_neg hid]
  stored c hc hphase := by
    rw [store.getDocument_setChunks]
    rcases List.mem_or_eq_of_mem_set hc with hc | rfl
    · exact hinv.stored c hc hphase
    · exact hinv.stored call (List.mem_of_getElem? hcall) (by rw [hdue]; nofun)

theorem invariant_next {action : IngestAction} (hinv : IngestInvariant s)
    (hguard : KeptApart s action) (hnext : s.next action = some s') : IngestInvariant s' := by
  cases action with
  | ingest request now =>
    obtain rfl := Option.some.inj hnext
    exact invariant_ingest hinv hguard
  | resume i =>
    obtain ⟨call, hcall, hphase⟩ := Option.bind_eq_some_iff.mp hnext
    cases hdue : call.phase with
    | documentDue =>
      simp only [hdue, Option.some.injEq] at hphase
      subst hphase
      exact invariant_setDocument hinv hcall
    | chunksDue =>
      simp only [hdue, Option.some.injEq] at hphase
      subst hphase
      exact invariant_setChunks hinv hcall hdue hguard
    | returned => simp [hdue] at hphase

end runs

theorem ingestRun_snoc {store : DocumentStore} {h : History (IngestState store) IngestAction}
    {s s' : IngestState store} (hrun : (ingestMachine store).Run h s) (action : IngestAction)
    (hnext : s.next action = some s') : (ingestMachine store).Run (h ++ [(s, action)]) s' :=
  hrun.snoc hnext

def ingestOf (title : String) : IngestRequest :=
  { docType := "spec", title := title, version := "1", body := "# Scope\ntext" }

end ShipyardCp.Properties
