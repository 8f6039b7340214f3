import ShipyardCp.Lib.Outlines
import ShipyardCp.Lib.CodeUnits
import ShipyardCp.MemxResolver.DocsService

/-! What the chunks of a Markdown document keep of its lines and headings. -/

namespace ShipyardCp.Properties

open Lib MemxResolver
open JsText (charCodes trim inked inkedLines inked_append inked_flatMap inkedLines_trim)

section packing

variable {maxChars : Nat} {lines group : List (List Char)} {body : List Char}

def linesLength (lines : List (List Char)) : Nat := (lines.map fun line => utf16Length line + 1).sum

def FitsPiece (maxChars : Nat) (lines : List (List Char)) : Prop :=
  (∃ line, lines = [line]) ∨ linesLength lines ≤ maxChars

theorem linesLength_concat (lines : List (List Char)) (line : List Char) :
    linesLength (lines ++ [line]) = linesLength lines + (utf16Length line + 1) := by
  simp [linesLength]

theorem utf16Length_append (text more : List Char) :
    utf16Length (text ++ more) = utf16Length text + utf16Length more := by
  simp [utf16Length, charCodes]

theorem utf16Length_joinLines (hne : lines ≠ []) :
    utf16Length (joinLines lines) + 1 = linesLength lines := by
  induction lines with
  | nil => exact absurd rfl hne
  | cons line lines ih =>
    rcases eq_or_ne lines [] with rfl | hlines
    · simp [joinLines, linesLength]
    · have hrest := ih hlines
      have hfeed : utf16Length ['\n'] = 1 := by decide
      unfold joinLines linesLength at hrest ⊢
      rw [List.intercalate_cons_of_ne_nil hlines, utf16Length_append, utf16Length_append, hfeed,
        List.map_cons, List.sum_cons, ← hrest]
      omega

/-- The lines that came are in the pieces and in the next one. -/
structure Packed (maxChars : Nat) (lines : List (List Char)) (s : PieceState)
    (groups : List (List (List Char))) : Prop where
  pieces : s.pieces = groups.map joinLines
  kept : groups.flatten ++ s.current = lines
  filled : ∀ group ∈ groups, group ≠ [] ∧ FitsPiece maxChars group
  current : FitsPiece maxChars s.current
  currentLength : s.currentLength = linesLength s.current
  begun : s.current = [] → lines = []

theorem Packed.addLine {s : PieceState} {groups : List (List (List Char))}
    (h : Packed maxChars lines s groups) (line : List Char) :
    ∃ groups, Packed maxChars (lines ++ [line]) (addLine maxChars s line) groups := by
  by_cases hfull : maxChars < s.currentLength + utf16Length line + 1 ∧ s.current ≠ []
  · have hadd : MemxResolver.addLine maxChars s line =
        ⟨s.pieces ++ [joinLines s.current], [line], utf16Length line + 1⟩ := by
      simp [MemxResolver.addLine, hfull]
    rw [hadd]
    refine ⟨groups ++ [s.current], ?_, ?_, ?_, ?_, ?_, ?_⟩
    · rw [h.pieces, List.map_append, List.map_singleton]
    · rw [List.flatten_append, List.flatten_singleton, h.kept]
    · intro group hgroup
      rcases List.mem_append.mp hgroup with hgroup | hgroup
      · exact h.filled group hgroup
      · rw [List.mem_singleton.mp hgroup]
        exact ⟨hfull.2, h.current⟩
    · exact .inl ⟨line, rfl⟩
    · simp [linesLength]
    · simp
  · have hadd : MemxResolver.addLine maxChars s line =
        ⟨s.pieces, s.current ++ [line], s.currentLength + utf16Length line + 1⟩ := by
      rw [MemxResolver.addLine, if_neg hfull]
    rw [hadd]
    refine ⟨groups, ?_, ?_, ?_, ?_, ?_, ?_⟩
    · exact h.pieces
    · rw [← List.append_assoc, h.kept]
    · exact h.filled
    · rcases eq_or_ne s.current [] with hempty | hne
      · exact .inl ⟨line, by rw [hempty, List.nil_append]⟩
      · refine .inr ?_
        rw [linesLength_concat, ← h.currentLength]
        have hroom : ¬maxChars < s.currentLength + utf16Length line + 1 := fun hlong =>
          hfull ⟨hlong, hne⟩
        omega
    · rw [linesLength_concat, ← h.currentLength, Nat.add_assoc]
    · simp

theorem packed_foldl (lines : List (List Char)) :
    ∃ groups, Packed maxChars lines (lines.foldl (addLine maxChars) ⟨[], [], 0⟩) groups := by
  induction lines using List.reverseRecOn with
  | nil => exact ⟨[], rfl, rfl, by simp, .inr (Nat.zero_le _), rfl, fun _ => rfl⟩
  | append_singleton lines line ih =>
    obtain ⟨groups, hpacked⟩ := ih
    rw [List.foldl_concat]
    exact hpacked.addLine line

theorem splitLargeChunk_groups (body : List Char) (maxChars : Nat) :
    ∃ groups : List (List (List Char)), splitLargeChunk body maxChars = groups.map joinLines ∧
      groups.flatten = body.splitOn '\n' ∧ ∀ group ∈ groups, group ≠ [] ∧ FitsPiece maxChars group := by
  obtain ⟨groups, h⟩ := @packed_foldl maxChars (body.splitOn '\n')
  unfold splitLargeChunk
  generalize (body.splitOn '\n').foldl (addLine maxChars) ⟨[], [], 0⟩ = s at h ⊢
  dsimp only
  split_ifs with hcurrent
  · exact absurd (h.begun hcurrent) (List.splitOn_ne_nil _ _)
  · refine ⟨groups ++ [s.current], ?_, ?_, ?_⟩
    · rw [List.map_append, List.map_singleton, h.pieces]
    · rw [List.flatten_append, List.flatten_singleton, h.kept]
    · intro group hgroup
      rcases List.mem_append.mp hgroup with hgroup | hgroup
      · exact h.filled group hgroup
      · rw [List.mem_singleton.mp hgroup]
        exact ⟨hcurrent, h.current⟩

theorem joinLines_splitLargeChunk (body : List Char) (maxChars : Nat) :
    joinLines (splitLargeChunk body maxChars) = body := by
  obtain ⟨groups, hpieces, hlines, hgroups⟩ := splitLargeChunk_groups body maxChars
  rw [hpieces, joinLines]
  exact (intercalate_flatten fun group hgroup => (hgroups group hgroup).1).trans
    (by rw [hlines, List.intercalate_splitOn])

theorem oneLine_of_mem_splitLargeChunk {piece : List Char}
    (hpiece : piece ∈ splitLargeChunk body maxChars) (hlong : maxChars < utf16Length piece) :
    '\n' ∉ piece := by
  obtain ⟨groups, hpieces, hlines, hgroups⟩ := splitLargeChunk_groups body maxChars
  rw [hpieces] at hpiece
  obtain ⟨group, hgroup, rfl⟩ := List.mem_map.mp hpiece
  obtain ⟨hne, ⟨line, rfl⟩ | hfits⟩ := hgroups group hgroup
  · have hline : line ∈ body.splitOn '\n' := by
      rw [← hlines]
      exact List.mem_flatten_of_mem hgroup List.mem_cons_self
    rw [joinLines, List.intercalate_singleton]
    exact notMem_of_mem_splitOn hline
  · rw [← utf16Length_joinLines hne] at hfits
    omega

theorem inkedLines_joinLines (hlines : ∀ line ∈ lines, '\n' ∉ line) :
    inkedLines (joinLines lines) = inked lines := by
  rcases eq_or_ne lines [] with rfl | hne
  · rfl
  · rw [inkedLines, joinLines, List.splitOn_intercalate '\n' hlines hne]

theorem flatMap_inkedLines_splitLargeChunk (body : List Char) (maxChars : Nat) :
    (splitLargeChunk body maxChars).flatMap inkedLines = inkedLines body := by
  obtain ⟨groups, hpieces, hlines, -⟩ := splitLargeChunk_groups body maxChars
  have hfeeds : ∀ group ∈ groups, ∀ line ∈ group, '\n' ∉ line := by
    intro group hgroup line hline
    have hmem : line ∈ body.splitOn '\n' := by
      rw [← hlines]
      exact List.mem_flatten_of_mem hgroup hline
    exact notMem_of_mem_splitOn hmem
  rw [hpieces, inkedLines, ← hlines]
  clear hpieces hlines
  induction groups with
  | nil => rfl
  | cons group groups ih =>
    rw [List.forall_mem_cons] at hfeeds
    rw [List.map_cons, List.flatMap_cons, ih hfeeds.2, inkedLines_joinLines hfeeds.1,
      List.flatten_cons, inked_append]

end packing

/-- The lines between two headings, with the headings before them. -/
structure TextSection where
  headings : List (Nat × List Char)
  text : List (List Char)

def sectionsFrom (headings : List (Nat × List Char)) (text : List (List Char)) :
    List (List Char) → List TextSection
  | [] => [⟨headings, text⟩]
  | line :: lines =>
    match heading? line with
    | some heading => ⟨headings, text⟩ :: sectionsFrom (headings ++ [heading]) [] lines
    | none => sectionsFrom headings (text ++ [line]) lines

def sections (lines : List (List Char)) : List TextSection := sectionsFrom [] [] lines

/-- The pieces that the text between two headings is kept in. -/
def textPieces (maxChars : Nat) (text : List (List Char)) : List (List Char) :=
  let body := trim (joinLines text)
  if body = [] then []
  else if maxChars < utf16Length body then splitLargeChunk body maxChars
  else [body]

def sectionPieces (maxChars : Nat) (part : TextSection) : List (List (List Char) × List Char) :=
  (textPieces maxChars part.text).map fun piece =>
    ((headingPath Prod.fst part.headings).map Prod.snd, piece)

section sectioning

variable {docId : String} {maxChars : Nat} {lines : List (List Char)} {line : List Char}
  {headings : List (Nat × List Char)} {text : List (List Char)}

theorem joinLines_textPieces (maxChars : Nat) (text : List (List Char)) :
    joinLines (textPieces maxChars text) = trim (joinLines text) := by
  unfold textPieces
  dsimp only
  split_ifs with hempty
  · exact hempty.symm
  · exact joinLines_splitLargeChunk _ _
  · exact List.intercalate_singleton

theorem flatMap_inkedLines_textPieces (hlines : ∀ line ∈ text, '\n' ∉ line) :
    (textPieces maxChars text).flatMap inkedLines = inked text := by
  rw [← inkedLines_joinLines hlines, ← inkedLines_trim]
  unfold textPieces
  dsimp only
  split_ifs with hempty
  · rw [hempty]
    rfl
  · exact flatMap_inkedLines_splitLargeChunk _ _
  · rw [List.flatMap_singleton]

theorem oneLine_of_mem_textPieces {piece : List Char} (hpiece : piece ∈ textPieces maxChars text)
    (hlong : maxChars < utf16Length piece) : '\n' ∉ piece := by
  unfold textPieces at hpiece
  dsimp only at hpiece
  split_ifs at hpiece with hempty hlarge
  · cases hpiece
  · exact oneLine_of_mem_splitLargeChunk hpiece hlong
  · rw [List.mem_singleton.mp hpiece] at hlong
    exact absurd hlong hlarge

theorem flatMap_text_sectionsFrom : (sectionsFrom headings text lines).flatMap (·.text) =
    text ++ lines.filter fun line => heading? line = none := by
  induction lines generalizing headings text with
  | nil => simp [sectionsFrom]
  | cons line lines ih =>
    unfold sectionsFrom
    cases hline : heading? line with
    | some heading => simp [ih, hline]
    | none => simp [ih, hline]

theorem exists_mem_sectionsFrom (headings : List (Nat × List Char)) (text lines : List (List Char)) :
    ∃ part ∈ sectionsFrom headings text lines, part.headings = headings ∧
      ∀ line ∈ text, line ∈ part.text := by
  induction lines generalizing text with
  | nil => exact ⟨_, List.mem_cons_self, rfl, fun _ hline => hline⟩
  | cons line lines ih =>
    unfold sectionsFrom
    cases heading? line with
    | some heading => exact ⟨_, List.mem_cons_self, rfl, fun _ hline => hline⟩
    | none =>
      obtain ⟨part, hpart, hheadings, htext⟩ := ih (text ++ [line])
      exact ⟨part, hpart, hheadings, fun other hother => htext other (List.mem_append_left _ hother)⟩

theorem exists_mem_sectionsFrom_append (hline : heading? line = none)
    (before after : List (List Char)) :
    ∃ part ∈ sectionsFrom headings text (before ++ line :: after),
      part.headings = headings ++ before.filterMap heading? ∧ line ∈ part.text := by
  induction before generalizing headings text with
  | nil =>
    obtain ⟨part, hpart, hheadings, htext⟩ := exists_mem_sectionsFrom headings (text ++ [line]) after
    refine ⟨part, ?_, by simpa using hheadings, htext line (by simp)⟩
    simpa [sectionsFrom, hline] using hpart
  | cons other before ih =>
    cases hother : heading? other with
    | some heading =>
      obtain ⟨part, hpart, hheadings, hmem⟩ := @ih (headings ++ [heading]) []
      refine ⟨part, ?_, ?_, hmem⟩
      · simp [sectionsFrom, hother, hpart]
      · simp [hheadings, hother]
    | none =>
      obtain ⟨part, hpart, hheadings, hmem⟩ := @ih headings (text ++ [other])
      refine ⟨part, ?_, ?_, hmem⟩
      · simp [sectionsFrom, hother, hpart]
      · simp [hheadings, hother]

theorem one_le_of_heading? {heading : Nat × List Char} (h : heading? line = some heading) :
    1 ≤ heading.1 := by
  unfold heading? at h
  dsimp only at h
  rw [Option.ite_none_right_eq_some] at h
  obtain ⟨⟨hone, _⟩, hsome⟩ := h
  rw [← Option.some.inj hsome]
  exact hone

theorem one_le_of_mem_sectionsFrom (hheadings : ∀ heading ∈ headings, 1 ≤ heading.1) :
    ∀ part ∈ sectionsFrom headings text lines, ∀ heading ∈ part.headings, 1 ≤ heading.1 := by
  induction lines generalizing headings text with
  | nil => simpa [sectionsFrom] using hheadings
  | cons line lines ih =>
    unfold sectionsFrom
    cases hline : heading? line with
    | some heading =>
      rw [List.forall_mem_cons]
      refine ⟨hheadings, ih ?_⟩
      rw [List.forall_mem_append, List.forall_mem_singleton]
      exact ⟨hheadings, one_le_of_heading? hline⟩
    | none => exact ih hheadings

theorem mapIdx_sectionPieces (part : TextSection) (n : Nat) :
    ((sectionPieces maxChars part).mapIdx fun i p => createChunk docId (n + i) p.1 p.2) =
      (textPieces maxChars part.text).mapIdx fun i piece =>
        createChunk docId (n + i) ((headingPath Prod.fst part.headings).map Prod.snd) piece := by
  refine List.ext_getElem? fun i => ?_
  simp [sectionPieces, Function.comp_def]

theorem saveChunk_foldl {s : HeadingState}
    (hpath : s.currentHeadingPath = (headingPath Prod.fst headings).map Prod.snd) :
    (saveChunk docId maxChars (lines.foldl (addMarkdownLine docId maxChars) s)).chunks =
      s.chunks ++ ((sectionsFrom headings s.currentChunk lines).flatMap
        (sectionPieces maxChars)).mapIdx fun i p => createChunk docId (s.ordinal + i) p.1 p.2 := by
  induction lines generalizing headings s with
  | nil =>
    rw [List.foldl_nil, sectionsFrom, List.flatMap_singleton, mapIdx_sectionPieces, ← hpath]
    rfl
  | cons line lines ih =>
    rw [List.foldl_cons]
    unfold sectionsFrom
    cases hline : heading? line with
    | some heading =>
      have hadd : addMarkdownLine docId maxChars s line =
          { saveChunk docId maxChars s with
            currentHeadingPath := s.currentHeadingPath.take (heading.1 - 1) ++ [heading.2] } := by
        rw [addMarkdownLine, hline]
        rfl
      have hnext : s.currentHeadingPath.take (heading.1 - 1) ++ [heading.2] =
          (headingPath Prod.fst (headings ++ [heading])).map Prod.snd := by
        rw [hpath, headingPath_concat, pushHeading, List.map_append, List.map_take,
          List.map_singleton]
      have hpieces : (sectionPieces maxChars ⟨headings, s.currentChunk⟩).length =
          (textPieces maxChars s.currentChunk).length := List.length_map _
      have hshift : ∀ i n, s.ordinal + (i + n) = s.ordinal + n + i := fun i n => by omega
      rw [hadd, ih hnext, List.flatMap_cons, List.mapIdx_append, mapIdx_sectionPieces, ← hpath,
        hpieces, ← List.append_assoc]
      simp only [hshift]
      rfl
    | none =>
      have hadd : addMarkdownLine docId maxChars s line =
          { s with currentChunk := s.currentChunk ++ [line] } := by
        rw [addMarkdownLine, hline]
      rw [hadd]
      exact ih hpath

theorem chunkByHeadings_eq (docId : String) (body : List Char) (maxChars : Nat) :
    chunkByHeadings docId body maxChars = ((sections (body.splitOn '\n')).flatMap
      (sectionPieces maxChars)).mapIdx fun i p => createChunk docId (1 + i) p.1 p.2 :=
  saveChunk_foldl rfl

end sectioning

def chain (part : TextSection) : List String :=
  (enclosing Prod.fst part.headings).map fun heading => String.ofList heading.2

/-- What the chunks of a section keep of it. -/
structure KeepsSection (part : TextSection) (chunks : List DocumentChunk) : Prop where
  text : joinLines (chunks.map (·.body.toList)) = trim (joinLines part.text)
  path : ∀ chunk ∈ chunks, (chain part).Sublist (chunk.headingPath.getD [])
  nested : Nested Prod.fst part.headings → ∀ chunk ∈ chunks, chunk.headingPath.getD [] = chain part

/-- What the chunks of a document keep of its lines: each line of text that is not blank once and in
order, and above it the headings that enclose it. -/
structure KeepsLines (lines : List (List Char)) (chunks : List DocumentChunk) : Prop where
  text : chunks.flatMap (fun chunk => inkedLines chunk.body.toList) =
    inked (lines.filter fun line => heading? line = none)
  headings : ∀ before line between textLine after heading,
    lines = before ++ line :: between ++ textLine :: after → heading? line = some heading →
    (∀ later ∈ between.filterMap heading?, heading.1 < later.1) → heading? textLine = none →
    trim textLine ≠ [] → ∃ chunk ∈ chunks, trim textLine ∈ inkedLines chunk.body.toList ∧
      String.ofList heading.2 ∈ chunk.headingPath.getD []
  sections : ∃ parts, parts.flatten = chunks ∧ List.Forall₂ KeepsSection (sections lines) parts

/-- How the chunks of a document are numbered and how long they are. -/
structure Numbered (maxChars : Nat) (chunks : List DocumentChunk) : Prop where
  ordinals : chunks.map (·.ordinal) = List.range' 1 chunks.length
  ids : (chunks.map (·.chunkId)).Nodup
  length : ∀ chunk ∈ chunks, maxChars < utf16Length chunk.body.toList → '\n' ∉ chunk.body.toList

section laws

variable {docId : String} {maxChars : Nat} {lines : List (List Char)}

theorem generateChunkId_injective (docId : String) : Function.Injective (generateChunkId docId) := by
  intro n m h
  have hlist := congrArg String.toList h
  have hvalue : ∀ n k : Nat,
      Nat.ofDigitChars 10 (List.replicate k '0' ++ (toString n).toList) 0 = n := by
    intro n k
    rw [Nat.ofDigitChars_append, Nat.ofDigitChars_replicate_zero, Nat.mul_zero, Nat.toString_eq_repr,
      Nat.toList_repr, Nat.ofDigitChars_ten_toDigits]
  simp only [generateChunkId, String.toList_append, String.toList_ofList, List.append_assoc] at hlist
  have hdigits := List.append_cancel_left (List.append_cancel_left (List.append_cancel_left hlist))
  simpa only [hvalue] using congrArg (fun digits => Nat.ofDigitChars 10 digits 0) hdigits

theorem numbered_mapIdx {P : Type} {make : Nat → P → DocumentChunk} {pieces : List P}
    {text : P → List Char}
    (hmake : ∀ n p, (make n p).ordinal = n ∧ (make n p).chunkId = generateChunkId docId n ∧
      (make n p).body = String.ofList (text p))
    (hlong : ∀ p ∈ pieces, maxChars < utf16Length (text p) → '\n' ∉ text p) :
    Numbered maxChars (pieces.mapIdx fun i p => make (1 + i) p) := by
  have hordinals : (pieces.mapIdx fun i p => make (1 + i) p).map (·.ordinal) =
      List.range' 1 pieces.length := by
    refine List.ext_getElem (by simp) fun i _ _ => ?_
    simp [(hmake _ _).1]
  have hids : (pieces.mapIdx fun i p => make (1 + i) p).map (·.chunkId) =
      (List.range' 1 pieces.length).map (generateChunkId docId) := by
    refine List.ext_getElem (by simp) fun i _ _ => ?_
    simp [(hmake _ _).2.1]
  refine ⟨by rw [hordinals, List.length_mapIdx], ?_, fun chunk hchunk => ?_⟩
  · rw [hids]
    exact List.Nodup.map (generateChunkId_injective docId) List.nodup_range'
  · obtain ⟨i, hi, rfl⟩ := List.exists_of_mem_mapIdx hchunk
    rw [(hmake _ _).2.2, String.toList_ofList]
    exact hlong _ (List.getElem_mem hi)

theorem exists_parts {A B C : Type} {view : A → B} {f : C → List B} {elements : List A}
    {parts : List C} (h : elements.map view = parts.flatMap f) : ∃ groups,
      groups.flatten = elements ∧ List.Forall₂ (fun part group => group.map view = f part) parts groups := by
  induction parts generalizing elements with
  | nil => exact ⟨[], (List.map_eq_nil_iff.mp h).symm, .nil⟩
  | cons part parts ih =>
    rw [List.flatMap_cons] at h
    obtain ⟨first, rest, rfl, hfirst, hrest⟩ := List.map_eq_append_iff.mp h
    obtain ⟨groups, hgroups, hforall⟩ := ih hrest
    exact ⟨first :: groups, by rw [List.flatten_cons, hgroups], .cons hfirst hforall⟩

def contents (chunk : DocumentChunk) : List String × List Char :=
  (chunk.headingPath.getD [], chunk.body.toList)

def shown (p : List (List Char) × List Char) : List String × List Char := (p.1.map String.ofList, p.2)

theorem contents_createChunk (n : Nat) (p : List (List Char) × List Char) :
    contents (createChunk docId n p.1 p.2) = shown p := by
  unfold contents createChunk shown
  split_ifs with hpath
  · simp [hpath]
  · simp

theorem map_contents_chunkByHeadings (docId : String) (body : List Char) (maxChars : Nat) :
    (chunkByHeadings docId body maxChars).map contents = (sections (body.splitOn '\n')).flatMap
      fun part => (sectionPieces maxChars part).map shown := by
  rw [chunkByHeadings_eq, ← List.map_flatMap]
  refine List.ext_getElem (by simp) fun i _ _ => ?_
  rw [List.getElem_map, List.getElem_mapIdx, contents_createChunk, List.getElem_map]

theorem keepsSection_of_contents {part : TextSection} {chunks : List DocumentChunk}
    (hpos : ∀ heading ∈ part.headings, 1 ≤ heading.1)
    (h : chunks.map contents = (sectionPieces maxChars part).map shown) :
    KeepsSection part chunks := by
  have hbodies : chunks.map (·.body.toList) = textPieces maxChars part.text := by
    have hsnd := congrArg (List.map Prod.snd) h
    simpa [contents, shown, sectionPieces, Function.comp_def] using hsnd
  have hpath : ∀ chunk ∈ chunks, chunk.headingPath.getD [] =
      (headingPath Prod.fst part.headings).map fun heading => String.ofList heading.2 := by
    intro chunk hchunk
    have hmem : contents chunk ∈ (sectionPieces maxChars part).map shown :=
      h ▸ List.mem_map_of_mem hchunk
    simp only [sectionPieces, List.mem_map] at hmem
    obtain ⟨_, ⟨piece, _, rfl⟩, hshown⟩ := hmem
    have hfst := congrArg Prod.fst hshown
    simpa [contents, shown, Function.comp_def] using hfst.symm
  refine ⟨by rw [hbodies, joinLines_textPieces], fun chunk hchunk => ?_,
    fun hnested chunk hchunk => ?_⟩
  · rw [hpath chunk hchunk]
    exact (enclosing_sublist_headingPath hpos).map _
  · rw [hpath chunk hchunk, headingPath_eq_enclosing hpos hnested]
    rfl

theorem keepsLines_chunkByHeadings (docId : String) (body : List Char) (maxChars : Nat) :
    KeepsLines (body.splitOn '\n') (chunkByHeadings docId body maxChars) := by
  have hcontents := map_contents_chunkByHeadings docId body maxChars
  have hpos : ∀ part ∈ sections (body.splitOn '\n'), ∀ heading ∈ part.headings, 1 ≤ heading.1 :=
    one_le_of_mem_sectionsFrom (by simp)
  have htexts : (sections (body.splitOn '\n')).flatMap (·.text) =
      (body.splitOn '\n').filter fun line => heading? line = none := flatMap_text_sectionsFrom
  have hfeeds : ∀ part ∈ sections (body.splitOn '\n'), ∀ line ∈ part.text, '\n' ∉ line := by
    intro part hpart line hline
    have hmem : line ∈ (body.splitOn '\n').filter fun line => heading? line = none := by
      rw [← htexts]
      exact List.mem_flatMap_of_mem hpart hline
    exact notMem_of_mem_splitOn (List.mem_of_mem_filter hmem)
  refine ⟨?_, ?_, ?_⟩
  · calc (chunkByHeadings docId body maxChars).flatMap (fun chunk => inkedLines chunk.body.toList)
        = ((chunkByHeadings docId body maxChars).map contents).flatMap fun c => inkedLines c.2 := by
          rw [List.flatMap_map]
          rfl
      _ = (sections (body.splitOn '\n')).flatMap fun part =>
            (textPieces maxChars part.text).flatMap inkedLines := by
          rw [hcontents, List.flatMap_assoc]
          refine congrArg (List.flatMap · _) (funext fun part => ?_)
          simp [sectionPieces, shown, List.flatMap_map]
      _ = (sections (body.splitOn '\n')).flatMap fun part => inked part.text :=
          List.flatMap_congr fun part hpart => flatMap_inkedLines_textPieces (hfeeds part hpart)
      _ = inked ((body.splitOn '\n').filter fun line => heading? line = none) := by
          rw [← inked_flatMap, htexts]
  · intro before line between textLine after heading hlines hheading hdeeper htext hink
    have hsplit : body.splitOn '\n' = (before ++ line :: between) ++ textLine :: after := by
      rw [hlines, List.append_assoc, List.cons_append]
    obtain ⟨part, hpart, hheadings, hmem⟩ :=
      @exists_mem_sectionsFrom_append textLine [] [] htext (before ++ line :: between) after
    rw [← hsplit] at hpart
    have hkept : trim textLine ∈ (textPieces maxChars part.text).flatMap inkedLines := by
      rw [flatMap_inkedLines_textPieces (hfeeds part hpart)]
      exact List.mem_filter.mpr ⟨List.mem_map_of_mem hmem, decide_eq_true hink⟩
    obtain ⟨piece, hpiece, hline⟩ := List.mem_flatMap.mp hkept
    have hshown : shown ((headingPath Prod.fst part.headings).map Prod.snd, piece) ∈
        (chunkByHeadings docId body maxChars).map contents := by
      rw [hcontents]
      exact List.mem_flatMap.mpr ⟨part, hpart,
        List.mem_map_of_mem (List.mem_map.mpr ⟨piece, hpiece, rfl⟩)⟩
    obtain ⟨chunk, hchunk, hcontent⟩ := List.mem_map.mp hshown
    have hbody : chunk.body.toList = piece := congrArg Prod.snd hcontent
    have hpath : chunk.headingPath.getD [] =
        ((headingPath Prod.fst part.headings).map Prod.snd).map String.ofList :=
      congrArg Prod.fst hcontent
    refine ⟨chunk, hchunk, hbody ▸ hline, ?_⟩
    have hencloses : heading ∈ enclosing Prod.fst part.headings := by
      rw [hheadings, List.nil_append, List.filterMap_append, List.filterMap_cons_some hheading]
      exact mem_enclosing hdeeper
    rw [hpath]
    exact List.mem_map_of_mem (List.mem_map_of_mem
      ((enclosing_sublist_headingPath (hpos part hpart)).subset hencloses))
  · obtain ⟨parts, hflat, hparts⟩ := exists_parts hcontents
    refine ⟨parts, hflat, ?_⟩
    refine ((List.forall₂_and_left _ _).mpr ⟨hpos, hparts⟩).imp fun part chunks h => ?_
    exact keepsSection_of_contents h.1 h.2

theorem numbered_chunkByHeadings (docId : String) (body : List Char) (maxChars : Nat) :
    Numbered maxChars (chunkByHeadings docId body maxChars) := by
  rw [chunkByHeadings_eq]
  refine @numbered_mapIdx docId maxChars _ (fun n p => createChunk docId n p.1 p.2) _ Prod.snd
    (fun _ _ => ⟨rfl, rfl, rfl⟩) fun p hp => ?_
  obtain ⟨part, _, hmem⟩ := List.mem_flatMap.mp hp
  obtain ⟨piece, hpiece, rfl⟩ := List.mem_map.mp hmem
  exact oneLine_of_mem_textPieces hpiece

theorem numbered_chunkByFixedSize (docId : String) (body : List Char) (maxChars : Nat) :
    Numbered maxChars (chunkByFixedSize docId body maxChars) :=
  @numbered_mapIdx docId maxChars _ (fun n piece =>
      { chunkId := generateChunkId docId n
        docId := docId
        ordinal := n
        body := String.ofList piece
        tokenEstimate := some (estimateTokens piece)
        importance := some .recommended })
    _ id (fun _ _ => ⟨rfl, rfl, rfl⟩) fun _ hpiece => oneLine_of_mem_splitLargeChunk hpiece

/-- The chunks keep the lines of text and the headings above them; in fixed mode they are the body. -/
theorem chunkMarkdown_laws (docId body : String) (maxChars : Option Nat) :
    KeepsLines (body.toList.splitOn '\n') (chunkMarkdown docId body ⟨.heading, maxChars⟩) ∧
      joinLines ((chunkMarkdown docId body ⟨.fixed, maxChars⟩).map (·.body.toList)) = body.toList ∧
      ∀ mode, Numbered (maxChars.getD 4000) (chunkMarkdown docId body ⟨mode, maxChars⟩) := by
  refine ⟨keepsLines_chunkByHeadings _ _ _, ?_, fun mode => ?_⟩
  · have hbodies : (chunkMarkdown docId body ⟨.fixed, maxChars⟩).map (·.body.toList) =
        splitLargeChunk body.toList (maxChars.getD 4000) := by
      refine List.ext_getElem (by simp [chunkMarkdown, chunkByFixedSize]) fun i _ _ => ?_
      simp [chunkMarkdown, chunkByFixedSize]
    rw [hbodies, joinLines_splitLargeChunk]
  · cases mode with
    | heading => exact numbered_chunkByHeadings _ _ _
    | fixed => exact numbered_chunkByFixedSize _ _ _

end laws

def LineKept (chunks : List DocumentChunk) (line : List Char) : Prop :=
  ∃ chunk ∈ chunks, line ∈ chunk.body.toList.splitOn '\n' ∨
    ∃ heading ∈ heading? line, String.ofList heading.2 ∈ chunk.headingPath.getD []

instance (chunks : List DocumentChunk) (line : List Char) : Decidable (LineKept chunks line) :=
  inferInstanceAs (Decidable (∃ chunk ∈ chunks, _))

/-- The heading of a section without text is in no chunk, and white space before text is cut off. -/
theorem empty_section_lost : ["# Scope".toList, "  indented".toList].Forall fun line =>
    line ∈ "# Scope\n# Notes\n  indented".toList.splitOn '\n' ∧ trim line ≠ [] ∧
      ¬LineKept (chunkMarkdown "doc" "# Scope\n# Notes\n  indented" ⟨.heading, some 100⟩) line := by
  decide +kernel

end ShipyardCp.Properties
