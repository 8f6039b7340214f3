import Mathlib.Data.List.Chain
import ShipyardCp.Domain.InstructionRenderer

/-! What a prompt tells of its envelope. Where no text goes on with lines that read as an entry or as
the next section, the prompt has one reading; a text that does can pass as two entries. -/

namespace ShipyardCp.Properties

open Domain Lib AuthoritySource

def continuation (text : List Char) : List (List Char) := (text.splitOn '\n').tail

def Sealed (heading : List Char) (lines : List (List Char)) : Prop :=
  lines.IsChain fun line next => line = [] → next ≠ heading

/-- The text goes on with lines that neither read as an entry nor begin the next section. -/
structure Plain (reads : List Char → Prop) (heading text : List Char) : Prop where
  no_entry : ∀ line ∈ continuation text, ¬reads line
  is_sealed : Sealed heading (continuation text)

section entries

variable {A : Type} {mark text : A → List Char} {reads : List Char → Prop} {heading : List Char}
  {l l' : List A} {lines lines' rest rest' : List (List Char)}

theorem splitOn_append {mark : List Char} (hmark : '\n' ∉ mark) (text : List Char) :
    ∃ first, (mark ++ text).splitOn '\n' = (mark ++ first) :: continuation text := by
  induction mark with
  | nil =>
    obtain ⟨first, more, hlines⟩ := List.exists_cons_of_ne_nil (List.splitOn_ne_nil '\n' text)
    exact ⟨first, by rw [continuation, List.nil_append, hlines]; rfl⟩
  | cons c mark ih =>
    obtain ⟨hc, hmark⟩ := not_or.mp (mt List.mem_cons.mpr hmark)
    obtain ⟨first, hfirst⟩ := ih hmark
    refine ⟨first, ?_⟩
    rw [List.cons_append, List.splitOn_cons_eq_if_modifyHead, if_neg (by simpa using Ne.symm hc),
      hfirst]
    rfl

theorem sealed_entries (hline : ∀ a ∈ l, '\n' ∉ mark a) (hmark : ∀ a ∈ l, ¬mark a <+: heading)
    (htext : ∀ a ∈ l, Sealed heading (continuation (text a))) :
    Sealed heading (l.flatMap fun a => (mark a ++ text a).splitOn '\n') ∧
      (l.flatMap fun a => (mark a ++ text a).splitOn '\n').head? ≠ some heading := by
  induction l with
  | nil => exact ⟨.nil, nofun⟩
  | cons a l ih =>
    rw [List.forall_mem_cons] at hline hmark htext
    obtain ⟨hsealed, hhead⟩ := ih hline.2 hmark.2 htext.2
    obtain ⟨first, hfirst⟩ := splitOn_append hline.1 (text a)
    have hne : ∀ other, mark a ++ first = other → ¬other <+: heading := fun other hother hprefix =>
      hmark.1 ((hother ▸ List.prefix_append _ _).trans hprefix)
    rw [List.flatMap_cons, hfirst]
    refine ⟨List.isChain_append.mpr ⟨?_, hsealed, ?_⟩, ?_⟩
    · exact List.isChain_cons.mpr ⟨fun _ _ hempty => absurd List.nil_prefix (hne _ hempty), htext.1⟩
    · intro line _ next hnext _ heq
      exact hhead (heq ▸ hnext)
    · exact fun heq => hne heading (Option.some.inj heq) (List.prefix_refl _)

/-- The lines of entries determine the entries. -/
theorem entries_inj (hline : ∀ a, '\n' ∉ mark a) (hreads : ∀ a first, reads (mark a ++ first))
    (hl : ∀ a ∈ l, ∀ line ∈ continuation (text a), ¬reads line)
    (hl' : ∀ a ∈ l', ∀ line ∈ continuation (text a), ¬reads line)
    (h : (l.flatMap fun a => (mark a ++ text a).splitOn '\n') =
      l'.flatMap fun a => (mark a ++ text a).splitOn '\n') :
    (l.map fun a => mark a ++ text a) = l'.map fun a => mark a ++ text a := by
  have hopens : ∀ (l : List A) line,
      line ∈ (l.flatMap fun a => (mark a ++ text a).splitOn '\n').head? → reads line := by
    intro l line hhead
    cases l with
    | nil => cases hhead
    | cons a l =>
      obtain ⟨first, hfirst⟩ := splitOn_append (hline a) (text a)
      rw [List.flatMap_cons, hfirst] at hhead
      exact Option.some.inj hhead ▸ hreads a first
  have hcloses : ∀ {lines : List (List Char)} (rest : List (List Char)),
      (∀ line ∈ lines, ¬reads line) → ∀ c, c ≠ [] → c <:+ lines →
        ¬∀ line ∈ (c ++ rest).head?, reads line := by
    intro lines rest hlines c hc hsuffix hhead
    obtain ⟨line, c, rfl⟩ := List.exists_cons_of_ne_nil hc
    exact hlines line (hsuffix.subset List.mem_cons_self) (hhead line rfl)
  induction l generalizing l' with
  | nil =>
    cases l' with
    | nil => rfl
    | cons a' l' => simp [List.splitOn_ne_nil] at h
  | cons a l ih =>
    cases l' with
    | nil => simp [List.splitOn_ne_nil] at h
    | cons a' l' =>
      rw [List.forall_mem_cons] at hl hl'
      obtain ⟨first, hfirst⟩ := splitOn_append (hline a) (text a)
      obtain ⟨first', hfirst'⟩ := splitOn_append (hline a') (text a')
      rw [List.flatMap_cons, List.flatMap_cons, hfirst, hfirst'] at h
      obtain ⟨hhead, htail⟩ := List.cons.inj h
      obtain ⟨hsame, hrest⟩ := append_inj_of_opens (fun lines => ∀ line ∈ lines.head?, reads line)
        (hcloses _ hl.1) (hcloses _ hl'.1) (hopens l) (hopens l') htail
      have hentry : mark a ++ text a = mark a' ++ text a' := by
        have hjoined := congrArg ['\n'].intercalate (hfirst.trans (hhead ▸ hsame ▸ hfirst'.symm))
        rwa [List.intercalate_splitOn, List.intercalate_splitOn] at hjoined
      rw [List.map_cons, List.map_cons, hentry, ih hl.2 hl'.2 hrest]

/-- What stands before the heading of the next section is told off from it. -/
theorem section_inj (hheading : heading ≠ []) (hlines : Sealed heading lines)
    (hlines' : Sealed heading lines')
    (h : lines ++ [] :: heading :: rest = lines' ++ [] :: heading :: rest') :
    lines = lines' ∧ rest = rest' := by
  have hfree : ∀ {lines : List (List Char)} (rest : List (List Char)), Sealed heading lines →
      ∀ c, c ≠ [] → c <:+ lines → ¬∃ more, c ++ [] :: heading :: rest = [] :: heading :: more := by
    rintro lines rest hlines c hc hsuffix ⟨more, hmore⟩
    rcases c with _ | ⟨line, _ | ⟨next, c⟩⟩
    · exact hc rfl
    · exact hheading (List.cons.inj (List.cons.inj hmore).2).1.symm
    · obtain ⟨hline, hnext⟩ := List.cons.inj hmore
      exact (List.isChain_cons_cons.mp (hlines.suffix hsuffix)).1 hline (List.cons.inj hnext).1
  obtain ⟨hsame, hrest⟩ := append_inj_of_opens (fun lines => ∃ more, lines = [] :: heading :: more)
    (hfree rest hlines) (hfree rest' hlines') ⟨rest, rfl⟩ ⟨rest', rfl⟩ h
  exact ⟨hsame, (List.cons.inj (List.cons.inj hrest).2).2⟩

end entries

section lists

variable {heading : List Char} {values values' : List (List Char)}

def listLines (values : List (List Char)) : List (List Char) :=
  (if values = [] then ["None".toList] else values).flatMap fun value =>
    ("- ".toList ++ value).splitOn '\n'

theorem plain_listed (hvalues : ∀ value ∈ values, Plain ("- ".toList <+: ·) heading value) :
    ∀ value ∈ (if values = [] then ["None".toList] else values),
      Plain ("- ".toList <+: ·) heading value := by
  split_ifs with hempty
  · rintro value (_ | ⟨_, _, _⟩)
    exact ⟨nofun, .nil⟩
  · exact hvalues

theorem sealed_listLines (hheading : ¬"- ".toList <+: heading)
    (hvalues : ∀ value ∈ values, Plain ("- ".toList <+: ·) heading value) :
    Sealed heading (listLines values) :=
  (sealed_entries (fun _ _ => by decide) (fun _ _ => hheading) fun value hvalue =>
    (plain_listed hvalues value hvalue).is_sealed).1

theorem listLines_inj (hvalues : ∀ value ∈ values, Plain ("- ".toList <+: ·) heading value)
    (hvalues' : ∀ value ∈ values', Plain ("- ".toList <+: ·) heading value)
    (hnone : values ≠ ["None".toList]) (hnone' : values' ≠ ["None".toList])
    (h : listLines values = listLines values') : values = values' := by
  have hlisted := entries_inj (fun _ => by decide) (fun _ => List.prefix_append _)
    (fun value hvalue => (plain_listed hvalues value hvalue).no_entry)
    (fun value hvalue => (plain_listed hvalues' value hvalue).no_entry) h
  have hsame := List.map_injective_iff.mpr (List.append_right_injective _) hlisted
  split_ifs at hsame with hempty hempty'
  · rw [hempty, hempty']
  · exact absurd hsame.symm hnone'
  · exact absurd hsame hnone
  · exact hsame

end lists

section prompts

variable {Tier : Type} {tierText : Tier → NumberText} {envelope envelope' : InstructionEnvelopeV2 Tier}

/-- The texts of an envelope read as no other part of its prompt. -/
structure Contained (tierText : Tier → NumberText) (envelope : InstructionEnvelopeV2 Tier) :
    Prop where
  ids : ∀ id ∈ [envelope.jobId, envelope.taskId],
    Sealed "## Authority".toList (continuation id.toList)
  authority : ∀ item ∈ envelope.authority,
    Plain (fun line => ∃ tier source, authorityHead tierText tier source <+: line)
      "## Objective".toList item.instruction.toList
  objective : Sealed "## Must".toList (envelope.objective.toList.splitOn '\n')
  must : ∀ value ∈ envelope.must.map String.toList,
    Plain ("- ".toList <+: ·) "## Must Not".toList value
  mustNot : ∀ value ∈ envelope.mustNot.map String.toList,
    Plain ("- ".toList <+: ·) "## Allowed Tools".toList value
  tools : ∀ tool ∈ envelope.allowedTools.map toolLine,
    Plain ("- ".toList <+: ·) "## Required Output".toList tool
  none_listed : envelope.must ≠ ["None"] ∧ envelope.mustNot ≠ ["None"]

/-- What comes before the authority section. -/
def headerLines (envelope : InstructionEnvelopeV2 Tier) : List (List Char) :=
  "# Instruction Envelope 2.0".toList ::
    [("Job ID: ", envelope.jobId), ("Task ID: ", envelope.taskId),
      ("Stage: ", envelope.stage.text)].flatMap fun field =>
        (field.1.toList ++ field.2.toList).splitOn '\n'

theorem sealed_headerLines (h : Contained tierText envelope) :
    Sealed "## Authority".toList (headerLines envelope) := by
  refine List.isChain_cons.mpr ⟨fun _ _ hempty => absurd hempty (by decide),
    (sealed_entries ?_ ?_ ?_).1⟩
  · simp
  · simp
  · have hstage : Sealed "## Authority".toList (continuation envelope.stage.text.toList) := by
      cases envelope.stage <;> exact .nil
    have hids := h.ids
    rw [List.forall_mem_cons, List.forall_mem_singleton] at hids
    simpa using And.intro hids.1 ⟨hids.2, hstage⟩

theorem newline_notMem_authorityHead (tier : Tier) (source : AuthoritySource) :
    '\n' ∉ authorityHead tierText tier source := by
  have hnumber : '\n' ∉ (tierText tier).text := by
    intro hmem
    exact absurd ((tierText tier).marks _ hmem) (by decide)
  have hsource : '\n' ∉ source.text.toList := by
    cases source <;> simp [text]
  have hrest : '\n' ∉ ')' :: ':' :: [' '] := by decide
  have hname : '\n' ∉ ' ' :: '(' :: (source.text.toList ++ ')' :: ':' :: [' ']) :=
    List.not_mem_cons_of_ne_of_not_mem (by decide)
      (List.not_mem_cons_of_ne_of_not_mem (by decide) (List.not_mem_append hsource hrest))
  exact List.not_mem_append (by decide) (List.not_mem_append hnumber hname)

theorem authorityLine_injective (htier : Function.Injective tierText) :
    Function.Injective (authorityLine tierText) := by
  have hsource : ∀ source : AuthoritySource, ')' ∉ source.text.toList := by
    intro source
    cases source <;> simp [text]
  have hsources : ∀ source source' : AuthoritySource,
      source.text = source'.text → source = source' := by
    intro source source' hsame
    cases source <;> cases source' <;> simp [text] at hsame ⊢
  have hspace : ∀ n : NumberText, ' ' ∉ n.text := by
    intro n hmem
    exact absurd (n.marks _ hmem) (by decide)
  rintro ⟨tier, source, instruction⟩ ⟨tier', source', instruction'⟩ h
  unfold authorityLine authorityHead at h
  generalize "- Tier ".toList = mark at h
  simp only [List.append_assoc, List.cons_append] at h
  obtain ⟨hnumber, hrest⟩ := append_cons_inj (hspace _) (hspace _) (List.append_cancel_left h)
  obtain ⟨hname, hinstruction⟩ := append_cons_inj (hsource _) (hsource _) (List.cons.inj hrest).2
  have htext : (tierText tier).text ++ [] = (tierText tier').text ++ [] := by rw [hnumber]
  have hends : JsonValue.Ends [] := nofun
  obtain rfl := htier (JsonValue.numberText_inj hends hends htext).1
  obtain rfl := hsources _ _ (String.toList_inj.mp hname)
  obtain rfl : instruction = instruction' := String.toList_inj.mp (by simpa using hinstruction)
  rfl

theorem splitOn_renderInstructionEnvelope [LinearOrder Tier] (tierText : Tier → NumberText)
    (envelope : InstructionEnvelopeV2 Tier) :
    ∃ output, (renderInstructionEnvelope tierText envelope).toList.splitOn '\n' =
        headerLines envelope ++ [] :: "## Authority".toList ::
        ((sortedAuthority envelope.authority).flatMap (fun item =>
          (authorityHead tierText item.tier item.source ++ item.instruction.toList).splitOn '\n') ++
        [] :: "## Objective".toList :: (envelope.objective.toList.splitOn '\n' ++
        [] :: "## Must".toList :: (listLines (envelope.must.map String.toList) ++
        [] :: "## Must Not".toList :: (listLines (envelope.mustNot.map String.toList) ++
        [] :: "## Allowed Tools".toList :: (listLines (envelope.allowedTools.map toolLine) ++
        [] :: "## Required Output".toList :: output))))) := by
  have hone : ∀ line : List Char, '\n' ∉ line → line.splitOn '\n' = [line] :=
    fun _ => List.splitOn_eq_singleton
  refine ⟨["Kind: ".toList ++ envelope.requiredOutput.kind.text.toList,
    "Return valid JSON matching this schema:".toList, "```json".toList,
    envelope.requiredOutput.jsonSchema.stringifyIndented [], "```".toList].flatMap
      (List.splitOn '\n'), ?_⟩
  rw [renderInstructionEnvelope, String.toList_ofList,
    splitOn_intercalate_flatMap (by simp [renderedLines])]
  simp (disch := decide) only [renderedLines, headerLines, listLines, appendList, hone, List.flatMap_append,
    List.flatMap_cons, List.flatMap_nil, List.flatMap_map, List.append_assoc, List.cons_append, List.nil_append, List.append_nil]
  rfl

def told [LinearOrder Tier] (envelope : InstructionEnvelopeV2 Tier) :=
  (sortedAuthority envelope.authority, envelope.objective, envelope.must, envelope.mustNot,
    envelope.allowedTools)

theorem toolLine_injective : Function.Injective toolLine := by
  rintro ⟨name, argsSchema⟩ ⟨name', argsSchema'⟩ h
  obtain ⟨hname, hschema⟩ := JsonValue.named_stringify_inj h
  exact congr (congrArg AllowedTool.mk (String.toList_inj.mp hname)) hschema

theorem toolLine_ne_none (tools : List AllowedTool) : tools.map toolLine ≠ ["None".toList] := by
  intro h
  obtain ⟨tool, rfl, htool⟩ := List.map_eq_singleton_iff.mp h
  have hcolon : ':' ∈ toolLine tool := by simp [toolLine]
  rw [htool] at hcolon
  exact absurd hcolon (by decide)

theorem sealed_authority [LinearOrder Tier] (h : Contained tierText envelope) :
    Sealed "## Objective".toList ((sortedAuthority envelope.authority).flatMap fun item =>
      (authorityHead tierText item.tier item.source ++ item.instruction.toList).splitOn '\n') := by
  refine (sealed_entries (fun item _ => newline_notMem_authorityHead _ _) (fun item _ => ?_)
    fun item hitem => (h.authority item ((List.mem_insertionSort _).mp hitem)).is_sealed).1
  rintro ⟨rest, hrest⟩
  exact absurd (List.cons.inj hrest).1 (by decide)

/-- A tier of one digit. -/
def digitText (tier : Fin 10) : NumberText where
  text := [Nat.digitChar tier]
  nonempty := nofun
  marks := by simp [isNumberMark, Nat.isDigit_digitChar]

def sampleEnvelope (authority : List (AuthorityInstruction (Fin 10))) (objective : String) :
    InstructionEnvelopeV2 (Fin 10) where
  jobId := "job"
  taskId := "task"
  stage := .dev
  authority := authority
  objective := objective
  must := []
  mustNot := ["push"]
  allowedTools := [⟨"run", .obj []⟩]
  requiredOutput := ⟨.toolPlan, .obj []⟩

theorem contained_sampleEnvelope {objective : String} (hobjective : '\n' ∉ objective.toList) :
    Contained digitText (sampleEnvelope [⟨5, .user, "go"⟩] objective) where
  ids := by
    intro id hid
    obtain rfl | rfl : id = "job" ∨ id = "task" := by simpa [sampleEnvelope] using hid
    · exact .nil
    · exact .nil
  authority := by
    rintro item (_ | ⟨_, _, _⟩)
    exact ⟨nofun, .nil⟩
  objective := by
    rw [sampleEnvelope, List.splitOn_eq_singleton hobjective]
    exact .singleton _
  must := nofun
  mustNot := by
    rintro value (_ | ⟨_, _, _⟩)
    exact ⟨nofun, .nil⟩
  tools := by
    rintro value (_ | ⟨_, _, _⟩)
    exact ⟨nofun, .nil⟩
  none_listed := by simp [sampleEnvelope]

/-- The prompt of an envelope with two authority entries or more is also that of one in which a single
entry has the text of two. -/
theorem exists_lookalike [LinearOrder Tier] (tierText : Tier → NumberText)
    (h : 1 < envelope.authority.length) : ∃ other, told other ≠ told envelope ∧
      renderInstructionEnvelope tierText other = renderInstructionEnvelope tierText envelope := by
  have hsorts : (sortedAuthority envelope.authority).Pairwise fun a b => a.tier ≤ b.tier :=
    List.pairwise_insertionSort ..
  have hlength : (sortedAuthority envelope.authority).length = envelope.authority.length :=
    List.length_insertionSort ..
  rcases hsorted : sortedAuthority envelope.authority with _ | ⟨a, _ | ⟨b, rest⟩⟩
  · simp [← hlength, hsorted] at h
  · simp [← hlength, hsorted] at h
  rw [hsorted, List.pairwise_cons, List.pairwise_cons] at hsorts
  let merged : AuthorityInstruction Tier :=
    { a with instruction := .ofList (a.instruction.toList ++ '\n' :: authorityLine tierText b) }
  have hmerged : sortedAuthority (merged :: rest) = merged :: rest :=
    List.Pairwise.insertionSort_eq (List.pairwise_cons.mpr
      ⟨fun c hc => hsorts.1 c (List.mem_cons_of_mem _ hc), hsorts.2.2⟩)
  let other := { envelope with authority := merged :: rest }
  refine ⟨other, fun htold => ?_, ?_⟩
  · have hfewer := congrArg (fun parts => parts.1.length) htold
    simp [told, other, hmerged, hsorted] at hfewer
  · have hline : (authorityLine tierText merged).splitOn '\n' =
        (authorityLine tierText a).splitOn '\n' ++ (authorityLine tierText b).splitOn '\n' := by
      rw [← List.splitOn_append_cons_self]
      simp [authorityLine, merged]
    have hlines : (renderedLines tierText other).flatMap (List.splitOn '\n') =
        (renderedLines tierText envelope).flatMap (List.splitOn '\n') := by
      simp only [renderedLines, other, hmerged, hsorted, List.flatMap_append, List.map_cons,
        List.flatMap_cons, hline, List.append_assoc]
    rw [← splitOn_intercalate_flatMap (by simp [renderedLines]),
      ← splitOn_intercalate_flatMap (by simp [renderedLines])] at hlines
    have hjoined := congrArg ['\n'].intercalate hlines
    rw [List.intercalate_splitOn, List.intercalate_splitOn] at hjoined
    exact congrArg String.ofList hjoined

theorem exists_lookalike_sample : ∃ other,
    told other ≠ told (sampleEnvelope [⟨5, .user, "a"⟩, ⟨5, .policy, "b"⟩] "go") ∧
      renderInstructionEnvelope digitText other = renderInstructionEnvelope digitText
        (sampleEnvelope [⟨5, .user, "a"⟩, ⟨5, .policy, "b"⟩] "go") :=
  exists_lookalike digitText (by decide)

end prompts

end ShipyardCp.Properties
