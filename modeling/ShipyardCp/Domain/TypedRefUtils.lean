import ShipyardCp.Lib.JsText
import ShipyardCp.Types.Base

/-! References in canonical form, `domain:entity_type:provider:entity_id`, as the control plane reads
and writes them. -/

namespace ShipyardCp.Domain.TypedRefUtils

open Lib

structure TypedRefComponents where
  domain : String
  entityType : String
  provider : String
  entityId : String

def isRefChar (c : Char) : Bool := c.isAlphanum || c = '_' || c = '-'

/-- `([a-zA-Z0-9_-]+):` at the start of a text, with what follows it. -/
def readSegment (text : List Char) : Option (List Char × List Char) :=
  match text.dropWhile isRefChar with
  | ':' :: rest =>
    if text.takeWhile isRefChar = [] then none else some (text.takeWhile isRefChar, rest)
  | _ => none

/-- `^([a-zA-Z0-9_-]+):([a-zA-Z0-9_-]+):([a-zA-Z0-9_-]+):(.+)$` -/
def parseTypedRef (typedRef : String) : Option TypedRefComponents := do
  let (domain, rest) ← readSegment typedRef.toList
  let (entityType, rest) ← readSegment rest
  let (provider, entityId) ← readSegment rest
  if entityId ≠ [] ∧ ∀ c ∈ entityId, JsText.isLineTerminator c = false then
    some ⟨.ofList domain, .ofList entityType, .ofList provider, .ofList entityId⟩
  else none

def buildTypedRef (components : TypedRefComponents) : String :=
  components.domain ++ ":" ++ components.entityType ++ ":" ++ components.provider ++ ":" ++
    components.entityId

def validDomains : List String := ["agent-taskstate", "memx", "tracker", "shipyard"]

def entityTypesByDomain : String → Option (List String)
  | "agent-taskstate" => some ["task", "decision", "question"]
  | "memx" => some ["evidence", "doc", "chunk", "contract"]
  | "tracker" => some ["issue", "pr", "project_item", "comment"]
  | "shipyard" => some ["task", "job", "workspace", "artifact"]
  | _ => none

def toLowerCase (segment : String) : String := .ofList (segment.toList.map Char.toLower)

def isValidTypedRef (typedRef : String) : Bool := typedRef ≠ "" &&
    (parseTypedRef typedRef).any fun parsed => toLowerCase parsed.domain ∈ validDomains

/-- The error of a reference, or none when it is valid. -/
def validateTypedRef (typedRef : String) : Option String :=
  if typedRef = "" then some "typed_ref is required and must be a string"
  else
    match parseTypedRef typedRef with
    | none =>
      some ("typed_ref must match pattern <domain>:<entity_type>:<provider>:<entity_id>, got: " ++
        typedRef)
    | some parsed =>
      let domain := toLowerCase parsed.domain
      let entityType := toLowerCase parsed.entityType
      if domain ∉ validDomains then
        some (s!"Invalid domain '{domain}'. Valid domains: " ++ ", ".intercalate validDomains)
      else if (entityTypesByDomain domain).any (entityType ∉ ·) then
        some (s!"Invalid entity_type '{entityType}' for domain '{domain}'. Valid types: " ++
          ", ".intercalate ((entityTypesByDomain domain).getD []))
      else if parsed.provider = "" then some "Provider segment cannot be empty"
      else if parsed.entityId = "" then some "Entity ID segment cannot be empty"
      else none

def normalizeTypedRef (typedRef : String) : Option String :=
  match parseTypedRef typedRef with
  | none => none
  | some parsed =>
    if toLowerCase parsed.domain ∉ validDomains then none
    else some (buildTypedRef
      { domain := toLowerCase parsed.domain
        entityType := toLowerCase parsed.entityType
        provider := toLowerCase parsed.provider
        entityId := parsed.entityId })

def areTypedRefsEqual (ref1 ref2 : String) : Bool :=
  match normalizeTypedRef ref1, normalizeTypedRef ref2 with
  | some norm1, some norm2 => norm1 ≠ "" && norm2 ≠ "" && norm1 = norm2
  | _, _ => false

def Segment (text : String) : Prop := text ≠ "" ∧ ∀ c ∈ text.toList, isRefChar c = true

def OneLine (text : String) : Prop := ∀ c ∈ text.toList, JsText.isLineTerminator c = false

instance (text : String) : Decidable (Segment text) :=
  @instDecidableAnd _ _ inferInstance (List.decidableBAll _ _)

instance (text : String) : Decidable (OneLine text) := List.decidableBAll _ _

section segments

variable {text segment rest : List Char}

theorem readSegment_eq_some_iff : readSegment text = some (segment, rest) ↔
    text = segment ++ ':' :: rest ∧ segment ≠ [] ∧ ∀ c ∈ segment, isRefChar c = true := by
  have hcolon : isRefChar ':' = false := rfl
  constructor
  · intro h
    have hsplit := List.takeWhile_append_dropWhile (p := isRefChar) (l := text)
    unfold readSegment at h
    split at h
    · rename_i rest' hdrop
      rw [hdrop] at hsplit
      split_ifs at h with hempty
      obtain ⟨rfl, rfl⟩ := Prod.mk.inj (Option.some.inj h)
      exact ⟨hsplit.symm, hempty, fun c hc => List.all_eq_true.mp List.all_takeWhile c hc⟩
    · cases h
  · rintro ⟨rfl, hne, hchars⟩
    have hdrop : (segment ++ ':' :: rest).dropWhile isRefChar = ':' :: rest := by
      rw [List.dropWhile_append_of_pos hchars, List.dropWhile_cons_of_neg (by simp [hcolon])]
    have htake : (segment ++ ':' :: rest).takeWhile isRefChar = segment := by
      rw [List.takeWhile_append_of_pos hchars, List.takeWhile_cons_of_neg (by simp [hcolon]),
        List.append_nil]
    rw [readSegment, hdrop, htake]
    exact if_neg hne

end segments

section components

variable {typedRef : String} {components : TypedRefComponents}

theorem toList_buildTypedRef (components : TypedRefComponents) :
    (buildTypedRef components).toList = components.domain.toList ++ ':' ::
      (components.entityType.toList ++ ':' ::
        (components.provider.toList ++ ':' :: components.entityId.toList)) := by
  simp [buildTypedRef]

theorem segment_ofList_iff {text : List Char} :
    Segment (.ofList text) ↔ text ≠ [] ∧ ∀ c ∈ text, isRefChar c = true := by
  rw [Segment, String.toList_ofList, Ne, ← String.toList_inj, String.toList_ofList]
  rfl

theorem parseTypedRef_eq_some_iff : parseTypedRef typedRef = some components ↔
    typedRef = buildTypedRef components ∧ Segment components.domain ∧ Segment components.entityType ∧
      Segment components.provider ∧ components.entityId ≠ "" ∧ OneLine components.entityId := by
  constructor
  · intro h
    simp only [parseTypedRef, Option.bind_eq_bind, Option.bind_eq_some_iff] at h
    obtain ⟨⟨domain, rest₁⟩, h₁, ⟨entityType, rest₂⟩, h₂, ⟨provider, entityId⟩, h₃, hrest⟩ := h
    obtain ⟨htext, hdomain⟩ := readSegment_eq_some_iff.mp h₁
    obtain ⟨rfl, hentityType⟩ := readSegment_eq_some_iff.mp h₂
    obtain ⟨rfl, hprovider⟩ := readSegment_eq_some_iff.mp h₃
    dsimp only at hrest
    split_ifs at hrest with hid
    obtain rfl := Option.some.inj hrest
    refine ⟨?_, segment_ofList_iff.mpr hdomain, segment_ofList_iff.mpr hentityType,
      segment_ofList_iff.mpr hprovider, ?_, ?_⟩
    · rw [← String.toList_inj, toList_buildTypedRef, htext]
      simp
    · rw [Ne, ← String.toList_inj, String.toList_ofList]
      exact hid.1
    · rw [OneLine, String.toList_ofList]
      exact hid.2
  · rintro ⟨rfl, hdomain, hentityType, hprovider, hid, hline⟩
    have hempty : ∀ {text : String}, text ≠ "" → text.toList ≠ [] := fun hne hnil =>
      hne (String.toList_inj.mp hnil)
    have hread : ∀ {text : String} (rest : List Char), Segment text →
        readSegment (text.toList ++ ':' :: rest) = some (text.toList, rest) := fun rest hsegment =>
      readSegment_eq_some_iff.mpr ⟨rfl, hempty hsegment.1, hsegment.2⟩
    simp only [parseTypedRef, toList_buildTypedRef, hread _ hdomain, hread _ hentityType,
      hread _ hprovider, Option.bind_eq_bind, Option.bind_some, String.ofList_toList]
    exact if_pos ⟨hempty hid, hline⟩

end components

end ShipyardCp.Domain.TypedRefUtils
