import ShipyardCp.Lib.CodeUnits
import ShipyardCp.Types.Base

/-! References of the tracker-bridge package: read by splitting at every colon, with short forms of three
parts. -/

namespace ShipyardCp.TrackerBridge

open Types Lib

def knownDomains : List String := ["tracker", "agent-taskstate", "memx"]

def localProvider : String := "local"

def trackerDomain : String := "tracker"

def trackerDefaultEntityType : String := "issue"

def localDomains : List String := ["memx", "agent-taskstate"]

/-- A reference that the constructor accepts. -/
structure TypedRef where
  domain : String
  entityType : String
  entityId : String
  provider : String
  known : domain ∈ knownDomains
  entityType_ne : entityType ≠ ""
  entityId_ne : entityId ≠ ""
  provider_ne : provider ≠ ""

/-- `split(':')` -/
def splitColons (value : String) : List String := (value.toList.splitOn ':').map .ofList

namespace TypedRef

def resolveProvider (domain : String) (provider : Option String) : String :=
  if provider.getD "" = "" ∧ domain ∈ localDomains then localProvider else provider.getD ""

/-- The constructor. -/
def new (domain entityType entityId : String) (provider : Option String) : Except String TypedRef :=
  if known : domain ∈ knownDomains then
    if nonempty : entityType ≠ "" ∧ entityId ≠ "" then
      if provided : resolveProvider domain provider ≠ "" then
        .ok
          { domain, entityType, entityId
            provider := resolveProvider domain provider
            known
            entityType_ne := nonempty.1
            entityId_ne := nonempty.2
            provider_ne := provided }
      else .error "Invalid typed_ref: provider is required"
    else .error "Invalid typed_ref: empty segment"
  else .error s!"Unknown typed_ref domain: {domain}"

def toString (r : TypedRef) : String :=
  r.domain ++ ":" ++ r.entityType ++ ":" ++ r.provider ++ ":" ++ r.entityId

def parse (value : String) : Except String TypedRef :=
  match splitColons value with
  | [domain, second, third] =>
    if domain = "" ∨ second = "" ∨ third = "" then
      .error s!"Invalid typed_ref: empty segment in {value}"
    else if domain ∈ localDomains then new domain second third (some localProvider)
    else if domain = trackerDomain then new domain trackerDefaultEntityType third (some second)
    else .error s!"Unknown typed_ref domain: {domain}"
  | [domain, entityType, provider, entityId] =>
    if domain = "" ∨ entityType = "" ∨ provider = "" ∨ entityId = "" then
      .error s!"Invalid typed_ref: empty segment in {value}"
    else new domain entityType entityId (some provider)
  | _ => .error s!"Invalid typed_ref format: {value}"

end TypedRef

def canonicalize (value : String) : Except String String :=
  (TypedRef.parse value).map TypedRef.toString

def ColonFree (text : String) : Prop := ':' ∉ text.toList

instance (text : String) : Decidable (ColonFree text) := inferInstanceAs (Decidable (_ ∉ _))

section splitting

variable {value part rest : String}

theorem colonFree_of_mem_splitColons (h : part ∈ splitColons value) : ColonFree part := by
  obtain ⟨segment, hsegment, rfl⟩ := List.mem_map.mp h
  rw [ColonFree, String.toList_ofList]
  exact notMem_of_mem_splitOn hsegment

theorem splitColons_of_colonFree (h : ColonFree value) : splitColons value = [value] := by
  rw [splitColons, List.splitOn_eq_singleton h, List.map_singleton, String.ofList_toList]

theorem splitColons_append (h : ColonFree part) :
    splitColons (part ++ ":" ++ rest) = part :: splitColons rest := by
  have hlist : (part ++ ":" ++ rest).toList = part.toList ++ ':' :: rest.toList := by
    simp
  rw [splitColons, hlist, List.splitOn_append_cons_self_of_not_mem h, List.map_cons,
    String.ofList_toList, splitColons]

theorem splitColons_injective : Function.Injective splitColons := by
  intro value value' h
  have hparts : value.toList.splitOn ':' = value'.toList.splitOn ':' :=
    List.map_injective_iff.mpr (fun _ _ => String.ofList_injective) h
  have hjoined := congrArg (List.intercalate [':']) hparts
  rw [List.intercalate_splitOn, List.intercalate_splitOn] at hjoined
  exact String.toList_inj.mp hjoined

end splitting

namespace TypedRef

variable {domain entityType entityId provider value : String} {r : TypedRef}

theorem resolveProvider_some (h : provider ≠ "") :
    resolveProvider domain (some provider) = provider :=
  if_neg fun hempty => h hempty.1

theorem new_some_eq_ok_iff (h : provider ≠ "") :
    new domain entityType entityId (some provider) = .ok r ↔ domain ∈ knownDomains ∧
      r.domain = domain ∧ r.entityType = entityType ∧ r.entityId = entityId ∧ r.provider = provider := by
  unfold new
  constructor
  · intro hnew
    split_ifs at hnew with hknown
    obtain rfl := Except.ok.inj hnew
    exact ⟨hknown, rfl, rfl, rfl, resolveProvider_some h⟩
  · rintro ⟨hknown, rfl, rfl, rfl, rfl⟩
    rw [dif_pos hknown, dif_pos ⟨r.entityType_ne, r.entityId_ne⟩]
    simp only [resolveProvider_some h]
    exact dif_pos h

theorem new_self (r : TypedRef) : new r.domain r.entityType r.entityId (some r.provider) = .ok r :=
  (new_some_eq_ok_iff r.provider_ne).mpr ⟨r.known, rfl, rfl, rfl, rfl⟩

theorem ne_empty_of_known (h : domain ∈ knownDomains) : domain ≠ "" := by
  rintro rfl
  exact absurd h (by decide)

theorem colonFree_of_known (h : domain ∈ knownDomains) : ColonFree domain := by
  have hall : ∀ domain ∈ knownDomains, ColonFree domain := by decide +kernel
  exact hall domain h

def Plain (r : TypedRef) : Prop :=
  ColonFree r.entityType ∧ ColonFree r.provider ∧ ColonFree r.entityId

theorem splitColons_toString (h : r.Plain) :
    splitColons r.toString = [r.domain, r.entityType, r.provider, r.entityId] := by
  have htext : r.toString = r.domain ++ ":" ++ (r.entityType ++ ":" ++ (r.provider ++ ":" ++ r.entityId)) := by
    simp [toString, String.append_assoc]
  rw [htext, splitColons_append (colonFree_of_known r.known), splitColons_append h.1,
    splitColons_append h.2.1, splitColons_of_colonFree h.2.2]

theorem parse_toString (h : r.Plain) : parse r.toString = .ok r := by
  rw [parse, splitColons_toString h]
  dsimp only
  rw [if_neg, new_self]
  rintro (hempty | hempty | hempty | hempty)
  · exact ne_empty_of_known r.known hempty
  · exact r.entityType_ne hempty
  · exact r.provider_ne hempty
  · exact r.entityId_ne hempty

theorem plain_of_parse (h : parse value = .ok r) : r.Plain := by
  have hissue : ColonFree trackerDefaultEntityType := by decide +kernel
  have hlocal : ColonFree localProvider := by decide +kernel
  have hfree : ∀ part ∈ splitColons value, ColonFree part := fun _ => colonFree_of_mem_splitColons
  unfold parse at h
  split at h
  · rename_i domain second third hparts
    simp only [hparts, List.forall_mem_cons] at hfree
    obtain ⟨_, hsecond, hthird, _⟩ := hfree
    split_ifs at h with hempty hdomain htracker
    · obtain ⟨_, _, rfl, rfl, hprovider⟩ := (new_some_eq_ok_iff (by decide)).mp h
      exact ⟨hsecond, hprovider ▸ hlocal, hthird⟩
    · rw [not_or, not_or] at hempty
      obtain ⟨_, _, htype, rfl, rfl⟩ := (new_some_eq_ok_iff hempty.2.1).mp h
      exact ⟨htype ▸ hissue, hsecond, hthird⟩
  · rename_i domain entityType provider entityId hparts
    simp only [hparts, List.forall_mem_cons] at hfree
    obtain ⟨_, hentityType, hprovider, hentityId, _⟩ := hfree
    split_ifs at h with hempty
    rw [not_or, not_or, not_or] at hempty
    obtain ⟨_, _, rfl, rfl, rfl⟩ := (new_some_eq_ok_iff hempty.2.2.1).mp h
    exact ⟨hentityType, hprovider, hentityId⟩
  · cases h

theorem parse_eq_ok_iff_of_four (hparts : splitColons value = [domain, entityType, provider, entityId])
    (hknown : domain ∈ knownDomains) (hentityType : entityType ≠ "") (hprovider : provider ≠ "") :
    parse value = .ok r ↔ entityId ≠ "" ∧ r.domain = domain ∧ r.entityType = entityType ∧
      r.entityId = entityId ∧ r.provider = provider := by
  rw [parse, hparts]
  dsimp only
  by_cases hid : entityId = ""
  · rw [if_pos (.inr (.inr (.inr hid)))]
    exact iff_of_false nofun fun h => h.1 hid
  · have hempty : ¬(domain = "" ∨ entityType = "" ∨ provider = "" ∨ entityId = "") := by
      simp [ne_empty_of_known hknown, hentityType, hprovider, hid]
    rw [if_neg hempty, new_some_eq_ok_iff hprovider]
    simp [hknown, hid]

end TypedRef

theorem canonicalize_eq_ok_iff {value canonical : String} : canonicalize value = .ok canonical ↔
    ∃ r, TypedRef.parse value = .ok r ∧ r.toString = canonical := by
  unfold canonicalize
  cases TypedRef.parse value with
  | error message => simp [Except.map]
  | ok r => simp [Except.map]

theorem canonicalize_idempotent {value canonical : String} (h : canonicalize value = .ok canonical) :
    canonicalize canonical = .ok canonical := by
  obtain ⟨r, hparse, rfl⟩ := canonicalize_eq_ok_iff.mp h
  exact canonicalize_eq_ok_iff.mpr ⟨r, TypedRef.parse_toString (TypedRef.plain_of_parse hparse), rfl⟩

end ShipyardCp.TrackerBridge
