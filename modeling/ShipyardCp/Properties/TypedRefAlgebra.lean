import ShipyardCp.Domain.TypedRefUtils
import ShipyardCp.TrackerBridge.TypedRef

/-! The algebra of canonical references: reading undoes writing, and equality up to case is equality of
normal forms. -/

namespace ShipyardCp.Properties

open Domain Domain.TypedRefUtils Lib TrackerBridge TypedRef

/-- The laws of the references, the first one for the given components. -/
structure TypedRefAlgebra (components : TypedRefComponents) : Prop where
  roundTrip : parseTypedRef (buildTypedRef components) = some components
  rebuild : ∀ typedRef parsed, parseTypedRef typedRef = some parsed → buildTypedRef parsed = typedRef
  idempotent : ∀ typedRef normal, normalizeTypedRef typedRef = some normal →
    normalizeTypedRef normal = some normal
  refl : ∀ ref, isValidTypedRef ref = true → areTypedRefsEqual ref ref = true
  symm : ∀ ref ref', isValidTypedRef ref = true → isValidTypedRef ref' = true →
    areTypedRefsEqual ref ref' = true → areTypedRefsEqual ref' ref = true
  trans : ∀ ref ref' ref'', isValidTypedRef ref = true → isValidTypedRef ref' = true →
    isValidTypedRef ref'' = true → areTypedRefsEqual ref ref' = true →
      areTypedRefsEqual ref' ref'' = true → areTypedRefsEqual ref ref'' = true
  classes : ∀ ref ref', isValidTypedRef ref = true → isValidTypedRef ref' = true →
    (areTypedRefsEqual ref ref' = true ↔ normalizeTypedRef ref = normalizeTypedRef ref')

section lowerCase

theorem isUpper_toLower (c : Char) : c.toLower.isUpper = false := by
  delta Char.isUpper Char.toLower
  split <;> grind [UInt32.toNat_add, Char.toNat_val]

theorem toLower_of_not_isUpper {c : Char} (h : c.isUpper = false) : c.toLower = c :=
  dif_neg (of_decide_eq_false h)

theorem toLower_toLower (c : Char) : c.toLower.toLower = c.toLower :=
  toLower_of_not_isUpper (isUpper_toLower c)

theorem isLower_toLower_of_isUpper {c : Char} (h : c.isUpper = true) : c.toLower.isLower = true := by
  have hall : ∀ n < 91, (Char.ofNat n).isUpper = true → (Char.ofNat n).toLower.isLower = true := by
    decide +kernel
  have hrange : c.val ≥ 'A'.val ∧ c.val ≤ 'Z'.val := of_decide_eq_true h
  have hlt : c.toNat < 91 := Nat.lt_succ_of_le (UInt32.le_iff_toNat_le.mp hrange.2)
  have hc := hall c.toNat hlt
  rw [Char.ofNat_toNat] at hc
  exact hc h

theorem isRefChar_toLower {c : Char} (h : isRefChar c = true) : isRefChar c.toLower = true := by
  cases hupper : c.isUpper with
  | true =>
    rw [isRefChar, Char.isAlphanum]
    delta Char.isAlpha
    simp [isLower_toLower_of_isUpper hupper]
  | false => rwa [toLower_of_not_isUpper hupper]

theorem segment_toLowerCase {text : String} (h : Segment text) : Segment (toLowerCase text) := by
  refine segment_ofList_iff.mpr ⟨?_, ?_⟩
  · rw [Ne, List.map_eq_nil_iff]
    exact fun hnil => h.1 (String.toList_inj.mp hnil)
  · intro c hc
    obtain ⟨d, hd, rfl⟩ := List.mem_map.mp hc
    exact isRefChar_toLower (h.2 d hd)

@[simp] theorem toLowerCase_toLowerCase (text : String) :
    toLowerCase (toLowerCase text) = toLowerCase text := by
  rw [toLowerCase, toLowerCase, String.toList_ofList, List.map_map]
  exact congrArg String.ofList (List.map_congr_left fun c _ => toLower_toLower c)

end lowerCase

section laws

variable {typedRef ref ref' normal : String} {components parsed : TypedRefComponents}

def lowered (components : TypedRefComponents) : TypedRefComponents :=
  ⟨toLowerCase components.domain, toLowerCase components.entityType, toLowerCase components.provider,
    components.entityId⟩

theorem parseTypedRef_buildTypedRef_iff (hdomain : Segment components.domain)
    (hentityType : Segment components.entityType) (hprovider : Segment components.provider)
    (hid : components.entityId ≠ "") :
    parseTypedRef (buildTypedRef components) = some components ↔ OneLine components.entityId := by
  rw [parseTypedRef_eq_some_iff]
  exact ⟨fun h => h.2.2.2.2.2, fun h => ⟨rfl, hdomain, hentityType, hprovider, hid, h⟩⟩

theorem buildTypedRef_of_parseTypedRef (h : parseTypedRef typedRef = some parsed) :
    buildTypedRef parsed = typedRef :=
  (parseTypedRef_eq_some_iff.mp h).1.symm

theorem normalizeTypedRef_eq_some_iff : normalizeTypedRef typedRef = some normal ↔
    ∃ parsed, parseTypedRef typedRef = some parsed ∧ toLowerCase parsed.domain ∈ validDomains ∧
      normal = buildTypedRef (lowered parsed) := by
  unfold normalizeTypedRef
  cases parseTypedRef typedRef with
  | none => simp
  | some parsed =>
    dsimp only
    by_cases hdomain : toLowerCase parsed.domain ∈ validDomains
    · rw [if_neg (not_not.mpr hdomain)]
      constructor
      · intro h
        exact ⟨parsed, rfl, hdomain, (Option.some.inj h).symm⟩
      · rintro ⟨_, hsame, _, rfl⟩
        rw [← Option.some.inj hsame]
        rfl
    · rw [if_pos hdomain]
      refine iff_of_false nofun ?_
      rintro ⟨_, hsame, hdomain', _⟩
      rw [← Option.some.inj hsame] at hdomain'
      exact hdomain hdomain'

theorem parseTypedRef_normal (h : parseTypedRef typedRef = some parsed) :
    parseTypedRef (buildTypedRef (lowered parsed)) = some (lowered parsed) := by
  obtain ⟨_, hdomain, hentityType, hprovider, hid, hline⟩ := parseTypedRef_eq_some_iff.mp h
  exact parseTypedRef_eq_some_iff.mpr ⟨rfl, segment_toLowerCase hdomain,
    segment_toLowerCase hentityType, segment_toLowerCase hprovider, hid, hline⟩

theorem normalizeTypedRef_idempotent (h : normalizeTypedRef typedRef = some normal) :
    normalizeTypedRef normal = some normal := by
  obtain ⟨parsed, hparsed, hdomain, rfl⟩ := normalizeTypedRef_eq_some_iff.mp h
  refine normalizeTypedRef_eq_some_iff.mpr ⟨lowered parsed, parseTypedRef_normal hparsed, ?_, ?_⟩
  · simpa [lowered] using hdomain
  · simp [lowered]

theorem buildTypedRef_ne_empty (components : TypedRefComponents) : buildTypedRef components ≠ "" := by
  intro hempty
  have hlist := congrArg String.toList hempty
  rw [toList_buildTypedRef] at hlist
  exact absurd hlist (by simp)

theorem areTypedRefsEqual_iff : areTypedRefsEqual ref ref' = true ↔
    ∃ normal, normalizeTypedRef ref = some normal ∧ normalizeTypedRef ref' = some normal := by
  unfold areTypedRefsEqual
  cases hnorm1 : normalizeTypedRef ref with
  | none => simp
  | some norm1 =>
    cases hnorm2 : normalizeTypedRef ref' with
    | none => simp
    | some norm2 =>
      obtain ⟨_, _, _, rfl⟩ := normalizeTypedRef_eq_some_iff.mp hnorm1
      obtain ⟨_, _, _, rfl⟩ := normalizeTypedRef_eq_some_iff.mp hnorm2
      simp only [ne_eq, buildTypedRef_ne_empty, not_false_eq_true, decide_true, Bool.true_and,
        decide_eq_true_eq, Option.some.injEq, exists_eq_left']
      exact eq_comm

theorem isValidTypedRef_iff :
    isValidTypedRef ref = true ↔ ∃ normal, normalizeTypedRef ref = some normal := by
  have hne : ∀ {parsed}, parseTypedRef ref = some parsed → ref ≠ "" := by
    intro parsed hparsed
    rw [(parseTypedRef_eq_some_iff.mp hparsed).1]
    exact buildTypedRef_ne_empty parsed
  simp only [isValidTypedRef, normalizeTypedRef_eq_some_iff, Bool.and_eq_true, decide_eq_true_eq,
    Option.any_eq_true]
  constructor
  · rintro ⟨_, parsed, hparsed, hdomain⟩
    exact ⟨_, parsed, hparsed, hdomain, rfl⟩
  · rintro ⟨_, parsed, hparsed, hdomain, _⟩
    exact ⟨hne hparsed, parsed, hparsed, hdomain⟩

end laws

/-- The laws hold exactly for the components whose id is one line. -/
theorem typedRefAlgebra_iff {components : TypedRefComponents} (hdomain : Segment components.domain)
    (hentityType : Segment components.entityType) (hprovider : Segment components.provider)
    (hid : components.entityId ≠ "") : TypedRefAlgebra components ↔ OneLine components.entityId := by
  rw [← parseTypedRef_buildTypedRef_iff hdomain hentityType hprovider hid]
  refine ⟨fun h => h.roundTrip, fun hround => ⟨hround, fun _ _ => buildTypedRef_of_parseTypedRef,
    fun _ _ => normalizeTypedRef_idempotent, ?_, ?_, ?_, ?_⟩⟩
  · intro ref hvalid
    obtain ⟨normal, hnormal⟩ := isValidTypedRef_iff.mp hvalid
    exact areTypedRefsEqual_iff.mpr ⟨normal, hnormal, hnormal⟩
  · intro ref ref' _ _ hequal
    obtain ⟨normal, hnormal, hnormal'⟩ := areTypedRefsEqual_iff.mp hequal
    exact areTypedRefsEqual_iff.mpr ⟨normal, hnormal', hnormal⟩
  · intro ref ref' ref'' _ _ _ hfirst hsecond
    obtain ⟨normal, hnormal, hnormal'⟩ := areTypedRefsEqual_iff.mp hfirst
    obtain ⟨normal', hnormal'', hlast⟩ := areTypedRefsEqual_iff.mp hsecond
    obtain rfl := Option.some.inj (hnormal'.symm.trans hnormal'')
    exact areTypedRefsEqual_iff.mpr ⟨normal, hnormal, hlast⟩
  · intro ref ref' hvalid _
    obtain ⟨normal, hnormal⟩ := isValidTypedRef_iff.mp hvalid
    rw [areTypedRefsEqual_iff, hnormal]
    exact ⟨fun ⟨_, hsame, hnormal'⟩ => hsame.trans hnormal'.symm, fun h => ⟨normal, rfl, h.symm⟩⟩

/-- An id may hold colons. -/
theorem colons_in_id : TypedRefAlgebra ⟨"memx", "doc", "local", "doc:feature:auth"⟩ :=
  (@typedRefAlgebra_iff ⟨"memx", "doc", "local", "doc:feature:auth"⟩ (by decide +kernel)
    (by decide +kernel) (by decide +kernel) (by decide)).mpr (by decide +kernel)

/-- A reference with a line feed in its id is built and not read back. -/
theorem lineFeed_not_read_back : ¬ ∀ components : TypedRefComponents, Segment components.domain →
    Segment components.entityType → Segment components.provider → components.entityId ≠ "" →
      TypedRefAlgebra components := by
  intro hall
  have hlaws := hall ⟨"memx", "doc", "local", "a\nb"⟩ (by decide +kernel) (by decide +kernel)
    (by decide +kernel) (by decide)
  have hline := (parseTypedRef_eq_some_iff.mp hlaws.roundTrip).2.2.2.2.2
  exact absurd hline (by decide +kernel)

/-! The two readers of references: what the tracker bridge writes it reads back, and a reference of four
parts is read alike by it and by the control plane. -/

def componentsOf (r : TypedRef) : TypedRefComponents := ⟨r.domain, r.entityType, r.provider, r.entityId⟩

/-- What the readers say of a reference and of a text. -/
structure ReadersLaws (r : TypedRef) (value : String) : Prop where
  roundTrip : r.Plain → parse r.toString = .ok r
  idempotent : ∀ canonical, canonicalize value = .ok canonical → canonicalize canonical = .ok canonical
  bounded : 4 < (splitColons value).length → ∀ r, parse value ≠ .ok r
  agree : ∀ domain entityType provider entityId,
    splitColons value = [domain, entityType, provider, entityId] → domain ∈ knownDomains →
      Segment entityType → Segment provider → OneLine entityId →
        ∀ components, (∃ r, parse value = .ok r ∧ componentsOf r = components) ↔
          parseTypedRef value = some components

section readers

variable {value domain entityType provider entityId : String} {components : TypedRefComponents}

theorem colonFree_of_segment (h : Segment entityType) : ColonFree entityType :=
  fun hmem => absurd (h.2 ':' hmem) (by decide)

theorem segment_of_known (h : domain ∈ knownDomains) : Segment domain := by
  have hall : ∀ domain ∈ knownDomains, Segment domain := by decide +kernel
  exact hall domain h

theorem splitColons_buildTypedRef (hdomain : Segment components.domain)
    (hentityType : Segment components.entityType) (hprovider : Segment components.provider) :
    splitColons (buildTypedRef components) = components.domain :: components.entityType ::
      components.provider :: splitColons components.entityId := by
  have htext : buildTypedRef components = components.domain ++ ":" ++ (components.entityType ++ ":" ++
      (components.provider ++ ":" ++ components.entityId)) := by
    simp [buildTypedRef, String.append_assoc]
  rw [htext, splitColons_append (colonFree_of_segment hdomain),
    splitColons_append (colonFree_of_segment hentityType),
    splitColons_append (colonFree_of_segment hprovider)]

theorem parseTypedRef_eq_some_iff_of_four
    (hparts : splitColons value = [domain, entityType, provider, entityId]) (hdomain : Segment domain)
    (hentityType : Segment entityType) (hprovider : Segment provider) (hline : OneLine entityId) :
    parseTypedRef value = some components ↔
      entityId ≠ "" ∧ components = ⟨domain, entityType, provider, entityId⟩ := by
  have hfree : ColonFree entityId := @colonFree_of_mem_splitColons value _ (by simp [hparts])
  have hvalue : value = buildTypedRef ⟨domain, entityType, provider, entityId⟩ := by
    refine splitColons_injective (hparts.trans ?_)
    rw [splitColons_buildTypedRef hdomain hentityType hprovider, splitColons_of_colonFree hfree]
  rw [parseTypedRef_eq_some_iff]
  constructor
  · rintro ⟨hbuilt, hdomain', hentityType', hprovider', hid, _⟩
    have hsplit := hparts
    rw [hbuilt, splitColons_buildTypedRef hdomain' hentityType' hprovider'] at hsplit
    obtain ⟨h₁, hsplit⟩ := List.cons.inj hsplit
    obtain ⟨h₂, hsplit⟩ := List.cons.inj hsplit
    obtain ⟨h₃, hsplit⟩ := List.cons.inj hsplit
    have h₄ : components.entityId = entityId :=
      splitColons_injective (hsplit.trans (splitColons_of_colonFree hfree).symm)
    refine ⟨h₄ ▸ hid, ?_⟩
    rw [← h₁, ← h₂, ← h₃, ← h₄]
  · rintro ⟨hid, rfl⟩
    exact ⟨hvalue, hdomain, hentityType, hprovider, hid, hline⟩

theorem parse_ne_ok_of_five {value : String} (h : 4 < (splitColons value).length) (r : TypedRef) :
    parse value ≠ .ok r := by
  unfold parse
  split
  · rename_i hparts
    simp [hparts] at h
  · rename_i hparts
    simp [hparts] at h
  · exact nofun

/-- A reference whose parts hold no colon is read back, canonical texts are fixed, and texts of four
parts are read alike. -/
theorem readersLaws (r : TypedRef) (value : String) : ReadersLaws r value := by
  refine ⟨parse_toString, fun _ => canonicalize_idempotent, parse_ne_ok_of_five, ?_⟩
  intro domain entityType provider entityId hparts hknown hentityType hprovider hline components
  rw [parseTypedRef_eq_some_iff_of_four hparts (segment_of_known hknown) hentityType hprovider hline]
  constructor
  · rintro ⟨r, hparse, rfl⟩
    obtain ⟨hid, rfl, rfl, rfl, rfl⟩ :=
      (parse_eq_ok_iff_of_four hparts hknown hentityType.1 hprovider.1).mp hparse
    exact ⟨hid, rfl⟩
  · rintro ⟨hid, rfl⟩
    exact ⟨⟨domain, entityType, entityId, provider, hknown, hentityType.1, hid, hprovider.1⟩,
      (parse_eq_ok_iff_of_four hparts hknown hentityType.1 hprovider.1).mpr
        ⟨hid, rfl, rfl, rfl, rfl⟩, rfl⟩

/-- The issue reference of the documentation is read back, and alike by both. -/
theorem issueRef_read_alike : ∃ r, parse "tracker:issue:github:owner/repo#45" = .ok r ∧
      parse r.toString = .ok r ∧
      parseTypedRef "tracker:issue:github:owner/repo#45" = some (componentsOf r) := by
  let r : TypedRef := ⟨"tracker", "issue", "owner/repo#45", "github", by decide, by decide, by decide,
    by decide⟩
  have hlaws := readersLaws r "tracker:issue:github:owner/repo#45"
  have hplain : r.Plain := ⟨by decide +kernel, by decide +kernel, by decide +kernel⟩
  have hagree := hlaws.agree "tracker" "issue" "github" "owner/repo#45" (by decide +kernel) (by decide)
    (by decide +kernel) (by decide +kernel) (by decide +kernel) (componentsOf r)
  exact ⟨r, hlaws.roundTrip hplain, hlaws.roundTrip hplain, hagree.mp ⟨r, hlaws.roundTrip hplain, rfl⟩⟩

/-- A reference with a colon in its id is not read back, and a text of five parts is read by the control
plane alone. -/
theorem colon_not_read_back : ¬ ∀ (r : TypedRef) (value : String), parse r.toString = .ok r ∧
      ∀ domain entityType provider rest, splitColons value = domain :: entityType :: provider :: rest →
        domain ∈ knownDomains → Segment entityType → Segment provider →
          ∀ components, (∃ r, parse value = .ok r ∧ componentsOf r = components) ↔
            parseTypedRef value = some components := by
  intro hall
  let r : TypedRef := ⟨"tracker", "issue", "owner:45", "github", by decide, by decide, by decide,
    by decide⟩
  have hparts : splitColons r.toString = ["tracker", "issue", "github", "owner", "45"] := by
    decide +kernel
  exact parse_ne_ok_of_five (by simp [hparts]) r (hall r "").1

end readers

end ShipyardCp.Properties
