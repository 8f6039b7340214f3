import ShipyardCp.Domain.ContextBundles

/-! How much of a context bundle its checksum is taken of. -/

namespace ShipyardCp.Properties

open Lib Domain.ContextBundles JsonValue BundleObject

def SameFields (b b' : BundleObject) : Prop := ∀ path, b.value.fieldAt path = b'.value.fieldAt path

def SeenPath (b b' : BundleObject) (path : List Step) : Prop :=
  ∀ name, .key name ∈ path → name ∈ b.keys ∨ name ∈ b'.keys

/-- What is hashed is the same for the same fields only, so that a verification that fails to tell
bundles apart is a collision of the hash. -/
structure ChecksumCovers (b b' : BundleObject) : Prop where
  content : checksumContent b = checksumContent b' ↔ SameFields b b'
  verify : verifyIntegrity b' (calculateChecksum b) = true → SameFields b b' ∨
    checksumContent b ≠ checksumContent b' ∧
      checksumOf (checksumContent b) = checksumOf (checksumContent b')

section keys

variable {b b' : BundleObject} {name : String}

theorem mem_sortKeys {keys : List String} : name ∈ sortKeys keys ↔ name ∈ keys :=
  List.mem_insertionSort _

theorem nodup_keys (b : BundleObject) : b.keys.Nodup := by
  have hdistinct := b.distinct
  rw [distinctNames, Bool.and_eq_true, decide_eq_true_eq] at hdistinct
  exact hdistinct.1

theorem sortKeys_eq (h : ∀ name, name ∈ b.keys ↔ name ∈ b'.keys) :
    sortKeys b.keys = sortKeys b'.keys := by
  let le := fun a b : String => JsText.charCodes a.toList ≤ JsText.charCodes b.toList
  have : Std.Total le := ⟨fun a b => le_total _ _⟩
  have : IsTrans String le := ⟨fun a b c => le_trans⟩
  have hperm : b.keys.Perm b'.keys :=
    (List.perm_ext_iff_of_nodup (nodup_keys b) (nodup_keys b')).mpr h
  have hsorted := ((List.perm_insertionSort le b.keys).trans hperm).trans
    (List.perm_insertionSort le b'.keys).symm
  refine hsorted.eq_of_pairwise ?_ (List.pairwise_insertionSort le _)
    (List.pairwise_insertionSort le _)
  intro a b _ _ hab hba
  exact String.toList_inj.mp (JsText.charCodes_injective (le_antisymm hab hba))

theorem lookup_isSome_iff : (b.members.lookup name).isSome = true ↔ name ∈ b.keys := by
  rw [List.lookup_isSome_iff, keys, List.mem_map]
  constructor
  · rintro ⟨m, hm, hname⟩
    exact ⟨m, hm, (eq_of_beq hname).symm⟩
  · rintro ⟨m, hm, rfl⟩
    exact ⟨m, hm, beq_self_eq_true _⟩

theorem isSome_fieldAt_key : (b.value.fieldAt [.key name]).isSome = true ↔ name ∈ b.keys := by
  rw [← lookup_isSome_iff, fieldAt_cons, value, child?]
  cases b.members.lookup name <;> rfl

theorem map_fst_filterMap {A : Type} {f : String → Option A} {names : List String}
    (h : ∀ name ∈ names, (f name).isSome = true) :
    (names.filterMap fun name => (f name).map fun a => (name, a)).map Prod.fst = names := by
  induction names with
  | nil => rfl
  | cons name names ih =>
    rw [List.forall_mem_cons] at h
    obtain ⟨a, ha⟩ := Option.isSome_iff_exists.mp h.1
    rw [List.filterMap_cons, ha, Option.map_some, List.map_cons, ih h.2]

theorem sortKeys_eq_of_restrict (h : restrict (sortKeys b.keys) b.value =
    restrict (sortKeys b'.keys) b'.value) :
    sortKeys b.keys = sortKeys b'.keys := by
  have hall : ∀ b : BundleObject, ∀ name ∈ sortKeys b.keys,
      ((b.members.lookup name).map (restrict (sortKeys b.keys))).isSome = true := by
    intro b name hname
    rw [Option.isSome_map]
    exact lookup_isSome_iff.mpr (mem_sortKeys.mp hname)
  simp only [value, restrict, restrictMembers_eq, lookup_map_snd] at h
  have hnames := congrArg (List.map Prod.fst) (JsonValue.obj.inj h)
  rwa [map_fst_filterMap (hall b), map_fst_filterMap (hall b')] at hnames

theorem checksumContent_eq_iff : checksumContent b = checksumContent b' ↔
    ∀ path, SeenPath b b' path → b.value.fieldAt path = b'.value.fieldAt path := by
  rw [checksumContent, checksumContent, stringifyWith_eq, stringifyWith_eq,
    stringify_injective.eq_iff]
  constructor
  · intro h path hpath
    have hkeys := sortKeys_eq_of_restrict h
    have hwithin : Within (sortKeys b.keys) path := by
      intro name hname
      rcases hpath name hname with hmem | hmem
      · exact mem_sortKeys.mpr hmem
      · rw [hkeys]
        exact mem_sortKeys.mpr hmem
    rw [← fieldAt_restrict hwithin, h, fieldAt_restrict (hkeys ▸ hwithin)]
  · intro h
    have hkey : ∀ name, name ∈ b.keys ↔ name ∈ b'.keys := by
      intro name
      have hseen : name ∈ b.keys ∨ name ∈ b'.keys →
          b.value.fieldAt [.key name] = b'.value.fieldAt [.key name] := by
        refine fun hname => h _ fun other hother => ?_
        obtain rfl := Step.key.inj (List.mem_singleton.mp hother)
        exact hname
      constructor
      · intro hname
        rw [← isSome_fieldAt_key, ← hseen (.inl hname)]
        exact isSome_fieldAt_key.mpr hname
      · intro hname
        rw [← isSome_fieldAt_key, hseen (.inr hname)]
        exact isSome_fieldAt_key.mpr hname
    rw [← sortKeys_eq hkey]
    exact restrict_eq_of_agree fun path hpath => h path fun name hname =>
      .inl (mem_sortKeys.mp (hpath name hname))

end keys

/-- The checksum covers what differs exactly when bundles that differ do so along names that are at the
top of one of them. -/
theorem checksumCovers_iff (b b' : BundleObject) : ChecksumCovers b b' ↔
    ∀ path, b.value.fieldAt path ≠ b'.value.fieldAt path →
      ∃ seen, SeenPath b b' seen ∧ b.value.fieldAt seen ≠ b'.value.fieldAt seen := by
  constructor
  · intro h path hdiffer
    by_contra hnone
    push Not at hnone
    exact hdiffer (h.content.mp (checksumContent_eq_iff.mpr hnone) path)
  · intro h
    have hcontent : checksumContent b = checksumContent b' ↔ SameFields b b' := by
      refine ⟨fun heq path => ?_, fun hsame => checksumContent_eq_iff.mpr fun path _ => hsame path⟩
      by_contra hdiffer
      obtain ⟨seen, hseen, hne⟩ := h path hdiffer
      exact hne (checksumContent_eq_iff.mp heq seen hseen)
    refine ⟨hcontent, fun hverify => ?_⟩
    rw [verifyIntegrity, decide_eq_true_eq, calculateChecksum, calculateChecksum] at hverify
    by_cases heq : checksumContent b = checksumContent b'
    · exact .inl (hcontent.mp heq)
    · exact .inr ⟨heq, hverify.symm⟩

/-- A bundle with one document chunk of this text. -/
def bundleOfChunk (content : String) : BundleObject where
  members :=
    [("version", .str "1.0.0"), ("bundle_id", .str "ctx-task-1-0"), ("task_id", .str "task-1"),
      ("created_at", .str "2025-01-01T00:00:00.000Z"),
      ("generator", .obj [("component", .str "control_plane"), ("version", .str "1.0.0"),
          ("generated_at", .str "2025-01-01T00:00:00.000Z")]),
      ("metadata", .obj []),
      ("task", .obj
        [("task_id", .str "task-1"), ("typed_ref", .str "agent-taskstate:task:local:task-1"),
          ("title", .str "Task"), ("objective", .str "Fix"), ("state", .str "queued"),
          ("stage", .str "plan"), ("risk_level", .str "low")]),
      ("repository", .obj [("provider", .str "github"), ("owner", .str "org"), ("name", .str "repo"),
          ("default_branch", .str "main")]),
      ("workspace", .obj
        [("workspace_id", .str "ws-1"), ("kind", .str "container"), ("reusable", .bool false),
          ("working_directory", .str "/work")]),
      ("documents", .obj [("doc_refs", .arr []), ("chunks", .arr [.obj
            [("chunk_id", .str "chunk-1"), ("doc_ref", .str "doc-1"), ("content", .str content)]]),
          ("contracts", .arr [])])]
  distinct := rfl

/-- A chunk of a document can be changed without a trace in what is hashed. -/
theorem chunk_not_covered : ¬ChecksumCovers (bundleOfChunk "approve") (bundleOfChunk "reject") := by
  intro h
  have hcontent : checksumContent (bundleOfChunk "approve") =
      checksumContent (bundleOfChunk "reject") := by
    decide +kernel
  have hsame := h.content.mp hcontent [.key "documents", .key "chunks", .index 0, .key "content"]
  exact absurd hsame (by decide +kernel)

end ShipyardCp.Properties
