import ShipyardCp.Lib.FileTree

/-! Putting files back as they were recorded: when this undoes every sequence of changes of these files
that is made after a record of them was itself written into the tree. -/

namespace ShipyardCp.Lib.FileTree

variable {ν β : Type}

/-- The change that a record asks for. -/
def restoring : List ν × Option β → Change ν β
  | (path, none) => .remove path
  | (path, some content) => .write path content

theorem restoring_path (r : List ν × Option β) : (restoring r).path = r.1 := by
  obtain ⟨path, recorded⟩ := r
  cases recorded <;> rfl

variable [DecidableEq ν]

/-- Puts back what a path held, or removes the file at it where it held nothing. -/
def restoreOne (t : FileTree ν β) : List ν × Option β → Except FileError (FileTree ν β)
  | (path, none) => if (t.entry path).isSome then t.remove path else .ok t
  | (path, some content) => t.put path content

def restoreAll (records : List (List ν × Option β)) (t : FileTree ν β) :
    Except FileError (FileTree ν β) :=
  records.foldlM restoreOne t

section restoreOne

variable {t t' : FileTree ν β} {r : List ν × Option β} {path : List ν}

theorem restoreOne_eq_ok (h : restoreOne t r = .ok t') : t' = t.apply (restoring r) ∧
    t.entry r.1 ≠ some .directory ∧ t'.entry r.1 = r.2.map .file := by
  obtain ⟨path, recorded⟩ := r
  cases recorded with
  | none =>
    simp only [restoreOne] at h
    split_ifs at h with hsome
    · obtain ⟨hfile, hentries⟩ := remove_eq_ok h
      refine ⟨?_, ?_, (hentries path).trans (if_pos rfl)⟩
      · simp [restoring, apply, h, Except.toOption]
      · intro hdirectory
        rw [not_isFile_of_directory hdirectory] at hfile
        cases hfile
    · obtain rfl := Except.ok.inj h
      rw [Bool.not_eq_true, Option.isSome_eq_false_iff, Option.isNone_iff_eq_none] at hsome
      refine ⟨?_, by simp [hsome], hsome⟩
      cases hremove : t.remove path with
      | error e => simp [restoring, apply, hremove, Except.toOption]
      | ok t' =>
        have hfile := (remove_eq_ok hremove).1
        simp [isFile, hsome] at hfile
  | some content =>
    have hput : t.put path content = .ok t' := h
    refine ⟨?_, (put_isOk_iff.mp ⟨t', hput⟩).1, (entry_put hput path).trans (if_pos rfl)⟩
    simp [restoring, apply, hput, Except.toOption]

/-- A record can be put back where no directory is and, if there is something to write, nothing above is
a file. -/
theorem restoreOne_isOk (hdirectory : t.entry r.1 ≠ some .directory)
    (habove : r.2.isSome = true → ∀ p, Above p r.1 → t.isFile p = false) :
    restoreOne t r = .ok (t.apply (restoring r)) := by
  have hok : ∃ t', restoreOne t r = .ok t' := by
    obtain ⟨path, recorded⟩ := r
    cases recorded with
    | none =>
      simp only [restoreOne]
      split_ifs with hsome
      · refine remove_isOk ?_
        obtain ⟨entry, hentry⟩ := Option.isSome_iff_exists.mp hsome
        cases entry with
        | directory => exact absurd hentry hdirectory
        | file content => exact isFile_of_entry hentry
      · exact ⟨t, rfl⟩
    | some content => exact put_isOk_iff.mpr ⟨hdirectory, habove rfl⟩
  obtain ⟨t', ht'⟩ := hok
  rw [ht', (restoreOne_eq_ok ht').1]

end restoreOne

section undo

variable {before after t t' : FileTree ν β} {listed : List (List ν)} {recorded : List ν → Option β}
  {artifact : List ν} {text : β}

/-- What the records of the listed paths say. -/
def recordsOf (recorded : List ν → Option β) (listed : List (List ν)) : List (List ν × Option β) :=
  listed.map fun path => (path, recorded path)

/-- The records put back what was before, after any changes of the listed files. -/
def Undoes (before after : FileTree ν β) (listed : List (List ν)) (recorded : List ν → Option β) :
    Prop :=
  ∀ changes : List (Change ν β), (∀ change ∈ changes, change.path ∈ listed) →
    ∃ t, restoreAll (recordsOf recorded listed) (after.applyAll changes) = .ok t ∧
      ∀ path ∈ listed, t.entry path = before.entry path

/-- What the records need for that: they tell all of each listed path, and no listed path lies above the
place they are written to, or above another one that can come to be. -/
structure Restorable (before : FileTree ν β) (listed : List (List ν)) (recorded : List ν → Option β)
    (artifact : List ν) : Prop where
  recorded : ∀ path ∈ listed, before.entry path = (recorded path).map .file
  artifact_apart : ∀ path ∈ listed, ¬Above path artifact
  apart : ∀ path ∈ listed, ∀ below ∈ listed, Above path below →
    ∃ f, f ∉ listed ∧ Above f below ∧ (f = artifact ∨ before.isFile f = true)

/-- The files that are not listed are those from the start, and no listed path is a directory. -/
structure Settled (listed : List (List ν)) (start t : FileTree ν β) : Prop where
  others : ∀ path, path ∉ listed → t.isFile path = start.isFile path
  files : ∀ path ∈ listed, t.entry path ≠ some .directory

theorem isFile_put (hput : before.put artifact text = .ok after) (f : List ν) :
    after.isFile f = true ↔ f = artifact ∨ before.isFile f = true := by
  obtain ⟨-, habove⟩ := put_isOk_iff.mp ⟨after, hput⟩
  unfold isFile
  rw [entry_put hput f]
  by_cases hf : f = artifact
  · rw [if_pos hf]
    simp [hf]
  · rw [if_neg hf]
    by_cases hon : f <+: artifact
    · have hnot := habove f ⟨hon, hf⟩
      unfold isFile at hnot
      rw [if_pos hon]
      simp [hf, hnot]
    · rw [if_neg hon]
      simp [hf]

theorem settled_put (hput : before.put artifact text = .ok after)
    (hrestorable : Restorable before listed recorded artifact) : Settled listed after after := by
  refine ⟨fun _ _ => rfl, fun path hpath => ?_⟩
  rw [entry_put hput path]
  by_cases hartifact : path = artifact
  · rw [if_pos hartifact]
    simp
  · rw [if_neg hartifact]
    by_cases hon : path <+: artifact
    · exact absurd ⟨hon, hartifact⟩ (hrestorable.artifact_apart path hpath)
    · rw [if_neg hon, hrestorable.recorded path hpath]
      cases recorded path <;> simp

theorem settled_apply {change : Change ν β} (hput : before.put artifact text = .ok after)
    (hrestorable : Restorable before listed recorded artifact) (hsettled : Settled listed after t)
    (hlisted : change.path ∈ listed) : Settled listed after (t.apply change) := by
  constructor
  · intro path hpath
    have hne : path ≠ change.path := fun h => hpath (h ▸ hlisted)
    rw [isFile_apply hne, hsettled.others path hpath]
  · intro path hpath
    by_cases hp : path = change.path
    · subst hp
      exact entry_apply_path (hsettled.files _ hlisted)
    · rcases entry_apply (t := t) hp with hsame | ⟨-, -, habove, hfree⟩
      · rw [hsame]
        exact hsettled.files path hpath
      · obtain ⟨f, hf, hfAbove, hfFile⟩ := hrestorable.apart path hpath _ hlisted habove
        have hblocked := hfree f hfAbove
        rw [hsettled.others f hf, (isFile_put hput f).mpr hfFile] at hblocked
        cases hblocked

theorem settled_applyAll (hput : before.put artifact text = .ok after)
    (hrestorable : Restorable before listed recorded artifact) {changes : List (Change ν β)}
    (hsettled : Settled listed after t) (hlisted : ∀ change ∈ changes, change.path ∈ listed) :
    Settled listed after (t.applyAll changes) := by
  induction changes generalizing t with
  | nil => exact hsettled
  | cons change changes ih =>
    exact ih (settled_apply hput hrestorable hsettled (hlisted change List.mem_cons_self))
      fun c hc => hlisted c (List.mem_cons_of_mem _ hc)

theorem not_isFile_above (hput : before.put artifact text = .ok after)
    (hrestorable : Restorable before listed recorded artifact) (hsettled : Settled listed after t)
    {path f : List ν} (hpath : path ∈ listed) (hsome : (recorded path).isSome = true)
    (habove : Above f path) : t.isFile f = false := by
  have hentry : (before.entry path).isSome = true := by
    rw [hrestorable.recorded path hpath, Option.isSome_map]
    exact hsome
  have hdirectory := entry_of_above hentry habove
  have hf : f ∉ listed := by
    intro hf
    have hrecorded := hrestorable.recorded f hf
    rw [hdirectory] at hrecorded
    cases hcontent : recorded f <;> simp [hcontent] at hrecorded
  rw [hsettled.others f hf, ← Bool.not_eq_true, isFile_put hput f, not_isFile_of_directory hdirectory]
  rintro (rfl | hfile)
  · exact (put_isOk_iff.mp ⟨after, hput⟩).1 hdirectory
  · cases hfile

variable {some_ : List (List ν)}

/-- From a settled tree, records put back what they tell and leave the rest of the listed files. -/
theorem restoreAll_of_settled (hput : before.put artifact text = .ok after)
    (hrestorable : Restorable before listed recorded artifact)
    (hsome : ∀ path ∈ some_, path ∈ listed) (hsettled : Settled listed after t) :
    ∃ t', restoreAll (recordsOf recorded some_) t = .ok t' ∧ ∀ path ∈ listed,
      path ∈ some_ ∨ t.entry path = (recorded path).map .file →
        t'.entry path = (recorded path).map .file := by
  induction some_ generalizing t with
  | nil =>
    refine ⟨t, rfl, fun path _ h => ?_⟩
    simpa using h
  | cons first some_ ih =>
    have hfirst := hsome first List.mem_cons_self
    have hone : restoreOne t (first, recorded first) = .ok (t.apply (restoring (first, recorded first))) :=
      restoreOne_isOk (hsettled.files first hfirst)
        fun hcontent p hp => not_isFile_above hput hrestorable hsettled hfirst hcontent hp
    have hchange : (restoring (first, recorded first)).path ∈ listed := by
      rw [restoring_path]
      exact hfirst
    have hnext := settled_apply hput hrestorable hsettled hchange
    obtain ⟨t', hall, hentries⟩ := ih (fun path h => hsome path (List.mem_cons_of_mem _ h)) hnext
    refine ⟨t', ?_, ?_⟩
    · rw [restoreAll, recordsOf, List.map_cons, List.foldlM_cons, hone]
      exact hall
    · intro path hpath hvalue
      refine hentries path hpath ?_
      by_cases hp : path = first
      · subst hp
        exact Or.inr (restoreOne_eq_ok hone).2.2
      · rcases hvalue with hmem | hvalue
        · exact Or.inl ((List.mem_cons.mp hmem).resolve_left hp)
        · right
          have hne : path ≠ (restoring (first, recorded first)).path := by
            rw [restoring_path]
            exact hp
          rcases entry_apply (t := t) hne with hsame | ⟨-, hdirectory, -⟩
          · rw [hsame, hvalue]
          · exact absurd hdirectory (hnext.files path hpath)

theorem undoes_of_restorable (hput : before.put artifact text = .ok after)
    (hrestorable : Restorable before listed recorded artifact) :
    Undoes before after listed recorded := by
  intro changes hlisted
  have hsettled := settled_applyAll hput hrestorable (settled_put hput hrestorable) hlisted
  obtain ⟨t, hall, hentries⟩ := restoreAll_of_settled hput hrestorable (fun _ h => h) hsettled
  refine ⟨t, hall, fun path hpath => ?_⟩
  rw [hentries path hpath (Or.inl hpath), hrestorable.recorded path hpath]

section converse

theorem restoreAll_cons_eq_ok {path : List ν} {paths : List (List ν)}
    (h : restoreAll (recordsOf recorded (path :: paths)) t = .ok t') :
    ∃ t₁, restoreOne t (path, recorded path) = .ok t₁ ∧
      restoreAll (recordsOf recorded paths) t₁ = .ok t' := by
  rw [restoreAll, recordsOf, List.map_cons, List.foldlM_cons] at h
  cases hone : restoreOne t (path, recorded path) with
  | error e => simp [hone, bind, Except.bind] at h
  | ok t₁ =>
    rw [hone] at h
    exact ⟨t₁, rfl, h⟩

theorem restoreAll_ne_ok {path : List ν} (hpath : path ∈ some_)
    (hdirectory : t.entry path = some .directory) :
    restoreAll (recordsOf recorded some_) t ≠ .ok t' := by
  intro h
  induction some_ generalizing t with
  | nil => cases hpath
  | cons first some_ ih =>
    obtain ⟨t₁, hone, hrest⟩ := restoreAll_cons_eq_ok h
    obtain ⟨rfl, hfirst, -⟩ := restoreOne_eq_ok hone
    rcases List.mem_cons.mp hpath with rfl | hmem
    · exact hfirst hdirectory
    · exact ih hmem (entry_apply_of_directory hdirectory) hrest

/-- What a record tells of a file is what is there when all were put back. -/
theorem entry_restoreAll {path : List ν} {content : β} (hcontent : recorded path = some content)
    (hpath : path ∈ some_ ∨ t.entry path = some (.file content))
    (h : restoreAll (recordsOf recorded some_) t = .ok t') :
    t'.entry path = some (.file content) := by
  induction some_ generalizing t with
  | nil =>
    obtain rfl := Except.ok.inj h
    simpa using hpath
  | cons first some_ ih =>
    obtain ⟨t₁, hone, hrest⟩ := restoreAll_cons_eq_ok h
    obtain ⟨happly, -, hentry⟩ := restoreOne_eq_ok hone
    refine ih ?_ hrest
    by_cases hp : path = first
    · subst hp
      right
      rw [hentry, hcontent]
      rfl
    · rcases hpath with hmem | hbefore
      · exact Or.inl ((List.mem_cons.mp hmem).resolve_left hp)
      · right
        have hne : path ≠ (restoring (first, recorded first)).path := by
          rw [restoring_path]
          exact hp
        rw [happly]
        rcases entry_apply (t := t) hne with hsame | ⟨hnone, -⟩
        · rw [hsame, hbefore]
        · rw [hnone] at hbefore
          cases hbefore

/-- A listed path above another one that can come to be is made a directory by changes of listed
files. -/
theorem exists_changes_directory (text : β) {path below : List ν} (hbelow : below ∈ listed)
    (habove : Above path below)
    (hfree : ∀ f, Above f below → t.isFile f = true → f ∈ listed) :
    ∃ changes : List (Change ν β), (∀ change ∈ changes, change.path ∈ listed) ∧
      ((t.applyAll changes).entry path = some .directory ∨
        (t.applyAll changes).entry below = some .directory) := by
  have hwrite : ∀ u : FileTree ν β, (∀ f, Above f below → u.isFile f = false) →
      (u.apply (.write below text)).entry path = some .directory ∨
        (u.apply (.write below text)).entry below = some .directory := by
    intro u hclear
    by_cases hdirectory : u.entry below = some .directory
    · exact Or.inr (entry_apply_of_directory hdirectory)
    · obtain ⟨u', hput⟩ : ∃ u', u.put below text = .ok u' := put_isOk_iff.mpr ⟨hdirectory, hclear⟩
      left
      have happly : u.apply (.write below text) = u' := by
        simp [apply, hput, Except.toOption]
      rw [happly, entry_put hput path, if_neg habove.2, if_pos habove.1]
  by_cases hblocked : ∃ f, Above f below ∧ t.isFile f = true
  · obtain ⟨f, hf, hfile⟩ := hblocked
    have hflisted := hfree f hf hfile
    refine ⟨[.remove f, .write below text], ?_, hwrite (t.apply (.remove f)) ?_⟩
    · intro change hchange
      rcases List.mem_cons.mp hchange with rfl | hchange
      · exact hflisted
      · rw [List.mem_singleton.mp hchange]
        exact hbelow
    · intro g hg
      by_cases hgf : g = f
      · subst hgf
        obtain ⟨u, hremove⟩ := remove_isOk hfile
        have hentry := (remove_eq_ok hremove).2 g
        rw [if_pos rfl] at hentry
        simp [apply, hremove, Except.toOption, isFile, hentry]
      · rw [isFile_apply hgf, ← Bool.not_eq_true]
        exact fun hgFile => hgf (eq_of_isFile_above hg hf hgFile hfile)
  · refine ⟨[.write below text], ?_, hwrite t ?_⟩
    · intro change hchange
      rw [List.mem_singleton.mp hchange]
      exact hbelow
    · intro f hf
      rw [← Bool.not_eq_true]
      exact fun hfile => hblocked ⟨f, hf, hfile⟩

theorem restorable_of_undoes (hput : before.put artifact text = .ok after)
    (hrecorded : ∀ path ∈ listed, (recorded path).isSome = (before.entry path).isSome)
    (hundoes : Undoes before after listed recorded) :
    Restorable before listed recorded artifact := by
  have hnever : ∀ changes : List (Change ν β), (∀ change ∈ changes, change.path ∈ listed) →
      ∀ path ∈ listed, (after.applyAll changes).entry path ≠ some .directory := by
    intro changes hchanges path hpath hdirectory
    obtain ⟨t, hall, -⟩ := hundoes changes hchanges
    exact restoreAll_ne_ok hpath hdirectory hall
  refine ⟨fun path hpath => ?_, fun path hpath habove => ?_, fun path hpath below hbelow habove => ?_⟩
  · obtain ⟨t, hall, hentries⟩ := hundoes [] (by simp)
    cases hcontent : recorded path with
    | none =>
      have hnone := hrecorded path hpath
      rw [hcontent, Option.isSome_none, eq_comm, Option.isSome_eq_false_iff,
        Option.isNone_iff_eq_none] at hnone
      exact hnone
    | some content =>
      rw [← hentries path hpath, entry_restoreAll hcontent (Or.inl hpath) hall]
      rfl
  · refine hnever [] (by simp) path hpath ?_
    rw [applyAll, List.foldl_nil, entry_put hput path, if_neg habove.2, if_pos habove.1]
  · by_contra hnone
    have hfree : ∀ f, Above f below → after.isFile f = true → f ∈ listed := by
      intro f hf hfile
      by_contra hlisted
      exact hnone ⟨f, hlisted, hf, (isFile_put hput f).mp hfile⟩
    obtain ⟨changes, hchanges, hdirectory⟩ := exists_changes_directory text hbelow habove hfree
    rcases hdirectory with hpathDirectory | hbelowDirectory
    · exact hnever changes hchanges path hpath hpathDirectory
    · exact hnever changes hchanges below hbelow hbelowDirectory

/-- Records undo every sequence of changes exactly when they are of files that can be put back. -/
theorem undoes_iff (hput : before.put artifact text = .ok after)
    (hrecorded : ∀ path ∈ listed, (recorded path).isSome = (before.entry path).isSome) :
    Undoes before after listed recorded ↔ Restorable before listed recorded artifact :=
  ⟨restorable_of_undoes hput hrecorded, undoes_of_restorable hput⟩

end converse

end undo

end ShipyardCp.Lib.FileTree
