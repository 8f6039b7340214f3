import Mathlib.Data.List.Infix
import Mathlib.Data.Option.Basic

/-! Trees of directories and files: what can be written and removed in them, what a change leaves as it
is, and what a sequence of changes of given files keeps. -/

namespace ShipyardCp.Lib

inductive Entry (β : Type) where
  | directory
  | file (content : β)
  deriving DecidableEq

/-- What is at each path from the root; what is anywhere is in a directory. -/
structure FileTree (ν β : Type) where
  entry : List ν → Option (Entry β)
  root : entry [] = some .directory
  closed : ∀ path name, (entry (path ++ [name])).isSome = true → entry path = some .directory

inductive FileError where
  | isDirectory | notDirectory | missing

/-- The path lies strictly above the other. -/
def Above {ν : Type} (path below : List ν) : Prop := path <+: below ∧ path ≠ below

instance {ν : Type} [DecidableEq ν] (path below : List ν) : Decidable (Above path below) :=
  inferInstanceAs (Decidable (_ ∧ _))

namespace FileTree

variable {ν β : Type}

/-- The tree with its root alone. -/
def empty [DecidableEq ν] : FileTree ν β where
  entry path := if path = [] then some .directory else none
  root := rfl
  closed path name h := by simp at h

section entries

variable {t : FileTree ν β} {path below : List ν} {content : β}

theorem entry_of_on_way (hsome : (t.entry below).isSome = true) (hon : path <+: below)
    (hne : path ≠ below) : t.entry path = some .directory := by
  obtain ⟨names, rfl⟩ := hon
  induction names using List.reverseRecOn with
  | nil => simp at hne
  | append_singleton names name ih =>
    rw [← List.append_assoc] at hsome
    have hparent := t.closed _ _ hsome
    by_cases hnil : names = []
    · subst hnil
      simpa using hparent
    · exact ih (by simp [hparent]) (by simpa using hnil)

theorem entry_of_above (hsome : (t.entry below).isSome = true) (habove : Above path below) :
    t.entry path = some .directory :=
  entry_of_on_way hsome habove.1 habove.2

def isFile (t : FileTree ν β) (path : List ν) : Bool :=
  match t.entry path with
  | some (.file _) => true
  | _ => false

theorem isFile_iff : t.isFile path = true ↔ ∃ content, t.entry path = some (.file content) := by
  unfold isFile
  split
  · next content h => simp [h]
  · next h => simpa using fun content hfile => h content hfile

theorem isFile_of_entry (h : t.entry path = some (.file content)) : t.isFile path = true :=
  isFile_iff.mpr ⟨content, h⟩

def isDirectory (t : FileTree ν β) (path : List ν) : Bool :=
  match t.entry path with
  | some .directory => true
  | _ => false

theorem isDirectory_iff : t.isDirectory path = true ↔ t.entry path = some .directory := by
  unfold isDirectory
  split
  · next h => simp [h]
  · next h => simpa using h

theorem not_isFile_of_directory (h : t.entry path = some .directory) : t.isFile path = false := by
  simp [isFile, h]

end entries

section changes

variable [DecidableEq ν] (t : FileTree ν β)

def readFile (path : List ν) : Except FileError β :=
  match t.entry path with
  | some (.file content) => .ok content
  | some .directory => .error .isDirectory
  | none => .error .missing

/-- Makes the directories on a path that are missing. -/
def makeDirectories (path : List ν) : Except FileError (FileTree ν β) :=
  if path.inits.any t.isFile then .error .notDirectory
  else .ok {
    entry := fun at_ => if at_ <+: path then some .directory else t.entry at_
    root := if_pos List.nil_prefix
    closed := by
      intro parent name h
      by_cases hparent : parent <+: path
      · exact if_pos hparent
      · have hname : ¬parent ++ [name] <+: path :=
          fun hname => hparent ((List.prefix_append parent [name]).trans hname)
        rw [if_neg hname] at h
        rw [if_neg hparent]
        exact t.closed parent name h }

/-- Writes a file whose directory is there. -/
def writeFile (path : List ν) (content : β) : Except FileError (FileTree ν β) :=
  if hdirectory : t.isDirectory path = true then .error .isDirectory
  else if hparent : t.isDirectory path.dropLast = true then
    .ok {
      entry := fun at_ => if at_ = path then some (.file content) else t.entry at_
      root := by
        rw [if_neg, t.root]
        rintro rfl
        exact hdirectory (isDirectory_iff.mpr t.root)
      closed := by
        intro parent name h
        have hbefore : t.entry parent = some .directory := by
          split_ifs at h with hpath
          · subst hpath
            simpa using isDirectory_iff.mp hparent
          · exact t.closed parent name h
        rw [if_neg, hbefore]
        rintro rfl
        exact hdirectory (isDirectory_iff.mpr hbefore) }
  else if t.isFile path.dropLast then .error .notDirectory
  else .error .missing

/-- Removes a file. -/
def remove (path : List ν) : Except FileError (FileTree ν β) :=
  match hentry : t.entry path with
  | none => .error .missing
  | some .directory => .error .isDirectory
  | some (.file _) =>
    .ok {
      entry := fun at_ => if at_ = path then none else t.entry at_
      root := by
        rw [if_neg, t.root]
        rintro rfl
        rw [t.root] at hentry
        simp at hentry
      closed := by
        intro parent name h
        by_cases hname : parent ++ [name] = path
        · rw [if_pos hname] at h
          simp at h
        · rw [if_neg hname] at h
          have hdirectory := t.closed parent name h
          rw [if_neg, hdirectory]
          rintro rfl
          rw [hentry] at hdirectory
          simp at hdirectory }

/-- Writes a file, with the directories above it. -/
def put (path : List ν) (content : β) : Except FileError (FileTree ν β) := do
  let t ← t.makeDirectories path.dropLast
  t.writeFile path content

end changes

section laws

variable {t t' : FileTree ν β} {path at_ : List ν} {content : β}

theorem above_of_prefix_dropLast (hon : at_ <+: path.dropLast) (hne : path ≠ []) :
    Above at_ path := by
  refine ⟨hon.trans (List.dropLast_prefix path), ?_⟩
  rintro rfl
  have hlength := hon.length_le
  rw [List.length_dropLast] at hlength
  have hpos := List.length_pos_of_ne_nil hne
  omega

theorem prefix_dropLast_of_above (habove : Above at_ path) : at_ <+: path.dropLast := by
  obtain ⟨⟨names, rfl⟩, hne⟩ := habove
  have hnames : names ≠ [] := by
    rintro rfl
    simp at hne
  rw [List.dropLast_append_of_ne_nil hnames]
  exact List.prefix_append _ _

variable [DecidableEq ν]

theorem makeDirectories_eq_ok (h : t.makeDirectories path = .ok t') :
    (∀ p, p <+: path → t.isFile p = false) ∧
      ∀ p, t'.entry p = if p <+: path then some .directory else t.entry p := by
  unfold makeDirectories at h
  split_ifs at h with hfile
  obtain rfl := Except.ok.inj h
  refine ⟨fun p hp => ?_, fun p => rfl⟩
  rw [← Bool.not_eq_true]
  intro hisFile
  exact hfile (List.any_eq_true.mpr ⟨p, (List.mem_inits _ _).mpr hp, hisFile⟩)

theorem makeDirectories_isOk (h : ∀ p, p <+: path → t.isFile p = false) :
    ∃ t', t.makeDirectories path = .ok t' := by
  unfold makeDirectories
  rw [if_neg]
  · exact ⟨_, rfl⟩
  · rw [List.any_eq_true]
    rintro ⟨p, hp, hfile⟩
    rw [h p ((List.mem_inits _ _).mp hp)] at hfile
    cases hfile

theorem writeFile_eq_ok (h : t.writeFile path content = .ok t') : t.entry path ≠ some .directory ∧
      ∀ p, t'.entry p = if p = path then some (.file content) else t.entry p := by
  unfold writeFile at h
  split_ifs at h with hdirectory hparent
  · obtain rfl := Except.ok.inj h
    exact ⟨fun hentry => hdirectory (isDirectory_iff.mpr hentry), fun p => rfl⟩

theorem writeFile_isOk (hdirectory : t.entry path ≠ some .directory)
    (hparent : t.entry path.dropLast = some .directory) :
    ∃ t', t.writeFile path content = .ok t' := by
  unfold writeFile
  rw [dif_neg (fun h => hdirectory (isDirectory_iff.mp h)), dif_pos (isDirectory_iff.mpr hparent)]
  exact ⟨_, rfl⟩

/-- A file can be written where no directory is and nothing above is a file. -/
theorem put_isOk_iff : (∃ t', t.put path content = .ok t') ↔
    t.entry path ≠ some .directory ∧ ∀ p, Above p path → t.isFile p = false := by
  constructor
  · rintro ⟨t', h⟩
    unfold put at h
    cases hmake : t.makeDirectories path.dropLast with
    | error e => simp [hmake, bind, Except.bind] at h
    | ok t₁ =>
      rw [hmake] at h
      obtain ⟨hfiles, hentries⟩ := makeDirectories_eq_ok hmake
      obtain ⟨hdirectory, -⟩ := writeFile_eq_ok h
      refine ⟨fun hbefore => ?_, fun p hp => hfiles p (prefix_dropLast_of_above hp)⟩
      rw [hentries] at hdirectory
      split_ifs at hdirectory
      · exact hdirectory rfl
      · exact hdirectory hbefore
  · rintro ⟨hdirectory, hfiles⟩
    have hne : path ≠ [] := by
      rintro rfl
      exact hdirectory t.root
    obtain ⟨t₁, hmake⟩ := makeDirectories_isOk fun p hp => hfiles p (above_of_prefix_dropLast hp hne)
    obtain ⟨-, hentries⟩ := makeDirectories_eq_ok hmake
    have hpath : ¬path <+: path.dropLast := fun hp => (above_of_prefix_dropLast hp hne).2 rfl
    have hafter : t₁.entry path ≠ some .directory := by
      rwa [hentries, if_neg hpath]
    have hparent : t₁.entry path.dropLast = some .directory := by
      rw [hentries, if_pos List.prefix_rfl]
    obtain ⟨t', hwrite⟩ := @writeFile_isOk _ _ t₁ path content _ hafter hparent
    refine ⟨t', ?_⟩
    unfold put
    rw [hmake]
    exact hwrite

theorem entry_put (h : t.put path content = .ok t') (p : List ν) : t'.entry p =
    if p = path then some (.file content) else if p <+: path then some .directory else t.entry p := by
  unfold put at h
  cases hmake : t.makeDirectories path.dropLast with
  | error e => simp [hmake, bind, Except.bind] at h
  | ok t₁ =>
    rw [hmake] at h
    obtain ⟨-, hentries⟩ := makeDirectories_eq_ok hmake
    obtain ⟨hdirectory, hwritten⟩ := writeFile_eq_ok h
    rw [hwritten, hentries]
    by_cases hp : p = path
    · rw [if_pos hp, if_pos hp]
    · rw [if_neg hp, if_neg hp]
      by_cases hon : p <+: path
      · rw [if_pos hon, if_pos (prefix_dropLast_of_above ⟨hon, hp⟩)]
      · rw [if_neg hon, if_neg fun h => hon (h.trans (List.dropLast_prefix path))]

theorem remove_isOk (h : t.isFile path = true) : ∃ t', t.remove path = .ok t' := by
  obtain ⟨content, hentry⟩ := isFile_iff.mp h
  unfold remove
  split
  · next hnone => simp [hentry] at hnone
  · next hdirectory => simp [hentry] at hdirectory
  · exact ⟨_, rfl⟩

theorem remove_eq_ok (h : t.remove path = .ok t') : t.isFile path = true ∧
    ∀ p, t'.entry p = if p = path then none else t.entry p := by
  unfold remove at h
  split at h
  · cases h
  · cases h
  · next hfile =>
    obtain rfl := Except.ok.inj h
    exact ⟨isFile_of_entry hfile, fun p => rfl⟩

end laws

/-- Writing a file with the directories above it, or removing it. -/
inductive Change (ν β : Type) where
  | write (path : List ν) (content : β)
  | remove (path : List ν)

def Change.path : Change ν β → List ν
  | .write path _ => path
  | .remove path => path

section change

variable [DecidableEq ν] {t t' : FileTree ν β} {change : Change ν β} {p : List ν}

/-- The tree after a change; one that cannot be made leaves it as it is. -/
def apply (t : FileTree ν β) : Change ν β → FileTree ν β
  | .write path content => (t.put path content).toOption.getD t
  | .remove path => (t.remove path).toOption.getD t

def applyAll (t : FileTree ν β) (changes : List (Change ν β)) : FileTree ν β := changes.foldl apply t

theorem apply_cases (t : FileTree ν β) (change : Change ν β) : t.apply change = t ∨
    (∃ content, t.put change.path content = .ok (t.apply change)) ∨
      t.remove change.path = .ok (t.apply change) := by
  cases change with
  | write path content =>
    cases hput : t.put path content with
    | error e => exact Or.inl (by simp [apply, hput, Except.toOption])
    | ok t' => exact Or.inr (Or.inl ⟨content, by simp [apply, Change.path, hput, Except.toOption]⟩)
  | remove path =>
    cases hremove : t.remove path with
    | error e => exact Or.inl (by simp [apply, hremove, Except.toOption])
    | ok t' => exact Or.inr (Or.inr (by simp [apply, Change.path, hremove, Except.toOption]))

/-- A change elsewhere leaves what is at a path, or makes a directory where nothing was. -/
theorem entry_apply (hne : p ≠ change.path) : (t.apply change).entry p = t.entry p ∨
    t.entry p = none ∧ (t.apply change).entry p = some .directory ∧ Above p change.path ∧
      ∀ f, Above f change.path → t.isFile f = false := by
  rcases apply_cases t change with hsame | ⟨content, hput⟩ | hremove
  · exact Or.inl (by rw [hsame])
  · have hallowed := put_isOk_iff.mp ⟨_, hput⟩
    have hentry := (entry_put hput p).trans (if_neg hne)
    by_cases hon : p <+: change.path
    · have hnotFile := hallowed.2 p ⟨hon, hne⟩
      rw [if_pos hon] at hentry
      cases hbefore : t.entry p with
      | none => exact Or.inr ⟨rfl, hentry, ⟨hon, hne⟩, hallowed.2⟩
      | some entry =>
        cases entry with
        | directory => exact Or.inl hentry
        | file content =>
          rw [isFile_of_entry hbefore] at hnotFile
          cases hnotFile
    · rw [if_neg hon] at hentry
      exact Or.inl hentry
  · exact Or.inl (((remove_eq_ok hremove).2 p).trans (if_neg hne))

theorem isFile_apply (hne : p ≠ change.path) : (t.apply change).isFile p = t.isFile p := by
  rcases entry_apply (t := t) hne with hsame | ⟨hnone, hdirectory, -⟩
  · unfold isFile
    rw [hsame]
  · rw [not_isFile_of_directory hdirectory]
    unfold isFile
    rw [hnone]

theorem entry_apply_path (h : t.entry change.path ≠ some .directory) :
    (t.apply change).entry change.path ≠ some .directory := by
  rcases apply_cases t change with hsame | ⟨content, hput⟩ | hremove
  · rwa [hsame]
  · rw [entry_put hput, if_pos rfl]
    simp
  · rw [(remove_eq_ok hremove).2, if_pos rfl]
    simp

theorem entry_apply_of_directory (h : t.entry p = some .directory) :
    (t.apply change).entry p = some .directory := by
  by_cases hp : p = change.path
  · subst hp
    rcases apply_cases t change with hsame | ⟨content, hput⟩ | hremove
    · rwa [hsame]
    · exact absurd h (put_isOk_iff.mp ⟨_, hput⟩).1
    · have hfile := (remove_eq_ok hremove).1
      rw [not_isFile_of_directory h] at hfile
      cases hfile
  · rcases entry_apply (t := t) hp with hsame | ⟨hnone, -⟩
    · exact hsame.trans h
    · rw [hnone] at h
      cases h

theorem eq_of_isFile_above {f g : List ν} {below : List ν} (hf : Above f below) (hg : Above g below)
    (hfFile : t.isFile f = true) (hgFile : t.isFile g = true) : f = g := by
  have hsome : ∀ {q : List ν}, t.isFile q = true → (t.entry q).isSome = true := by
    intro q hq
    obtain ⟨content, hentry⟩ := isFile_iff.mp hq
    rw [hentry]
    rfl
  rcases List.prefix_or_prefix_of_prefix hf.1 hg.1 with hfg | hgf
  · by_contra hne
    rw [not_isFile_of_directory (entry_of_on_way (hsome hgFile) hfg hne)] at hfFile
    cases hfFile
  · by_contra hne
    rw [not_isFile_of_directory (entry_of_on_way (hsome hfFile) hgf (Ne.symm hne))] at hgFile
    cases hgFile

end change

end FileTree

end ShipyardCp.Lib
