import Mathlib.Data.List.DropRight
import ShipyardCp.Lib.JsText

/-! File paths as `node:path` reads them on POSIX and on Windows: separators, absolute paths,
resolution against a location, and the way from one location to another. -/

namespace ShipyardCp.Lib.NodePath

scoped instance lawfulBEqChars : LawfulBEq (List Char) := inferInstance

inductive Platform where
  | posix | win32
  deriving DecidableEq

def isSeparator : Platform → Char → Bool
  | .posix, c => c = '/'
  | .win32, c => c = '/' || c = '\\'

/-- The parts between the separators of a path. -/
def parts (platform : Platform) (path : List Char) : List (List Char) :=
  path.splitOnP (isSeparator platform)

/-- The drive that a path starts with, without letter case. -/
def drive? : List Char → Option (List Char)
  | c :: colon :: _ => if c.isAlpha && colon = ':' then some [c.toLower, ':'] else none
  | _ => none

/-- The path starts with a drive and its root. -/
def driveRooted (path : List Char) : Bool :=
  (drive? path).isSome && (path.drop 2).head?.any (isSeparator .win32)

def isAbsolute : Platform → List Char → Bool
  | _, [] => false
  | .posix, c :: _ => c = '/'
  | .win32, c :: path => isSeparator .win32 c || driveRooted (c :: path)

/-- An absolute location: the drive or share of Windows, nothing on POSIX, and the names down from
its root. -/
structure Location where
  device : List Char
  names : List (List Char)
  deriving DecidableEq

/-- The location is the directory or lies below it. -/
def Location.Under (loc dir : Location) : Prop := dir.device = loc.device ∧ dir.names <+: loc.names

instance (loc dir : Location) : Decidable (loc.Under dir) := inferInstanceAs (Decidable (_ ∧ _))

theorem Location.Under.trans {a b c : Location} (hab : a.Under b) (hbc : b.Under c) : a.Under c :=
  ⟨hbc.1.trans hab.1, hbc.2.trans hab.2⟩

/-- A part that names nothing. -/
def isIdle (part : List Char) : Bool := part = [] || part = ['.']

/-- One step down from a directory, or up. -/
def stepDown (names : List (List Char)) (part : List Char) : List (List Char) :=
  if isIdle part then names else if part = ['.', '.'] then names.dropLast else names ++ [part]

/-- The way down from a directory along the parts of a path. -/
def walk (names : List (List Char)) (ps : List (List Char)) : List (List Char) :=
  ps.foldl stepDown names

/-- The share `\\server\name` that a path of Windows starts with, and the rest of the path. -/
def share? : List Char → Option (List Char × List Char)
  | a :: b :: path =>
    if isSeparator .win32 a && isSeparator .win32 b then
      let server := path.takeWhile fun c => !isSeparator .win32 c
      let below := (path.drop server.length).dropWhile (isSeparator .win32)
      let name := below.takeWhile fun c => !isSeparator .win32 c
      if server.isEmpty || name.isEmpty then none
      else some ("\\\\".toList ++ server ++ ['\\'] ++ name, below.drop name.length)
    else none
  | _ => none

/-- The location of a path seen from a directory. A path of Windows that names another drive without
its root is seen from the directory `driveCwd` of that drive. -/
def resolve (platform : Platform) (driveCwd : List Char → List (List Char)) (base : Location)
    (path : List Char) : Location :=
  match platform with
  | .posix =>
    if isAbsolute .posix path then ⟨[], walk [] (parts .posix path)⟩
    else ⟨base.device, walk base.names (parts .posix path)⟩
  | .win32 =>
    match share? path with
    | some (share, rest) => ⟨share, walk [] (parts .win32 rest)⟩
    | none =>
      match drive? path with
      | some drive =>
        let rest := parts .win32 (path.drop 2)
        if isAbsolute .win32 path then ⟨drive, walk [] rest⟩
        else if drive = base.device then ⟨drive, walk base.names rest⟩
        else ⟨drive, walk (driveCwd drive) rest⟩
      | none =>
        if isAbsolute .win32 path then ⟨base.device, walk [] (parts .win32 path)⟩
        else ⟨base.device, walk base.names (parts .win32 path)⟩

def separator : Platform → Char
  | .posix => '/'
  | .win32 => '\\'

/-- Names one after the other, with separators between them. -/
def joined (platform : Platform) (names : List (List Char)) : List Char :=
  [separator platform].intercalate names

/-- An absolute path of the location. -/
def Location.text (platform : Platform) (loc : Location) : List Char :=
  loc.device ++ separator platform :: joined platform loc.names

/-- The steps up and down from one directory to another, with names compared in the form `fold`. -/
def stepsBetween (fold : List Char → List Char) :
    List (List Char) → List (List Char) → List (List Char)
  | a :: source, b :: target =>
    if fold a = fold b then stepsBetween fold source target
    else List.replicate (source.length + 1) ['.', '.'] ++ b :: target
  | source, target => List.replicate source.length ['.', '.'] ++ target

/-- The form in which names are compared: Windows compares without letter case, in the lower case
that `lowerCase` gives. -/
def nameForm (platform : Platform) (lowerCase : List Char → List Char) : List Char → List Char :=
  match platform with
  | .posix => id
  | .win32 => lowerCase

/-- The path from one location to another. -/
def relative (platform : Platform) (lowerCase : List Char → List Char)
    (source target : Location) : List Char :=
  if source.device = target.device then
    joined platform (stepsBetween (nameForm platform lowerCase) source.names target.names)
  else target.text platform

/-- The last name of a path, after the drive that it may start with. -/
def basename (platform : Platform) (path : List Char) : List Char :=
  let path := if platform = .win32 ∧ (drive? path).isSome then path.drop 2 else path
  ((parts platform (path.rdropWhile (isSeparator platform))).getLast?).getD []

/-- The path is seen from wherever it is resolved, on its own drive. -/
def IsRelative (platform : Platform) (path : List Char) : Prop :=
  isAbsolute platform path = false ∧ (platform = .win32 → drive? path = none)

instance (platform : Platform) (path : List Char) : Decidable (IsRelative platform path) :=
  inferInstanceAs (Decidable (_ ∧ _))

section relative

variable {platform : Platform} {driveCwd : List Char → List (List Char)} {base : Location}
  {path rest : List Char}

theorem drive?_append {drive : List Char} (h : drive? path = some drive) (rest : List Char) :
    drive? (path ++ rest) = some drive := by
  match path, h with
  | c :: colon :: path, h => exact h

theorem driveRooted_append (h : driveRooted path = true) (rest : List Char) :
    driveRooted (path ++ rest) = true := by
  obtain ⟨hdrive, hroot⟩ := Bool.and_eq_true_iff.mp h
  obtain ⟨drive, hdrive⟩ := Option.isSome_iff_exists.mp hdrive
  rw [driveRooted, drive?_append hdrive]
  match path, hroot with
  | _ :: _ :: d :: path, hroot => exact hroot

theorem isAbsolute_append (h : isAbsolute platform path = true) (rest : List Char) :
    isAbsolute platform (path ++ rest) = true := by
  cases platform with
  | posix =>
    cases path with
    | nil => cases h
    | cons c path => exact h
  | win32 =>
    cases path with
    | nil => cases h
    | cons c path =>
      rw [isAbsolute, Bool.or_eq_true] at h
      rw [List.cons_append, isAbsolute, Bool.or_eq_true]
      rcases h with hseparator | hdrive
      · exact Or.inl hseparator
      · exact Or.inr (driveRooted_append hdrive rest)

theorem IsRelative.of_append (h : IsRelative platform (path ++ rest)) : IsRelative platform path := by
  constructor
  · rw [← Bool.not_eq_true]
    intro habsolute
    have happend := isAbsolute_append habsolute rest
    rw [h.1] at happend
    cases happend
  · intro hplatform
    cases hdrive : drive? path with
    | none => rfl
    | some drive =>
      have happend := drive?_append hdrive rest
      rw [h.2 hplatform] at happend
      cases happend

theorem share?_of_relative (h : isAbsolute .win32 path = false) : share? path = none := by
  match path, h with
  | [], _ => rfl
  | [c], _ => rfl
  | c :: d :: path, h =>
    rw [isAbsolute, Bool.or_eq_false_iff] at h
    simp [share?, h.1]

theorem resolve_of_isRelative (h : IsRelative platform path) :
    resolve platform driveCwd base path = ⟨base.device, walk base.names (parts platform path)⟩ := by
  obtain ⟨habsolute, hdrive⟩ := h
  cases platform with
  | posix => simp [resolve, habsolute]
  | win32 => simp [resolve, share?_of_relative habsolute, hdrive rfl, habsolute]

theorem walk_of_not_mem {names ps : List (List Char)} (h : ['.', '.'] ∉ ps) :
    walk names ps = names ++ ps.filter fun part => !isIdle part := by
  induction ps generalizing names with
  | nil => simp [walk]
  | cons part ps ih =>
    obtain ⟨hpart, hrest⟩ := not_or.mp (List.mem_cons.not.mp h)
    have hwalk : walk names (part :: ps) = walk (stepDown names part) ps := rfl
    rw [hwalk, ih hrest, stepDown]
    cases hidle : isIdle part with
    | true => simp [hidle]
    | false => simp [hidle, Ne.symm hpart]

theorem isSeparator_slash : isSeparator platform '/' = true := by
  cases platform <;> rfl

/-- A path that goes on below another leads to a location under that one's. -/
theorem resolve_under_resolve (h : IsRelative platform (path ++ '/' :: rest))
    (hup : ['.', '.'] ∉ parts platform (path ++ '/' :: rest)) :
    (resolve platform driveCwd base (path ++ '/' :: rest)).Under
      (resolve platform driveCwd base path) := by
  have hparts : parts platform (path ++ '/' :: rest) = parts platform path ++ parts platform rest :=
    List.splitOnP_append_cons _ _ isSeparator_slash
  have hupPath : ['.', '.'] ∉ parts platform path := by
    intro hmem
    apply hup
    rw [hparts]
    exact List.mem_append_left _ hmem
  rw [resolve_of_isRelative h, resolve_of_isRelative h.of_append, walk_of_not_mem hup,
    walk_of_not_mem hupPath, hparts, List.filter_append, ← List.append_assoc]
  exact ⟨rfl, List.prefix_append _ _⟩

end relative

/-- A part that names something below a directory. -/
def isName (part : List Char) : Bool := !isIdle part && part ≠ ['.', '.']

section below

variable {platform : Platform} {fold lowerCase : List Char → List Char} {source target : Location}
  {names : List (List Char)} {name path rest : List Char} {c : Char}

@[simp] theorem joined_nil : joined platform [] = [] := rfl

@[simp] theorem joined_singleton : joined platform [name] = name := by
  simp [joined]

theorem joined_cons (hne : names ≠ []) :
    joined platform (name :: names) = name ++ separator platform :: joined platform names := by
  cases names with
  | nil => exact absurd rfl hne
  | cons next names => simp [joined, List.intercalate_cons_cons]

theorem joined_concat (hne : names ≠ []) :
    joined platform (names ++ [name]) = joined platform names ++ separator platform :: name := by
  induction names with
  | nil => exact absurd rfl hne
  | cons next names ih =>
    cases hnames : names with
    | nil => simp [joined]
    | cons after others =>
      have hnext : names ≠ [] := by simp [hnames]
      have happend : names ++ [name] ≠ [] := by simp
      rw [← hnames, List.cons_append, joined_cons happend, joined_cons hnext, ih hnext]
      simp

theorem prefix_joined_cons : name <+: joined platform (name :: names) := by
  by_cases hnames : names = []
  · rw [hnames, joined_singleton]
  · rw [joined_cons hnames]
    exact List.prefix_append _ _

theorem mem_of_mem_parts {part : List Char} (h : part ∈ parts platform path) (hc : c ∈ part) :
    c ∈ path ∧ isSeparator platform c = false := by
  induction path generalizing part with
  | nil =>
    obtain rfl := List.mem_singleton.mp h
    cases hc
  | cons d path ih =>
    rw [parts, List.splitOnP_cons_eq_if_modifyHead] at h
    split_ifs at h with hseparator
    · rcases List.mem_cons.mp h with rfl | hrest
      · cases hc
      · exact ⟨List.mem_cons_of_mem _ (ih hrest hc).1, (ih hrest hc).2⟩
    · cases hparts : path.splitOnP (isSeparator platform) with
      | nil => exact absurd hparts (List.splitOnP_ne_nil _ _)
      | cons first others =>
        rw [hparts, List.modifyHead_cons] at h
        rcases List.mem_cons.mp h with rfl | hothers
        · rcases List.mem_cons.mp hc with rfl | hfirst
          · exact ⟨List.mem_cons_self, Bool.not_eq_true _ ▸ hseparator⟩
          · have hmem : first ∈ parts platform path := by
              rw [parts, hparts]
              exact List.mem_cons_self
            exact ⟨List.mem_cons_of_mem _ (ih hmem hfirst).1, (ih hmem hfirst).2⟩
        · have hmem : part ∈ parts platform path := by
            rw [parts, hparts]
            exact List.mem_cons_of_mem _ hothers
          exact ⟨List.mem_cons_of_mem _ (ih hmem hc).1, (ih hmem hc).2⟩

theorem parts_of_no_separator (h : ∀ c ∈ name, isSeparator platform c = false) :
    parts platform name = [name] :=
  List.splitOnP_eq_singleton h

theorem parts_append (h : ∀ c ∈ name, isSeparator platform c = false) :
    parts platform (path ++ name) =
      (parts platform path).dropLast ++ [(parts platform path).getLastD [] ++ name] := by
  induction path with
  | nil => simpa [parts] using parts_of_no_separator h
  | cons c path ih =>
    have hne : parts platform path ≠ [] := List.splitOnP_ne_nil _ _
    have hcons : ∀ text : List Char, parts platform (c :: text) =
        if isSeparator platform c then [] :: parts platform text
        else (parts platform text).modifyHead (List.cons c) :=
      fun text => List.splitOnP_cons_eq_if_modifyHead c text
    rw [List.cons_append, hcons, hcons, ih]
    obtain ⟨first, others, hparts⟩ := List.exists_cons_of_ne_nil hne
    rw [hparts]
    split_ifs
    · rfl
    · cases others with
      | nil => simp
      | cons second others => simp

theorem walk_concat {names ps : List (List Char)} (h : isName name = true) :
    walk names (ps ++ [name]) = walk names ps ++ [name] := by
  obtain ⟨hidle, hup⟩ : isIdle name = false ∧ name ≠ ['.', '.'] := by
    simpa [isName] using h
  simp [walk, stepDown, hidle, hup]

theorem isSeparator_separator : isSeparator platform (separator platform) = true := by
  cases platform <;> rfl

/-- Names without separators are the parts of their path, also where it is written with slashes. -/
theorem parts_joined {written : Platform} (hne : names ≠ [])
    (hseparator : isSeparator platform (separator written) = true)
    (h : ∀ name ∈ names, ∀ c ∈ name, isSeparator platform c = false) :
    parts platform (joined written names) = names := by
  induction names with
  | nil => exact absurd rfl hne
  | cons name names ih =>
    have hname := parts_of_no_separator (h name List.mem_cons_self)
    by_cases hnames : names = []
    · rw [hnames, joined_singleton, hname]
    · have hrest := ih hnames fun other hmem => h other (List.mem_cons_of_mem _ hmem)
      have hsplit : parts platform (name ++ separator written :: joined written names) =
          parts platform name ++ parts platform (joined written names) :=
        List.splitOnP_append_cons _ _ hseparator
      rw [joined_cons hnames, hsplit, hname, hrest]
      rfl

theorem joined_parts : joined .posix (parts .posix path) = path := by
  have hparts : parts .posix path = path.splitOn '/' := by
    rw [List.splitOn_eq_splitOnP]
    rfl
  rw [hparts]
  exact List.intercalate_splitOn '/'

/-- A way from a directory that does not start with a step up goes down from it. -/
theorem stepsBetween_of_not_up {source target : List (List Char)}
    (h : ['.', '.'].isPrefixOf (joined platform (stepsBetween fold source target)) = false) :
    source.map fold <+: target.map fold ∧
      stepsBetween fold source target = target.drop source.length := by
  induction source generalizing target with
  | nil => simp [stepsBetween]
  | cons a source ih =>
    have hup : ∀ others, ['.', '.'].isPrefixOf (joined platform (['.', '.'] :: others)) = true :=
      fun others => List.isPrefixOf_iff_prefix.mpr prefix_joined_cons
    cases target with
    | nil =>
      have hsteps : stepsBetween fold (a :: source) [] =
          ['.', '.'] :: List.replicate source.length ['.', '.'] := by
        simp [stepsBetween, List.replicate_succ]
      rw [hsteps, hup] at h
      cases h
    | cons b target =>
      rw [stepsBetween] at h ⊢
      split_ifs at h ⊢ with hfold
      · obtain ⟨hunder, hdrop⟩ := ih h
        rw [List.map_cons, List.map_cons, hfold]
        exact ⟨List.prefix_cons_inj _ |>.mpr hunder, hdrop⟩
      · rw [List.replicate_succ, List.cons_append, hup] at h
        cases h

theorem stepsBetween_append (source names : List (List Char)) :
    stepsBetween fold source (source ++ names) = names := by
  induction source with
  | nil => simp [stepsBetween]
  | cons a source ih => simp [stepsBetween, ih]

/-- What a way adds to the names it starts from, or to those it keeps of them. -/
theorem walk_eq_take_append (names ps : List (List Char)) :
    ∃ kept added, walk names ps = names.take kept ++ added ∧
      ∀ name ∈ added, name ∈ ps ∧ isName name = true := by
  induction ps using List.reverseRecOn with
  | nil => exact ⟨names.length, [], by simp [walk], nofun⟩
  | append_singleton ps part ih =>
    obtain ⟨kept, added, hwalk, hadded⟩ := ih
    have hmem : ∀ name ∈ added, name ∈ ps ++ [part] ∧ isName name = true := fun name hname =>
      ⟨List.mem_append_left _ (hadded name hname).1, (hadded name hname).2⟩
    have hstep : walk names (ps ++ [part]) = stepDown (walk names ps) part := by
      simp [walk]
    rw [hstep, hwalk, stepDown]
    split_ifs with hidle hup
    · exact ⟨kept, added, rfl, hmem⟩
    · by_cases hnone : added = []
      · refine ⟨min kept names.length - 1, [], ?_, nofun⟩
        rw [hnone, List.append_nil, List.append_nil, List.dropLast_eq_take, List.length_take,
          List.take_take]
        congr 1
        omega
      · refine ⟨kept, added.dropLast, List.dropLast_append_of_ne_nil hnone, ?_⟩
        intro name hname
        exact hmem name (List.dropLast_subset _ hname)
    · refine ⟨kept, added ++ [part], by simp, ?_⟩
      intro name hname
      rcases List.mem_append.mp hname with hold | hnew
      · exact hmem name hold
      · obtain rfl := List.mem_singleton.mp hnew
        exact ⟨by simp, by simp [isName, hidle, hup]⟩

theorem mem_drop_walk {ps : List (List Char)} (h : name ∈ (walk names ps).drop names.length) :
    name ∈ ps ∧ isName name = true := by
  obtain ⟨kept, added, hwalk, hadded⟩ := walk_eq_take_append names ps
  rw [hwalk, List.drop_append] at h
  rcases List.mem_append.mp h with htaken | hmem
  · rw [List.drop_eq_nil_of_le (List.length_take_le' kept names)] at htaken
    cases htaken
  · exact hadded name (List.mem_of_mem_drop hmem)

/-- Whether a path with a separator in it is absolute is decided up to the separator. -/
theorem isAbsolute_append_separator {s t : Char} {below other : List Char}
    (hs : isSeparator platform s = true) (ht : isSeparator platform t = true) :
    isAbsolute platform (path ++ s :: below) = isAbsolute platform (path ++ t :: other) := by
  cases platform with
  | posix =>
    cases path with
    | nil => simp_all [isAbsolute, isSeparator]
    | cons c path => rfl
  | win32 =>
    have hcolon : ∀ u, isSeparator .win32 u = true → (u = ':') = False := by
      intro u hu
      simp only [eq_iff_iff, iff_false]
      rintro rfl
      cases hu
    match path with
    | [] => simp [isAbsolute, hs, ht]
    | [c] => simp [isAbsolute, driveRooted, drive?, hcolon s hs, hcolon t ht]
    | [c, d] => simp [isAbsolute, driveRooted, drive?, hs, ht]
    | c :: d :: e :: path => simp [isAbsolute, driveRooted, drive?]

/-- A path that is not absolute leads to its own drive, or goes on from the directory. -/
theorem resolve_of_not_absolute (driveCwd : List Char → List (List Char)) (source : Location)
    (habsolute : isAbsolute platform path = false) :
    (∃ rest, rest <:+ path ∧ resolve platform driveCwd source path =
      ⟨source.device, walk source.names (parts platform rest)⟩) ∨
    ∃ drive names, platform = .win32 ∧ drive? path = some drive ∧ drive ≠ source.device ∧
      resolve platform driveCwd source path = ⟨drive, names⟩ := by
  cases platform with
  | posix => exact Or.inl ⟨path, List.suffix_rfl, by simp [resolve, habsolute]⟩
  | win32 =>
    have hshare := share?_of_relative habsolute
    have hwin32 : resolve .win32 driveCwd source path =
        match drive? path with
        | some drive =>
          if drive = source.device then ⟨drive, walk source.names (parts .win32 (path.drop 2))⟩
          else ⟨drive, walk (driveCwd drive) (parts .win32 (path.drop 2))⟩
        | none => ⟨source.device, walk source.names (parts .win32 path)⟩ := by
      simp [resolve, hshare, habsolute]
    rw [hwin32]
    cases hdrive : drive? path with
    | none => exact Or.inl ⟨path, List.suffix_rfl, rfl⟩
    | some drive =>
      by_cases hsame : drive = source.device
      · refine Or.inl ⟨path.drop 2, List.drop_suffix _ _, ?_⟩
        simp [hsame]
      · have helsewhere : (if drive = source.device then
            (⟨drive, walk source.names (parts .win32 (path.drop 2))⟩ : Location)
          else ⟨drive, walk (driveCwd drive) (parts .win32 (path.drop 2))⟩) =
            ⟨drive, walk (driveCwd drive) (parts .win32 (path.drop 2))⟩ := if_neg hsame
        exact Or.inr ⟨drive, _, rfl, rfl, hsame, helsewhere⟩

theorem relative_append : relative platform lowerCase source ⟨source.device, source.names ++ names⟩ =
      joined platform names := by
  rw [relative, if_pos rfl, stepsBetween_append]

theorem isAlpha_toLower (h : c.isAlpha = true) : c.toLower.isAlpha = true := by
  delta Char.isAlpha Char.isUpper Char.isLower Char.toLower at *
  simp only [Bool.or_eq_true, Bool.and_eq_true, decide_eq_true_eq] at h ⊢
  split_ifs with hupper
  · right
    have hleast := hupper.1
    have hgreatest := hupper.2
    simp only [ge_iff_le, UInt32.le_iff_toNat_le, UInt32.toNat_add, UInt32.reduceToNat,
      UInt32.reduceSub, Char.reduceVal] at hleast hgreatest ⊢
    omega
  · exact h

theorem isAbsolute_text_of_drive {drive : List Char} (h : drive? path = some drive) :
    isAbsolute .win32 (Location.text .win32 ⟨drive, names⟩) = true := by
  match path, h with
  | c :: colon :: path, h =>
    simp only [drive?] at h
    split_ifs at h with hletter
    obtain rfl := Option.some.inj h
    have hlower : c.toLower.isAlpha = true := by
      rw [Bool.and_eq_true] at hletter
      exact isAlpha_toLower hletter.1
    simp [isAbsolute, driveRooted, drive?, Location.text, hlower, separator, isSeparator]

/-- What a location has in common with the directory from which a path leads to it, where the way
back to the path neither goes up nor is absolute. -/
theorem resolve_below {driveCwd : List Char → List (List Char)}
    (habsolute : isAbsolute platform path = false)
    (hresolve : resolve platform driveCwd source path = target)
    (hup : ['.', '.'].isPrefixOf (relative platform lowerCase source target) = false)
    (hrelative : isAbsolute platform (relative platform lowerCase source target) = false) :
    target.device = source.device ∧ source.names.map (nameForm platform lowerCase) <+:
        target.names.map (nameForm platform lowerCase) ∧
      relative platform lowerCase source target =
        joined platform (target.names.drop source.names.length) ∧
      ∀ name ∈ target.names.drop source.names.length, isName name = true ∧
        ∀ c ∈ name, c ∈ path ∧ isSeparator platform c = false := by
  rcases resolve_of_not_absolute driveCwd source habsolute with
    ⟨rest, hsuffix, hwalk⟩ | ⟨drive, names, rfl, hdrive, hother, hwalk⟩
  · obtain rfl : _ = target := hwalk.symm.trans hresolve
    rw [relative, if_pos rfl] at hup ⊢
    obtain ⟨hunder, hsteps⟩ := stepsBetween_of_not_up hup
    refine ⟨rfl, hunder, by rw [hsteps], ?_⟩
    intro name hname
    obtain ⟨hpart, hisName⟩ := mem_drop_walk hname
    refine ⟨hisName, fun c hc => ?_⟩
    obtain ⟨hmem, hseparator⟩ := mem_of_mem_parts hpart hc
    exact ⟨hsuffix.subset hmem, hseparator⟩
  · obtain rfl : _ = target := hwalk.symm.trans hresolve
    rw [relative, if_neg (Ne.symm hother), isAbsolute_text_of_drive hdrive] at hrelative
    cases hrelative

end below

end ShipyardCp.Lib.NodePath
