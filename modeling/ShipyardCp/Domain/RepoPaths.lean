import ShipyardCp.Domain.ToolPlanExecutor

/-! The paths of the files in a workspace: the names on them, which of them lie at or below a
prefix, and where a call that names one leads. -/

namespace ShipyardCp.Domain

open Types Lib Lib.NodePath ToolPlanHost

def file (host : ToolPlanHost) (loc : Location) : Location :=
  { loc with names := loc.names.map (nameForm host.platform host.lowerCase) }

/-- The names below the workspace root by which a plan may write. -/
structure RepoNames (platform : Platform) (names : List (List Char)) : Prop where
  isName : ∀ name ∈ names, isName name = true
  noSeparator : ∀ name ∈ names, ∀ c ∈ name, isSeparator .win32 c = false
  noStepUp : ['.', '.'].isPrefixOf (joined .posix names) = false
  notAbsolute : isAbsolute platform (joined .posix names) = false

instance (platform : Platform) (names : List (List Char)) : Decidable (RepoNames platform names) :=
  decidable_of_iff ((∀ name ∈ names, isName name = true) ∧
      (∀ name ∈ names, ∀ c ∈ name, isSeparator .win32 c = false) ∧
      ['.', '.'].isPrefixOf (joined .posix names) = false ∧
      isAbsolute platform (joined .posix names) = false)
    ⟨fun h => ⟨h.1, h.2.1, h.2.2.1, h.2.2.2⟩, fun h => ⟨h.1, h.2, h.3, h.4⟩⟩

def dirNames (dir : List Char) : List (List Char) :=
  (parts .posix dir).filter fun part => !isIdle part

def IsRepoPath (platform : Platform) (dir : List Char) : Prop :=
  joined .posix (dirNames dir) = dir ∧ RepoNames platform (dirNames dir)

instance (platform : Platform) (dir : List Char) : Decidable (IsRepoPath platform dir) :=
  inferInstanceAs (Decidable (_ ∧ _))

def OpensBelow (platform : Platform) (dir : List Char) : Prop :=
  IsRepoPath platform dir ∧ dir ≠ [] ∧ isAbsolute platform (dir ++ ['/']) = false

instance (platform : Platform) (dir : List Char) : Decidable (OpensBelow platform dir) :=
  inferInstanceAs (Decidable (_ ∧ _))

section names

variable {platform : Platform} {host : ToolPlanHost} {root loc : Location}
  {names : List (List Char)} {dir : List Char} {value : Option Json}

theorem slashed_of_no_separator {path : List Char} (h : ∀ c ∈ path, isSeparator .win32 c = false) :
    slashed path = path := by
  have hid : ∀ c ∈ path, (if c = '\\' then '/' else c) = c := by
    intro c hc
    apply if_neg
    rintro rfl
    cases h _ hc
  rw [slashed, List.map_congr_left hid, List.map_id']

theorem slashed_joined (h : ∀ name ∈ names, ∀ c ∈ name, isSeparator .win32 c = false) :
    slashed (joined platform names) = joined .posix names := by
  induction names with
  | nil => rfl
  | cons name names ih =>
    have hname := slashed_of_no_separator (h name List.mem_cons_self)
    by_cases hnames : names = []
    · rw [hnames, joined_singleton, joined_singleton, hname]
    · have hrest := ih fun other hmem => h other (List.mem_cons_of_mem _ hmem)
      have hsplit : slashed (name ++ separator platform :: joined platform names) =
          slashed name ++ '/' :: slashed (joined platform names) := by
        cases platform <;> simp [slashed, separator]
      rw [joined_cons hnames, joined_cons hnames, hsplit, hname, hrest]
      rfl

theorem isAbsolute_joined :
    isAbsolute platform (joined platform names) = isAbsolute platform (joined .posix names) := by
  match names with
  | [] => rfl
  | [name] => simp
  | name :: next :: names =>
    rw [joined_cons (List.cons_ne_nil _ _), joined_cons (List.cons_ne_nil _ _)]
    exact isAbsolute_append_separator isSeparator_separator isSeparator_slash

theorem isPrefixOf_slashed {path : List Char} :
    ['.', '.'].isPrefixOf (slashed path) = ['.', '.'].isPrefixOf path := by
  have hdot : ∀ c : Char, ('.' == if c = '\\' then '/' else c) = ('.' == c) := by
    intro c
    by_cases hback : c = '\\' <;> simp [hback]
  match path with
  | [] => rfl
  | [c] => simp [slashed, List.isPrefixOf]
  | c :: d :: path => simp [slashed, List.isPrefixOf, hdot]

theorem RepoNames.parts_joined (h : RepoNames platform names) (hne : names ≠ [])
    (reader : Platform) : parts reader (joined .posix names) = names := by
  apply NodePath.parts_joined hne isSeparator_slash
  intro name hname c hc
  have hseparator := h.noSeparator name hname c hc
  cases reader with
  | posix =>
    rw [isSeparator, Bool.or_eq_false_iff] at hseparator
    exact hseparator.1
  | win32 => exact hseparator

theorem isIdle_of_isName {name : List Char} (h : isName name = true) : isIdle name = false := by
  rw [isName, Bool.and_eq_true, Bool.not_eq_true'] at h
  exact h.1

theorem RepoNames.filter_parts (h : RepoNames platform names) (reader : Platform) :
    ((parts reader (joined .posix names)).filter fun part => !isIdle part) = names ∧
      ['.', '.'] ∉ parts reader (joined .posix names) := by
  by_cases hne : names = []
  · rw [hne]
    exact ⟨rfl, by simp [parts]⟩
  · rw [h.parts_joined hne]
    constructor
    · rw [List.filter_eq_self]
      intro name hname
      rw [isIdle_of_isName (h.isName name hname)]
      rfl
    · intro hup
      cases h.isName _ hup

theorem RepoNames.dirNames_joined (h : RepoNames platform names) :
    dirNames (joined .posix names) = names :=
  (h.filter_parts .posix).1

theorem RepoNames.resolveRepoPath_joined (h : RepoNames host.platform names) :
    host.resolveRepoPath root (some (.str (String.ofList ('.' :: '/' :: joined .posix names)))) =
      .ok { root with names := root.names ++ names } := by
  have hparts : ∀ platform, parts platform ('.' :: '/' :: joined .posix names) =
      ['.'] :: parts platform (joined .posix names) := by
    intro platform
    have hdot : ∀ c ∈ ['.'], isSeparator platform c = false := by
      intro c hc
      rw [List.mem_singleton.mp hc]
      cases platform <;> rfl
    have hsplit : parts platform (['.'] ++ '/' :: joined .posix names) =
        parts platform ['.'] ++ parts platform (joined .posix names) :=
      List.splitOnP_append_cons _ _ isSeparator_slash
    rw [parts_of_no_separator hdot] at hsplit
    exact hsplit
  have hisRelative : IsRelative host.platform ('.' :: '/' :: joined .posix names) := by
    cases host.platform with
    | posix => exact ⟨rfl, nofun⟩
    | win32 => exact ⟨rfl, fun _ => rfl⟩
  have hresolve : host.resolve root ('.' :: '/' :: joined .posix names) =
      { root with names := root.names ++ names } := by
    rw [ToolPlanHost.resolve, resolve_of_isRelative hisRelative, hparts, walk_of_not_mem]
    · rw [List.filter_cons_of_neg (by decide), (h.filter_parts _).1]
    · rw [List.mem_cons, not_or]
      exact ⟨by decide, (h.filter_parts _).2⟩
  have hrelative : host.relative root { root with names := root.names ++ names } =
      joined host.platform names := relative_append
  have hup : ['.', '.'] ∉ parts .win32 ('.' :: '/' :: joined .posix names) := by
    rw [hparts, List.mem_cons, not_or]
    exact ⟨by decide, (h.filter_parts _).2⟩
  have hsteps : ['.', '.'].isPrefixOf (joined host.platform names) = false := by
    rw [← isPrefixOf_slashed, slashed_joined h.noSeparator]
    exact h.noStepUp
  have hback : isAbsolute host.platform (joined host.platform names) = false := by
    rw [isAbsolute_joined]
    exact h.notAbsolute
  simp [resolveRepoPath, Json.asString?, hisRelative.1, hup, hresolve, hrelative, hsteps, hback]

theorem resolveRepoPath_eq_ok (h : host.resolveRepoPath root value = .ok loc) :
    ∃ text, value = some (.str text) ∧ isAbsolute host.platform text.toList = false ∧
      host.resolve root text.toList = loc ∧
      ['.', '.'].isPrefixOf (host.relative root loc) = false ∧
      isAbsolute host.platform (host.relative root loc) = false := by
  unfold resolveRepoPath at h
  split at h
  · cases h
  · next text htext =>
    obtain ⟨json, rfl, hstring⟩ := Option.bind_eq_some_iff.mp htext
    cases json with
    | str s =>
      obtain rfl := Option.some.inj hstring
      dsimp only at h
      split_ifs at h with hempty hrooted hescape
      obtain rfl := Except.ok.inj h
      rw [Bool.or_eq_true, not_or] at hrooted hescape
      exact ⟨s, rfl, Bool.eq_false_iff.mpr hrooted.1, rfl, Bool.eq_false_iff.mpr hescape.1,
        Bool.eq_false_iff.mpr hescape.2⟩
    | _ => cases hstring

theorem exists_names_of_resolveRepoPath (h : host.resolveRepoPath root value = .ok loc) :
    ∃ text names, value = some (.str text) ∧
      file host loc = file host { root with names := root.names ++ names } ∧
      ((host.platform = .posix → '\\' ∉ text.toList) →
        RepoNames host.platform names ∧ host.repoPath root loc = joined .posix names) := by
  obtain ⟨text, htext, habsolute, hresolve, hup, hrelative⟩ := resolveRepoPath_eq_ok h
  obtain ⟨hdevice, hunder, hjoined, hnames⟩ := resolve_below habsolute hresolve hup hrelative
  refine ⟨text, loc.names.drop root.names.length, htext, ?_, ?_⟩
  · have happend := List.prefix_iff_eq_append.mp hunder
    rw [List.length_map, ← List.map_drop, ← List.map_append] at happend
    rw [file, file, hdevice, happend]
  · intro hback
    have hseparator : ∀ name ∈ loc.names.drop root.names.length, ∀ c ∈ name,
        isSeparator .win32 c = false := by
      intro name hname c hc
      obtain ⟨hmem, hplatform⟩ := (hnames name hname).2 c hc
      cases hhost : host.platform with
      | posix =>
        rw [hhost] at hplatform
        have hne : c ≠ '\\' := by
          rintro rfl
          exact hback hhost hmem
        rw [isSeparator, Bool.or_eq_false_iff]
        exact ⟨hplatform, decide_eq_false hne⟩
      | win32 =>
        rw [hhost] at hplatform
        exact hplatform
    have hpath : host.repoPath root loc = joined .posix (loc.names.drop root.names.length) := by
      rw [repoPath, ToolPlanHost.relative, hjoined, slashed_joined hseparator]
    rw [ToolPlanHost.relative, hjoined] at hup hrelative
    refine ⟨⟨fun name hname => (hnames name hname).1, hseparator, ?_, ?_⟩, hpath⟩
    · rw [← slashed_joined hseparator, isPrefixOf_slashed]
      exact hup
    · rw [← isAbsolute_joined]
      exact hrelative

theorem RepoNames.isRepoPath_of_allowed (h : RepoNames platform names)
    (hallowed : joined .posix names = dir ∨ dir ++ ['/'] <+: joined .posix names) :
    IsRepoPath platform dir ∧ dirNames dir <+: names ∧
      (names = dirNames dir ∨ OpensBelow platform dir) := by
  rcases hallowed with rfl | ⟨rest, hrest⟩
  · rw [IsRepoPath, h.dirNames_joined]
    exact ⟨⟨rfl, h⟩, List.prefix_rfl, Or.inl rfl⟩
  · rw [List.append_assoc, List.singleton_append] at hrest
    have habsolute := h.notAbsolute
    rw [← hrest] at habsolute
    have hdir : dir ≠ [] := by
      rintro rfl
      cases platform <;> cases habsolute
    have hne : names ≠ [] := by
      rintro rfl
      simp at hrest
    have hsplit : parts .posix (dir ++ '/' :: rest) = parts .posix dir ++ parts .posix rest :=
      List.splitOnP_append_cons _ _ isSeparator_slash
    have hnames : names = parts .posix dir ++ parts .posix rest := by
      rw [← hsplit, hrest, h.parts_joined hne]
    have hmem : ∀ name ∈ parts .posix dir, name ∈ names := by
      intro name hname
      rw [hnames]
      exact List.mem_append_left _ hname
    have hparts : dirNames dir = parts .posix dir := by
      rw [dirNames, List.filter_eq_self]
      intro name hname
      rw [isIdle_of_isName (h.isName name (hmem name hname))]
      rfl
    have hrepo : IsRepoPath platform dir := by
      rw [IsRepoPath, hparts, joined_parts]
      refine ⟨rfl, fun name hname => h.isName name (hmem name hname),
        fun name hname => h.noSeparator name (hmem name hname), ?_, ?_⟩
      · rw [joined_parts, ← Bool.not_eq_true, List.isPrefixOf_iff_prefix]
        intro hup
        have hstep := h.noStepUp
        rw [← hrest, ← Bool.not_eq_true, List.isPrefixOf_iff_prefix] at hstep
        exact hstep (hup.trans (List.prefix_append _ _))
      · rw [joined_parts, ← Bool.not_eq_true]
        intro hrooted
        rw [isAbsolute_append hrooted] at habsolute
        cases habsolute
    refine ⟨hrepo, ?_, Or.inr ⟨hrepo, hdir, ?_⟩⟩
    · rw [hparts, hnames]
      exact List.prefix_append _ _
    · rw [isAbsolute_append_separator isSeparator_slash isSeparator_slash]
      exact habsolute

theorem OpensBelow.repoNames_concat {name : List Char} (h : OpensBelow platform dir)
    (hname : isName name = true) (hseparator : ∀ c ∈ name, isSeparator .win32 c = false) :
    RepoNames platform (dirNames dir ++ [name]) ∧
      joined .posix (dirNames dir ++ [name]) = dir ++ '/' :: name := by
  obtain ⟨⟨hjoined, hrepo⟩, hdir, habsolute⟩ := h
  have hne : dirNames dir ≠ [] := by
    intro hnone
    rw [hnone, joined_nil] at hjoined
    exact hdir hjoined.symm
  have hpath : joined .posix (dirNames dir ++ [name]) = dir ++ '/' :: name := by
    rw [joined_concat hne, hjoined]
    rfl
  refine ⟨⟨?_, ?_, ?_, ?_⟩, hpath⟩
  · intro other hother
    rcases List.mem_append.mp hother with hold | hnew
    · exact hrepo.isName other hold
    · obtain rfl := List.mem_singleton.mp hnew
      exact hname
  · intro other hother
    rcases List.mem_append.mp hother with hold | hnew
    · exact hrepo.noSeparator other hold
    · obtain rfl := List.mem_singleton.mp hnew
      exact hseparator
  · rw [hpath]
    have hstep := hrepo.noStepUp
    rw [hjoined] at hstep
    match dir, hdir, hstep with
    | [c], _, _ => simp [List.isPrefixOf]
    | c :: d :: dir, _, hstep => simpa [List.isPrefixOf] using hstep
  · rw [hpath, isAbsolute_append_separator isSeparator_slash isSeparator_slash]
    exact habsolute

end names

end ShipyardCp.Domain
