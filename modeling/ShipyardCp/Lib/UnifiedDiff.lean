import ShipyardCp.Lib.JsText

/-! Unified diffs as git writes them: for each file a section with its old and new name and its hunks,
and the text of it. -/

namespace ShipyardCp.Lib.UnifiedDiff

open JsText (isLineTerminator)

/-- No line ends in the text. -/
def plain (text : List Char) : Bool := text.all fun c => !isLineTerminator c

/-- A text without line ends. -/
structure Inline where
  text : List Char
  isPlain : plain text = true

inductive LineKind where
  | context | removed | added
  deriving DecidableEq

def LineKind.sign : LineKind → Char
  | context => ' '
  | removed => '-'
  | added => '+'

/-- A line of a file, without its line feed; the last line of a file may have none. -/
structure HunkLine where
  kind : LineKind
  text : List Char
  ended : Bool
  oneLine : '\n' ∉ text

structure Hunk where
  oldStart : Nat
  newStart : Nat
  heading : List Char
  lines : List HunkLine
  oneLine : '\n' ∉ heading
  changed : ∃ line ∈ lines, line.kind ≠ .context

/-- A name as git shows it: in quotes, with escapes, where a character asks for it. -/
structure Path where
  shown : Inline
  quoted : Bool
  named : shown.text ≠ []

/-- What becomes of a file, with its modes and, for a renamed one, its similarity. -/
inductive Change where
  | modified (path : Path) (modes : Option (Inline × Inline))
  | created (path : Path) (mode : Inline)
  | deleted (path : Path) (mode : Inline)
  | renamed (old new : Path) (modes : Option (Inline × Inline)) (similarity : Inline)

/-- A change that may come without hunks. -/
def Change.standsAlone : Change → Bool
  | .modified _ modes => modes.isSome
  | _ => true

/-- The section of one file. -/
structure FileDiff where
  change : Change
  index : Option Inline
  hunks : List Hunk
  touched : hunks = [] → change.standsAlone = true

def line (text : List Char) : List Char := text ++ ['\n']

def HunkLine.shown (l : HunkLine) : List Char := line (l.kind.sign :: l.text) ++
    if l.ended then [] else line "\\ No newline at end of file".toList

/-- The first line and the number of lines, unless it is one. -/
def range (start count : Nat) : List Char :=
  (toString start).toList ++ if count = 1 then [] else ',' :: (toString count).toList

def Hunk.count (hunk : Hunk) (kind : LineKind) : Nat :=
  (hunk.lines.filter fun l => l.kind = .context ∨ l.kind = kind).length

/-- The line of the ranges, without its first sign. -/
def Hunk.ranges (hunk : Hunk) : List Char :=
  "@ -".toList ++ range hunk.oldStart (hunk.count .removed) ++ " +".toList ++
    range hunk.newStart (hunk.count .added) ++ " @@".toList ++
    if hunk.heading = [] then [] else ' ' :: hunk.heading

def Hunk.shown (hunk : Hunk) : List Char :=
  '@' :: (line hunk.ranges ++ hunk.lines.flatMap HunkLine.shown)

def Path.within (side : String) (path : Path) : List Char :=
  if path.quoted then '"' :: (side.toList ++ path.shown.text ++ ['"'])
  else side.toList ++ path.shown.text

/-- A name with blanks is followed by a tab in the lines of the old and the new file. -/
def Path.label (side : String) (path : Path) : List Char :=
  path.within side ++ if ' ' ∈ path.shown.text ∧ path.quoted = false then ['\t'] else []

def Change.oldPath : Change → Path
  | .modified path _ | .created path _ | .deleted path _ | .renamed path _ _ _ => path

def Change.newPath : Change → Path
  | .modified path _ | .created path _ | .deleted path _ | .renamed _ path _ _ => path

def modeLines : Option (Inline × Inline) → List (List Char)
  | none => []
  | some (old, new) => ["old mode ".toList ++ old.text, "new mode ".toList ++ new.text]

def Change.lines : Change → List (List Char)
  | .modified _ modes => modeLines modes
  | .created _ mode => ["new file mode ".toList ++ mode.text]
  | .deleted _ mode => ["deleted file mode ".toList ++ mode.text]
  | .renamed old new modes similarity => modeLines modes ++
    ["similarity index ".toList ++ similarity.text, "rename from ".toList ++ old.within "",
      "rename to ".toList ++ new.within ""]

/-- The name of the old file, or none for a new one. -/
def Change.oldLabel : Change → List Char
  | .created _ _ => "/dev/null".toList
  | change => change.oldPath.label "a/"

def Change.newLabel : Change → List Char
  | .deleted _ _ => "/dev/null".toList
  | change => change.newPath.label "b/"

/-- The lines of a section before the lines of the old and the new file. -/
def FileDiff.headLines (file : FileDiff) : List (List Char) :=
  ("diff --git ".toList ++ file.change.oldPath.within "a/" ++ ' ' ::
      file.change.newPath.within "b/") ::
    (file.change.lines ++ (file.index.map fun index => "index ".toList ++ index.text).toList)

/-- The lines of the old and the new file stand before hunks only. -/
def FileDiff.nameLines (file : FileDiff) : List (List Char) :=
  if file.hunks = [] then []
  else ["--- ".toList ++ file.change.oldLabel, "+++ ".toList ++ file.change.newLabel]

def FileDiff.shown (file : FileDiff) : List Char :=
  (file.headLines ++ file.nameLines).flatMap line ++ file.hunks.flatMap Hunk.shown

/-- The text of a diff. -/
def shown (files : List FileDiff) : List Char := files.flatMap FileDiff.shown

theorem plain_append {text more : List Char} (htext : plain text = true) (hmore : plain more = true) :
    plain (text ++ more) = true := by
  unfold plain
  rw [List.all_append, Bool.and_eq_true]
  exact ⟨htext, hmore⟩

theorem plain_within (path : Path) {side : String} (hside : plain side.toList = true) :
    plain (path.within side) = true := by
  unfold Path.within
  split_ifs
  · exact @plain_append ['"'] _ rfl (plain_append (plain_append hside path.shown.isPlain) rfl)
  · exact plain_append hside path.shown.isPlain

theorem plain_label (path : Path) {side : String} (hside : plain side.toList = true) :
    plain (path.label side) = true := by
  unfold Path.label
  split_ifs
  · exact plain_append (plain_within path hside) (by decide)
  · exact plain_append (plain_within path hside) rfl

/-- A line of a section before its hunks, where it does not begin with a dash. -/
def Undashed (l : List Char) : Prop := ∃ c text, l = c :: text ∧ c ≠ '-' ∧ plain l = true

theorem undashed_of_append {c : Char} {word text : List Char} (hc : c ≠ '-')
    (hword : plain (c :: word) = true) (htext : plain text = true) :
    Undashed (c :: word ++ text) :=
  ⟨c, word ++ text, rfl, hc, plain_append hword htext⟩

theorem undashed_modeLines (modes : Option (Inline × Inline)) :
    ∀ l ∈ modeLines modes, Undashed l := by
  cases modes with
  | none => exact fun l hl => absurd hl List.not_mem_nil
  | some modes =>
    rintro l (_ | ⟨_, _ | ⟨_, h⟩⟩)
    · exact undashed_of_append (by decide) (by decide) modes.1.isPlain
    · exact undashed_of_append (by decide) (by decide) modes.2.isPlain
    · cases h

theorem undashed_lines (change : Change) : ∀ l ∈ change.lines, Undashed l := by
  cases change with
  | modified path modes => exact undashed_modeLines modes
  | created path mode =>
    intro l hl
    obtain rfl := List.mem_singleton.mp hl
    exact undashed_of_append (by decide) (by decide) mode.isPlain
  | deleted path mode =>
    intro l hl
    obtain rfl := List.mem_singleton.mp hl
    exact undashed_of_append (by decide) (by decide) mode.isPlain
  | renamed old new modes similarity =>
    intro l hl
    rcases List.mem_append.mp hl with h | h
    · exact undashed_modeLines modes l h
    · rcases h with _ | ⟨_, _ | ⟨_, _ | ⟨_, h⟩⟩⟩
      · exact undashed_of_append (by decide) (by decide) similarity.isPlain
      · exact undashed_of_append (by decide) (by decide) (plain_within old rfl)
      · exact undashed_of_append (by decide) (by decide) (plain_within new rfl)
      · cases h

theorem FileDiff.undashed_headLines (file : FileDiff) : ∀ l ∈ file.headLines, Undashed l := by
  intro l hl
  rcases List.mem_cons.mp hl with rfl | hl
  · rw [List.append_assoc]
    exact undashed_of_append (by decide) (by decide) (plain_append (plain_within _ (by decide))
        (@plain_append [' '] _ rfl (plain_within _ (by decide))))
  · rcases List.mem_append.mp hl with h | h
    · exact undashed_lines file.change l h
    · cases hindex : file.index with
      | none =>
        rw [hindex] at h
        cases h
      | some index =>
        rw [hindex] at h
        obtain rfl := List.mem_singleton.mp h
        exact undashed_of_append (by decide) (by decide) index.isPlain

theorem undashed_newLine (change : Change) : Undashed ("+++ ".toList ++ change.newLabel) := by
  have hlabel : plain change.newLabel = true := by
    cases change with
    | deleted path mode => rfl
    | modified path modes => exact plain_label path (by decide)
    | created path mode => exact plain_label path (by decide)
    | renamed old new modes similarity => exact plain_label new (by decide)
  exact undashed_of_append (by decide) (by decide) hlabel

theorem Hunk.exists_shown (hunk : Hunk) : ∃ text, hunk.shown = '@' :: text ++ ['\n'] := by
  obtain ⟨text, htext⟩ : ∃ text, line hunk.ranges ++ hunk.lines.flatMap HunkLine.shown =
      text ++ ['\n'] := by
    induction hunk.lines using List.reverseRecOn with
    | nil => exact ⟨hunk.ranges, List.append_nil _⟩
    | append_singleton lines l _ =>
      rw [List.flatMap_append, List.flatMap_singleton]
      unfold HunkLine.shown line
      split_ifs
      · exact ⟨_, by rw [List.append_nil, ← List.append_assoc, ← List.append_assoc]⟩
      · exact ⟨_, by rw [← List.append_assoc, ← List.append_assoc, ← List.append_assoc]⟩
  exact ⟨text, by rw [Hunk.shown, htext, List.cons_append]⟩

end ShipyardCp.Lib.UnifiedDiff
