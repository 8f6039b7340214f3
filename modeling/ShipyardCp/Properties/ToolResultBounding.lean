import ShipyardCp.Domain.RuntimeTools

/-! Whether the summary of a tool's result keeps to its limit, and whether it says so when it leaves out
output of the tool. -/

namespace ShipyardCp.Properties

open Domain Lib Lib.JsText ToolResultNormalizer RawToolResult

def ShownIn (summary text : CodeUnits) : Prop := text <:+: summary ∨ foldedUnits text <:+: summary

instance (summary text : CodeUnits) : Decidable (ShownIn summary text) :=
  inferInstanceAs (Decidable (_ ∨ _))

def outputs (stringify : Json → CodeUnits) (input : RawToolResult) : List CodeUnits :=
  [input.error.getD [], input.stdout.getD [], input.stderr.getD [],
    (input.json.map stringify).getD []]

/-- A summary is within the limit; and when it leaves out some output, it is marked as bounded and names
the artifact of the full output, if there is one. -/
structure BoundsOutput (options : ToolResultNormalizer) (limit : Nat) (outputs : List CodeUnits)
    (input : RawToolResult) (result : NormalizedToolResult) : Prop where
  length : result.summary.length ≤ limit
  marked : ∀ text ∈ outputs, ¬ShownIn result.summary text → result.bounded = true ∧
      ∀ artifactId, (options.retainedArtifactId <|> input.artifactId) = some artifactId →
        result.retainedArtifactId = some artifactId

def Announces (limit : Nat) (outputs : List CodeUnits) (message : CodeUnits) : Prop :=
  (message.length ≤ limit ∧ ∀ text ∈ outputs, ShownIn message text) ∨
    (limit < message.length ∧ 20 ≤ limit)

/-- What a result has to be for its summary to lose no output unmarked. A refused one: a reason within
the limit that shows every output. A failed one: an error, or an exit code, that announces the outputs.
Another: an output of at most 300 characters without its extra white space, or a limit below these, from
20 on, at which it is cut off; and with the output within the limit, no other that it does not show. -/
def LosesNothing (stringify : Json → CodeUnits) (limit : Nat) (input : RawToolResult) : Prop :=
  match input.decision.filter fun decision => !decision.allowed with
  | some decision =>
    (units decision.reason).length ≤ limit ∧
      ∀ text ∈ outputs stringify input, ShownIn (units decision.reason) text
  | none =>
    if isText input.error then
      Announces limit (outputs stringify input) (input.error.getD [])
    else if input.isFailed then
      Announces limit (outputs stringify input)
        (units s!"{input.request.tool} exited {input.exitText}")
    else if foldedUnits (input.output stringify) = [] then
      Announces limit (outputs stringify input) (units s!"{input.request.tool} completed")
    else
      ((foldedUnits (input.output stringify)).length ≤ 300 ∧
        (foldedUnits (input.output stringify)).length ≤ limit ∧
        ∀ text ∈ outputs stringify input, ShownIn (foldedUnits (input.output stringify)) text) ∨
      (limit < min 300 (foldedUnits (input.output stringify)).length ∧ 20 ≤ limit)

section bounds

variable {options : ToolResultNormalizer} {stringify : Json → CodeUnits} {limit : Nat}
  {texts : List CodeUnits} {input : RawToolResult} {message : CodeUnits}

theorem length_boundedSuffix : boundedSuffix.length = 20 := by decide

theorem boundSummary_bounds_iff (hlimit : 0 < limit) :
    ((boundSummary message (some limit)).1.length ≤ limit ∧
      ∀ text ∈ texts, ¬ShownIn (boundSummary message (some limit)).1 text →
        (boundSummary message (some limit)).2 = true) ↔
      Announces limit texts message := by
  unfold boundSummary Announces
  rw [Option.getD_some]
  dsimp only
  rcases Nat.lt_or_ge limit message.length with hlong | hfits
  · rw [if_neg (by omega), List.length_append, length_boundedSuffix, List.length_take]
    constructor
    · rintro ⟨hlength, _⟩
      exact Or.inr ⟨hlong, by omega⟩
    · rintro (⟨hfits, _⟩ | ⟨_, hroom⟩)
      · omega
      · exact ⟨by omega, fun _ _ _ => rfl⟩
  · rw [if_pos (Or.inr hfits)]
    constructor
    · rintro ⟨_, hmarked⟩
      refine Or.inl ⟨hfits, fun text htext => ?_⟩
      exact Decidable.byContradiction fun hlost => nomatch hmarked text htext hlost
    · rintro (⟨_, hshown⟩ | ⟨hlong, _⟩)
      · exact ⟨hfits, fun text htext hlost => absurd (hshown text htext) hlost⟩
      · omega

theorem output_mem_outputs (stringify : Json → CodeUnits) (input : RawToolResult) :
    input.output stringify ∈ outputs stringify input := by
  unfold output outputs
  split_ifs <;> simp

theorem ShownIn.length_le {text : CodeUnits} (hshown : ShownIn message text) :
    (foldedUnits text).length ≤ message.length := by
  rcases hshown with hasis | hfolded
  · exact (length_foldedUnits_le text).trans hasis.length_le
  · exact hfolded.length_le

theorem announces_start_iff {text : CodeUnits} (htext : text ∈ texts) :
    Announces limit texts ((foldedUnits text).take 300) ↔
      ((foldedUnits text).length ≤ 300 ∧ (foldedUnits text).length ≤ limit ∧
        ∀ other ∈ texts, ShownIn (foldedUnits text) other) ∨
      (limit < min 300 (foldedUnits text).length ∧ 20 ≤ limit) := by
  unfold Announces
  rw [List.length_take]
  constructor
  · rintro (⟨hfits, hshown⟩ | hcut)
    · have hwhole : (foldedUnits text).length ≤ 300 := by
        have hstart := (hshown text htext).length_le
        rw [List.length_take] at hstart
        exact hstart.trans (Nat.min_le_left _ _)
      rw [List.take_of_length_le hwhole] at hshown
      exact Or.inl ⟨hwhole, by rwa [Nat.min_eq_right hwhole] at hfits, hshown⟩
    · exact Or.inr hcut
  · rintro (⟨hwhole, hfits, hshown⟩ | hcut)
    · rw [List.take_of_length_le hwhole, Nat.min_eq_right hwhole]
      exact Or.inl ⟨hfits, hshown⟩
    · exact Or.inr hcut

theorem announces_summary_iff (failed : Bool) (hfailed : failed = input.isFailed) :
    Announces limit (outputs stringify input) (input.summarize stringify failed) ↔
      if isText input.error then
        Announces limit (outputs stringify input) (input.error.getD [])
      else if input.isFailed then
        Announces limit (outputs stringify input)
          (units s!"{input.request.tool} exited {input.exitText}")
      else if foldedUnits (input.output stringify) = [] then
        Announces limit (outputs stringify input) (units s!"{input.request.tool} completed")
      else
        ((foldedUnits (input.output stringify)).length ≤ 300 ∧
          (foldedUnits (input.output stringify)).length ≤ limit ∧
          ∀ text ∈ outputs stringify input, ShownIn (foldedUnits (input.output stringify)) text) ∨
        (limit < min 300 (foldedUnits (input.output stringify)).length ∧ 20 ≤ limit) := by
  subst hfailed
  unfold summarize
  by_cases herror : isText input.error = true
  · rw [if_pos herror, if_pos herror]
  rw [if_neg herror, if_neg herror]
  by_cases hfailed : input.isFailed = true
  · rw [if_pos hfailed, if_pos hfailed]
  rw [if_neg hfailed, if_neg hfailed]
  dsimp only
  have hstart : (foldedUnits (input.output stringify)).take 300 = [] ↔
      foldedUnits (input.output stringify) = [] := by
    rw [List.take_eq_nil_iff, or_iff_right (by decide)]
  by_cases hblank : foldedUnits (input.output stringify) = []
  · rw [if_pos hblank, if_pos (hstart.mpr hblank)]
  · rw [if_neg hblank, if_neg fun h => hblank (hstart.mp h)]
    exact announces_start_iff (output_mem_outputs stringify input)

end bounds

/-- The summary of a normalized result is within the limit and loses no output unmarked exactly for the
results described by `LosesNothing`. -/
theorem normalize_bounds_iff (stringify : Json → CodeUnits) (retainedArtifactId : Option String)
    (limit : Nat) (hlimit : 0 < limit) (input : RawToolResult) :
    BoundsOutput ⟨some limit, retainedArtifactId⟩ limit (outputs stringify input) input
        (normalize ⟨some limit, retainedArtifactId⟩ stringify input) ↔
      LosesNothing stringify limit input := by
  unfold ToolResultNormalizer.normalize LosesNothing
  cases input.decision.filter fun decision => !decision.allowed with
  | some decision =>
    dsimp only
    constructor
    · rintro ⟨hlength, hmarked⟩
      refine ⟨hlength, fun text htext => ?_⟩
      exact Decidable.byContradiction fun hlost => nomatch (hmarked text htext hlost).1
    · rintro ⟨hlength, hshown⟩
      exact ⟨hlength, fun text htext hlost => absurd (hshown text htext) hlost⟩
  | none =>
    dsimp only
    rw [← announces_summary_iff input.isFailed rfl, ← boundSummary_bounds_iff hlimit]
    constructor
    · rintro ⟨hlength, hmarked⟩
      exact ⟨hlength, fun text htext hlost => (hmarked text htext hlost).1⟩
    · rintro ⟨hlength, hmarked⟩
      refine ⟨hlength, fun text htext hlost => ⟨hmarked text htext hlost, fun artifactId hid => ?_⟩⟩
      dsimp only
      rw [if_pos (hmarked text htext hlost)]
      exact hid

/-- A tool that gave an output of one letter many times. -/
def longOutput (length : Nat) : RawToolResult where
  request := { tool := "bash", args := [] }
  exitCode := some (some 0)
  stdout := some (List.replicate length 120)
  artifactId := some "artifact_preview"

/-- An output of 500 characters is cut off without a mark when the limit has room for its start. -/
theorem long_output_cut_unmarked :
    ¬∀ (stringify : Json → CodeUnits) (retainedArtifactId : Option String) (limit : Nat), 0 < limit →
      ∀ input : RawToolResult,
        BoundsOutput ⟨some limit, retainedArtifactId⟩ limit (outputs stringify input) input
          (normalize ⟨some limit, retainedArtifactId⟩ stringify input) := by
  intro hbounds
  have hmarked := (hbounds (fun _ => units "null") (some "artifact_full_output") 1000 (by decide)
    (longOutput 500)).marked
  have hunmarked : (normalize ⟨some 1000, some "artifact_full_output"⟩
      (fun _ => units "null") (longOutput 500)).bounded = false := by decide +kernel
  have hshort : (normalize ⟨some 1000, some "artifact_full_output"⟩
      (fun _ => units "null") (longOutput 500)).summary.length <
        (foldedUnits (List.replicate 500 120)).length := by decide +kernel
  have hlost := (hmarked (List.replicate 500 120) (List.mem_cons_of_mem _ List.mem_cons_self)
    fun hshown => absurd hshown.length_le (Nat.not_le.mpr hshort)).1
  rw [hunmarked] at hlost
  cases hlost

/-- At a limit of 24 an output of 30 characters is cut off with its mark. -/
theorem output_cut_marked : BoundsOutput ⟨some 24, some "artifact_full_output"⟩ 24
      (outputs (fun _ => units "null") (longOutput 30)) (longOutput 30)
      (normalize ⟨some 24, some "artifact_full_output"⟩ (fun _ => units "null") (longOutput 30)) :=
  (normalize_bounds_iff (fun _ => units "null") (some "artifact_full_output") 24 (by decide)
    (longOutput 30)).mpr (Or.inr ⟨by decide +kernel, by decide⟩)

end ShipyardCp.Properties
