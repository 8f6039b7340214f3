import ShipyardCp.Domain.LiteLLM
import ShipyardCp.Lib.CodeUnits

/-! Streamed completions: the deltas against the lines of the whole body, however it is split into
chunks. -/

namespace ShipyardCp.Properties

open Lib Domain LiteLLM

def doneLine : List Char := dataMark ++ doneMark

def lineDelta (line : List Char) : Option CompletionDelta :=
  if dataMark.isPrefixOf line then (contentOf (line.drop 6)).map fun content => ⟨content, false⟩
  else none

def deltasOf (lines : List (List Char)) : List CompletionDelta :=
  (lines.takeWhile (· ≠ doneLine)).filterMap lineDelta ++
    if doneLine ∈ lines then [doneDelta] else []

def endedLines (text : List Char) : List (List Char) := (text.splitOn '\n').dropLast

def lastLine (text : List Char) : List Char := (text.splitOn '\n').getLast?.getD []

def withoutReturn (line : List Char) : List Char :=
  if line.getLast? = some '\r' then line.dropLast else line

def bodyDeltas (text : List Char) : List CompletionDelta :=
  deltasOf ((endedLines text).map withoutReturn ++ [lastLine text])

/-- If no line that has ended is `[DONE]`, the last line says nothing. Else the first of them ends in LF
alone, or else another one that does follows it without a content between them. -/
def MarkedPlainly (text : List Char) : Prop :=
  match (endedLines text).dropWhile fun line => withoutReturn line ≠ doneLine with
  | [] => lastLine text ≠ doneLine ∧ lineDelta (lastLine text) = none
  | line :: lines => line = doneLine ∨
    doneLine ∈ lines ∧ ∀ between ∈ lines.takeWhile (· ≠ doneLine), lineDelta between = none

theorem eq_doneLine_iff {line : List Char} (hdata : dataMark.isPrefixOf line = true) :
    line.drop 6 = doneMark ↔ line = doneLine := by
  obtain ⟨data, rfl⟩ := List.isPrefixOf_iff_prefix.mp hdata
  rw [doneLine, List.append_cancel_left_eq]
  exact Iff.rfl

theorem lineDelta_doneLine : lineDelta doneLine = none := by
  have hcontent : (contentOf doneMark).isNone = true := by decide +kernel
  rw [lineDelta, if_pos (by decide)]
  exact Option.map_eq_none_iff.mpr (Option.isNone_iff_eq_none.mp hcontent)

theorem deltasOf_cons {line : List Char} (hline : line ≠ doneLine) (lines : List (List Char)) :
    deltasOf (line :: lines) = (lineDelta line).toList ++ deltasOf lines := by
  have hmem : doneLine ∈ line :: lines ↔ doneLine ∈ lines := by simp [Ne.symm hline]
  rw [deltasOf, List.takeWhile_cons_of_pos (by simpa using hline), List.filterMap_cons]
  simp only [hmem, deltasOf]
  cases lineDelta line <;> rfl

theorem deltasOf_doneLine (lines : List (List Char)) : deltasOf (doneLine :: lines) = [doneDelta] := by
  simp [deltasOf]

theorem readLines_eq (lines : List (List Char)) :
    readLines lines = (deltasOf lines, decide (doneLine ∈ lines)) := by
  induction lines with
  | nil => rfl
  | cons line lines ih =>
    by_cases hline : line = doneLine
    · subst hline
      rw [deltasOf_doneLine, readLines, if_pos (by decide), if_pos (by decide)]
      simp
    · have hmem : doneLine ∈ line :: lines ↔ doneLine ∈ lines := by simp [Ne.symm hline]
      rw [deltasOf_cons hline, readLines, ih, lineDelta]
      simp only [hmem]
      split_ifs with hdata hdone
      · exact absurd ((eq_doneLine_iff hdata).mp hdone) hline
      · rfl
      · rfl

theorem deltasOf_append (lines more : List (List Char)) : deltasOf (lines ++ more) =
    if doneLine ∈ lines then deltasOf lines else deltasOf lines ++ deltasOf more := by
  induction lines with
  | nil => simp [deltasOf]
  | cons line lines ih =>
    by_cases hline : line = doneLine
    · subst hline
      simp [deltasOf_doneLine]
    · rw [List.cons_append, deltasOf_cons hline, deltasOf_cons hline, ih]
      simp only [List.mem_cons, Ne.symm hline, false_or]
      split_ifs <;> simp

theorem readChunks_eq {buffer : List Char} (hbuffer : '\n' ∉ buffer) (texts : List (List Char)) :
    readChunks buffer texts = deltasOf (endedLines (buffer ++ texts.flatten)) := by
  induction texts generalizing buffer with
  | nil => simp [readChunks, endedLines, List.splitOn_eq_singleton hbuffer, deltasOf]
  | cons text texts ih =>
    obtain ⟨lines, last, hlines, happend⟩ := exists_splitOn_append '\n' (buffer ++ text)
    have hlast : '\n' ∉ last :=
      notMem_of_mem_splitOn (hlines ▸ List.mem_append_right _ List.mem_cons_self)
    have hended : endedLines (buffer ++ (text :: texts).flatten) =
        lines ++ endedLines (last ++ texts.flatten) := by
      rw [List.flatten_cons, ← List.append_assoc, endedLines, happend,
        List.dropLast_append_of_ne_nil (List.splitOn_ne_nil _ _), endedLines]
    rw [readChunks, hlines, hended, deltasOf_append, ← ih hlast]
    simp [readLines_eq]

theorem streamCompletion_eq (decoder : TextDecoder) (chunks : List (List UInt8)) :
    streamCompletion decoder chunks =
      deltasOf (endedLines (decoder.decode decoder.start chunks.flatten).1) := by
  rw [streamCompletion, readChunks_eq List.not_mem_nil, List.nil_append, decoder.concatenates]

theorem lineDelta_withoutReturn (line : List Char) : lineDelta (withoutReturn line) = lineDelta line := by
  unfold withoutReturn
  split_ifs with hreturn
  · obtain ⟨short, rfl⟩ := List.getLast?_eq_some_iff.mp hreturn
    have hdata : dataMark.isPrefixOf (short ++ ['\r']) = dataMark.isPrefixOf short := by
      rw [Bool.eq_iff_iff, List.isPrefixOf_iff_prefix, List.isPrefixOf_iff_prefix,
        List.prefix_concat_iff]
      refine or_iff_right fun hsame => ?_
      have hreturn : '\r' ∈ dataMark := hsame ▸ List.mem_append_right _ List.mem_cons_self
      exact absurd hreturn (by decide)
    rw [List.dropLast_concat, lineDelta, lineDelta, hdata]
    split_ifs with hmark
    · have hlength : 6 ≤ short.length := (List.isPrefixOf_iff_prefix.mp hmark).length_le
      have hsame : contentOf (short.drop 6 ++ ['\r']) = contentOf (short.drop 6) := by
        rw [contentOf, parseData, List.rdropWhile_concat_pos _ _ _ (by decide)]
        rfl
      rw [List.drop_append_of_le_length hlength, hsame]
    · rfl
  · rfl

theorem withoutReturn_doneLine : withoutReturn doneLine = doneLine := by decide

theorem deltasOf_eq_done_iff (lines : List (List Char)) : deltasOf lines = [doneDelta] ↔
    doneLine ∈ lines ∧ ∀ line ∈ lines.takeWhile (· ≠ doneLine), lineDelta line = none := by
  induction lines with
  | nil => simp [deltasOf]
  | cons line lines ih =>
    by_cases hline : line = doneLine
    · subst hline
      simp [deltasOf_doneLine]
    · have htake : (line :: lines).takeWhile (fun line => decide (line ≠ doneLine)) =
          line :: lines.takeWhile fun line => decide (line ≠ doneLine) :=
        List.takeWhile_cons_of_pos (by simpa using hline)
      rw [deltasOf_cons hline, htake, List.forall_mem_cons]
      cases hdelta : lineDelta line with
      | none => simp [ih, Ne.symm hline]
      | some delta =>
        have hunlike : delta ≠ doneDelta := by
          rintro rfl
          rw [lineDelta] at hdelta
          split_ifs at hdelta
          obtain ⟨content, -, hsame⟩ := Option.map_eq_some_iff.mp hdelta
          cases hsame
        simp [hunlike]

theorem deltasOf_lines_iff (ended : List (List Char)) (last : List Char) :
    deltasOf ended = deltasOf (ended.map withoutReturn ++ [last]) ↔
      match ended.dropWhile fun line => withoutReturn line ≠ doneLine with
      | [] => last ≠ doneLine ∧ lineDelta last = none
      | line :: lines => line = doneLine ∨
        doneLine ∈ lines ∧ ∀ between ∈ lines.takeWhile (· ≠ doneLine), lineDelta between = none := by
  induction ended with
  | nil =>
    by_cases hlast : last = doneLine
    · simp [deltasOf, hlast]
    · cases hdelta : lineDelta last <;> simp [deltasOf, hlast, hdelta, Ne.symm hlast]
  | cons line ended ih =>
    by_cases hdone : withoutReturn line = doneLine
    · rw [List.map_cons, List.cons_append, hdone, deltasOf_doneLine,
        List.dropWhile_cons_of_neg (by simpa using hdone)]
      by_cases hline : line = doneLine
      · simp [hline, deltasOf_doneLine]
      · have hsilent : lineDelta line = none := by
          rw [← lineDelta_withoutReturn, hdone, lineDelta_doneLine]
        rw [deltasOf_cons hline, hsilent, Option.toList_none, List.nil_append, deltasOf_eq_done_iff]
        simp [hline]
    · have hline : line ≠ doneLine := fun h => hdone (h ▸ withoutReturn_doneLine)
      rw [List.map_cons, List.cons_append, deltasOf_cons hdone, deltasOf_cons hline,
        lineDelta_withoutReturn, List.append_cancel_left_eq, ih,
        List.dropWhile_cons_of_pos (by simpa using hdone)]

/-- Every split of a body streams the deltas of its lines exactly when the body marks its end
plainly. -/
theorem streamCompletion_eq_iff (decoder : TextDecoder) (chunks : List (List UInt8)) :
    streamCompletion decoder chunks = bodyDeltas (decoder.decode decoder.start chunks.flatten).1 ↔
      MarkedPlainly (decoder.decode decoder.start chunks.flatten).1 := by
  rw [streamCompletion_eq]
  exact deltasOf_lines_iff _ _

/-- A decoder of ASCII. -/
def asciiDecoder : TextDecoder where
  State := Unit
  start := ()
  decode _ bytes := (bytes.map fun b => Char.ofNat b.toNat, ())
  concatenates chunks := by
    induction chunks with
    | nil => rfl
    | cons chunk chunks ih => simp [decodeChunks, ih]

def asciiBytes (text : String) : List UInt8 := text.toList.map fun c => UInt8.ofNat c.toNat

/-- A `[DONE]` that ends in CRLF is not answered, and a content on a last line that does not end is
not told. -/
theorem streams_cut_short : streamCompletion asciiDecoder [asciiBytes "data: [DONE]\r\n"] ≠
      bodyDeltas "data: [DONE]\r\n".toList ∧
    streamCompletion asciiDecoder
        [asciiBytes "data: \x7b\"choices\":[\x7b\"delta\":\x7b\"content\":\"a\"\x7d\x7d]\x7d"] ≠
      bodyDeltas "data: \x7b\"choices\":[\x7b\"delta\":\x7b\"content\":\"a\"\x7d\x7d]\x7d".toList := by
  constructor
  all_goals
    intro hsame
    have hlength := congrArg List.length hsame
    revert hlength
    decide +kernel

end ShipyardCp.Properties
