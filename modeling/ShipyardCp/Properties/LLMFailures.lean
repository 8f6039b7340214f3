import ShipyardCp.Domain.LiteLLM

/-! Failures of completions: how they are classified, which models are asked, and what the error that
is thrown tells. -/

namespace ShipyardCp.Properties

open Lib Domain OpenAICompatibleError LiteLLM JsText

variable {host : LiteLLMHost}

def retryableByStatus (status : Nat) : Option Bool :=
  if status = 429 ∨ 500 ≤ status ∧ status < 600 then some true
  else if status = 401 ∨ status = 403 ∨ status = 404 then some false
  else none

def goesOn (host : LiteLLMHost) (model : String) (answer : LLMAnswer) : Bool :=
  match makeRequest host model answer with
  | .ok _ => false
  | .error error => (parseError error).retryable

def fixedTexts : List (List Char) :=
  nullChoices.message :: (["TIMEOUT", "INVALID_JSON", "EMPTY_CHOICES", "AUTH_FAILED",
    "MODEL_NOT_FOUND", "CONTEXT_LENGTH_EXCEEDED", "UPSTREAM_5XX", "REQUEST_FAILED"].map fun code =>
    (coded code).message)

def LostConnection (answer : LLMAnswer) (error : JsError) : Prop :=
  match answer with
  | .unreachable thrown => error = thrown
  | .response response => response.body = .error error

/-- The models are asked in order, up to the first that does not fail with a retryable error, and the
last one asked gives the outcome. -/
def TriedInOrder (host : LiteLLMHost) (models : List String) (answers : Nat → LLMAnswer)
    (tried : List String × Except JsError ChatCompletionResponse) : Prop :=
  ∃ k model, models[k]? = some model ∧ tried = (models.take (k + 1), makeRequest host model (answers k)) ∧
    (∀ i < k, ∀ before, models[i]? = some before → goesOn host before (answers i) = true) ∧
    (goesOn host model (answers k) = true → k + 1 = models.length)

/-- Answers are classified by their status, the models are asked in order and once each, and the error
thrown tells nothing of a response. -/
structure FailureLaws (host : LiteLLMHost) (config : LiteLLMConfig) (model : String)
    (answers : Nat → LLMAnswer) : Prop where
  classified : ∀ i asked, (chatCompletion host config model answers).1[i]? = some asked →
    ∀ response retryable, answers i = .response response →
      retryableByStatus response.status = some retryable →
      goesOn host asked (answers i) = retryable
  distinct : (chatCompletion host config model answers).1.Nodup
  ordered : TriedInOrder host (getModelsWithFallback config (resolveModel config model)) answers
    (chatCompletion host config model answers)
  redacted : ∀ error, (chatCompletion host config model answers).2 = .error error →
    error.message ∈ fixedTexts ∨ ∃ i, LostConnection (answers i) error

def timeoutWords : List String := ["timeout", "timed out"]

def refusalWords : List String :=
  ["invalid json", "unexpected token", "empty choices", "missing choices", "401", "403",
    "unauthorized", "forbidden", "404", "model not found", "does not exist", "context",
    "maximum tokens", "too many tokens"]

/-- The text that a response gives for its status does not contradict the status. -/
def textFits (host : LiteLLMHost) (response : LLMResponse) : Bool :=
  let text := (responseText host response).getD []
  match retryableByStatus response.status with
  | some true => mentions timeoutWords text || !mentions refusalWords text
  | some false => !mentions timeoutWords text
  | none => true

theorem includes_iff (text word : List Char) : includes text word = true ↔ word <:+: text := by
  induction text with
  | nil => simp [includes]
  | cons c text ih =>
    rw [includes, Bool.or_eq_true, List.isPrefixOf_iff_prefix, ih, List.infix_cons_iff]

theorem infix_colon_iff {word head text : List Char} (hcolon : ':' ∉ word)
    (hblank : word.head? ≠ some ' ') (hne : word ≠ []) :
    word <:+: head ++ ':' :: ' ' :: text ↔ word <:+: head ∨ word <:+: text := by
  have hafter : word <:+: ':' :: ' ' :: text ↔ word <:+: text := by
    obtain ⟨c, rest, rfl⟩ := List.exists_cons_of_ne_nil hne
    simp only [List.infix_cons_iff, List.cons_prefix_cons]
    constructor
    · rintro (⟨rfl, -⟩ | ⟨rfl, -⟩ | h)
      · exact absurd List.mem_cons_self hcolon
      · exact absurd rfl hblank
      · exact h
    · exact fun h => .inr (.inr h)
  rw [List.infix_append_iff_ne_nil, hafter]
  constructor
  · rintro (h | h | ⟨l₁, l₂, -, hl₂, rfl, -, hpre⟩)
    · exact .inl h
    · exact .inr h
    · obtain ⟨c, rest, rfl⟩ := List.exists_cons_of_ne_nil hl₂
      rw [List.cons_prefix_cons] at hpre
      exact absurd (List.mem_append_right _ (hpre.1 ▸ List.mem_cons_self)) hcolon
  · rintro (h | h)
    · exact .inl h
    · exact .inr (.inl h)

def plainWords (words : List String) : Bool :=
  words.all fun word => !word.toList.contains ':' && word.toList.head? ≠ some ' ' && word.toList ≠ []

theorem mentions_colon {words : List String} (hwords : plainWords words = true)
    (head text : List Char) :
    mentions words (head ++ ':' :: ' ' :: text) = (mentions words head || mentions words text) := by
  rw [plainWords, List.all_eq_true] at hwords
  rw [Bool.eq_iff_iff, Bool.or_eq_true]
  simp only [mentions, List.any_eq_true, includes_iff]
  have hlower : toLowerCase (head ++ ':' :: ' ' :: text) =
      toLowerCase head ++ ':' :: ' ' :: toLowerCase text := by
    simp only [toLowerCase, List.flatMap_append, List.flatMap_cons]
    rfl
  rw [hlower, ← exists_or]
  refine exists_congr fun word => ?_
  rw [← and_or_left]
  refine and_congr_right fun hword => ?_
  have hplain := hwords word hword
  simp only [Bool.and_eq_true, Bool.not_eq_true', decide_eq_true_eq] at hplain
  exact infix_colon_iff (by simpa using hplain.1.1) hplain.1.2 hplain.2

theorem retryable_coded : ["TIMEOUT", "INVALID_JSON", "EMPTY_CHOICES", "AUTH_FAILED",
    "MODEL_NOT_FOUND", "CONTEXT_LENGTH_EXCEEDED", "UPSTREAM_5XX", "REQUEST_FAILED"].map (fun code =>
      (parseError (coded code)).retryable) =
    [true, false, false, false, false, false, true, true] := by
  decide +kernel

theorem retryable_normalize {message : List Char}
    (hplain : errorPrefix.toList.isPrefixOf message = false) :
    (parseError (normalizeOpenAICompatibleError (.plain message))).retryable =
      (mentions timeoutWords message || !mentions refusalWords message) := by
  have hcoded := retryable_coded
  simp only [List.map_cons, List.map_nil, List.cons.injEq, and_true] at hcoded
  obtain ⟨htimeout, hjson, hempty, hauth, hmodel, hcontext, hupstream, hfailed⟩ := hcoded
  have hrefusal : mentions refusalWords message = (mentions ["invalid json", "unexpected token"] message ||
      mentions ["empty choices", "missing choices"] message ||
      mentions ["401", "403", "unauthorized", "forbidden"] message ||
      mentions ["404", "model not found", "does not exist"] message ||
      mentions ["context", "maximum tokens", "too many tokens"] message) := by
    simp only [refusalWords, mentions, List.any_cons, List.any_nil, Bool.or_false, Bool.or_assoc]
  rw [normalizeOpenAICompatibleError, if_neg (by simp [hplain]), hrefusal]
  simp only [timeoutWords, Bool.false_or]
  split_ifs <;> simp_all

theorem normalize_cases (error : JsError) : normalizeOpenAICompatibleError error = error ∧
      errorPrefix.toList.isPrefixOf error.message = true ∨
    (normalizeOpenAICompatibleError error).message ∈ fixedTexts := by
  unfold normalizeOpenAICompatibleError
  split_ifs with hprefix
  · exact .inl ⟨rfl, hprefix⟩
  all_goals exact .inr (by simp [fixedTexts])

theorem mentions_statusHead {status : Nat} {retryable : Bool}
    (hstatus : retryableByStatus status = some retryable) :
    mentions timeoutWords (statusHead status) = false ∧
      mentions refusalWords (statusHead status) = !retryable := by
  have hall : (List.range 600).all (fun status => match retryableByStatus status with
      | none => true
      | some retryable => mentions timeoutWords (statusHead status) = false &&
          mentions refusalWords (statusHead status) = !retryable) = true := by
    decide +kernel
  have hbound : status < 600 := by
    rw [retryableByStatus] at hstatus
    split_ifs at hstatus <;> omega
  have hhead := List.all_eq_true.mp hall status (List.mem_range.mpr hbound)
  simpa [hstatus] using hhead

theorem not_prefix_statusHead (status : Nat) (text : List Char) :
    errorPrefix.toList.isPrefixOf (statusHead status ++ text) = false := rfl

theorem retryable_response_iff {response : LLMResponse} {retryable : Bool}
    (hstatus : retryableByStatus response.status = some retryable) :
    (parseError (createErrorFromResponse host response)).retryable = retryable ↔
      textFits host response = true := by
  obtain ⟨htimeout, hrefusal⟩ := mentions_statusHead hstatus
  have hmessage : (parseError (createErrorFromResponse host response)).retryable =
      (mentions timeoutWords ((responseText host response).getD []) ||
        !(!retryable || mentions refusalWords ((responseText host response).getD []))) := by
    rw [createErrorFromResponse]
    cases responseText host response with
    | none =>
      have hhead := not_prefix_statusHead response.status []
      rw [List.append_nil] at hhead
      rw [retryable_normalize hhead, htimeout, hrefusal]
      have hnone : mentions timeoutWords [] = false ∧ mentions refusalWords [] = false := by decide
      simp [hnone]
    | some text =>
      rw [retryable_normalize (not_prefix_statusHead _ _), mentions_colon (by decide),
        mentions_colon (by decide), htimeout, hrefusal]
      simp
  rw [hmessage, textFits, hstatus]
  cases retryable <;> simp

theorem makeRequest_of_status {response : LLMResponse} {retryable : Bool} (model : String)
    (hstatus : retryableByStatus response.status = some retryable) :
    makeRequest host model (.response response) = .error (createErrorFromResponse host response) := by
  have hfailed : ¬(200 ≤ response.status ∧ response.status < 300) := by
    rw [retryableByStatus] at hstatus
    split_ifs at hstatus <;> omega
  rw [makeRequest, if_pos hfailed]

theorem makeRequest_error {model : String} {answer : LLMAnswer} {error : JsError}
    (herror : makeRequest host model answer = .error error) :
    error.message ∈ fixedTexts ∨ LostConnection answer error := by
  have hthrown : ∀ thrown : JsError, normalizeOpenAICompatibleError thrown = error →
      error.message ∈ fixedTexts ∨ error = thrown := by
    rintro thrown rfl
    exact (normalize_cases thrown).symm.imp_right And.left
  cases answer with
  | unreachable thrown => exact hthrown thrown (Except.error.inj herror)
  | response response =>
    have hcoded : ∀ thrown : JsError, errorPrefix.toList.isPrefixOf thrown.message = false →
        error = normalizeOpenAICompatibleError thrown → error.message ∈ fixedTexts := by
      rintro thrown hplain rfl
      obtain ⟨-, hprefix⟩ | hfixed := normalize_cases thrown
      · rw [hplain] at hprefix
        cases hprefix
      · exact hfixed
    rw [makeRequest] at herror
    split_ifs at herror with hfine
    · cases hbody : response.body with
      | error thrown =>
        rw [hbody] at herror
        obtain hfixed | rfl := hthrown thrown (Except.error.inj herror)
        · exact .inl hfixed
        · exact .inr hbody
      | ok body =>
        simp only [hbody] at herror
        split at herror
        · exact .inl (hcoded _ (host.syntaxError_plain body) (Except.error.inj herror).symm)
        · exact .inl (by rw [← Except.error.inj herror]; exact List.mem_cons_self)
        · split at herror
          · cases herror
          · exact .inl (hcoded _ rfl (Except.error.inj herror).symm)
    · refine .inl (hcoded _ ?_ (Except.error.inj herror).symm)
      cases responseText host response <;> rfl

theorem tryModels_inOrder (model : String) (models : List String) (lastError : Option JsError)
    (answers : Nat → LLMAnswer) :
    TriedInOrder host (model :: models) answers
      (tryModels host (model :: models) lastError answers) := by
  induction models generalizing model lastError answers with
  | nil =>
    refine ⟨0, model, rfl, ?_, by simp, fun _ => rfl⟩
    rw [tryModels]
    cases makeRequest host model (answers 0) with
    | ok response => rfl
    | error error =>
      dsimp only
      split_ifs <;> rfl
  | cons next models ih =>
    rw [tryModels]
    cases hasked : makeRequest host model (answers 0) with
    | ok response =>
      exact ⟨0, model, rfl, by rw [hasked]; rfl, by simp, fun hon => by simp [goesOn, hasked] at hon⟩
    | error error =>
      cases hretry : (parseError error).retryable with
      | false =>
        refine ⟨0, model, rfl, by rw [hasked]; simp [hretry], by simp, fun hon => ?_⟩
        simp [goesOn, hasked, hretry] at hon
      | true =>
        obtain ⟨k, last, hlast, htried, hbefore, hend⟩ :=
          ih next (some error) fun i => answers (i + 1)
        refine ⟨k + 1, last, hlast, by simp [htried, hretry], ?_, fun hon => ?_⟩
        · intro i hi before hget
          cases i with
          | zero =>
            obtain rfl := Option.some.inj hget
            simp [goesOn, hasked, hretry]
          | succ i => exact hbefore i (Nat.lt_of_succ_lt_succ hi) before hget
        · exact congrArg Nat.succ (hend hon)

theorem getModelsWithFallback_nodup {config : LiteLLMConfig}
    (hdistinct : (config.fallbackModels.getD []).Nodup) (model : String) :
    (getModelsWithFallback config model).Nodup := by
  unfold getModelsWithFallback
  split
  · rename_i fallbackModels henabled hmodels
    rw [hmodels] at hdistinct
    exact List.nodup_cons.mpr ⟨by simp, hdistinct.filter _⟩
  · exact List.nodup_singleton model

theorem chatCompletion_inOrder (config : LiteLLMConfig) (model : String) (answers : Nat → LLMAnswer) :
    TriedInOrder host (getModelsWithFallback config (resolveModel config model)) answers
      (chatCompletion host config model answers) := by
  have hcons : ∃ models, getModelsWithFallback config (resolveModel config model) =
      resolveModel config model :: models := by
    unfold getModelsWithFallback
    split <;> exact ⟨_, rfl⟩
  obtain ⟨models, hmodels⟩ := hcons
  rw [chatCompletion, hmodels]
  exact tryModels_inOrder _ models none answers

/-- The failures of a completion obey the laws exactly when the text of every answer reached fits its
status. -/
theorem failureLaws_iff {config : LiteLLMConfig}
    (hdistinct : (config.fallbackModels.getD []).Nodup) (model : String)
    (answers : Nat → LLMAnswer) :
    FailureLaws host config model answers ↔
      ∀ i < (chatCompletion host config model answers).1.length, ∀ response,
        answers i = .response response → textFits host response = true := by
  have hclassified : ∀ asked response retryable, retryableByStatus response.status = some retryable →
      (goesOn host asked (.response response) = retryable ↔ textFits host response = true) := by
    intro asked response retryable hstatus
    rw [← retryable_response_iff hstatus, goesOn, makeRequest_of_status asked hstatus]
  have hordered := @chatCompletion_inOrder host config model answers
  obtain ⟨k, last, -, htried, -, -⟩ := id hordered
  constructor
  · intro hlaws i hi response hresponse
    cases hstatus : retryableByStatus response.status with
    | none => rw [textFits, hstatus]
    | some retryable =>
      have hasked := hlaws.classified i _ (List.getElem?_eq_getElem hi) response retryable hresponse
        hstatus
      rw [hresponse] at hasked
      exact (hclassified _ response retryable hstatus).mp hasked
  · intro hfits
    refine ⟨?_, ?_, hordered, ?_⟩
    · intro i asked hasked response retryable hresponse hstatus
      obtain ⟨hi, -⟩ := List.getElem?_eq_some_iff.mp hasked
      rw [hresponse]
      exact (hclassified asked response retryable hstatus).mpr (hfits i hi response hresponse)
    · rw [htried]
      exact (getModelsWithFallback_nodup hdistinct _).sublist (List.take_sublist _ _)
    · intro error herror
      rw [htried] at herror
      exact (makeRequest_error herror).imp_right fun hlost => ⟨k, hlost⟩

/-- A host that renders no numbers. -/
def quietHost : LiteLLMHost where
  numberText _ _ := []
  syntaxError _ := "Unexpected token".toList
  now := 0
  syntaxError_plain _ := rfl

def fallbackConfig : LiteLLMConfig where
  fallbackModels := some ["gpt-4o", "claude"]

def failure (status : Nat) (text : String) : LLMAnswer :=
  .response ⟨status, [], .ok ("\x7b\"message\": \"" ++ text ++ "\"\x7d").toList⟩

/-- A rate limit whose text speaks of tokens in context is not tried again, and a refusal whose text
speaks of a timeout is. -/
theorem failures_misread : ¬FailureLaws quietHost fallbackConfig "gpt-4o"
      (fun _ => failure 429 "Rate limit: 30000 tokens of context a minute") ∧
    (chatCompletion quietHost fallbackConfig "gpt-4o"
      (fun _ => failure 429 "Rate limit: 30000 tokens of context a minute")).1 = ["gpt-4o"] ∧
    ¬FailureLaws quietHost fallbackConfig "gpt-4o"
      (fun _ => failure 401 "Session timeout: log in again") ∧
    (chatCompletion quietHost fallbackConfig "gpt-4o"
      (fun _ => failure 401 "Session timeout: log in again")).1 = ["gpt-4o", "claude"] := by
  have hlimited : (chatCompletion quietHost fallbackConfig "gpt-4o"
      (fun _ => failure 429 "Rate limit: 30000 tokens of context a minute")).1 = ["gpt-4o"] := by
    decide +kernel
  have hrefused : (chatCompletion quietHost fallbackConfig "gpt-4o"
      (fun _ => failure 401 "Session timeout: log in again")).1 = ["gpt-4o", "claude"] := by
    decide +kernel
  refine ⟨fun hlaws => ?_, hlimited, fun hlaws => ?_, hrefused⟩
  · have hasked := hlaws.classified 0 "gpt-4o" (by rw [hlimited]; rfl) _ true rfl rfl
    have hon : goesOn quietHost "gpt-4o"
        (failure 429 "Rate limit: 30000 tokens of context a minute") = false := by
      decide +kernel
    cases hon.symm.trans hasked
  · have hasked := hlaws.classified 0 "gpt-4o" (by rw [hrefused]; rfl) _ false rfl rfl
    have hon : goesOn quietHost "gpt-4o" (failure 401 "Session timeout: log in again") = true := by
      decide +kernel
    cases hon.symm.trans hasked

/-- An overloaded model is followed by the next, whose refusal ends the request. -/
theorem failures_read_rightly : FailureLaws quietHost fallbackConfig "gpt-4o"
    (fun i => if i = 0 then failure 503 "Overloaded" else failure 401 "Bad key") := by
  refine (failureLaws_iff (by decide) "gpt-4o" _).mpr ?_
  intro i _ response hresponse
  split_ifs at hresponse
  · cases hresponse
    decide +kernel
  · cases hresponse
    decide +kernel

end ShipyardCp.Properties
