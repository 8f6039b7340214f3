import Mathlib.Data.List.DropRight
import ShipyardCp.Lib.InsertionMap
import ShipyardCp.Lib.Json

/-! The connector to the LiteLLM proxy: completions with fallback models, the classification of their
failures, and streamed completions. -/

namespace ShipyardCp.Domain

open Lib JsText

/-- An error as the runtime throws it. -/
structure JsError where
  name : String
  message : List Char
  isSyntaxError : Bool

abbrev JsError.plain (message : List Char) : JsError := ⟨"Error", message, false⟩

namespace OpenAICompatibleError

def errorPrefix : String := "OPENAI_COMPATIBLE_"

def coded (code : String) : JsError := .plain (errorPrefix ++ code).toList

def mentions (words : List String) (text : List Char) : Bool :=
  words.any fun word => includes (toLowerCase text) word.toList

/-- A `5` and two more digits, as a word of their own. -/
def names5xx : Option Char → List Char → Bool
  | _, [] => false
  | prev, c :: text =>
    (match c, text with
      | '5', d :: e :: rest =>
        !prev.any isWord && d.isDigit && e.isDigit && !rest.head?.any isWord
      | _, _ => false) || names5xx (some c) text

def normalizeOpenAICompatibleError (error : JsError) : JsError :=
  if errorPrefix.toList.isPrefixOf error.message then error
  else if error.name = "AbortError" || mentions ["timeout", "timed out"] error.message then
    coded "TIMEOUT"
  else if error.isSyntaxError || mentions ["invalid json", "unexpected token"] error.message then
    coded "INVALID_JSON"
  else if mentions ["empty choices", "missing choices"] error.message then coded "EMPTY_CHOICES"
  else if mentions ["401", "403", "unauthorized", "forbidden"] error.message then
    coded "AUTH_FAILED"
  else if mentions ["404", "model not found", "does not exist"] error.message then
    coded "MODEL_NOT_FOUND"
  else if mentions ["context", "maximum tokens", "too many tokens"] error.message then
    coded "CONTEXT_LENGTH_EXCEEDED"
  else if names5xx none (toLowerCase error.message) || mentions ["server error"] error.message
    then coded "UPSTREAM_5XX"
  else coded "REQUEST_FAILED"

end OpenAICompatibleError

open OpenAICompatibleError

inductive LiteLLMErrorType where
  | authError | rateLimit | modelNotFound | contextLength | contentFilter | internalError

structure LiteLLMError where
  type : LiteLLMErrorType
  message : List Char
  retryable : Bool

/-- The runtime around the connector: the text of a number, the message of a failed `JSON.parse`,
which does not begin like a normalized error, and the clock. -/
structure LiteLLMHost where
  numberText : Int → Int → List Char
  syntaxError : List Char → List Char
  now : Nat
  syntaxError_plain : ∀ text, errorPrefix.toList.isPrefixOf (syntaxError text) = false

structure LiteLLMConfig where
  modelAliases : InsertionMap String String := .empty
  fallbackModels : Option (List String) := none
  enableFallback : Bool := true

/-- A response of the proxy, whose body may fail to be read. -/
structure LLMResponse where
  status : Nat
  statusText : List Char
  body : Except JsError (List Char)

inductive LLMAnswer where
  | unreachable (error : JsError)
  | response (response : LLMResponse)

structure ChatCompletionResponse where
  id : Json
  object : Json
  created : Json
  model : Json
  choices : List Json
  promptTokens : Json
  completionTokens : Json
  totalTokens : Json

namespace LiteLLM

/-- `value?.[key]`. -/
def optionalGet (value : Option Json) (key : String) : Option Json :=
  match value with
  | none | some .null => none
  | some value => value.get? key

/-- `value ?? default`. -/
def orDefault (value : Option Json) (default : Json) : Json :=
  match value with
  | none | some .null => default
  | some value => value

/-- `value?.[0]`. -/
def optionalFirst : Option Json → Option Json
  | some (.arr items) => items[0]?
  | some (.str text) => (text.toList.head?).map fun c => .str (String.singleton c)
  | value => optionalGet value "0"

mutual

/-- `String(value)`; an object with an own `toString` throws. -/
def textOf (host : LiteLLMHost) : Json → Option (List Char)
  | .null => some "null".toList
  | .bool b => some (toString b).toList
  | .num mantissa exponent => some (host.numberText mantissa exponent)
  | .str s => some s.toList
  | .arr items => (itemTexts host items).map fun texts => [','].intercalate texts
  | .obj members =>
    if (members.lookup "toString").isSome then none else some "[object Object]".toList

def itemTexts (host : LiteLLMHost) : List Json → Option (List (List Char))
  | [] => some []
  | .null :: items => (itemTexts host items).map ([] :: ·)
  | item :: items => do
    let text ← textOf host item
    let texts ← itemTexts host items
    pure (text :: texts)

end

/-- What the message of an error response says after its status; `none` where the body is not JSON or
cannot be read. -/
def responseText (host : LiteLLMHost) (response : LLMResponse) : Option (List Char) := do
  let body ← response.body.toOption
  let data ← Json.parse body
  if data matches .null then none
  let told := [optionalGet (data.get? "error") "message", data.get? "message"].filterMap fun value =>
    value.filter Json.truthy
  match told with
  | value :: _ => textOf host value
  | [] =>
    some (if response.statusText ≠ [] then response.statusText else "request failed".toList)

def statusHead (status : Nat) : List Char := "HTTP ".toList ++ (toString status).toList

def createErrorFromResponse (host : LiteLLMHost) (response : LLMResponse) : JsError :=
  normalizeOpenAICompatibleError (.plain (match responseText host response with
    | none => statusHead response.status
    | some text => statusHead response.status ++ ':' :: ' ' :: text))

def parseError (error : JsError) : LiteLLMError :=
  let includes words := mentions words error.message
  if includes ["auth_failed", "401", "403", "unauthorized"] then ⟨.authError, error.message, false⟩
  else if includes ["429", "rate limit"] then ⟨.rateLimit, error.message, true⟩
  else if includes ["model_not_found", "404", "not found", "does not exist"] then
    ⟨.modelNotFound, error.message, false⟩
  else if includes ["context_length_exceeded", "context", "token"] then
    ⟨.contextLength, error.message, false⟩
  else if includes ["content filter"] then ⟨.contentFilter, error.message, false⟩
  else if includes ["invalid_json", "empty_choices"] then ⟨.internalError, error.message, false⟩
  else if includes ["timeout", "upstream_5xx"] then ⟨.internalError, error.message, true⟩
  else ⟨.internalError, error.message, true⟩

def nullChoices : JsError :=
  ⟨"TypeError", "Cannot read properties of null (reading 'choices')".toList, false⟩

def makeRequest (host : LiteLLMHost) (model : String) : LLMAnswer →
    Except JsError ChatCompletionResponse
  | .unreachable error => .error (normalizeOpenAICompatibleError error)
  | .response response =>
    if ¬(200 ≤ response.status ∧ response.status < 300) then
      .error (createErrorFromResponse host response)
    else
      match response.body with
      | .error error => .error (normalizeOpenAICompatibleError error)
      | .ok body =>
        match Json.parse body with
        | none => .error (normalizeOpenAICompatibleError ⟨"SyntaxError", host.syntaxError body, true⟩)
        | some .null => .error nullChoices
        | some data =>
          match data.get? "choices", optionalGet (optionalGet (optionalFirst (data.get? "choices"))
              "message") "content" with
          | some (.arr choices), some (.str _) => .ok {
              id := orDefault (data.get? "id") (.str s!"completion-{host.now}")
              object := orDefault (data.get? "object") (.str "chat.completion")
              created := orDefault (data.get? "created") (.num (host.now / 1000 : Nat) 0)
              model := orDefault (data.get? "model") (.str model)
              choices
              promptTokens := orDefault (optionalGet (data.get? "usage") "prompt_tokens") (.num 0 0)
              completionTokens :=
                orDefault (optionalGet (data.get? "usage") "completion_tokens") (.num 0 0)
              totalTokens := orDefault (optionalGet (data.get? "usage") "total_tokens") (.num 0 0) }
          | _, _ => .error (normalizeOpenAICompatibleError (.plain "empty choices".toList))

def resolveModel (config : LiteLLMConfig) (model : String) : String :=
  match config.modelAliases.get? model with
  | some target => if target = "" then model else target
  | none => model

def getModelsWithFallback (config : LiteLLMConfig) (model : String) : List String :=
  match config.enableFallback, config.fallbackModels with
  | true, some fallbackModels => model :: fallbackModels.filter (· ≠ model)
  | _, _ => [model]

/-- The models that are asked, and what becomes of the request; `answers` tells the answer to each
attempt in turn. -/
def tryModels (host : LiteLLMHost) : List String → Option JsError → (Nat → LLMAnswer) →
    List String × Except JsError ChatCompletionResponse
  | [], lastError, _ => ([], .error (lastError.getD (.plain "All models failed".toList)))
  | model :: models, _, answers =>
    match makeRequest host model (answers 0) with
    | .ok response => ([model], .ok response)
    | .error error =>
      if (parseError error).retryable then
        let (asked, outcome) := tryModels host models (some error) fun i => answers (i + 1)
        (model :: asked, outcome)
      else ([model], .error error)

def chatCompletion (host : LiteLLMHost) (config : LiteLLMConfig) (model : String)
    (answers : Nat → LLMAnswer) : List String × Except JsError ChatCompletionResponse :=
  tryModels host (getModelsWithFallback config (resolveModel config model)) none answers

def decodeChunks {S : Type} (decode : S → List UInt8 → List Char × S) : S → List (List UInt8) →
    List (List Char)
  | _, [] => []
  | s, chunk :: chunks => (decode s chunk).1 :: decodeChunks decode (decode s chunk).2 chunks

/-- A `TextDecoder` in streaming mode, which decodes the concatenation of the chunks. -/
structure TextDecoder where
  State : Type
  start : State
  decode : State → List UInt8 → List Char × State
  concatenates : ∀ chunks, (decodeChunks decode start chunks).flatten = (decode start chunks.flatten).1

structure CompletionDelta where
  delta : Json
  done : Bool

def doneDelta : CompletionDelta := ⟨.str "", true⟩

/-- `JSON.parse`, with the white space after the value dropped first. -/
def parseData (data : List Char) : Option Json :=
  Json.parse (data.rdropWhile fun c => c = ' ' || c = '\t' || c = '\n' || c = '\r')

/-- The content of a chunk of a completion; `none` where it is empty or the chunk is not read. -/
def contentOf (data : List Char) : Option Json :=
  match parseData data with
  | none | some .null => none
  | some parsed =>
    (optionalGet (optionalGet (optionalFirst (parsed.get? "choices")) "delta") "content").filter
      Json.truthy

def dataMark : List Char := "data: ".toList

def doneMark : List Char := "[DONE]".toList

/-- What complete lines yield, and whether they end the stream. -/
def readLines : List (List Char) → List CompletionDelta × Bool
  | [] => ([], false)
  | line :: lines =>
    if dataMark.isPrefixOf line then
      if line.drop 6 = doneMark then ([doneDelta], true)
      else
        let (deltas, finished) := readLines lines
        (((contentOf (line.drop 6)).map fun content => ⟨content, false⟩).toList ++ deltas, finished)
    else readLines lines

def readChunks : List Char → List (List Char) → List CompletionDelta
  | _, [] => []
  | buffer, text :: texts =>
    let lines := (buffer ++ text).splitOn '\n'
    let (deltas, finished) := readLines lines.dropLast
    if finished then deltas else deltas ++ readChunks (lines.getLast?.getD []) texts

def streamCompletion (decoder : TextDecoder) (chunks : List (List UInt8)) : List CompletionDelta :=
  readChunks [] (decodeChunks decoder.decode decoder.start chunks)

end LiteLLM

end ShipyardCp.Domain
