import ShipyardCp.MemxResolver.StoreBackend

/-! The Markdown chunker: bodies are cut at headings, or into pieces of a fixed size. -/

namespace ShipyardCp.MemxResolver

open Lib JsText

inductive ChunkingMode where
  | heading | fixed

structure ChunkingOptions where
  mode : ChunkingMode := .heading
  maxChars : Option Nat := none

def utf16Length (text : List Char) : Nat := (charCodes text).length

def joinLines (lines : List (List Char)) : List Char := List.intercalate ['\n'] lines

def generateChunkId (docId : String) (ordinal : Nat) : String :=
  let digits := toString ordinal
  s!"chunk:{docId}:" ++ String.ofList (List.replicate (3 - digits.length) '0') ++ digits

def estimateTokens (text : List Char) : Nat := (utf16Length text + 3) / 4

/-- The level and the text of a heading, `/^(#{1,6})[ \t]{1,6}(.+?)$/`: of the blanks after the signs
one is left to the text when nothing else is. -/
def heading? (line : List Char) : Option (Nat × List Char) :=
  let signs := line.takeWhile (· = '#')
  let rest := line.drop signs.length
  let blanks := (rest.takeWhile fun c => c = ' ' || c = '\t').length
  let taken := if rest.length = min blanks 6 then blanks - 1 else min blanks 6
  let text := rest.drop taken
  if 1 ≤ signs.length ∧ signs.length ≤ 6 ∧ 1 ≤ taken ∧ !text.any isLineTerminator then
    some (signs.length, trim text)
  else none

/-- The pieces that are complete, and the lines of the next with their length. -/
structure PieceState where
  pieces : List (List Char)
  current : List (List Char)
  currentLength : Nat

def addLine (maxChars : Nat) (s : PieceState) (line : List Char) : PieceState :=
  let s := if maxChars < s.currentLength + utf16Length line + 1 ∧ s.current ≠ [] then
      { pieces := s.pieces ++ [joinLines s.current], current := [], currentLength := 0 }
    else s
  { s with
    current := s.current ++ [line]
    currentLength := s.currentLength + utf16Length line + 1 }

def splitLargeChunk (body : List Char) (maxChars : Nat) : List (List Char) :=
  let s := (body.splitOn '\n').foldl (addLine maxChars) ⟨[], [], 0⟩
  if s.current = [] then s.pieces else s.pieces ++ [joinLines s.current]

def determineImportance (headingPath : List (List Char)) (body : List Char) : Importance :=
  let lowerPath := headingPath.map toLowerCase
  let lowerBody := toLowerCase body
  let named := fun words : List String =>
    lowerPath.any fun h => words.any fun w => includes h w.toList
  if named ["acceptance", "requirement", "specification", "must"] then .required
  else if ["must:", "required:", "acceptance criteria"].any fun w =>
      includes lowerBody w.toList then .required
  else if named ["reference", "see also", "links", "appendix"] then .reference
  else .recommended

def createChunk (docId : String) (ordinal : Nat) (headingPath : List (List Char))
    (body : List Char) : DocumentChunk where
  chunkId := generateChunkId docId ordinal
  docId := docId
  headingPath := if headingPath = [] then none else some (headingPath.map String.ofList)
  ordinal := ordinal
  body := String.ofList body
  tokenEstimate := some (estimateTokens body)
  importance := some (determineImportance headingPath body)

structure HeadingState where
  chunks : List DocumentChunk
  currentChunk : List (List Char)
  currentHeadingPath : List (List Char)
  ordinal : Nat

/-- Saves the lines collected below the current heading, if they are not blank. -/
def saveChunk (docId : String) (maxChars : Nat) (s : HeadingState) : HeadingState :=
  let chunkBody := trim (joinLines s.currentChunk)
  let pieces := if chunkBody = [] then []
    else if maxChars < utf16Length chunkBody then splitLargeChunk chunkBody maxChars
    else [chunkBody]
  { s with
    chunks := s.chunks ++
      pieces.mapIdx fun i piece => createChunk docId (s.ordinal + i) s.currentHeadingPath piece
    currentChunk := []
    ordinal := s.ordinal + pieces.length }

def addMarkdownLine (docId : String) (maxChars : Nat) (s : HeadingState) (line : List Char) :
    HeadingState :=
  match heading? line with
  | some (level, heading) =>
    let s := saveChunk docId maxChars s
    { s with currentHeadingPath := s.currentHeadingPath.take (level - 1) ++ [heading] }
  | none => { s with currentChunk := s.currentChunk ++ [line] }

def chunkByHeadings (docId : String) (body : List Char) (maxChars : Nat) : List DocumentChunk :=
  let s := (body.splitOn '\n').foldl (addMarkdownLine docId maxChars) ⟨[], [], [], 1⟩
  (saveChunk docId maxChars s).chunks

def chunkByFixedSize (docId : String) (body : List Char) (maxChars : Nat) : List DocumentChunk :=
  (splitLargeChunk body maxChars).mapIdx fun i piece =>
    { chunkId := generateChunkId docId (1 + i)
      docId := docId
      ordinal := 1 + i
      body := String.ofList piece
      tokenEstimate := some (estimateTokens piece)
      importance := some .recommended }

def chunkMarkdown (docId : String) (body : String) (options : ChunkingOptions := {}) :
    List DocumentChunk :=
  let maxChars := options.maxChars.getD 4000
  match options.mode with
  | .fixed => chunkByFixedSize docId body.toList maxChars
  | .heading => chunkByHeadings docId body.toList maxChars

/-! Ingesting documents: the ids made of types and titles, and calls that store a document and its
chunks one after the other while other calls run. -/

def isSlugChar (c : Char) : Bool := ('a' ≤ c && c ≤ 'z') || ('0' ≤ c && c ≤ '9')

/-- Each run of other characters becomes one dash; `dashed` while inside a run. -/
def collapse : Bool → List Char → List Char
  | _, [] => []
  | dashed, c :: cs =>
    if isSlugChar c then c :: collapse false cs
    else if dashed then collapse true cs
    else '-' :: collapse true cs

def stripEnd (text : List Char) : List Char :=
  if text.getLast? = some '-' then text.dropLast else text

def stripDashes : List Char → List Char
  | '-' :: text => stripEnd text
  | text => stripEnd text

def slug (title : String) : List Char := stripDashes (collapse false (toLowerCase title.toList))

def generateDocId (docType title : String) : String :=
  s!"doc:{docType}:" ++ String.ofList (slug title)

/-- The options of a request; `chunkMarkdown` reads `mode` alone of them. -/
structure IngestChunking where
  mode : ChunkingMode
  maxChars : Option Nat := none

structure IngestRequest where
  docType : String
  title : String
  sourcePath : Option String := none
  version : String
  updatedAt : Option String := none
  tags : Option (List String) := none
  featureKeys : Option (List String) := none
  summary : Option String := none
  body : String
  chunking : Option IngestChunking := none

inductive IngestStatus where
  | ingested | updated

structure IngestResponse where
  docId : String
  version : String
  chunkCount : Nat
  status : IngestStatus

/-- What ingests use of a backend: documents and the chunks of documents, each read back as it was
stored. -/
structure DocumentStore where
  State : Type
  empty : State
  getDocument : State → String → Option Document
  setDocument : State → Document → State
  getChunksByDocId : State → String → List DocumentChunk
  setChunks : State → String → List DocumentChunk → State
  getDocument_empty : ∀ id, getDocument empty id = none
  getDocument_setDocument : ∀ s doc id,
    getDocument (setDocument s doc) id = if id = doc.docId then some doc else getDocument s id
  getChunks_setDocument : ∀ s doc id, getChunksByDocId (setDocument s doc) id = getChunksByDocId s id
  getDocument_setChunks : ∀ s docId chunks id,
    getDocument (setChunks s docId chunks) id = getDocument s id
  getChunks_setChunks : ∀ s docId chunks id, getChunksByDocId (setChunks s docId chunks) id =
      if id = docId then chunks else getChunksByDocId s id

attribute [simp] DocumentStore.getDocument_empty DocumentStore.getDocument_setDocument
  DocumentStore.getChunks_setDocument DocumentStore.getDocument_setChunks
  DocumentStore.getChunks_setChunks

def InMemoryBackend.documentStore : DocumentStore where
  State := InMemoryBackend
  empty := .empty
  getDocument m id := m.documents.get? id
  setDocument m doc := { m with documents := m.documents.set doc.docId doc }
  getChunksByDocId m id := (m.chunks.get? id).getD []
  setChunks m docId chunks := { m with chunks := m.chunks.set docId chunks }
  getDocument_empty _ := rfl
  getDocument_setDocument _ _ _ := InsertionMap.get?_set ..
  getChunks_setDocument _ _ _ := rfl
  getDocument_setChunks _ _ _ _ := rfl
  getChunks_setChunks _ _ _ _ := by
    rw [InsertionMap.get?_set]
    split <;> rfl

def RedisBackend.documentStore : DocumentStore where
  State := RedisBackend
  empty := .empty
  getDocument r id := (r.get .doc id).bind Stored.document?
  setDocument r doc := r.set .doc doc.docId (.document doc)
  getChunksByDocId r id := ((r.get .chunks id).bind Stored.chunks?).getD []
  setChunks r docId chunks := r.set .chunks docId (.chunks chunks)
  getDocument_empty _ := rfl
  getDocument_setDocument _ _ _ := by
    rw [get_set]
    simp only [true_and]
    split <;> rfl
  getChunks_setDocument _ _ _ := by simp [get_set]
  getDocument_setChunks _ _ _ _ := by simp [get_set]
  getChunks_setChunks _ _ _ _ := by
    rw [get_set]
    simp only [true_and]
    split <;> rfl

/-- What a call of `ingest` has still to do. -/
inductive IngestPhase where
  | documentDue
  | chunksDue
  | returned
  deriving DecidableEq

structure IngestCall where
  request : IngestRequest
  /-- The time at which the call was made. -/
  now : String
  status : IngestStatus
  phase : IngestPhase

namespace IngestCall

variable (call : IngestCall)

def docId : String := generateDocId call.request.docType call.request.title

def doc : Document where
  docId := call.docId
  docType := call.request.docType
  title := call.request.title
  sourcePath := call.request.sourcePath
  version := call.request.version
  updatedAt := call.request.updatedAt.getD call.now
  summary := call.request.summary
  tags := call.request.tags
  featureKeys := call.request.featureKeys

def chunks : List DocumentChunk := chunkMarkdown call.docId call.request.body
    (match call.request.chunking with
    | some chunking => { mode := chunking.mode }
    | none => {})

def response : IngestResponse where
  docId := call.docId
  version := call.request.version
  chunkCount := call.chunks.length
  status := call.status

end IngestCall

structure IngestState (store : DocumentStore) where
  stored : store.State
  calls : List IngestCall

/-- A call is made and reads what is stored, or one that was made goes on from its await. -/
inductive IngestAction where
  | ingest (request : IngestRequest) (now : String)
  | resume (i : Nat)

namespace IngestState

variable {store : DocumentStore} (s : IngestState store)

def setPhase (i : Nat) (call : IngestCall) (phase : IngestPhase) : List IngestCall :=
  s.calls.set i { call with phase := phase }

/-- `ingest` of docs-service.ts, from one await to the next. -/
def next : IngestAction → Option (IngestState store)
  | .ingest request now =>
    let existing := store.getDocument s.stored (generateDocId request.docType request.title)
    some { s with calls := s.calls ++
      [{ request := request, now := now, phase := .documentDue
         status := if existing.isSome then .updated else .ingested }] }
  | .resume i =>
    s.calls[i]?.bind fun call =>
      match call.phase with
      | .documentDue => some
        { stored := store.setDocument s.stored call.doc, calls := s.setPhase i call .chunksDue }
      | .chunksDue => some
        { stored := store.setChunks s.stored call.docId call.chunks
          calls := s.setPhase i call .returned }
      | .returned => none

/-- `getVersions` of docs-service.ts: each id with its version and whether it exists. -/
def getVersions (docIds : List String) : List (String × String × Bool) := docIds.map fun docId =>
    let doc := store.getDocument s.stored docId
    (docId, (doc.map (·.version)).getD "unknown", doc.isSome)

end IngestState

/-- Calls of `ingest` on an empty store, in any interleaving. -/
def ingestMachine (store : DocumentStore) : Machine (IngestState store) IngestAction :=
  .ofNext (fun s => s = ⟨store.empty, []⟩) IngestState.next

end ShipyardCp.MemxResolver
